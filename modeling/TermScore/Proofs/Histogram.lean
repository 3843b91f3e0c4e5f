import Mathlib.Algebra.BigOperators.Group.Finset.Basic
import Mathlib.Algebra.GroupWithZero.Nat
import TermScore.Histogram

/-!
# Histograms of lists

Counting the terms of a list one after the other gives each term the number of its places in the
list, up to the largest count.
-/

namespace TermScore

/-! ## Saturation -/

theorem saturate_of_le {n : Nat} (h : n ≤ maxCount) : saturate n = n :=
  Nat.min_eq_left h

theorem saturate_mono {m n : Nat} (h : m ≤ n) : saturate m ≤ saturate n := by
  unfold saturate
  omega

theorem saturate_saturate_add (m n : Nat) : saturate (saturate m + n) = saturate (m + n) := by
  unfold saturate
  omega

theorem saturate_pos_iff {n : Nat} : 0 < saturate n ↔ 0 < n := by
  constructor
  · unfold saturate
    omega
  · exact Histogram.saturate_pos

namespace Histogram

/-! ## Counts -/

theorem count_insert (h : Histogram) (term t : String) :
    (h.insert term).count t = saturate (h.count t + [term].count t) := by
  unfold insert
  rw [count_add, List.count_singleton]
  by_cases ht : t = term
  · simp [ht]
  · simp [ht, Ne.symm ht, saturate_of_le (h.count_le t)]

theorem count_foldl_insert (l : List String) (h : Histogram) (t : String) :
    (l.foldl insert h).count t = saturate (h.count t + l.count t) := by
  induction l generalizing h with
  | nil => exact (saturate_of_le (h.count_le t)).symm
  | cons term l ih =>
    rw [List.foldl_cons, ih, count_insert, saturate_saturate_add, Nat.add_assoc,
      ← List.count_append, List.singleton_append]

theorem count_ofTerms (l : List String) (t : String) : (ofTerms l).count t = saturate (l.count t) := by
  unfold ofTerms
  rw [count_foldl_insert, count_empty, Nat.zero_add]

theorem count_ofTerms_of_length_le {l : List String} (h : l.length ≤ maxCount) (t : String) :
    (ofTerms l).count t = l.count t := by
  rw [count_ofTerms, saturate_of_le (Nat.le_trans List.count_le_length h)]

theorem ofTerms_append_singleton (l : List String) (term : String) :
    ofTerms (l ++ [term]) = (ofTerms l).insert term :=
  List.foldl_concat ..

/-! ## Entries -/

theorem getElem?_entries_iff {h : Histogram} {t : String} {n : Nat} :
    h.entries[t]? = some n ↔ h.count t = n ∧ 0 < n := by
  rw [count, Std.ExtTreeMap.getD_eq_getD_getElem?]
  constructor
  · intro hn
    rw [hn]
    exact ⟨rfl, (h.inRange t n hn).1⟩
  · rintro ⟨rfl, hpos⟩
    cases he : h.entries[t]? with
    | none => simp [he] at hpos
    | some n => rfl

theorem mem_entries_iff {h : Histogram} {t : String} : t ∈ h.entries ↔ 0 < h.count t := by
  rw [Std.ExtTreeMap.mem_iff_isSome_getElem?, Option.isSome_iff_exists]
  simp only [getElem?_entries_iff, exists_eq_left']

theorem mem_entries_ofTerms_iff {l : List String} {t : String} :
    t ∈ (ofTerms l).entries ↔ t ∈ l := by
  rw [mem_entries_iff, count_ofTerms, saturate_pos_iff, List.count_pos_iff]

theorem map_count_toList (h : Histogram) :
    h.toList.map TermCount.count = h.entries.keys.map h.count := by
  unfold toList
  rw [← Std.ExtTreeMap.map_fst_toList_eq_keys, List.map_map, List.map_map]
  apply List.map_congr_left
  rintro ⟨t, n⟩ hmem
  have he := Std.ExtTreeMap.mem_toList_iff_getElem?_eq_some.mp hmem
  exact (getElem?_entries_iff.mp he).1.symm

theorem keys_ofTerms_perm (l : List String) : (ofTerms l).entries.keys.Perm l.dedup := by
  rw [List.perm_ext_iff_of_nodup Std.ExtTreeMap.nodup_keys l.nodup_dedup]
  intro t
  rw [Std.ExtTreeMap.mem_keys, mem_entries_ofTerms_iff, List.mem_dedup]

theorem sum_toList_ofTerms {l : List String} (h : l.length ≤ maxCount) :
    ((ofTerms l).toList.map TermCount.count).sum = l.length := by
  have uncut : (ofTerms l).count = fun t => l.count t := funext (count_ofTerms_of_length_le h)
  rw [map_count_toList, uncut, ((keys_ofTerms_perm l).map _).sum_eq,
    List.sum_map_count_dedup_eq_length]

end Histogram

end TermScore
