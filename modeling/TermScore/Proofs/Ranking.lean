import TermScore.Proofs.Histogram
import TermScore.Proofs.Text.ByteOrder

/-!
# The order of counted terms

Terms with different names are never tied, so there is one list of them in order. In whatever order a
histogram yields its entries, they are listed in the same way.
-/

namespace TermScore

/-! ## Sorting -/

namespace TermCount

/-- The first term occurs more often, or as often and its bytes come first. -/
def Precedes (a b : TermCount) : Prop :=
  b.count < a.count ∨ a.count = b.count ∧ Text.bytes a.term < Text.bytes b.term

instance (a b : TermCount) : Decidable (a.Precedes b) :=
  inferInstanceAs (Decidable (_ ∨ _))

theorem Precedes.asymm {a b : TermCount} (h : a.Precedes b) : ¬ b.Precedes a := by
  unfold Precedes at h ⊢
  rw [Text.bytes_lt_iff] at h ⊢
  rintro (hlt | ⟨heq, hba⟩)
  · omega
  · rcases h with hlt | ⟨-, hab⟩
    · omega
    · exact lt_asymm hab hba

theorem before_iff {a b : TermCount} :
    before a b = true ↔ b.count < a.count ∨ a.count = b.count ∧ a.term ≤ b.term := by
  unfold before
  rw [Bool.or_eq_true, Bool.and_eq_true, decide_eq_true_iff, decide_eq_true_iff, beq_iff_eq]

theorem before_trans (a b c : TermCount) (hab : before a b = true) (hbc : before b c = true) :
    before a c = true := by
  rw [before_iff] at hab hbc ⊢
  rcases hab with hab | ⟨hab, hterm⟩
  · omega
  · rcases hbc with hbc | ⟨hbc, hterm'⟩
    · omega
    · exact .inr ⟨hab.trans hbc, hterm.trans hterm'⟩

theorem before_total (a b : TermCount) : (before a b || before b a) = true := by
  rw [Bool.or_eq_true, before_iff, before_iff]
  rcases Nat.lt_trichotomy a.count b.count with h | h | h
  · exact .inr (.inl h)
  · exact (le_total a.term b.term).imp (fun hle => .inr ⟨h, hle⟩) fun hle => .inr ⟨h.symm, hle⟩
  · exact .inl (.inl h)

theorem precedes_of_before {a b : TermCount} (h : before a b = true) (ne : a.term ≠ b.term) :
    a.Precedes b := by
  unfold Precedes
  rw [Text.bytes_lt_iff]
  exact (before_iff.mp h).imp_right fun ⟨hcount, hle⟩ => ⟨hcount, lt_of_le_of_ne hle ne⟩

theorem sorted_perm (l : List TermCount) : (sorted l).Perm l :=
  List.mergeSort_perm ..

theorem pairwise_sorted {l : List TermCount} (h : (l.map term).Nodup) :
    (sorted l).Pairwise Precedes := by
  have ordered : (sorted l).Pairwise fun a b => before a b = true :=
    List.pairwise_mergeSort before_trans before_total l
  have distinct : (sorted l).Pairwise fun a b => a.term ≠ b.term :=
    List.pairwise_map.mp (((sorted_perm l).map term).nodup_iff.mpr h)
  exact ordered.imp₂ (fun _ _ => precedes_of_before) distinct

theorem eq_of_perm {l l' : List TermCount} (h : l.Pairwise Precedes) (h' : l'.Pairwise Precedes)
    (perm : l.Perm l') : l = l' :=
  List.Perm.eq_of_pairwise (fun _ _ _ _ hab hba => absurd hba hab.asymm) h h' perm

theorem sorted_eq_of_perm {l l' : List TermCount} (h : (l.map term).Nodup) (perm : l'.Perm l) :
    sorted l' = sorted l := by
  apply eq_of_perm (pairwise_sorted ((perm.map term).nodup_iff.mpr h)) (pairwise_sorted h)
  exact (sorted_perm l').trans (perm.trans (sorted_perm l).symm)

end TermCount

/-! ## Listings -/

namespace Histogram

/-- The entries of a histogram in some order: each term once, with its count. -/
def Yields (h : Histogram) (entries : List TermCount) : Prop :=
  (entries.map TermCount.term).Nodup ∧
    ∀ t n, ⟨t, n⟩ ∈ entries ↔ h.entries[t]? = some n

theorem mem_toList_iff {h : Histogram} {t : String} {n : Nat} :
    ⟨t, n⟩ ∈ h.toList ↔ h.entries[t]? = some n := by
  unfold toList
  rw [List.mem_map, ← Std.ExtTreeMap.mem_toList_iff_getElem?_eq_some]
  constructor
  · rintro ⟨⟨t', n'⟩, hmem, heq⟩
    obtain ⟨rfl, rfl⟩ := TermCount.mk.inj heq
    exact hmem
  · intro hmem
    exact ⟨(t, n), hmem, rfl⟩

theorem map_term_toList (h : Histogram) : h.toList.map TermCount.term = h.entries.keys := by
  unfold toList
  rw [List.map_map, ← Std.ExtTreeMap.map_fst_toList_eq_keys]
  rfl

theorem yields_toList (h : Histogram) : h.Yields h.toList := by
  refine ⟨?_, fun _ _ => mem_toList_iff⟩
  rw [map_term_toList]
  exact Std.ExtTreeMap.nodup_keys

theorem yields_iff_perm {h : Histogram} {entries : List TermCount} :
    h.Yields entries ↔ entries.Perm h.toList := by
  obtain ⟨distinct, mem⟩ := h.yields_toList
  constructor
  · intro he
    rw [List.perm_ext_iff_of_nodup he.1.of_map distinct.of_map]
    rintro ⟨t, n⟩
    rw [he.2, mem]
  · intro perm
    refine ⟨(perm.map _).nodup_iff.mpr distinct, ?_⟩
    intro t n
    rw [perm.mem_iff, mem]

theorem mem_listing_iff {h : Histogram} {least : Nat} {t : String} {n : Nat} :
    ⟨t, n⟩ ∈ h.listing least ↔ h.count t = n ∧ max least 1 ≤ n := by
  unfold listing
  rw [(TermCount.sorted_perm _).mem_iff, List.mem_filter, mem_toList_iff, getElem?_entries_iff,
    decide_eq_true_iff]
  dsimp only
  omega

theorem nodup_filter_term {l : List TermCount} (h : (l.map TermCount.term).Nodup) (least : Nat) :
    ((l.filter (least ≤ ·.count)).map TermCount.term).Nodup :=
  h.sublist (List.filter_sublist.map _)

theorem ne_of_mem_listing {h : Histogram} {least : Nat} {t : String} (ht : h.count t = 0) :
    ∀ c ∈ h.listing least, c.term ≠ t := by
  rintro ⟨t', n⟩ hc rfl
  have := mem_listing_iff.mp hc
  dsimp only at ht
  omega

theorem listing_perm_toList (h : Histogram) {least : Nat} (hleast : least ≤ 1) :
    (h.listing least).Perm h.toList := by
  have whole : h.toList.filter (least ≤ ·.count) = h.toList := by
    rw [List.filter_eq_self]
    rintro ⟨t, n⟩ hmem
    have hpos := (getElem?_entries_iff.mp (mem_toList_iff.mp hmem)).2
    rw [decide_eq_true_iff]
    exact hleast.trans hpos
  unfold listing
  rw [whole]
  exact TermCount.sorted_perm _

/-- A listing has each term with as many occurrences as are asked for, once and in its place, in
whatever order the entries come. Other counted terms are put in order in the same way. -/
theorem listing_canonical :
    (∀ (h : Histogram) (least : Nat),
      (∀ t n, ⟨t, n⟩ ∈ h.listing least ↔ h.count t = n ∧ max least 1 ≤ n) ∧
      (h.listing least).Nodup ∧ (h.listing least).Pairwise TermCount.Precedes ∧
      ∀ entries, h.Yields entries →
        TermCount.sorted (entries.filter (least ≤ ·.count)) = h.listing least) ∧
    ∀ l : List TermCount, (l.map TermCount.term).Nodup →
      (TermCount.sorted l).Perm l ∧ (TermCount.sorted l).Pairwise TermCount.Precedes ∧
      ∀ l', l'.Perm l → (TermCount.sorted l' = TermCount.sorted l ∧
        (l'.Pairwise TermCount.Precedes → l' = TermCount.sorted l)) := by
  constructor
  · intro h least
    have distinct := nodup_filter_term h.yields_toList.1 least
    refine ⟨fun _ _ => mem_listing_iff, ?_, TermCount.pairwise_sorted distinct, ?_⟩
    · exact (TermCount.sorted_perm _).nodup_iff.mpr distinct.of_map
    · intro entries he
      exact TermCount.sorted_eq_of_perm distinct ((yields_iff_perm.mp he).filter _)
  · intro l distinct
    refine ⟨TermCount.sorted_perm l, TermCount.pairwise_sorted distinct, ?_⟩
    intro l' perm
    refine ⟨TermCount.sorted_eq_of_perm distinct perm, ?_⟩
    intro ordered
    exact TermCount.eq_of_perm ordered (TermCount.pairwise_sorted distinct)
      (perm.trans (TermCount.sorted_perm l).symm)

/-- The accented letter is two bytes long, and both of them are above all that `z` can be. -/
theorem listing_accented :
    TermCount.sorted ([⟨"é", 2⟩, ⟨"a", 1⟩, ⟨"z", 2⟩, ⟨"fig", 5⟩].filter (2 ≤ ·.count)) =
        (ofCounts [⟨"z", 2⟩, ⟨"é", 2⟩, ⟨"a", 1⟩, ⟨"fig", 5⟩]).listing 2 ∧
      [⟨"fig", 5⟩, ⟨"z", 2⟩, ⟨"é", 2⟩, ⟨"a", 1⟩] =
        TermCount.sorted [⟨"é", 2⟩, ⟨"a", 1⟩, ⟨"fig", 5⟩, ⟨"z", 2⟩] := by
  obtain ⟨listing, sorting⟩ := listing_canonical
  obtain ⟨-, -, -, anyOrder⟩ := listing (ofCounts [⟨"z", 2⟩, ⟨"é", 2⟩, ⟨"a", 1⟩, ⟨"fig", 5⟩]) 2
  obtain ⟨-, -, unique⟩ := sorting [⟨"é", 2⟩, ⟨"a", 1⟩, ⟨"fig", 5⟩, ⟨"z", 2⟩] (by decide)
  refine ⟨anyOrder _ (yields_iff_perm.mpr (by decide +kernel)), ?_⟩
  exact (unique _ (by decide)).2 (by decide +kernel)

end Histogram

end TermScore
