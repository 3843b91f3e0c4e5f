import TermScore.Proofs.Histogram

/-!
# What a histogram adds up to

A histogram holds for each term all that was added since the last rebuild, up to the largest count.
Neither the order of the additions nor how they were grouped can be told from it.
-/

namespace TermScore.Histogram

/-! ## Histories -/

/-- What can be done to a histogram. -/
inductive Step where
  | insert (term : String)
  | add (term : String) (amount : Nat)
  /-- The histogram of a list of counts takes its place. -/
  | rebuild (counts : List TermCount)

namespace Step

def apply (h : Histogram) : Step → Histogram
  | .insert term => h.insert term
  | .add term amount => h.add term amount
  | .rebuild counts => ofCounts counts

def isRebuild : Step → Bool
  | .rebuild _ => true
  | _ => false

def amounts : Step → List TermCount
  | .insert term => [⟨term, 1⟩]
  | .add term amount => [⟨term, amount⟩]
  | .rebuild counts => counts

end Step

/-- The histogram after some steps, which start with the empty one. -/
def after (steps : List Step) : Histogram :=
  steps.foldl Step.apply empty

/-- The amounts that were added since the last rebuild. Those of the rebuild are among them. -/
def added : List Step → List TermCount
  | [] => []
  | step :: rest => if rest.any Step.isRebuild then added rest else step.amounts ++ added rest

/-- The exact sum of the amounts for one term. -/
def sumFor (t : String) (l : List TermCount) : Nat :=
  ((l.filter (·.term == t)).map (·.count)).sum

def total (steps : List Step) (t : String) : Nat :=
  sumFor t (added steps)

/-! ## Sums -/

theorem sumFor_append (t : String) (l l' : List TermCount) :
    sumFor t (l ++ l') = sumFor t l + sumFor t l' := by
  unfold sumFor
  rw [List.filter_append, List.map_append, List.sum_append]

theorem sumFor_singleton (t term : String) (n : Nat) :
    sumFor t [⟨term, n⟩] = if t = term then n else 0 := by
  by_cases ht : t = term
  · simp [sumFor, ht]
  · simp [sumFor, ht, Ne.symm ht]

theorem count_add_eq (h : Histogram) (term t : String) (n : Nat) :
    (h.add term n).count t = saturate (h.count t + sumFor t [⟨term, n⟩]) := by
  rw [count_add, sumFor_singleton]
  by_cases ht : t = term
  · simp [ht]
  · simp [ht, saturate_of_le (h.count_le t)]

theorem count_foldl_add (l : List TermCount) (h : Histogram) (t : String) :
    (l.foldl (fun h c => h.add c.term c.count) h).count t = saturate (h.count t + sumFor t l) := by
  induction l generalizing h with
  | nil => exact (saturate_of_le (h.count_le t)).symm
  | cons c l ih =>
    rw [List.foldl_cons, ih, count_add_eq, saturate_saturate_add, Nat.add_assoc, ← sumFor_append,
      List.singleton_append]

theorem count_ofCounts (l : List TermCount) (t : String) :
    (ofCounts l).count t = saturate (sumFor t l) := by
  unfold ofCounts
  rw [count_foldl_add, count_empty, Nat.zero_add]

/-! ## Runs -/

/-- A rebuild forgets what was counted, and any other step adds to it. -/
theorem Step.count_apply (h : Histogram) (step : Step) (t : String) :
    (step.apply h).count t =
      saturate ((if step.isRebuild then 0 else h.count t) + sumFor t step.amounts) := by
  cases step with
  | insert term => exact count_add_eq h term t 1
  | add term n => exact count_add_eq h term t n
  | rebuild counts =>
    rw [isRebuild, if_pos rfl, Nat.zero_add]
    exact count_ofCounts counts t

theorem count_foldl_apply (steps : List Step) (h : Histogram) (t : String) :
    (steps.foldl Step.apply h).count t =
      saturate ((if steps.any Step.isRebuild then 0 else h.count t) + sumFor t (added steps)) := by
  induction steps generalizing h with
  | nil => exact (saturate_of_le (h.count_le t)).symm
  | cons step rest ih =>
    rw [List.foldl_cons, ih, added]
    cases hrest : rest.any Step.isRebuild with
    | true => simp [hrest]
    | false =>
      simp only [Bool.false_eq_true, if_false, List.any_cons, hrest, Bool.or_false]
      rw [step.count_apply, saturate_saturate_add, Nat.add_assoc, ← sumFor_append]

theorem count_after (steps : List Step) (t : String) :
    (after steps).count t = saturate (total steps t) := by
  unfold after total
  rw [count_foldl_apply, count_empty, ite_self, Nat.zero_add]

theorem count_after_pos_iff {steps : List Step} {t : String} :
    0 < (after steps).count t ↔ 0 < total steps t := by
  rw [count_after, saturate_pos_iff]

/-! ## What a histogram shows -/

theorem eq_iff_count {a b : Histogram} : a = b ↔ ∀ t, a.count t = b.count t := by
  constructor
  · rintro rfl t
    rfl
  · exact ext

theorem add_zero (h : Histogram) (term : String) : h.add term 0 = h := by
  rw [eq_iff_count]
  intro t
  rw [count_add_eq, sumFor_singleton, ite_self, Nat.add_zero, saturate_of_le (h.count_le t)]

theorem size_eq_length_keys (h : Histogram) : h.size = h.entries.keys.length :=
  Std.ExtTreeMap.length_keys.symm

theorem isEmpty_iff {h : Histogram} : h.isEmpty = true ↔ ∀ t, h.count t = 0 := by
  unfold isEmpty
  rw [Std.ExtTreeMap.isEmpty_iff, Std.ExtTreeMap.eq_empty_iff_forall_not_mem]
  apply forall_congr'
  intro t
  rw [mem_entries_iff, Nat.not_lt, Nat.le_zero]

/-- All that a histogram shows follows from the totals of what was added to it. -/
theorem after_totals (steps : List Step) :
    (∀ t, (after steps).count t = min (2 ^ 64 - 1) (total steps t)) ∧
      (∀ (t : String) (n : Nat), (after steps).entries[t]? = some n → n ≠ 0) ∧
      (∀ t, (after steps).add t 0 = after steps) ∧
      (∃ terms : List String, terms.Nodup ∧ (∀ t, t ∈ terms ↔ 0 < total steps t) ∧
        (after steps).size = terms.length) ∧
      ((after steps).isEmpty = true ↔ ∀ t, total steps t = 0) ∧
      (∀ t, (after steps).contains t = true ↔ 0 < (after steps).count t) ∧
      (∀ h : Histogram, (after steps == h) = true ↔ ∀ t, (after steps).count t = h.count t) ∧
      ∀ others, (after steps == after others) = true ↔
        ∀ t, min (2 ^ 64 - 1) (total steps t) = min (2 ^ 64 - 1) (total others t) := by
  have capped : ∀ steps t, (after steps).count t = min (2 ^ 64 - 1) (total steps t) := by
    intro steps t
    rw [count_after, saturate, Nat.min_comm]
    rfl
  refine ⟨capped steps, ?_, (after steps).add_zero, ?_, ?_, ?_, ?_, ?_⟩
  · intro t n hn
    exact Nat.pos_iff_ne_zero.mp ((after steps).inRange t n hn).1
  · refine ⟨(after steps).entries.keys, Std.ExtTreeMap.nodup_keys, ?_, size_eq_length_keys _⟩
    intro t
    rw [Std.ExtTreeMap.mem_keys, mem_entries_iff, count_after_pos_iff]
  · rw [isEmpty_iff]
    apply forall_congr'
    intro t
    have := @count_after_pos_iff steps t
    omega
  · intro t
    exact decide_eq_true_iff
  · intro h
    rw [beq_iff_eq, eq_iff_count]
  · intro others
    rw [beq_iff_eq, eq_iff_count]
    simp only [capped]

/-- The first history is rebuilt from a list that has `a` twice and nothing of `b`. Both go over the
largest count. -/
theorem after_rebuild_full :
    (after [.insert "b", .rebuild [⟨"a", 2 ^ 64 - 3⟩, ⟨"b", 0⟩, ⟨"a", 1⟩], .add "a" 9] ==
        after [.add "a" 5, .add "a" (2 ^ 64 - 1), .add "c" 0]) = true ∧
      (after [.insert "b", .rebuild [⟨"a", 2 ^ 64 - 3⟩, ⟨"b", 0⟩, ⟨"a", 1⟩], .add "a" 9]).count "a" =
        2 ^ 64 - 1 := by
  obtain ⟨counts, -, -, -, -, -, -, same⟩ :=
    after_totals [.insert "b", .rebuild [⟨"a", 2 ^ 64 - 3⟩, ⟨"b", 0⟩, ⟨"a", 1⟩], .add "a" 9]
  refine ⟨(same _).mpr ?_, (counts "a").trans (by decide)⟩
  intro t
  by_cases h : t ∈ ["a", "b", "c"]
  · simp only [List.mem_cons, List.not_mem_nil, or_false] at h
    rcases h with rfl | rfl | rfl <;> decide
  · simp only [List.mem_cons, List.not_mem_nil, or_false, not_or, eq_comm (a := t)] at h
    simp [total, added, Step.amounts, Step.isRebuild, sumFor, h]

end TermScore.Histogram
