import Mathlib.Data.List.Induction
import Mathlib.Logic.Function.Iterate
import TermScore.Workers

/-!
# Any order of the workers' steps

How far an input has come depends on the number of steps that were done on it and on nothing else,
and the shared count is always the number of failures that were counted.
-/

namespace TermScore

variable {α : Type} {score : Path → Outcome α}

/-! ## Outcomes -/

theorem Outcome.length_filterMap_scored? (outcomes : List (Outcome α)) :
    (outcomes.filterMap scored?).length + outcomes.countP hasFailed = outcomes.length := by
  rw [List.length_filterMap_eq_countP, outcomes.length_eq_countP_add_countP hasFailed,
    Nat.add_comm]
  congr 1
  apply List.countP_congr
  intro o _
  unfold hasFailed
  cases o.scored? <;> simp

/-! ## One input -/

namespace Slot

/-- Whether the input is one of the failures that the shared count has. -/
def isCountedFailure : Slot α → Bool
  | .counted o | .stored o => o.hasFailed
  | _ => false

theorem isCountedFailure_next (score : Path → Outcome α) (slot : Slot α) :
    (slot.next score).isCountedFailure.toNat = slot.isCountedFailure.toNat + slot.newFailures := by
  cases slot <;> simp [next, isCountedFailure, newFailures]

theorem next_iterate_stored (n : Nat) (o : Outcome α) :
    (next score)^[n] (.stored o) = .stored o :=
  Function.iterate_fixed rfl n

/-- Three steps store the outcome of an input, and further ones change nothing. -/
theorem next_iterate_waiting (n : Nat) (path : Path) :
    (next score)^[n + 3] (.waiting path) = .stored (score path) :=
  next_iterate_stored n (score path)

theorem outcome?_iterate (n : Nat) (path : Path) :
    ((next score)^[n] (.waiting path)).outcome? = if 3 ≤ n then some (score path) else none := by
  match n with
  | 0 => rfl
  | 1 => rfl
  | 2 => rfl
  | n + 3 =>
    rw [next_iterate_waiting, if_pos (by omega)]
    rfl

end Slot

/-! ## All inputs -/

namespace Pool

theorem getElem?_slots_advance (pool : Pool α) (input i : Nat) :
    (pool.advance score input).slots[i]? =
      if input = i then pool.slots[i]?.map (Slot.next score) else pool.slots[i]? := by
  unfold advance
  cases h : pool.slots[input]? with
  | none =>
    dsimp only
    split
    · rename_i heq
      rw [← heq, h]
      rfl
    · rfl
  | some slot =>
    obtain ⟨hlt, -⟩ := List.getElem?_eq_some_iff.mp h
    dsimp only
    rw [List.getElem?_set, if_pos hlt]
    split
    · rename_i heq
      rw [← heq, h]
      rfl
    · rfl

theorem failed_advance (pool : Pool α) (input : Nat)
    (h : pool.failed = pool.slots.countP Slot.isCountedFailure) :
    (pool.advance score input).failed =
      (pool.advance score input).slots.countP Slot.isCountedFailure := by
  unfold advance
  cases hslot : pool.slots[input]? with
  | none => exact h
  | some slot =>
    obtain ⟨hlt, hget⟩ := List.getElem?_eq_some_iff.mp hslot
    have hstep := slot.isCountedFailure_next score
    have hmem : slot.isCountedFailure = true → 0 < pool.slots.countP Slot.isCountedFailure := by
      intro hcounted
      exact List.countP_pos_iff.mpr ⟨slot, List.mem_of_getElem? hslot, hcounted⟩
    dsimp only
    rw [List.countP_set hlt, hget, h]
    cases hold : slot.isCountedFailure <;> cases hnew : (slot.next score).isCountedFailure <;>
      simp_all <;> omega

theorem run_append_singleton (paths : List Path) (inputs : List Nat) (input : Nat) :
    run score paths (inputs ++ [input]) = (run score paths inputs).advance score input :=
  List.foldl_append ..

/-- The steps on the other inputs make no difference to an input. -/
theorem slots_run (paths : List Path) (inputs : List Nat) :
    (run score paths inputs).slots =
      paths.mapIdx fun i path => (Slot.next score)^[inputs.count i] (.waiting path) := by
  apply List.ext_getElem?
  intro i
  rw [List.getElem?_mapIdx]
  induction inputs using List.reverseRecOn with
  | nil => exact List.getElem?_map ..
  | append_singleton inputs input ih =>
    rw [run_append_singleton, getElem?_slots_advance, ih, List.count_append, List.count_singleton]
    by_cases h : input = i
    · subst h
      rw [if_pos rfl, if_pos BEq.rfl, Option.map_map]
      congr 1
      funext path
      exact (Function.iterate_succ_apply' ..).symm
    · rw [if_neg h, if_neg (by simpa using h), Nat.add_zero]

theorem failed_run (paths : List Path) (inputs : List Nat) :
    (run score paths inputs).failed =
      (run score paths inputs).slots.countP Slot.isCountedFailure := by
  induction inputs using List.reverseRecOn with
  | nil =>
    have waiting : ∀ slot ∈ paths.map (Slot.waiting (α := α)), ¬ slot.isCountedFailure = true := by
      simp [Slot.isCountedFailure]
    exact (List.countP_eq_zero.mpr waiting).symm
  | append_singleton inputs input ih =>
    rw [run_append_singleton]
    exact failed_advance _ input ih

/-! ## When all are done -/

theorem isDone_run_iff (paths : List Path) (inputs : List Nat) :
    (run score paths inputs).isDone = true ↔ ∀ i < paths.length, 3 ≤ inputs.count i := by
  unfold isDone
  rw [slots_run, List.all_eq_true]
  constructor
  · intro h i hi
    have hdone := h _ (List.mem_mapIdx.mpr ⟨i, hi, rfl⟩)
    rw [Slot.outcome?_iterate] at hdone
    by_contra hfew
    rw [if_neg hfew] at hdone
    simp at hdone
  · intro h slot hslot
    obtain ⟨i, hi, rfl⟩ := List.mem_mapIdx.mp hslot
    rw [Slot.outcome?_iterate, if_pos (h i hi)]
    rfl

theorem slots_of_isDone {paths : List Path} {inputs : List Nat}
    (h : (run score paths inputs).isDone = true) :
    (run score paths inputs).slots = paths.map fun path => .stored (score path) := by
  rw [slots_run]
  apply List.ext_getElem?
  intro i
  rw [List.getElem?_mapIdx, List.getElem?_map]
  cases hpath : paths[i]? with
  | none => rfl
  | some path =>
    obtain ⟨hi, -⟩ := List.getElem?_eq_some_iff.mp hpath
    obtain ⟨n, hn⟩ := Nat.exists_eq_add_of_le' ((isDone_run_iff paths inputs).mp h i hi)
    rw [hn, Option.map_some, Option.map_some, Slot.next_iterate_waiting]

theorem outcomes_of_isDone {paths : List Path} {inputs : List Nat}
    (h : (run score paths inputs).isDone = true) :
    (run score paths inputs).outcomes = paths.map score := by
  unfold outcomes
  rw [slots_of_isDone h, List.filterMap_map]
  exact congrFun List.filterMap_eq_map paths

theorem failed_of_isDone {paths : List Path} {inputs : List Nat}
    (h : (run score paths inputs).isDone = true) :
    (run score paths inputs).failed = (paths.map score).countP Outcome.hasFailed := by
  rw [failed_run, slots_of_isDone h, List.countP_map, List.countP_map]
  rfl

/-- Every outcome is at the place of its input, and the shared count is the number of failures. -/
structure Ends (pool : Pool α) (outcomes : List (Outcome α)) : Prop where
  stored : pool.outcomes = outcomes
  failed : pool.failed = outcomes.countP Outcome.hasFailed
  failed_le : pool.failed ≤ outcomes.length
  scoredCount : pool.scoredCount = (outcomes.filterMap Outcome.scored?).length

theorem ends_of_isDone {paths : List Path} {inputs : List Nat}
    (h : (run score paths inputs).isDone = true) :
    (run score paths inputs).Ends (paths.map score) := by
  have hfailed := failed_of_isDone h
  have hle : (paths.map score).countP Outcome.hasFailed ≤ (paths.map score).length :=
    List.countP_le_length
  have hlength : (run score paths inputs).slots.length = (paths.map score).length := by
    rw [slots_of_isDone h, List.length_map, List.length_map]
  have hscored := Outcome.length_filterMap_scored? (paths.map score)
  refine ⟨outcomes_of_isDone h, hfailed, hfailed ▸ hle, ?_⟩
  unfold scoredCount
  omega

end Pool

end TermScore
