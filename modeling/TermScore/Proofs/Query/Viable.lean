import TermScore.Proofs.Query.Parse

/-!
# What a query can go on with

Tokens are viable when some more of them make a query. A derivation can be cut off a list of tokens in
one way only, so a list that a part of the grammar gets stuck on keeps the whole from going on too.
-/

namespace TermScore.Query

/-! ## Queries without limits -/

def IsProg (ks : List Kind) : Prop :=
  ∃ prog : Prog, prog.kinds = ks

/-- Some continuation makes the tokens a query, of any depth and with any thresholds. -/
def Viable (ks : List Kind) : Prop :=
  ∃ more, IsProg (ks ++ more)

/-! ## One way to cut -/

theorem dropWhile_values (vs : List Value) {rest : List Kind}
    (h : ∀ k ∈ rest.head?, k.term? = none) :
    (vs.map Value.kind ++ rest).dropWhile (·.term?.isSome) = rest := by
  rw [List.dropWhile_append_of_pos]
  · cases rest with
    | nil => rfl
    | cons k rest =>
      have hk : k.term? = none := h k rfl
      simp [hk]
  · intro k hk
    obtain ⟨v, -, rfl⟩ := List.mem_map.mp hk
    simp [v.kind_term?]

theorem values_cut {vs vs' : List Value} {rest rest' : List Kind}
    (h : vs.map Value.kind ++ rest = vs'.map Value.kind ++ rest')
    (stop : ∀ k ∈ rest.head?, k.term? = none) (stop' : ∀ k ∈ rest'.head?, k.term? = none) :
    rest = rest' := by
  rw [← dropWhile_values vs stop, h, dropWhile_values vs' stop']

theorem Comparison.kinds_append (c : Comparison) (rest : List Kind) :
    c.kinds ++ rest = (c.first :: c.others).map Value.kind ++ .number c.digits :: rest := by
  rw [Comparison.kinds, List.append_assoc]
  rfl

theorem Comparison.cut {c c' : Comparison} {rest rest' : List Kind}
    (h : c.kinds ++ rest = c'.kinds ++ rest') : rest = rest' := by
  rw [c.kinds_append, c'.kinds_append] at h
  have := values_cut h (by simp [Kind.term?]) (by simp [Kind.term?])
  exact (List.cons.inj this).2

theorem ends_nil : Ends [] := by
  simp [Ends]

theorem ends_closing (rest : List Kind) : Ends (.closing :: rest) := by
  simp [Ends, Kind.startsExpr, Kind.term?]

theorem Operation.endsBefore_of_ends (op : Operation) {rest : List Kind} (h : Ends rest) :
    op.EndsBefore rest := by
  cases op <;> first | exact h | trivial

theorem not_ends_kindsOfAll_cons (f : Form) (fs : List Form) (rest : List Kind) :
    ¬ Ends (kindsOfAll (f :: fs) ++ rest) := by
  obtain ⟨k, ks, hkinds, hk⟩ := f.kinds_eq_cons
  simp [Ends, kindsOfAll, hkinds, hk]

mutual

theorem Form.cut (f : Form) {f' : Form} {rest rest' : List Kind}
    (h : f.kinds ++ rest = f'.kinds ++ rest') : rest = rest' := by
  cases f with
  | group op =>
    cases f' with
    | group op' =>
      rw [Form.kinds, Form.kinds, List.cons_append, List.cons_append, List.cons_inj_right,
        List.append_assoc, List.append_assoc] at h
      have := op.cut (op.endsBefore_of_ends (ends_closing rest))
        (op'.endsBefore_of_ends (ends_closing rest')) h
      exact (List.cons.inj this).2
    | not operand' => simp [Form.kinds] at h
    | value v' => cases v' <;> simp [Form.kinds, Value.kind] at h
  | not operand =>
    cases f' with
    | group op' => simp [Form.kinds] at h
    | not operand' =>
      rw [Form.kinds, Form.kinds, List.cons_append, List.cons_append, List.cons_inj_right] at h
      exact operand.cut h
    | value v' => cases v' <;> simp [Form.kinds, Value.kind] at h
  | value v =>
    cases f' with
    | group op' => cases v <;> simp [Form.kinds, Value.kind] at h
    | not operand' => cases v <;> simp [Form.kinds, Value.kind] at h
    | value v' =>
      rw [Form.kinds, Form.kinds] at h
      exact (List.cons.inj h).2

theorem Operation.cut (op : Operation) {op' : Operation} {rest rest' : List Kind}
    (ends : op.EndsBefore rest) (ends' : op'.EndsBefore rest')
    (h : op.kinds ++ rest = op'.kinds ++ rest') : rest = rest' := by
  cases op with
  | and first others =>
    cases op' with
    | and first' others' =>
      rw [Operation.kinds, Operation.kinds, List.cons_append, List.cons_append, List.cons_inj_right,
        List.append_assoc, List.append_assoc] at h
      exact cut_kindsOfAll others ends ends' (first.cut h)
    | or first' others' => simp [Operation.kinds] at h
    | greater c' => simp [Operation.kinds] at h
  | or first others =>
    cases op' with
    | and first' others' => simp [Operation.kinds] at h
    | or first' others' =>
      rw [Operation.kinds, Operation.kinds, List.cons_append, List.cons_append, List.cons_inj_right,
        List.append_assoc, List.append_assoc] at h
      exact cut_kindsOfAll others ends ends' (first.cut h)
    | greater c' => simp [Operation.kinds] at h
  | greater c =>
    cases op' with
    | and first' others' => simp [Operation.kinds] at h
    | or first' others' => simp [Operation.kinds] at h
    | greater c' =>
      rw [Operation.kinds, Operation.kinds, List.cons_append, List.cons_append,
        List.cons_inj_right] at h
      exact c.cut h

theorem cut_kindsOfAll (fs : List Form) {fs' : List Form} {rest rest' : List Kind}
    (ends : Ends rest) (ends' : Ends rest')
    (h : kindsOfAll fs ++ rest = kindsOfAll fs' ++ rest') : rest = rest' := by
  cases fs with
  | nil =>
    cases fs' with
    | nil => exact h
    | cons f' fs' =>
      have := not_ends_kindsOfAll_cons f' fs' rest'
      rw [← h] at this
      exact absurd ends this
  | cons f fs =>
    cases fs' with
    | nil =>
      have := not_ends_kindsOfAll_cons f fs rest
      rw [h] at this
      exact absurd ends' this
    | cons f' fs' =>
      rw [kindsOfAll, kindsOfAll, List.append_assoc, List.append_assoc] at h
      exact cut_kindsOfAll fs ends ends' (f.cut h)

end

end TermScore.Query
