import TermScore.Proofs.Query.Viable

/-!
# Which token an error blames

The parser stops at the first token that no query goes on with, or at the end when the query is not
complete there. What was read up to that place can always be completed.
-/

namespace TermScore.Query

/-! ## Getting stuck -/

/-- The list goes on with `found` after `before`. It ends there when nothing was found. -/
def Shows (before : List Kind) (found : Option Kind) (ks : List Kind) : Prop :=
  ∃ more, ks = before ++ more ∧ more.head? = found

/-- A part of the grammar: what it derives, and what may follow that. -/
abbrev Part := List Kind → List Kind → Prop

/-- What was read can be completed, and what was found behind it cannot be read as well. -/
structure Part.Stuck (P : Part) (before : List Kind) (found : Option Kind) : Prop where
  viable : ∃ more, P (before ++ more) []
  refused : ∀ front rest, P front rest → ¬ Shows before found (front ++ rest)

theorem Shows.head?_eq {before ks ks' : List Kind} {found : Option Kind} (h : Shows before found ks)
    (h' : Shows before found ks') : ks.head? = ks'.head? := by
  obtain ⟨more, rfl, hfound⟩ := h
  obtain ⟨more', rfl, hfound'⟩ := h'
  cases before with
  | nil => exact hfound.trans hfound'.symm
  | cons k before => rfl

/-- A part that is stuck keeps a larger one from going on, when the larger one has to go on with it
behind what comes first. -/
theorem Part.Stuck.embed {P Q : Part} {first before ks : List Kind} {found : Option Kind}
    (h : P.Stuck before found) (shows : Shows before found ks)
    (viable : ∀ front, P front [] → ∃ more, Q (first ++ front ++ more) [])
    (inside : ∀ front rest left, Q front rest → front ++ rest = first ++ left →
      left.head? = ks.head? → ∃ front' rest', P front' rest' ∧ front' ++ rest' = left) :
    Q.Stuck (first ++ before) found where
  viable := by
    obtain ⟨more, hmore⟩ := h.viable
    obtain ⟨more', hmore'⟩ := viable _ hmore
    exact ⟨more ++ more', by simpa using hmore'⟩
  refused := by
    rintro front rest hQ ⟨more, hsplit, hfound⟩
    rw [List.append_assoc] at hsplit
    have shows' : Shows before found (before ++ more) := ⟨more, rfl, hfound⟩
    obtain ⟨front', rest', hP, heq⟩ := inside front rest _ hQ hsplit (shows'.head?_eq shows)
    rw [← heq] at shows'
    exact h.refused front' rest' hP shows'

/-! ## Errors -/

/-- A limit was reached, which the grammar knows nothing of. -/
def GrammarError.OfLimit : GrammarError → Prop
  | .tooDeep _ => True
  | .thresholdOverflow _ => True
  | _ => False

/-- Where an error is raised: what was read before, and the token that was found there. A missing
operand is noticed at the end, or at the number of a comparison without terms. -/
inductive GrammarError.RaisedAt : GrammarError → List Token → Option Token → Prop
  | unexpectedToken (expected : Expected) (before : List Token) (found : Token) :
      RaisedAt (.unexpectedToken expected found) before (some found)
  | unexpectedEnd (expected : Expected) (before : List Token) :
      RaisedAt (.unexpectedEnd expected) before none
  | missingOperand (operator : Operator) (before : List Token) :
      RaisedAt (.missingOperand operator) before none
  | missingTerms (before : List Token) {sign number : Token} {digits : String}
      (greater : sign.kind = .greater) (int : number.kind = .number digits) :
      RaisedAt (.missingOperand .greater) (before ++ [sign]) (some number)
  | missingThreshold (before : List Token) : RaisedAt .missingThreshold before none

theorem GrammarError.RaisedAt.append {e : GrammarError} {before : List Token} {found : Option Token}
    (h : e.RaisedAt before found) (first : List Token) : e.RaisedAt (first ++ before) found := by
  cases h with
  | unexpectedToken expected => exact .unexpectedToken expected _ _
  | unexpectedEnd expected => exact .unexpectedEnd expected _
  | missingOperand operator => exact .missingOperand operator _
  | missingTerms before greater int =>
    rw [← List.append_assoc]
    exact .missingTerms _ greater int
  | missingThreshold => exact .missingThreshold _

/-- The error is raised where a part of the grammar gets stuck on the tokens. -/
def Part.StuckOn (P : Part) (tokens : List Token) (e : GrammarError) : Prop :=
  ∃ before rest, tokens = before ++ rest ∧ e.RaisedAt before rest.head? ∧
    P.Stuck (before.map (·.kind)) (rest.head?.map (·.kind))

theorem Part.StuckOn.embed {P Q : Part} {first tokens : List Token} {e : GrammarError}
    (h : P.StuckOn tokens e)
    (viable : ∀ front, P front [] → ∃ more, Q (first.map (·.kind) ++ front ++ more) [])
    (inside : ∀ front rest left, Q front rest → front ++ rest = first.map (·.kind) ++ left →
      left.head? = (tokens.map (·.kind)).head? →
      ∃ front' rest', P front' rest' ∧ front' ++ rest' = left) :
    Q.StuckOn (first ++ tokens) e := by
  obtain ⟨before, rest, rfl, raised, stuck⟩ := h
  refine ⟨first ++ before, rest, (List.append_assoc ..).symm, raised.append first, ?_⟩
  rw [List.map_append]
  refine stuck.embed ⟨rest.map (·.kind), ?_, ?_⟩ viable inside
  · rw [List.map_append]
  · rw [List.head?_map]

theorem Part.StuckOn.widen {P Q : Part} {tokens : List Token} {e : GrammarError}
    (h : P.StuckOn tokens e) (viable : ∀ front, P front [] → ∃ more, Q (front ++ more) [])
    (inside : ∀ front rest, Q front rest → (front ++ rest).head? = (tokens.map (·.kind)).head? →
      ∃ front' rest', P front' rest' ∧ front' ++ rest' = front ++ rest) :
    Q.StuckOn tokens e := by
  rw [← List.nil_append tokens]
  refine h.embed viable ?_
  rintro front rest left hQ rfl hhead
  exact inside front rest hQ hhead

theorem Part.StuckOn.behind {P Q : Part} {sign : Token} {tokens : List Token} {e : GrammarError}
    (h : P.StuckOn tokens e)
    (viable : ∀ front, P front [] → ∃ more, Q (sign.kind :: front ++ more) [])
    (inside : ∀ front rest left, Q front rest → front ++ rest = sign.kind :: left →
      ∃ front' rest', P front' rest' ∧ front' ++ rest' = left) :
    Q.StuckOn (sign :: tokens) e := by
  rw [← List.singleton_append]
  exact h.embed viable fun front rest left hQ hleft _ => inside front rest left hQ hleft

theorem bind_eq_error_iff {ε α β : Type} {x : Except ε α} {f : α → Except ε β} {e : ε} :
    (x >>= f) = .error e ↔ x = .error e ∨ ∃ a, x = .ok a ∧ f a = .error e := by
  cases x with
  | error e' => simp [bind, Except.bind]
  | ok a => simp [bind, Except.bind]

/-! ## Parts -/

def formPart : Part := fun front _ => ∃ f : Form, f.kinds = front

/-- One or more operands. -/
def operandsPart : Part := fun front rest =>
  (∃ first others, kindsOfAll (first :: others) = front) ∧ Ends rest

def operationPart : Part := fun front rest =>
  ∃ op : Operation, op.kinds = front ∧ op.EndsBefore rest

/-- Nothing follows a whole query. -/
def progPart : Part := fun front rest => IsProg front ∧ rest = []

/-- Any expression, to complete what was read. -/
def someForm : Form := .value (.word "a")

/-! ## Operands -/

section Operands

variable {next : List Token → Except GrammarError (Expr × List Token)} {P : Form → Prop}
  (hnext : Reads next P)
  (hstuck : ∀ tokens e, next tokens = .error e → ¬ e.OfLimit → formPart.StuckOn tokens e)

include hnext hstuck

theorem takeOperands_stuck {steps : Nat} {tokens : List Token} {e : GrammarError}
    (h : takeOperands next steps tokens = .error e) (he : ¬ e.OfLimit) :
    (∃ t ∈ tokens.head?, t.kind.startsExpr = true) ∧ operandsPart.StuckOn tokens e := by
  induction steps generalizing tokens with
  | zero => simp [takeOperands] at h
  | succ steps ih =>
    cases tokens with
    | nil => simp [takeOperands] at h
    | cons t tokens =>
      unfold takeOperands at h
      split_ifs at h with hstart
      refine ⟨⟨t, rfl, hstart⟩, ?_⟩
      rcases bind_eq_error_iff.mp h with h | ⟨⟨e', mid⟩, he', h⟩
      · -- The first operand cannot be read.
        refine (hstuck _ _ h he).widen ?_ ?_
        · rintro _ ⟨f, rfl⟩
          exact ⟨[], ⟨f, [], rfl⟩, ends_nil⟩
        · rintro _ rest ⟨⟨f, fs, rfl⟩, -⟩ -
          refine ⟨f.kinds, kindsOfAll fs ++ rest, ⟨f, rfl⟩, ?_⟩
          rw [kindsOfAll, List.append_assoc]
      · -- The first operand is behind us, and the others cannot be read.
        rcases bind_eq_error_iff.mp h with h | ⟨⟨es, rest⟩, -, h⟩
        · obtain ⟨f, ⟨first, hsplit, hkinds⟩, -⟩ := (hnext _ _ _).mp he'
          obtain ⟨⟨t', ht', hstart'⟩, stuck⟩ := ih h
          rw [hsplit]
          refine stuck.embed ?_ ?_
          · rintro _ ⟨⟨g, gs, rfl⟩, -⟩
            refine ⟨[], ⟨f, g :: gs, ?_⟩, ends_nil⟩
            rw [kindsOfAll, hkinds, List.append_nil]
          · rintro _ rest left ⟨⟨g, gs, rfl⟩, ends⟩ hleft hhead
            rw [hkinds, kindsOfAll, List.append_assoc] at hleft
            have hgs := g.cut hleft
            cases gs with
            | nil =>
              obtain rfl : rest = left := hgs
              rw [List.head?_map, ht'] at hhead
              have := ends _ hhead
              simp [hstart'] at this
            | cons g' gs => exact ⟨_, rest, ⟨⟨g', gs, rfl⟩, ends⟩, hgs⟩
        · cases h

theorem takeSomeOperands_stuck (op : Operator) {tokens : List Token} {e : GrammarError}
    (h : takeSomeOperands next op tokens = .error e) (he : ¬ e.OfLimit) :
    operandsPart.StuckOn tokens e := by
  unfold takeSomeOperands at h
  rcases bind_eq_error_iff.mp h with h | ⟨⟨es, rest⟩, hes, h⟩
  · exact (takeOperands_stuck hnext hstuck h he).2
  cases es with
  | cons e' es => cases h
  | nil =>
    obtain ⟨fs, hs, hfs, -, ends⟩ := (takeOperands_eq_ok_iff hnext (Nat.le_refl _)).mp hes
    obtain rfl : fs = [] := by
      cases fs with
      | nil => rfl
      | cons f fs => cases hfs
    obtain rfl := splits_nil_iff.mp hs
    have viable : ∃ more, operandsPart ([] ++ more) [] :=
      ⟨someForm.kinds, ⟨someForm, [], rfl⟩, ends_nil⟩
    cases tokens with
    | nil =>
      obtain rfl : .missingOperand op = e := Except.error.inj h
      refine ⟨[], [], rfl, .missingOperand op _, viable, ?_⟩
      rintro _ rest ⟨⟨f, fs, rfl⟩, -⟩ ⟨more, hsplit, hmore⟩
      obtain ⟨k, ks, hkinds, -⟩ := f.kinds_eq_cons
      obtain rfl := List.head?_eq_none_iff.mp hmore
      simp [kindsOfAll, hkinds] at hsplit
    | cons t tokens =>
      obtain rfl : .unexpectedToken .expression t = e := Except.error.inj h
      refine ⟨[], t :: tokens, rfl, .unexpectedToken .expression _ _, viable, ?_⟩
      rintro _ rest ⟨⟨f, fs, rfl⟩, -⟩ ⟨more, hsplit, hmore⟩
      obtain rfl : _ = more := hsplit
      refine not_ends_kindsOfAll_cons f fs rest ?_
      intro k hk
      obtain rfl : t.kind = k := Option.some.inj (hmore.symm.trans hk)
      exact ends t rfl

end Operands

/-! ## Comparisons -/

theorem number_of_operationPart {vs : List Value} {front rest more : List Kind}
    (h : operationPart front rest) (hsplit : front ++ rest = .greater :: vs.map Value.kind ++ more)
    (stop : ∀ k ∈ more.head?, k.term? = none) :
    vs ≠ [] ∧ ∃ digits, more.head? = some (.number digits) := by
  obtain ⟨op, rfl, -⟩ := h
  cases op with
  | and first others => simp [Operation.kinds] at hsplit
  | or first others => simp [Operation.kinds] at hsplit
  | greater c =>
    rw [Operation.kinds, List.cons_append, List.cons_append, List.cons_inj_right,
      c.kinds_append] at hsplit
    obtain rfl := values_cut hsplit (by simp [Kind.term?]) stop
    refine ⟨?_, c.digits, rfl⟩
    rintro rfl
    have := congrArg List.length hsplit
    simp only [List.length_append, List.length_map, List.length_cons, List.length_nil] at this
    omega

theorem comparison_stuck {vs : List Value} {found : Option Kind}
    (stop : ∀ k ∈ found, k.term? = none) (h : vs = [] ∨ ∀ digits, found ≠ some (.number digits)) :
    operationPart.Stuck (.greater :: vs.map Value.kind) found where
  viable := by
    cases vs with
    | nil =>
      exact ⟨[(Value.word "a").kind, .number "0"], .greater ⟨.word "a", [], "0"⟩, rfl, trivial⟩
    | cons v vs => exact ⟨[.number "0"], .greater ⟨v, vs, "0"⟩, rfl, trivial⟩
  refused := by
    rintro front rest hop ⟨more, hsplit, rfl⟩
    obtain ⟨ne, digits, hdigits⟩ := number_of_operationPart hop hsplit stop
    rcases h with rfl | h
    · exact ne rfl
    · exact h digits hdigits

theorem takeComparison_stuck {sign : Token} (greater : sign.kind = .greater) {tokens : List Token}
    {e : GrammarError} (h : takeComparison tokens = .error e) (he : ¬ e.OfLimit) :
    operationPart.StuckOn (sign :: tokens) e := by
  obtain ⟨vs, hs, hvs, stop⟩ := takeTerms_eq_iff.mp (Eq.refl (takeTerms tokens))
  obtain ⟨front, hsplit, hkinds⟩ := hs
  have stuck (found : Option Token) (hfound : (takeTerms tokens).2.head? = found)
      (hnumber : vs = [] ∨ ∀ t ∈ found, ∀ digits, t.kind ≠ .number digits) :
      operationPart.Stuck ((sign :: front).map (·.kind)) (found.map (·.kind)) := by
    rw [List.map_cons, greater, hkinds]
    apply comparison_stuck
    · subst hfound
      simpa using stop
    · refine hnumber.imp_right fun hnumber digits heq => ?_
      obtain ⟨t, ht, hdigits⟩ := Option.map_eq_some_iff.mp heq
      exact hnumber t ht digits hdigits
  unfold takeComparison at h
  split at h
  · rename_i heq
    rw [heq] at hsplit stuck hvs
    obtain rfl : .missingOperand .greater = e := Except.error.inj h
    exact ⟨sign :: front, [], by rw [hsplit]; rfl, .missingOperand _ _, stuck none rfl (by simp)⟩
  · rename_i heq
    rw [heq] at hsplit stuck
    obtain rfl : .missingThreshold = e := Except.error.inj h
    exact ⟨sign :: front, [], by rw [hsplit]; rfl, .missingThreshold _, stuck none rfl (by simp)⟩
  · rename_i terms t rest heq
    rw [heq] at hsplit stuck hvs
    split at h
    · rename_i digits hdigits
      simp only at h
      split_ifs at h with hempty hfits
      · obtain rfl : .missingOperand .greater = e := Except.error.inj h
        have hnil : vs = [] := by simpa [List.isEmpty_iff.mp hempty] using hvs
        obtain rfl : front = [] := by simpa [hnil] using hkinds
        exact ⟨[sign], t :: rest, by rw [hsplit]; rfl, .missingTerms [] greater hdigits,
          stuck (some t) rfl (.inl hnil)⟩
      · obtain rfl : .thresholdOverflow digits = e := Except.error.inj h
        exact absurd trivial he
    · rename_i hnumber
      obtain rfl : .unexpectedToken .threshold t = e := Except.error.inj h
      exact ⟨sign :: front, t :: rest, by rw [hsplit]; rfl, .unexpectedToken .threshold _ _,
        stuck (some t) rfl (.inr (by simpa using hnumber))⟩

/-! ## Operators -/

section Operation

variable {next : List Token → Except GrammarError (Expr × List Token)} {P : Form → Prop}
  (hnext : Reads next P)
  (hstuck : ∀ tokens e, next tokens = .error e → ¬ e.OfLimit → formPart.StuckOn tokens e)

theorem Part.StuckOn.operation {sign : Token} {tokens : List Token} {e : GrammarError}
    (h : operandsPart.StuckOn tokens e) (build : Form → List Form → Operation)
    (kinds : ∀ first others, (build first others).kinds = sign.kind :: kindsOfAll (first :: others))
    (ends : ∀ first others rest, (build first others).EndsBefore rest ↔ Ends rest)
    (built : ∀ (op : Operation) rest left, op.kinds ++ rest = sign.kind :: left →
      ∃ first others, op = build first others) :
    operationPart.StuckOn (sign :: tokens) e := by
  refine h.behind ?_ ?_
  · rintro _ ⟨⟨first, others, rfl⟩, hends⟩
    refine ⟨[], build first others, ?_, (ends first others []).mpr hends⟩
    rw [kinds, List.append_nil]
  · rintro _ rest left ⟨op, rfl, hends⟩ hleft
    obtain ⟨first, others, rfl⟩ := built op rest left hleft
    rw [kinds, List.cons_append, List.cons_inj_right] at hleft
    exact ⟨_, rest, ⟨⟨first, others, rfl⟩, (ends first others rest).mp hends⟩, hleft⟩

theorem Part.StuckOn.and {sign : Token} (hsign : sign.kind = .and) {tokens : List Token}
    {e : GrammarError} (h : operandsPart.StuckOn tokens e) :
    operationPart.StuckOn (sign :: tokens) e := by
  refine h.operation .and (fun first others => by rw [hsign]; rfl) (fun _ _ _ => Iff.rfl) ?_
  intro op rest left hleft
  rw [hsign] at hleft
  cases op with
  | and first others => exact ⟨first, others, rfl⟩
  | or first others => simp [Operation.kinds] at hleft
  | greater c => simp [Operation.kinds] at hleft

theorem Part.StuckOn.or {sign : Token} (hsign : sign.kind = .or) {tokens : List Token}
    {e : GrammarError} (h : operandsPart.StuckOn tokens e) :
    operationPart.StuckOn (sign :: tokens) e := by
  refine h.operation .or (fun first others => by rw [hsign]; rfl) (fun _ _ _ => Iff.rfl) ?_
  intro op rest left hleft
  rw [hsign] at hleft
  cases op with
  | and first others => simp [Operation.kinds] at hleft
  | or first others => exact ⟨first, others, rfl⟩
  | greater c => simp [Operation.kinds] at hleft

include hnext hstuck

theorem takeOperation?_stuck {t : Token} {tokens : List Token} {e : GrammarError}
    (h : takeOperation? next t tokens = some (.error e)) (he : ¬ e.OfLimit) :
    operationPart.StuckOn (t :: tokens) e := by
  unfold takeOperation? at h
  split at h
  · rename_i ht
    rcases bind_eq_error_iff.mp (Option.some.inj h) with h | ⟨⟨es, rest⟩, -, h⟩
    · exact (takeSomeOperands_stuck hnext hstuck .and h he).and ht
    · cases h
  · rename_i ht
    rcases bind_eq_error_iff.mp (Option.some.inj h) with h | ⟨⟨es, rest⟩, -, h⟩
    · exact (takeSomeOperands_stuck hnext hstuck .or h he).or ht
    · cases h
  · rename_i ht
    exact takeComparison_stuck ht (Option.some.inj h) he
  · cases h

end Operation

theorem takeOperation?_isSome (next : List Token → Except GrammarError (Expr × List Token))
    {t : Token} (tokens : List Token) {op : Operation} {ks : List Kind} {rest : List Kind}
    (h : op.kinds ++ rest = t.kind :: ks) : (takeOperation? next t tokens).isSome = true := by
  unfold takeOperation?
  cases op with
  | and first others =>
    rw [Operation.kinds, List.cons_append] at h
    simp [← (List.cons.inj h).1]
  | or first others =>
    rw [Operation.kinds, List.cons_append] at h
    simp [← (List.cons.inj h).1]
  | greater c =>
    rw [Operation.kinds, List.cons_append] at h
    simp [← (List.cons.inj h).1]

/-! ## Expressions -/

theorem Part.StuckOn.group {sign : Token} (hsign : sign.kind = .opening) {tokens : List Token}
    {e : GrammarError} (h : operationPart.StuckOn tokens e) :
    formPart.StuckOn (sign :: tokens) e := by
  refine h.behind ?_ ?_
  · rintro _ ⟨op, rfl, -⟩
    refine ⟨[.closing], .group op, ?_⟩
    rw [hsign, Form.kinds, List.cons_append]
  · rintro _ rest left ⟨f, rfl⟩ hleft
    rw [hsign] at hleft
    cases f with
    | group op =>
      rw [Form.kinds, List.cons_append, List.cons_inj_right, List.append_assoc] at hleft
      exact ⟨op.kinds, _, ⟨op, rfl, op.endsBefore_of_ends (ends_closing rest)⟩, hleft⟩
    | not operand => simp [Form.kinds] at hleft
    | value v => cases v <;> simp [Form.kinds, Value.kind] at hleft

theorem Part.StuckOn.not {sign : Token} (hsign : sign.kind = .not) {tokens : List Token}
    {e : GrammarError} (h : formPart.StuckOn tokens e) : formPart.StuckOn (sign :: tokens) e := by
  refine h.behind ?_ ?_
  · rintro _ ⟨f, rfl⟩
    refine ⟨[], .not f, ?_⟩
    rw [hsign, Form.kinds, List.append_nil]
  · rintro _ rest left ⟨f, rfl⟩ hleft
    rw [hsign] at hleft
    cases f with
    | group op => simp [Form.kinds] at hleft
    | not operand =>
      rw [Form.kinds, List.cons_append, List.cons_inj_right] at hleft
      exact ⟨operand.kinds, rest, ⟨operand, rfl⟩, hleft⟩
    | value v => cases v <;> simp [Form.kinds, Value.kind] at hleft

theorem Operation.endsBefore_congr {op : Operation} {rest rest' : List Kind}
    (h : rest.head? = rest'.head?) (ends : op.EndsBefore rest) : op.EndsBefore rest' := by
  cases op with
  | greater c => trivial
  | _ => simpa [Operation.EndsBefore, Ends, h] using ends

theorem group_stuck {op : Operation} {rest : List Kind} (ends : op.EndsBefore rest)
    (closing : rest.head? ≠ some .closing) :
    formPart.Stuck (.opening :: op.kinds) rest.head? where
  viable := ⟨[.closing], .group op, by rw [Form.kinds]; rfl⟩
  refused := by
    rintro _ rest' ⟨f, rfl⟩ ⟨more, hsplit, hmore⟩
    cases f with
    | group op' =>
      rw [Form.kinds, List.cons_append, List.cons_append, List.cons_inj_right, List.append_assoc]
        at hsplit
      have ends' := op'.endsBefore_of_ends (ends_closing rest')
      have := op'.cut ends' (op.endsBefore_congr hmore.symm ends) hsplit
      rw [← hmore, ← this] at closing
      exact closing rfl
    | not operand => simp [Form.kinds] at hsplit
    | value v => cases v <;> simp [Form.kinds, Value.kind] at hsplit

theorem takeClosing_stuck {sign : Token} (hsign : sign.kind = .opening) {op : Operation}
    {tokens rest : List Token} (hs : Splits op.kinds tokens rest)
    (ends : op.EndsBefore (rest.map (·.kind))) {tree : Expr} {e : GrammarError}
    (h : takeClosing tree rest = .error e) : formPart.StuckOn (sign :: tokens) e := by
  obtain ⟨front, rfl, hkinds⟩ := hs
  refine ⟨sign :: front, rest, rfl, ?_, ?_⟩
  · unfold takeClosing at h
    split at h
    · obtain rfl : .unexpectedEnd .closing = e := Except.error.inj h
      exact .unexpectedEnd .closing _
    · split_ifs at h
      obtain rfl : .unexpectedToken .closing _ = e := Except.error.inj h
      exact .unexpectedToken .closing _ _
  · rw [List.map_cons, hsign, hkinds, ← List.head?_map]
    apply group_stuck ends
    unfold takeClosing at h
    split at h
    · simp
    · split_ifs at h with hclosing
      simpa using hclosing

theorem formPart_stuck {found : Option Kind} (h : ∀ k ∈ found, k.startsExpr = false) :
    formPart.Stuck [] found where
  viable := ⟨_, someForm, rfl⟩
  refused := by
    rintro _ rest ⟨f, rfl⟩ ⟨more, rfl, rfl⟩
    obtain ⟨k, ks, hkinds, hk⟩ := f.kinds_eq_cons
    have := h k (by rw [hkinds]; rfl)
    simp [hk] at this

theorem operationPart_stuck {found : Option Kind}
    (h : ∀ (op : Operation) (rest : List Kind), (op.kinds ++ rest).head? ≠ found) :
    operationPart.Stuck [] found where
  viable := ⟨_, .and someForm [], rfl, ends_nil⟩
  refused := by
    rintro _ rest ⟨op, rfl, -⟩ ⟨more, hsplit, hmore⟩
    rw [List.nil_append] at hsplit
    rw [← hsplit] at hmore
    exact h op rest hmore

theorem takeExpr_stuck {limit depth : Nat} {tokens : List Token} {e : GrammarError}
    (h : takeExpr limit depth tokens = .error e) (he : ¬ e.OfLimit) :
    formPart.StuckOn tokens e := by
  induction depth generalizing tokens e with
  | zero =>
    obtain rfl : .tooDeep limit = e := by simpa [takeExpr] using h
    exact absurd trivial he
  | succ depth ih =>
    have hnext := takeExpr_reads limit depth
    cases tokens with
    | nil =>
      obtain rfl : .unexpectedEnd .expression = e := by simpa [takeExpr] using h
      exact ⟨[], [], rfl, .unexpectedEnd .expression _, formPart_stuck (by simp)⟩
    | cons t tokens =>
      unfold takeExpr at h
      split at h
      · rename_i ht
        cases tokens with
        | nil =>
          obtain rfl : .unexpectedEnd .operator = e := Except.error.inj h
          have stuck : operationPart.StuckOn [] (.unexpectedEnd .operator) := by
            refine ⟨[], [], rfl, .unexpectedEnd .operator _, operationPart_stuck ?_⟩
            intro op rest
            obtain ⟨k, ks, hkinds⟩ := op.kinds_eq_cons
            simp [hkinds]
          exact stuck.group ht
        | cons op tokens =>
          simp only at h
          split at h
          · rename_i hop
            obtain rfl : .unexpectedToken .operatorInside op = e := Except.error.inj h
            have stuck :
                operationPart.StuckOn (op :: tokens) (.unexpectedToken .operatorInside op) := by
              refine ⟨[], op :: tokens, rfl, .unexpectedToken .operatorInside _ _,
                operationPart_stuck ?_⟩
              intro op' rest hhead
              obtain ⟨ks, hks⟩ := List.head?_eq_some_iff.mp hhead
              have := takeOperation?_isSome (takeExpr limit depth) tokens hks
              simp [hop] at this
            exact stuck.group ht
          · rename_i reading hreading
            rcases bind_eq_error_iff.mp h with rfl | ⟨⟨tree, rest⟩, rfl, h⟩
            · exact (takeOperation?_stuck hnext (fun _ _ => ih) hreading he).group ht
            · obtain ⟨op', hs, -, -, -, ends⟩ := takeOperation?_sound hnext hreading
              exact takeClosing_stuck ht hs ends h
      · rename_i ht
        cases tokens with
        | nil =>
          obtain rfl : .missingOperand .not = e := Except.error.inj h
          have stuck : formPart.StuckOn [] (.missingOperand .not) :=
            ⟨[], [], rfl, .missingOperand .not _, formPart_stuck (by simp)⟩
          exact stuck.not ht
        | cons t' tokens =>
          rcases bind_eq_error_iff.mp h with h | ⟨⟨tree, rest⟩, -, h⟩
          · exact (ih h he).not ht
          · cases h
      · rename_i hopening hnot
        split at h
        · cases h
        · rename_i hterm
          obtain rfl : .unexpectedToken .expression t = e := Except.error.inj h
          refine ⟨[], t :: tokens, rfl, .unexpectedToken .expression _ _, formPart_stuck ?_⟩
          intro k hk
          obtain rfl : t.kind = k := Option.some.inj hk
          have ne_opening : t.kind ≠ .opening := hopening
          have ne_not : t.kind ≠ .not := hnot
          simp [Kind.startsExpr, hterm, ne_opening, ne_not]

/-! ## Whole queries -/

theorem Operation.ends_kinds (op : Operation) (rest : List Kind) : Ends (op.kinds ++ rest) := by
  cases op <;> simp [Operation.kinds, Ends, Kind.startsExpr, Kind.term?]

theorem bare_stuck {op : Operation} {rest : List Kind} (ends : op.EndsBefore rest)
    (ne : rest ≠ []) : progPart.Stuck op.kinds rest.head? where
  viable := ⟨[], ⟨.bare op, by rw [Prog.kinds, List.append_nil]⟩, rfl⟩
  refused := by
    rintro _ _ ⟨⟨prog, rfl⟩, rfl⟩ ⟨more, hsplit, hmore⟩
    cases prog with
    | bare op' =>
      obtain rfl :=
        op'.cut (op'.endsBefore_of_ends ends_nil) (op.endsBefore_congr hmore.symm ends) hsplit
      exact ne (List.head?_eq_none_iff.mp hmore.symm)
    | sequence first others =>
      have := op.ends_kinds more
      rw [← hsplit] at this
      exact not_ends_kindsOfAll_cons first others [] this

theorem sequence_stuck {first : Form} {others : List Form} {rest : List Kind} (ends : Ends rest)
    (ne : rest ≠ []) : progPart.Stuck (kindsOfAll (first :: others)) rest.head? where
  viable := ⟨[], ⟨.sequence first others, by rw [Prog.kinds, List.append_nil]⟩, rfl⟩
  refused := by
    rintro _ _ ⟨⟨prog, rfl⟩, rfl⟩ ⟨more, hsplit, hmore⟩
    cases prog with
    | bare op =>
      have := op.ends_kinds []
      rw [Prog.kinds] at hsplit
      rw [hsplit] at this
      exact not_ends_kindsOfAll_cons first others more this
    | sequence first' others' =>
      have ends' : Ends more := by simpa [Ends, hmore] using ends
      obtain rfl := cut_kindsOfAll _ ends_nil ends' hsplit
      exact ne (List.head?_eq_none_iff.mp hmore.symm)

/-- The tokens up to `found` are a query, which is stuck there. -/
def TrailsAt (tokens : List Token) (found : Token) : Prop :=
  ∃ before rest, tokens = before ++ found :: rest ∧ IsProg (before.map (·.kind)) ∧
    progPart.Stuck (before.map (·.kind)) (some found.kind)

section Whole

variable {limit : Nat} {t : Token} {tokens : List Token} {e : GrammarError}

theorem parseTokensWithin_operator_stuck {reading : Except GrammarError (Expr × List Token)}
    (hop : takeOperation? (takeExpr limit limit) t tokens = some reading)
    (h : parseTokensWithin limit (t :: tokens) = .error e) (he : ¬ e.OfLimit) :
    progPart.StuckOn (t :: tokens) e ∨
      ∃ found, e = .trailingInput found ∧ TrailsAt (t :: tokens) found := by
  have hnext := takeExpr_reads limit limit
  simp only [parseTokensWithin, hop] at h
  rcases bind_eq_error_iff.mp h with rfl | ⟨⟨tree, left⟩, rfl, h⟩
  · left
    refine (takeOperation?_stuck hnext (fun _ _ => takeExpr_stuck) hop he).widen ?_ ?_
    · rintro _ ⟨op, rfl, -⟩
      exact ⟨[], ⟨.bare op, by rw [Prog.kinds, List.append_nil]⟩, rfl⟩
    · rintro _ _ ⟨⟨prog, rfl⟩, rfl⟩ hhead
      cases prog with
      | bare op => exact ⟨op.kinds, [], ⟨op, rfl, op.endsBefore_of_ends ends_nil⟩, rfl⟩
      | sequence first others =>
        refine absurd ?_ (not_ends_kindsOfAll_cons first others [])
        intro k hk
        obtain rfl : t.kind = k := Option.some.inj (hhead.symm.trans hk)
        rw [Bool.eq_false_iff]
        intro start
        rw [takeOperation?_of_startsExpr _ _ start] at hop
        cases hop
  · right
    cases left with
    | nil => cases h
    | cons found left =>
      obtain rfl : .trailingInput found = e := Except.error.inj h
      obtain ⟨op, ⟨before, hsplit, hkinds⟩, -, -, -, ends⟩ := takeOperation?_sound hnext hop
      refine ⟨found, rfl, before, left, hsplit, ⟨.bare op, hkinds.symm⟩, ?_⟩
      rw [hkinds]
      exact bare_stuck ends (by simp)

theorem parseTokensWithin_operands_stuck
    (hop : takeOperation? (takeExpr limit limit) t tokens = none)
    (h : parseTokensWithin limit (t :: tokens) = .error e) (he : ¬ e.OfLimit) :
    progPart.StuckOn (t :: tokens) e ∨
      ∃ found, e = .trailingInput found ∧ TrailsAt (t :: tokens) found := by
  have hnext := takeExpr_reads limit limit
  simp only [parseTokensWithin, hop] at h
  rcases bind_eq_error_iff.mp h with h | ⟨⟨es, left⟩, hes, h⟩
  · left
    refine (takeSomeOperands_stuck hnext (fun _ _ => takeExpr_stuck) .sequence h he).widen ?_ ?_
    · rintro _ ⟨⟨first, others, rfl⟩, -⟩
      exact ⟨[], ⟨.sequence first others, by rw [Prog.kinds, List.append_nil]⟩, rfl⟩
    · rintro _ _ ⟨⟨prog, rfl⟩, rfl⟩ hhead
      cases prog with
      | bare op =>
        obtain ⟨ks, hks⟩ := List.head?_eq_some_iff.mp hhead
        have := takeOperation?_isSome (takeExpr limit limit) tokens hks
        simp [hop] at this
      | sequence first others => exact ⟨_, [], ⟨⟨first, others, rfl⟩, ends_nil⟩, rfl⟩
  · right
    cases left with
    | nil => cases h
    | cons found left =>
      obtain rfl : .trailingInput found = e := Except.error.inj h
      obtain ⟨first, others, ⟨before, hsplit, hkinds⟩, -, -, stop⟩ :=
        (takeSomeOperands_eq_ok_iff hnext _).mp hes
      refine ⟨found, rfl, before, left, hsplit, ⟨.sequence first others, hkinds.symm⟩, ?_⟩
      rw [hkinds]
      exact sequence_stuck (ends_map_iff.mpr stop) (by simp)

theorem parseTokensWithin_stuck (h : parseTokensWithin limit tokens = .error e) (he : ¬ e.OfLimit) :
    (e = .empty ∧ tokens = []) ∨ progPart.StuckOn tokens e ∨
      ∃ found, e = .trailingInput found ∧ TrailsAt tokens found := by
  cases tokens with
  | nil => exact .inl ⟨(Except.error.inj h).symm, rfl⟩
  | cons t tokens =>
    right
    cases hop : takeOperation? (takeExpr limit limit) t tokens with
    | some reading => exact parseTokensWithin_operator_stuck hop h he
    | none => exact parseTokensWithin_operands_stuck hop h he

end Whole

/-! ## What an error says -/

def kindsOf (tokens : List Token) : List Kind :=
  tokens.map (·.kind)

/-- The tokens before place `k` can be completed, and with the one at place `k` they cannot. -/
def BreaksAt (tokens : List Token) (k : Nat) : Prop :=
  Viable (kindsOf (tokens.take k)) ∧ ¬ Viable (kindsOf (tokens.take (k + 1)))

/-- All tokens can be completed, and they have to be. -/
def Incomplete (tokens : List Token) : Prop :=
  Viable (kindsOf tokens) ∧ ¬ IsProg (kindsOf tokens)

/-- The operator at place `k` has no terms, only the number behind it. -/
def LacksTermsAt (tokens : List Token) (k : Nat) : Prop :=
  (∃ offset, tokens[k]? = some ⟨.greater, offset⟩) ∧
    (∃ digits offset, tokens[k + 1]? = some ⟨.number digits, offset⟩) ∧ BreaksAt tokens (k + 1)

/-- What an error says of the tokens. The errors of the limits say nothing of the grammar. -/
def GrammarError.Explains (tokens : List Token) : GrammarError → Prop
  | .unexpectedToken _ found => ∃ k, tokens[k]? = some found ∧ BreaksAt tokens k
  | .trailingInput found =>
    ∃ k, tokens[k]? = some found ∧ BreaksAt tokens k ∧ IsProg (kindsOf (tokens.take k))
  | .missingOperand operator => Incomplete tokens ∨ operator = .greater ∧ ∃ k, LacksTermsAt tokens k
  | .empty => Incomplete tokens
  | .unexpectedEnd _ => Incomplete tokens
  | .missingThreshold => Incomplete tokens
  | .tooDeep _ => True
  | .thresholdOverflow _ => True

theorem viable_of_stuck {before : List Kind} {found : Option Kind}
    (h : progPart.Stuck before found) : Viable before := by
  obtain ⟨more, hprog, -⟩ := h.viable
  exact ⟨more, hprog⟩

theorem breaksAt_of_stuck {before rest : List Token} {found : Token}
    (h : progPart.Stuck (before.map (·.kind)) (some found.kind)) :
    BreaksAt (before ++ found :: rest) before.length := by
  unfold BreaksAt kindsOf
  rw [List.take_left, List.take_length_add_append, List.map_append]
  refine ⟨viable_of_stuck h, ?_⟩
  rintro ⟨more, hprog⟩
  rw [List.append_assoc] at hprog
  exact h.refused _ [] ⟨hprog, rfl⟩ ⟨_, List.append_nil _, rfl⟩

theorem incomplete_of_stuck {tokens : List Token}
    (h : progPart.Stuck (tokens.map (·.kind)) none) : Incomplete tokens := by
  refine ⟨viable_of_stuck h, ?_⟩
  intro hprog
  exact h.refused _ [] ⟨hprog, rfl⟩ ⟨[], rfl, rfl⟩

theorem Part.StuckOn.explains {tokens : List Token} {e : GrammarError}
    (h : progPart.StuckOn tokens e) : e.Explains tokens := by
  obtain ⟨before, rest, rfl, raised, stuck⟩ := h
  cases rest with
  | nil =>
    have incomplete := incomplete_of_stuck stuck
    rw [← List.append_nil before] at incomplete
    cases raised with
    | unexpectedEnd expected => exact incomplete
    | missingOperand operator => exact .inl incomplete
    | missingThreshold => exact incomplete
  | cons found rest =>
    have breaks : BreaksAt (before ++ found :: rest) before.length := breaksAt_of_stuck stuck
    cases raised with
    | unexpectedToken expected => exact ⟨before.length, by simp, breaks⟩
    | @missingTerms front sign _ digits greater int =>
      obtain ⟨kind, place⟩ := sign
      obtain ⟨kind', place'⟩ := found
      obtain rfl : kind = .greater := greater
      obtain rfl : kind' = .number digits := int
      rw [List.length_append] at breaks
      exact .inr ⟨rfl, front.length, ⟨place, by simp⟩, ⟨digits, place', by simp⟩, breaks⟩

/-- An error that is about no limit names the first token that no query goes on with. Where it names
none, the tokens are the beginning of a query. -/
theorem parseTokens_explains {tokens : List Token} {e : GrammarError}
    (h : parseTokens tokens = .error e) : e.Explains tokens := by
  by_cases he : e.OfLimit
  · cases e <;> trivial
  rcases parseTokensWithin_stuck h he with
    ⟨rfl, rfl⟩ | stuck | ⟨found, rfl, before, rest, rfl, hprog, stuck⟩
  · refine ⟨⟨someForm.kinds, .sequence someForm [], rfl⟩, ?_⟩
    rintro ⟨prog, hkinds⟩
    exact prog.kinds_ne_nil hkinds
  · exact stuck.explains
  · refine ⟨before.length, by simp, breaksAt_of_stuck stuck, ?_⟩
    rw [List.take_left]
    exact hprog

theorem parseTokens_number_missing :
    parseTokens [⟨.opening, 0⟩, ⟨.greater, 1⟩, ⟨.word "a", 3⟩, ⟨.closing, 5⟩] =
        .error (.unexpectedToken .threshold ⟨.closing, 5⟩) ∧
      (GrammarError.unexpectedToken .threshold ⟨.closing, 5⟩).Explains
        [⟨.opening, 0⟩, ⟨.greater, 1⟩, ⟨.word "a", 3⟩, ⟨.closing, 5⟩] := by
  have h : parseTokens [⟨.opening, 0⟩, ⟨.greater, 1⟩, ⟨.word "a", 3⟩, ⟨.closing, 5⟩] =
      .error (.unexpectedToken .threshold ⟨.closing, 5⟩) := rfl
  exact ⟨h, parseTokens_explains h⟩

end TermScore.Query
