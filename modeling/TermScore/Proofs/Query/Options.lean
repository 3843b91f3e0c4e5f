import TermScore.Proofs.Text.Pattern
import TermScore.Proofs.Text.Pieces
import TermScore.Query.Line

/-!
# Options of a line

The options of a logical line are found by cutting. Two patterns with groups find the same: one for
the block and the expression after it, one for the name and the value of an option.
-/

namespace TermScore.Query

open Text

/-! ## What an option sets -/

/-- The name and the value of an option. What stands after a second `=` is no part of the value. -/
def Assigns (option name value : List Char) : Prop :=
  ∃ before text after, option = before ++ '=' :: (text ++ after) ∧ '=' ∉ before ∧ '=' ∉ text ∧
    (∀ c ∈ after.head?, c = '=') ∧ name = trimChars before ∧ value = trimChars text

variable {α : Type} [Scalar α]

def Sets (option : List Char) (weight : α) : Prop :=
  ∃ value, Assigns option "weight".toList value ∧
    (Numeral.read? value).bind Scalar.ofNumeral? = some weight

/-- The weight that the last of the options sets which sets one. -/
inductive LastWeight (options : List (List Char)) : α → Prop where
  | unset (h : ∀ option ∈ options, ∀ weight : α, ¬ Sets option weight) :
      LastWeight options Scalar.one
  | set (before after : List (List Char)) {option : List Char} {weight : α}
      (hoptions : options = before ++ option :: after) (h : Sets option weight)
      (hafter : ∀ later ∈ after, ∀ w : α, ¬ Sets later w) : LastWeight options weight

theorem cutOnce_of_assigned {text after : List Char} (htext : '=' ∉ text)
    (hafter : ∀ c ∈ after.head?, c = '=') : (cutOnce '=' (text ++ after)).1 = text := by
  cases after with
  | nil =>
    rcases cutOnce_cases '=' text with ⟨before, after, rfl, -⟩ | ⟨-, hcut⟩
    · simp at htext
    · rw [List.append_nil, hcut]
  | cons c after =>
    rw [hafter c rfl, cutOnce_eq_some_iff.mpr ⟨rfl, htext⟩]

theorem optionWeight?_of_assigned {before text after : List Char} (hbefore : '=' ∉ before)
    (htext : '=' ∉ text) (hafter : ∀ c ∈ after.head?, c = '=') :
    optionWeight? (α := α) (before ++ '=' :: (text ++ after)) =
      if trimChars before = "weight".toList then
        (Numeral.read? (trimChars text)).bind Scalar.ofNumeral?
      else none := by
  rw [optionWeight?, cutOnce_eq_some_iff.mpr ⟨rfl, hbefore⟩]
  dsimp only
  rw [cutOnce_of_assigned htext hafter]

theorem exists_assigned (rest : List Char) :
    ∃ text after, rest = text ++ after ∧ '=' ∉ text ∧ ∀ c ∈ after.head?, c = '=' := by
  rcases cutOnce_cases '=' rest with ⟨text, after, rfl, htext, -⟩ | ⟨htext, -⟩
  · exact ⟨text, '=' :: after, rfl, htext, by simp⟩
  · exact ⟨rest, [], by simp, htext, by simp⟩

theorem optionWeight?_eq_some_iff {option : List Char} {weight : α} :
    optionWeight? option = some weight ↔ Sets option weight := by
  constructor
  · intro h
    rcases cutOnce_cases '=' option with ⟨before, rest, rfl, hbefore, -⟩ | ⟨-, hcut⟩
    · obtain ⟨text, after, rfl, htext, hafter⟩ := exists_assigned rest
      rw [optionWeight?_of_assigned hbefore htext hafter] at h
      split at h
      · rename_i hname
        exact ⟨_, ⟨before, text, after, rfl, hbefore, htext, hafter, hname.symm, rfl⟩, h⟩
      · simp at h
    · simp [optionWeight?, hcut] at h
  · rintro ⟨value, ⟨before, text, after, rfl, hbefore, htext, hafter, hname, rfl⟩, hvalue⟩
    rw [optionWeight?_of_assigned hbefore htext hafter, if_pos hname.symm, hvalue]

theorem foldl_unset {options : List (List Char)}
    (h : ∀ option ∈ options, ∀ weight : α, ¬ Sets option weight) (weight : α) :
    options.foldl (fun weight option => (optionWeight? option).getD weight) weight = weight := by
  induction options with
  | nil => rfl
  | cons option options ih =>
    obtain ⟨hunset, h⟩ := List.forall_mem_cons.mp h
    have hnone : optionWeight? (α := α) option = none := by
      rw [Option.eq_none_iff_forall_ne_some]
      intro w hw
      exact hunset w (optionWeight?_eq_some_iff.mp hw)
    rw [List.foldl_cons, hnone]
    exact ih h

theorem LastWeight.foldl_eq {options : List (List Char)} {weight : α}
    (h : LastWeight options weight) :
    options.foldl (fun weight option => (optionWeight? option).getD weight) Scalar.one = weight := by
  cases h with
  | unset h => exact foldl_unset h _
  | set before after hoptions h hafter =>
    rw [hoptions, List.foldl_append, List.foldl_cons, optionWeight?_eq_some_iff.mpr h]
    exact foldl_unset hafter _

theorem LastWeight.append_unset {options : List (List Char)} {weight : α}
    (h : LastWeight options weight) {option : List Char} (hunset : ∀ w : α, ¬ Sets option w) :
    LastWeight (options ++ [option]) weight := by
  cases h with
  | unset h =>
    exact .unset (List.forall_mem_append.mpr ⟨h, List.forall_mem_singleton.mpr hunset⟩)
  | set before after hoptions h hafter =>
    refine .set before (after ++ [option]) ?_ h
      (List.forall_mem_append.mpr ⟨hafter, List.forall_mem_singleton.mpr hunset⟩)
    rw [hoptions, List.append_assoc, List.cons_append]

theorem lastWeight_foldl (options : List (List Char)) : LastWeight options
    (options.foldl (fun weight option => (optionWeight? option).getD weight) (Scalar.one : α)) := by
  induction options using List.reverseRecOn with
  | nil => exact .unset (by simp)
  | append_singleton options option ih =>
    rw [List.foldl_concat]
    cases hweight : optionWeight? (α := α) option with
    | some weight => exact .set options [] rfl (optionWeight?_eq_some_iff.mp hweight) (by simp)
    | none =>
      apply ih.append_unset
      intro weight h
      rw [optionWeight?_eq_some_iff.mpr h] at hweight
      cases hweight

theorem blockWeight_eq_iff {block : List Char} {options : List (List Char)}
    (h : Separated ',' block options) {weight : α} :
    blockWeight block = weight ↔ LastWeight options weight := by
  rw [separated_iff.mp h]
  unfold blockWeight
  constructor
  · rintro rfl
    exact lastWeight_foldl _
  · exact LastWeight.foldl_eq

/-! ## The two patterns -/

def excluding (c : Char) : Char → Bool :=
  (· != c)

/-- The pattern `(?s)^\[([^\]]*)\](.*)$` of a line with options. -/
def linePattern : Pattern :=
  .seq (.mark '[') <| .seq (.group 1 (.many 0 .greedy (excluding ']'))) <|
    .seq (.mark ']') <| .group 2 (.many 0 .greedy fun _ => true)

/-- The end of the pattern of an option, from its value on. -/
def valuePattern : Pattern :=
  .seq .blanks <| .seq (.group 2 (.many 0 .lazy (excluding '='))) <| .seq .blanks <|
    .maybe (.seq (.mark '=') (.many 0 .greedy fun _ => true))

/-- The pattern `(?s)^\s*([^=]+?)\s*=\s*([^=]*?)\s*(?:=.*)?$` of an option. -/
def optionPattern : Pattern :=
  .seq .blanks <| .seq (.group 1 (.many 1 .lazy (excluding '='))) <| .seq .blanks <|
    .seq (.mark '=') valuePattern

def textOf (number : Nat) (groups : List (Nat × List Char)) : List Char :=
  (groups.lookup number).getD []

def matchOption (weight : α) (option : List Char) : α :=
  match optionPattern.captures? option with
  | some groups =>
    if textOf 1 groups = "weight".toList then
      ((Numeral.read? (textOf 2 groups)).bind Scalar.ofNumeral?).getD weight
    else weight
  | none => weight

/-- The weight of a line and its expression, found by the two patterns. -/
def matchOptions (line : List Char) : α × List Char :=
  match linePattern.captures? line with
  | some groups =>
    ((cutAt (· == ',') (textOf 1 groups)).foldl matchOption Scalar.one, trimChars (textOf 2 groups))
  | none => (Scalar.one, line)

theorem excluding_of_notMem {c : Char} {l : List Char} (h : c ∉ l) :
    ∀ d ∈ l, excluding c d = true := by
  intro d hd
  simp only [excluding, bne_iff_ne]
  rintro rfl
  exact h hd

/-! ### Lines -/

theorem linePattern_bracket {block after : List Char} (hblock : ']' ∉ block) :
    linePattern.captures? ('[' :: (block ++ ']' :: after)) = some [(1, block), (2, after)] := by
  rw [linePattern, Pattern.captures?_mark_cons, Pattern.captures?_group]
  apply Pattern.findSome?_greedy (excluding_of_notMem hblock)
  · simp [excluding]
  · exact Nat.zero_le _
  · rw [Pattern.captures?_mark_cons, Pattern.captures?_group_all]
    rfl

theorem linePattern_eq_none {line : List Char} (h : line.head? ≠ some '[' ∨ ']' ∉ line) :
    linePattern.captures? line = none := by
  by_cases hfirst : line.head? = some '['
  · apply Pattern.captures?_seq_eq_none _ (h.resolve_left (not_not_intro hfirst))
    intro l hl
    exact Pattern.captures?_seq_eq_none (fun _ => Pattern.captures?_mark_of_notMem) hl
  · exact Pattern.captures?_mark_eq_none hfirst

/-! ### Options -/

theorem head?_ne_of_notMem {c : Char} {piece : List Char} (hc : c ∉ piece) {x y : List Char}
    (hxy : x ++ y = piece) (hy : y ≠ []) (tail : List Char) : (y ++ tail).head? ≠ some c := by
  rw [List.head?_append_of_ne_nil _ hy]
  intro hhead
  apply hc
  rw [← hxy]
  exact List.mem_append_right x (List.mem_of_mem_head? hhead)

theorem valuePattern_assigned {text after : List Char} (htext : '=' ∉ text)
    (hafter : ∀ c ∈ after.head?, c = '=') :
    valuePattern.captures? (text ++ after) = some [(2, trimChars text)] := by
  apply Pattern.captures?_trimmed (excluding_of_notMem htext) (Nat.zero_le _)
  · intro c hc
    rw [hafter c hc]
    decide
  · cases after with
    | nil => rw [Pattern.captures?_maybe, Pattern.captures?_mark_eq_none (by simp)]; rfl
    | cons c after =>
      rw [Pattern.captures?_maybe, hafter c rfl, Pattern.captures?_mark_cons, Pattern.captures?_all]
      rfl
  · intro x y hxy hy
    rw [Pattern.captures?_maybe,
      Pattern.captures?_mark_eq_none (head?_ne_of_notMem htext hxy hy after)]
    simp [hy]

theorem optionPattern_assigned {before text after : List Char} (hbefore : '=' ∉ before)
    (hname : trimChars before ≠ []) (htext : '=' ∉ text) (hafter : ∀ c ∈ after.head?, c = '=') :
    optionPattern.captures? (before ++ '=' :: (text ++ after)) =
      some [(1, trimChars before), (2, trimChars text)] := by
  apply Pattern.captures?_trimmed (excluding_of_notMem hbefore)
  · exact List.length_pos_of_ne_nil hname
  · simp; decide
  · rw [Pattern.captures?_mark_cons, valuePattern_assigned htext hafter]
  · intro x y hxy hy
    exact Pattern.captures?_mark_eq_none (head?_ne_of_notMem hbefore hxy hy _)

/-- The blanks around a name and a value are no part of them, unless there is nothing else. -/
example : optionPattern.captures? " weight  = 2 =x".toList =
      some [(1, "weight".toList), (2, "2".toList)] ∧
    optionPattern.captures? "  = ".toList = some [(1, " ".toList), (2, [])] := by
  decide

theorem optionPattern_eq_none {option : List Char} (h : '=' ∉ option) :
    optionPattern.captures? option = none := by
  apply Pattern.captures?_seq_eq_none _ h
  intro l hl
  apply Pattern.captures?_seq_eq_none _ hl
  intro l hl
  exact Pattern.captures?_seq_eq_none (fun _ => Pattern.captures?_mark_of_notMem) hl

theorem exists_append_of_notMem {c : Char} {front rest before after : List Char}
    (h : front ++ rest = before ++ c :: after) (hc : c ∉ front) :
    ∃ between, before = front ++ between := by
  rcases List.append_eq_append_iff.mp h with ⟨between, heq, -⟩ | ⟨between, heq, hrest⟩
  · exact ⟨between, heq⟩
  · cases between with
    | nil => exact ⟨[], by simpa using heq.symm⟩
    | cons d between =>
      rw [List.cons_append, List.cons.injEq] at hrest
      rw [heq, ← hrest.1] at hc
      simp at hc

theorem isBlank_of_optionPattern {before rest : List Char}
    (hbefore : ∀ c ∈ before, isBlank c = true) {groups : List (Nat × List Char)}
    (h : optionPattern.captures? (before ++ '=' :: rest) = some groups) :
    ∀ c ∈ textOf 1 groups, isBlank c = true := by
  obtain ⟨r, hr, others, hothers, rfl⟩ := Pattern.exists_of_captures?_seq h
  obtain ⟨r', hr', behind, -, rfl⟩ := Pattern.exists_of_captures?_seq hothers
  rw [Pattern.readings_group] at hr'
  obtain ⟨name, hmem, rfl⟩ := List.mem_map.mp hr'
  obtain ⟨hsplit, hblanks, -, hgroups⟩ := Pattern.append_of_mem_many hr
  obtain ⟨hsplit', hname, -, -⟩ := Pattern.append_of_mem_many hmem
  have htext : textOf 1 (r.groups ++ ((1, name.text) :: name.groups ++ behind)) = name.text := by
    simp [textOf, hgroups]
  dsimp only
  rw [htext]
  -- Neither the blanks nor the name reach the first `=`.
  rw [← hsplit', ← List.append_assoc] at hsplit
  have outside : '=' ∉ r.text ++ name.text := by
    rw [List.mem_append, not_or]
    refine ⟨fun hmem => ?_, fun hmem => ?_⟩
    · exact absurd (hblanks '=' hmem) (by decide)
    · exact absurd (hname '=' hmem) (by decide)
  obtain ⟨between, heq⟩ := exists_append_of_notMem hsplit outside
  intro c hc
  apply hbefore
  simp [heq, hc]

/-! ### Cutting finds what the patterns find -/

theorem matchOption_eq (weight : α) (option : List Char) :
    matchOption weight option = (optionWeight? option).getD weight := by
  unfold matchOption
  rcases cutOnce_cases '=' option with ⟨before, rest, rfl, hbefore, -⟩ | ⟨hnone, hcut⟩
  · obtain ⟨text, after, rfl, htext, hafter⟩ := exists_assigned rest
    rw [optionWeight?_of_assigned hbefore htext hafter]
    by_cases hname : trimChars before = []
    · have hunset : trimChars before ≠ "weight".toList := by
        rw [hname]
        decide
      rw [if_neg hunset]
      split
      · rename_i groups hcaptures
        have hblank := isBlank_of_optionPattern (isBlank_of_trimChars_eq_nil hname) hcaptures
        have hother : textOf 1 groups ≠ "weight".toList := by
          intro heq
          rw [heq] at hblank
          exact absurd (hblank 'w' (by decide)) (by decide)
        rw [if_neg hother]
        rfl
      · rfl
    · rw [optionPattern_assigned hbefore hname htext hafter]
      have hfirst : textOf 1 [(1, trimChars before), (2, trimChars text)] = trimChars before := rfl
      have hsecond : textOf 2 [(1, trimChars before), (2, trimChars text)] = trimChars text := rfl
      dsimp only
      rw [hfirst, hsecond]
      split <;> rfl
  · rw [optionPattern_eq_none hnone, optionWeight?, hcut]
    rfl

theorem splitOptions_bracket {block after : List Char} (hblock : ']' ∉ block) :
    splitOptions (α := α) ('[' :: (block ++ ']' :: after)) = (blockWeight block, trimChars after) := by
  rw [splitOptions, cutOnce_eq_some_iff.mpr ⟨rfl, hblock⟩]

theorem splitOptions_unmarked {line : List Char} (h : line.head? ≠ some '[' ∨ ']' ∉ line) :
    splitOptions (α := α) line = (Scalar.one, line) := by
  unfold splitOptions
  split
  · rename_i rest
    rcases cutOnce_cases ']' rest with ⟨block, after, rfl, -⟩ | ⟨-, hcut⟩
    · simp at h
    · rw [hcut]
  · rfl

theorem splitOptions_eq_matchOptions (line : List Char) :
    splitOptions (α := α) line = matchOptions line := by
  unfold matchOptions
  by_cases h : line.head? ≠ some '[' ∨ ']' ∉ line
  · rw [linePattern_eq_none h, splitOptions_unmarked h]
  · rw [not_or, not_not, not_not] at h
    obtain ⟨rest, rfl⟩ := List.head?_eq_some_iff.mp h.1
    rcases cutOnce_cases ']' rest with ⟨block, after, rfl, hblock, -⟩ | ⟨hnone, -⟩
    · rw [linePattern_bracket hblock, splitOptions_bracket hblock]
      have hfold : matchOption = fun (weight : α) option => (optionWeight? option).getD weight := by
        funext weight option
        exact matchOption_eq weight option
      rw [hfold]
      rfl
    · have := h.2
      simp [hnone] at this

/-- Cutting a line finds what the two patterns find in it: the expression behind the first `]`, and
the weight that the last of the options sets. -/
theorem splitOptions_matches (line : List Char) :
    splitOptions (α := α) line = matchOptions line ∧
      (line.head? ≠ some '[' ∨ ']' ∉ line → splitOptions (α := α) line = (Scalar.one, line)) ∧
      ∀ block after, line = '[' :: (block ++ ']' :: after) → ']' ∉ block →
        (splitOptions (α := α) line).2 = trimChars after ∧
        ∀ options, Separated ',' block options → ∀ weight : α,
          (splitOptions line).1 = weight ↔ LastWeight options weight := by
  refine ⟨splitOptions_eq_matchOptions line, splitOptions_unmarked, ?_⟩
  rintro block after rfl hblock
  rw [splitOptions_bracket hblock]
  exact ⟨rfl, fun options hoptions weight => blockWeight_eq_iff hoptions⟩

/-- A second `=`, a value that is no number, a name in capitals and names that are blank. -/
theorem splitOptions_matches_two :
    (splitOptions (α := Float)
        "[flag, Weight=7,weight\n = 2 = x,weight=inf, =3,=4,weight=] a [b]\t".toList).2 =
      "a [b]".toList ∧
    LastWeight ["flag".toList, " Weight=7".toList, "weight\n = 2 = x".toList, "weight=inf".toList,
      " =3".toList, "=4".toList, "weight=".toList] (2 : Float) ∧
    splitOptions (α := Float) "x [weight=2]".toList = (Scalar.one, "x [weight=2]".toList) := by
  obtain ⟨-, -, marked⟩ := splitOptions_matches (α := Float)
    "[flag, Weight=7,weight\n = 2 = x,weight=inf, =3,=4,weight=] a [b]\t".toList
  obtain ⟨-, unmarked, -⟩ := splitOptions_matches (α := Float) "x [weight=2]".toList
  obtain ⟨expression, weight⟩ := marked
    "flag, Weight=7,weight\n = 2 = x,weight=inf, =3,=4,weight=".toList " a [b]\t".toList
    (by decide) (by decide)
  refine ⟨expression.trans (by decide), ?_, unmarked (.inl (by decide))⟩
  exact (weight _ (separated_iff.mpr (by decide)) 2).mp rfl

end TermScore.Query
