import Mathlib.Tactic.SplitIfs
import TermScore.Query.Token

/-!
# Lexemes

Which texts each kind of token can have, and where a token has to end. Neither is said in terms of
the scan.
-/

namespace TermScore.Query

/-! ## Classes -/

/-- The lexical class of each kind of token. -/
inductive Lexeme : Kind → Prop where
  | and : Lexeme .and
  | or : Lexeme .or
  | not : Lexeme .not
  | greater : Lexeme .greater
  | opening : Lexeme .opening
  | closing : Lexeme .closing
  | word {front back : List Char} (ne : front ≠ [])
      (letters : ∀ c ∈ front, c.isAlpha = true ∨ c = '_' ∨ c = '-')
      (alphanums : ∀ c ∈ back, c.isAlphanum = true) :
      Lexeme (.word (String.ofList (front ++ back)))
  | phrase (quote : Quote) {inside : List Char} (closed : quote.char ∉ inside) :
      Lexeme (.phrase quote (String.ofList (quote.char :: inside ++ [quote.char])))
  | number {digits : List Char} (ne : digits ≠ []) (all : ∀ c ∈ digits, c.isDigit = true) :
      Lexeme (.number (String.ofList digits))

/-- Whether a token that `c` follows would have been longer. Once a word has a digit, `_` and `-`
are no part of it. -/
def Kind.GoesOn : Kind → Char → Prop
  | .number _, c => c.isDigit = true
  | .word text, c =>
    c.isAlphanum = true ∨ (c = '_' ∨ c = '-') ∧ ∀ d ∈ text.toList, d.isDigit = false
  | _, _ => False

theorem isWordStart_iff (c : Char) : isWordStart c = true ↔ c.isAlpha = true ∨ c = '_' ∨ c = '-' := by
  simp [isWordStart, or_assoc]

theorem isWordEnd_iff (c : Char) : isWordEnd c = true ↔ c.isAlpha = true ∨ c.isDigit = true := by
  unfold isWordEnd Char.isAlphanum
  rw [Bool.or_eq_true]

/-! ## First characters -/

theorem signOf?_eq_some_iff (c : Char) (k : Kind) :
    signOf? c = some k ↔ c = '!' ∧ k = .not ∨ c = '>' ∧ k = .greater ∨
      c = '(' ∧ k = .opening ∨ c = ')' ∧ k = .closing := by
  rw [eq_comm]
  unfold signOf?
  split_ifs <;> simp_all

theorem doubledOf?_eq_some_iff (c : Char) (k : Kind) :
    doubledOf? c = some k ↔ c = '&' ∧ k = .and ∨ c = '|' ∧ k = .or := by
  rw [eq_comm]
  unfold doubledOf?
  split_ifs <;> simp_all

theorem quoteOf?_eq_some_iff (c : Char) (q : Quote) : quoteOf? c = some q ↔ c = q.char := by
  unfold quoteOf?
  split_ifs
  all_goals cases q <;> simp_all [Quote.char]

theorem isDigit_of_isWordStart {c : Char} (h : isWordStart c = true) : c.isDigit = false := by
  rcases (isWordStart_iff c).mp h with h | rfl | rfl
  · unfold Char.isAlpha Char.isUpper Char.isLower at h
    unfold Char.isDigit
    simp only [Bool.or_eq_true, Bool.and_eq_true, decide_eq_true_eq, UInt32.le_iff_toNat_le,
      ge_iff_le] at h
    simp only [Bool.and_eq_false_iff, decide_eq_false_iff_not, UInt32.le_iff_toNat_le, ge_iff_le]
    have : 'A'.val.toNat = 65 := rfl
    have : 'a'.val.toNat = 97 := rfl
    have : '9'.val.toNat = 57 := rfl
    omega
  · rfl
  · rfl

theorem plain_of_isWordStart_or_isDigit {c : Char} (h : isWordStart c = true ∨ c.isDigit = true) :
    isGap c = false ∧ signOf? c = none ∧ doubledOf? c = none ∧ quoteOf? c = none := by
  have ne : ∀ d : Char, (!isWordStart d && !d.isDigit) = true → c ≠ d := by
    rintro d hd rfl
    simp only [Bool.and_eq_true, Bool.not_eq_true'] at hd
    simp [hd] at h
  have signs : [' ', '\t', '\r', '\n', '!', '>', '(', ')', '&', '|', '\'', '"'].all
      (fun d => !isWordStart d && !d.isDigit) = true := rfl
  have others := fun d hd => ne d (List.all_eq_true.mp signs d hd)
  simp only [List.forall_mem_cons] at others
  simp [isGap, signOf?, doubledOf?, quoteOf?, others]

/-! ## Longest words -/

theorem takeWhile_dropWhile_iff {α : Type} {p : α → Bool} {l a b : List α} :
    l.takeWhile p = a ∧ l.dropWhile p = b ↔
      l = a ++ b ∧ (∀ x ∈ a, p x = true) ∧ ∀ x ∈ b.head?, p x = false := by
  constructor
  · rintro ⟨rfl, rfl⟩
    refine ⟨List.takeWhile_append_dropWhile.symm, ?_, ?_⟩
    · exact List.all_eq_true.mp List.all_takeWhile
    · intro x hx
      have := List.head?_dropWhile_not p l
      rw [hx] at this
      simpa using this
  · rintro ⟨rfl, ha, hb⟩
    rw [List.takeWhile_append_of_pos ha, List.dropWhile_append_of_pos ha]
    cases b with
    | nil => simp
    | cons x b =>
      have hx : p x = false := hb x rfl
      simp [hx]

theorem lexeme_word_iff {word : List Char} :
    Lexeme (.word (String.ofList word)) ↔
      word.takeWhile isWordStart ≠ [] ∧ ∀ c ∈ word.dropWhile isWordStart, isWordEnd c = true := by
  constructor
  · intro h
    generalize hk : Kind.word (String.ofList word) = k at h
    cases h <;> simp only [Kind.word.injEq, reduceCtorEq] at hk
    rename_i front back ne letters alphanums
    obtain rfl := String.ofList_injective hk
    have hfront : ∀ c ∈ front, isWordStart c = true := by
      intro c hc
      exact (isWordStart_iff c).mpr (letters c hc)
    rw [List.takeWhile_append_of_pos hfront, List.dropWhile_append_of_pos hfront]
    refine ⟨by simp [ne], ?_⟩
    intro c hc
    exact alphanums c ((List.dropWhile_sublist _).subset hc)
  · rintro ⟨ne, hback⟩
    have hword := List.takeWhile_append_dropWhile (p := isWordStart) (l := word)
    rw [← hword]
    refine .word ne ?_ hback
    intro c hc
    exact (isWordStart_iff c).mp (List.all_eq_true.mp List.all_takeWhile c hc)

theorem isDigit_of_isWordEnd {c : Char} (hend : isWordEnd c = true) (hstart : isWordStart c = false) :
    c.isDigit = true := by
  rcases (isWordEnd_iff c).mp hend with h | h
  · have := (isWordStart_iff c).mpr (Or.inl h)
    simp [hstart] at this
  · exact h

theorem not_goesOn_word_iff {word : List Char} (hword : Lexeme (.word (String.ofList word))) (d : Char) :
    ¬ (Kind.word (String.ofList word)).GoesOn d ↔
      isWordEnd d = false ∧ (word.dropWhile isWordStart = [] → isWordStart d = false) := by
  obtain ⟨-, hback⟩ := lexeme_word_iff.mp hword
  have digits : (∀ c ∈ word, c.isDigit = false) ↔ word.dropWhile isWordStart = [] := by
    constructor
    · intro h
      cases hd : word.dropWhile isWordStart with
      | nil => rfl
      | cons c l =>
        have hmem : c ∈ word := (List.dropWhile_sublist isWordStart).subset (by simp [hd])
        have hc := List.head?_dropWhile_not isWordStart word
        simp only [hd, List.head?_cons] at hc
        have := isDigit_of_isWordEnd (hback c (by simp [hd])) (by simpa using hc)
        simp [h c hmem] at this
    · intro h c hc
      rw [← List.takeWhile_append_dropWhile (p := isWordStart) (l := word), h, List.append_nil] at hc
      exact isDigit_of_isWordStart (List.all_eq_true.mp List.all_takeWhile c hc)
  simp only [Kind.GoesOn, String.toList_ofList, digits, not_or, not_and]
  constructor
  · rintro ⟨hend, hstart⟩
    refine ⟨by simpa [isWordEnd] using hend, ?_⟩
    intro hnil
    rw [Bool.eq_false_iff, ne_eq, isWordStart_iff]
    rintro (h | h)
    · exact hend ((isWordEnd_iff d).mpr (Or.inl h))
    · exact hstart h hnil
  · rintro ⟨hend, hstart⟩
    refine ⟨by simpa [isWordEnd] using hend, ?_⟩
    intro hd hnil
    have := (isWordStart_iff d).mpr (Or.inr hd)
    simp [hstart hnil] at this

theorem takeWord_eq_iff {c : Char} {rest word after : List Char} (hc : isWordStart c = true) :
    takeWord (c :: rest) = (word, after) ↔
      Lexeme (.word (String.ofList word)) ∧ c :: rest = word ++ after ∧
        ∀ d ∈ after.head?, ¬ (Kind.word (String.ofList word)).GoesOn d := by
  constructor
  · intro h
    obtain ⟨hsplit, fronts, stop⟩ :=
      (takeWhile_dropWhile_iff (p := isWordStart) (l := c :: rest)).mp ⟨rfl, rfl⟩
    simp only [takeWord, Prod.mk.injEq] at h
    obtain ⟨hword, hafter⟩ := h
    have ne : (c :: rest).takeWhile isWordStart ≠ [] := by simp [hc]
    generalize (c :: rest).takeWhile isWordStart = front at *
    generalize (c :: rest).dropWhile isWordStart = left at *
    obtain ⟨hleft, backs, stop'⟩ := takeWhile_dropWhile_iff.mp ⟨rfl, hafter⟩
    generalize left.takeWhile isWordEnd = back at *
    subst hword hleft
    have lexeme : Lexeme (.word (String.ofList (front ++ back))) := by
      refine .word ne ?_ backs
      intro d hd
      exact (isWordStart_iff d).mp (fronts d hd)
    refine ⟨lexeme, by rw [hsplit, List.append_assoc], ?_⟩
    intro d hd
    rw [not_goesOn_word_iff lexeme, List.dropWhile_append_of_pos fronts]
    refine ⟨stop' d hd, ?_⟩
    intro hnil
    cases back with
    | nil => exact stop d hd
    | cons e back =>
      have he : isWordStart e = false := stop e rfl
      simp [he] at hnil
  · rintro ⟨hword, hsplit, stop⟩
    obtain ⟨-, hback⟩ := lexeme_word_iff.mp hword
    have hstop : ∀ d ∈ after.head?, isWordEnd d = false ∧
        (word.dropWhile isWordStart = [] → isWordStart d = false) := by
      intro d hd
      exact (not_goesOn_word_iff hword d).mp (stop d hd)
    have first : (c :: rest).takeWhile isWordStart = word.takeWhile isWordStart ∧
        (c :: rest).dropWhile isWordStart = word.dropWhile isWordStart ++ after := by
      rw [takeWhile_dropWhile_iff, hsplit]
      refine ⟨by rw [← List.append_assoc, List.takeWhile_append_dropWhile],
        List.all_eq_true.mp List.all_takeWhile, ?_⟩
      intro d hd
      cases hb : word.dropWhile isWordStart with
      | nil =>
        rw [hb, List.nil_append] at hd
        exact (hstop d hd).2 hb
      | cons e back =>
        rw [hb, List.cons_append, List.head?_cons] at hd
        obtain rfl := Option.some.inj hd
        have := List.head?_dropWhile_not isWordStart word
        simpa [hb] using this
    have second : (word.dropWhile isWordStart ++ after).takeWhile isWordEnd = word.dropWhile isWordStart ∧
        (word.dropWhile isWordStart ++ after).dropWhile isWordEnd = after :=
      takeWhile_dropWhile_iff.mpr ⟨rfl, hback, fun d hd => (hstop d hd).1⟩
    simp only [takeWord]
    rw [first.1, first.2, second.1, second.2, List.takeWhile_append_dropWhile]

/-! ## One token -/

theorem takeToken_of_isDigit (offset : Nat) {c : Char} (rest : List Char) (h : c.isDigit = true) :
    takeToken offset c rest = .ok (.number (String.ofList (c :: rest.takeWhile Char.isDigit)),
      rest.dropWhile Char.isDigit) := by
  obtain ⟨-, sign, doubled, quote⟩ := plain_of_isWordStart_or_isDigit (Or.inr h)
  simp [takeToken, sign, doubled, quote, h]

theorem takeToken_of_isWordStart (offset : Nat) {c : Char} (rest : List Char)
    (h : isWordStart c = true) :
    takeToken offset c rest = .ok (.word (String.ofList (takeWord (c :: rest)).1),
      (takeWord (c :: rest)).2) := by
  obtain ⟨-, sign, doubled, quote⟩ := plain_of_isWordStart_or_isDigit (Or.inl h)
  simp [takeToken, sign, doubled, quote, h, isDigit_of_isWordStart h]

theorem takeToken_quote (offset : Nat) (q : Quote) (rest : List Char) :
    takeToken offset q.char rest = match Text.cutOnce q.char rest with
      | (inside, some after) =>
        .ok (.phrase q (String.ofList (q.char :: inside ++ [q.char])), after)
      | (_, none) => .error (.unterminatedPhrase offset) := by
  cases q <;> rfl

theorem lexeme_of_takeToken {offset : Nat} {c : Char} {rest after : List Char} {kind : Kind}
    (h : takeToken offset c rest = .ok (kind, after)) :
    Lexeme kind ∧ c :: rest = kind.text.toList ++ after ∧
      ∀ d ∈ after.head?, ¬ kind.GoesOn d := by
  unfold takeToken at h
  split at h
  · rename_i k sign
    obtain ⟨rfl, rfl⟩ : k = kind ∧ rest = after := by simpa using h
    rcases (signOf?_eq_some_iff c k).mp sign with ⟨rfl, rfl⟩ | ⟨rfl, rfl⟩ | ⟨rfl, rfl⟩ | ⟨rfl, rfl⟩
    · exact ⟨.not, rfl, by simp [Kind.GoesOn]⟩
    · exact ⟨.greater, rfl, by simp [Kind.GoesOn]⟩
    · exact ⟨.opening, rfl, by simp [Kind.GoesOn]⟩
    · exact ⟨.closing, rfl, by simp [Kind.GoesOn]⟩
  split at h
  · rename_i k doubled
    cases rest with
    | nil => simp at h
    | cons d rest =>
      simp only at h
      split at h
      · rename_i hd
        obtain rfl : d = c := eq_of_beq hd
        obtain ⟨rfl, rfl⟩ : k = kind ∧ rest = after := by simpa using h
        rcases (doubledOf?_eq_some_iff d k).mp doubled with ⟨rfl, rfl⟩ | ⟨rfl, rfl⟩
        · exact ⟨.and, rfl, by simp [Kind.GoesOn]⟩
        · exact ⟨.or, rfl, by simp [Kind.GoesOn]⟩
      · simp at h
  split at h
  · rename_i q quote
    obtain rfl := (quoteOf?_eq_some_iff c q).mp quote
    split at h
    · rename_i inside left heq
      obtain ⟨rfl, closed⟩ := Text.cutOnce_eq_some_iff.mp heq
      simp only [Except.ok.injEq, Prod.mk.injEq] at h
      obtain ⟨rfl, rfl⟩ := h
      exact ⟨.phrase q closed, by simp [Kind.text], by simp [Kind.GoesOn]⟩
    · simp at h
  split at h
  · rename_i digit
    simp only [Except.ok.injEq, Prod.mk.injEq] at h
    obtain ⟨rfl, hafter⟩ := h
    obtain ⟨hsplit, digits, stop⟩ := takeWhile_dropWhile_iff.mp ⟨rfl, hafter⟩
    refine ⟨.number (by simp) ?_, ?_, ?_⟩
    · intro d hd
      rcases List.mem_cons.mp hd with rfl | hd
      · exact digit
      · exact digits d hd
    · simp [Kind.text, ← hsplit]
    · simpa [Kind.GoesOn] using stop
  split at h
  · rename_i start
    simp only [Except.ok.injEq, Prod.mk.injEq] at h
    obtain ⟨rfl, rfl⟩ := h
    have hword : takeWord (c :: rest) = ((takeWord (c :: rest)).1, (takeWord (c :: rest)).2) := rfl
    obtain ⟨lexeme, hsplit, stop⟩ := (takeWord_eq_iff start).mp hword
    exact ⟨lexeme, by simpa [Kind.text] using hsplit, stop⟩
  · simp at h

theorem takeToken_of_lexeme (offset : Nat) {c : Char} {rest after : List Char} {kind : Kind}
    (lexeme : Lexeme kind) (hsplit : c :: rest = kind.text.toList ++ after)
    (stop : ∀ d ∈ after.head?, ¬ kind.GoesOn d) :
    takeToken offset c rest = .ok (kind, after) := by
  cases lexeme with
  | and =>
    obtain ⟨rfl, rfl⟩ : c = '&' ∧ rest = '&' :: after := by simpa [Kind.text] using hsplit
    rfl
  | or =>
    obtain ⟨rfl, rfl⟩ : c = '|' ∧ rest = '|' :: after := by simpa [Kind.text] using hsplit
    rfl
  | not =>
    obtain ⟨rfl, rfl⟩ : c = '!' ∧ rest = after := by simpa [Kind.text] using hsplit
    rfl
  | greater =>
    obtain ⟨rfl, rfl⟩ : c = '>' ∧ rest = after := by simpa [Kind.text] using hsplit
    rfl
  | opening =>
    obtain ⟨rfl, rfl⟩ : c = '(' ∧ rest = after := by simpa [Kind.text] using hsplit
    rfl
  | closing =>
    obtain ⟨rfl, rfl⟩ : c = ')' ∧ rest = after := by simpa [Kind.text] using hsplit
    rfl
  | @word front back ne letters alphanums =>
    have start : isWordStart c = true := by
      obtain ⟨d, front', rfl⟩ := List.exists_cons_of_ne_nil ne
      obtain ⟨rfl, -⟩ : c = d ∧ _ := by simpa [Kind.text] using hsplit
      exact (isWordStart_iff c).mpr (letters c (by simp))
    have := (takeWord_eq_iff start).mpr
      ⟨.word ne letters alphanums, by simpa [Kind.text] using hsplit, stop⟩
    rw [takeToken_of_isWordStart offset rest start, this]
  | @phrase q inside closed =>
    obtain ⟨rfl, rfl⟩ : c = q.char ∧ rest = inside ++ q.char :: after := by
      simpa [Kind.text] using hsplit
    rw [takeToken_quote, Text.cutOnce_eq_some_iff.mpr ⟨rfl, closed⟩]
  | @number digits ne all =>
    obtain ⟨d, digits, rfl⟩ := List.exists_cons_of_ne_nil ne
    obtain ⟨rfl, hrest⟩ : c = d ∧ rest = digits ++ after := by simpa [Kind.text] using hsplit
    rw [List.forall_mem_cons] at all
    obtain ⟨htake, hdrop⟩ := takeWhile_dropWhile_iff.mpr
      ⟨hrest, all.2, by simpa [Kind.GoesOn] using stop⟩
    rw [takeToken_of_isDigit offset rest all.1, htake, hdrop]

theorem takeToken_eq_ok_iff {offset : Nat} {c : Char} {rest after : List Char} {kind : Kind} :
    takeToken offset c rest = .ok (kind, after) ↔
      Lexeme kind ∧ c :: rest = kind.text.toList ++ after ∧
        ∀ d ∈ after.head?, ¬ kind.GoesOn d := by
  constructor
  · exact lexeme_of_takeToken
  · rintro ⟨lexeme, hsplit, stop⟩
    exact takeToken_of_lexeme offset lexeme hsplit stop

end TermScore.Query
