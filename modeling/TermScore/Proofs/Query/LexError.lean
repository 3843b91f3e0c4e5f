import Mathlib.Data.Set.Subsingleton
import TermScore.Proofs.Query.Cut
import TermScore.Proofs.Text.Pieces

/-!
# Where a query cannot be cut

The scan stops at the first character at which no token can be taken. What stands before it is cut
as if nothing followed, since neither a word nor a number goes on with such a character.
-/

namespace TermScore.Query

/-! ## Characters that stop the scan -/

/-- There is a lexeme with this first character. -/
def StartsToken (c : Char) : Prop :=
  ∃ kind rest, Lexeme kind ∧ kind.text.toList = c :: rest

/-- A character that is neither a gap nor the start of a token, or half of a doubled operator. -/
def Stray (c : Char) (rest : List Char) : Prop :=
  (¬ (c = ' ' ∨ c = '\t' ∨ c = '\r' ∨ c = '\n') ∧ ¬ StartsToken c) ∨
    (c = '&' ∨ c = '|') ∧ rest.head? ≠ some c

/-- A quote character that is not repeated. -/
def Unclosed (c : Char) (rest : List Char) : Prop :=
  (c = '\'' ∨ c = '"') ∧ c ∉ rest

theorem takeToken_of_none (offset : Nat) {c : Char} (rest : List Char) (sign : signOf? c = none)
    (doubled : doubledOf? c = none) (quote : quoteOf? c = none) (digit : c.isDigit = false)
    (start : isWordStart c = false) :
    takeToken offset c rest = .error (.unexpectedChar c offset) := by
  simp [takeToken, sign, doubled, quote, digit, start]

theorem not_startsToken_iff (c : Char) :
    ¬ StartsToken c ↔ signOf? c = none ∧ doubledOf? c = none ∧ quoteOf? c = none ∧
      c.isDigit = false ∧ isWordStart c = false := by
  constructor
  · intro none
    refine ⟨?_, ?_, ?_, ?_, ?_⟩
    · rw [Option.eq_none_iff_forall_ne_some]
      intro k sign
      rcases (signOf?_eq_some_iff c k).mp sign with ⟨rfl, -⟩ | ⟨rfl, -⟩ | ⟨rfl, -⟩ | ⟨rfl, -⟩
      · exact none ⟨.not, [], .not, rfl⟩
      · exact none ⟨.greater, [], .greater, rfl⟩
      · exact none ⟨.opening, [], .opening, rfl⟩
      · exact none ⟨.closing, [], .closing, rfl⟩
    · rw [Option.eq_none_iff_forall_ne_some]
      intro k doubled
      rcases (doubledOf?_eq_some_iff c k).mp doubled with ⟨rfl, -⟩ | ⟨rfl, -⟩
      · exact none ⟨.and, ['&'], .and, rfl⟩
      · exact none ⟨.or, ['|'], .or, rfl⟩
    · rw [Option.eq_none_iff_forall_ne_some]
      intro q quote
      obtain rfl := (quoteOf?_eq_some_iff c q).mp quote
      exact none ⟨_, [q.char], .phrase q List.not_mem_nil, by simp [Kind.text]⟩
    · rw [Bool.eq_false_iff]
      intro digit
      have all : ∀ d ∈ [c], d.isDigit = true := by simpa using digit
      exact none ⟨_, [], .number (List.cons_ne_nil c []) all, by simp [Kind.text]⟩
    · rw [Bool.eq_false_iff]
      intro start
      have letter : ∀ d ∈ [c], d.isAlpha = true ∨ d = '_' ∨ d = '-' := by
        simpa using (isWordStart_iff c).mp start
      have back : ∀ d ∈ ([] : List Char), d.isAlphanum = true := by simp
      exact none ⟨_, [], .word (List.cons_ne_nil c []) letter back, by simp [Kind.text]⟩
  · rintro ⟨sign, doubled, quote, digit, start⟩ ⟨kind, rest, lexeme, htext⟩
    have whole : c :: rest = kind.text.toList ++ [] := by rw [htext, List.append_nil]
    have taken := takeToken_of_lexeme 0 lexeme whole (by simp)
    rw [takeToken_of_none 0 rest sign doubled quote digit start] at taken
    cases taken

theorem isGap_iff (c : Char) : isGap c = true ↔ c = ' ' ∨ c = '\t' ∨ c = '\r' ∨ c = '\n' := by
  simp [isGap, or_assoc]

/-! ## One token -/

theorem takeToken_unclosed (offset : Nat) {q : Quote} {rest : List Char} (h : q.char ∉ rest) :
    takeToken offset q.char rest = .error (.unterminatedPhrase offset) := by
  rw [takeToken_quote]
  split
  · rename_i inside after heq
    obtain ⟨rfl, -⟩ := Text.cutOnce_eq_some_iff.mp heq
    simp at h
  · rfl

theorem notMem_of_cutOnce {c : Char} {rest inside : List Char}
    (h : Text.cutOnce c rest = (inside, none)) : c ∉ rest := by
  rcases Text.cutOnce_cases c rest with ⟨before, after, -, -, hcut⟩ | ⟨hnone, -⟩
  · rw [hcut] at h
    cases h
  · exact hnone

theorem takeToken_eq_error_iff {offset : Nat} {c : Char} {rest : List Char} {e : LexError}
    (hc : isGap c = false) :
    takeToken offset c rest = .error e ↔
      e = .unexpectedChar c offset ∧ Stray c rest ∨
        e = .unterminatedPhrase offset ∧ Unclosed c rest := by
  have gap : ¬ (c = ' ' ∨ c = '\t' ∨ c = '\r' ∨ c = '\n') := by
    rw [← isGap_iff, hc]
    decide
  constructor
  · intro h
    unfold takeToken at h
    split at h
    · simp at h
    rename_i sign
    split at h
    · rename_i k doubled
      have half : c = '&' ∨ c = '|' :=
        ((doubledOf?_eq_some_iff c k).mp doubled).imp And.left And.left
      cases rest with
      | nil => exact .inl ⟨(Except.error.inj h).symm, .inr ⟨half, by simp⟩⟩
      | cons d rest =>
        simp only at h
        split at h
        · simp at h
        · rename_i hd
          exact .inl ⟨(Except.error.inj h).symm, .inr ⟨half, by simpa using hd⟩⟩
    rename_i doubled
    split at h
    · rename_i q quote
      obtain rfl := (quoteOf?_eq_some_iff c q).mp quote
      split at h
      · simp at h
      · rename_i heq
        refine .inr ⟨(Except.error.inj h).symm, ?_, notMem_of_cutOnce heq⟩
        cases q
        · exact .inl rfl
        · exact .inr rfl
    rename_i quote
    split at h
    · simp at h
    rename_i digit
    split at h
    · simp at h
    rename_i start
    refine .inl ⟨(Except.error.inj h).symm, .inl ⟨gap, ?_⟩⟩
    rw [not_startsToken_iff]
    refine ⟨Option.eq_none_iff_forall_ne_some.mpr sign,
      Option.eq_none_iff_forall_ne_some.mpr doubled,
      Option.eq_none_iff_forall_ne_some.mpr quote, ?_, ?_⟩
    · simpa using digit
    · simpa using start
  · rintro (⟨rfl, ⟨-, none⟩ | ⟨rfl | rfl, half⟩⟩ | ⟨rfl, rfl | rfl, unclosed⟩)
    · obtain ⟨sign, doubled, quote, digit, start⟩ := (not_startsToken_iff c).mp none
      exact takeToken_of_none offset rest sign doubled quote digit start
    · cases rest <;> simp_all [takeToken, signOf?, doubledOf?]
    · cases rest <;> simp_all [takeToken, signOf?, doubledOf?]
    · exact takeToken_unclosed offset (q := .single) unclosed
    · exact takeToken_unclosed offset (q := .double) unclosed

/-! ## The scan -/

theorem Kind.not_goesOn (k : Kind) {c : Char} (start : isWordStart c = false)
    (digit : c.isDigit = false) : ¬ k.GoesOn c := by
  rw [Bool.eq_false_iff, ne_eq, isWordStart_iff, not_or] at start
  cases k <;> simp_all [Kind.GoesOn, Char.isAlphanum]

theorem Kind.not_goesOn_of_takeToken (k : Kind) {offset : Nat} {c : Char} {rest : List Char}
    {e : LexError} (h : takeToken offset c rest = .error e) : ¬ k.GoesOn c := by
  apply k.not_goesOn
  · rw [Bool.eq_false_iff]
    intro start
    rw [takeToken_of_isWordStart offset rest start] at h
    cases h
  · rw [Bool.eq_false_iff]
    intro digit
    rw [takeToken_of_isDigit offset rest digit] at h
    cases h

theorem scanFrom_append {offset : Nat} {before after : List Char} {c : Char} {tokens : List Token}
    (h : scanFrom offset before = .ok tokens) (stop : ∀ k : Kind, ¬ k.GoesOn c) :
    scanFrom offset (before ++ c :: after) =
      (scanFrom (offset + byteSize before) (c :: after)).map (tokens ++ ·) := by
  obtain ⟨⟨pieces, last⟩, hcut⟩ := exists_yields_of_scanFrom h
  clear h
  induction pieces generalizing offset before tokens with
  | nil =>
    obtain ⟨rfl, gap, rfl⟩ := yields_nil_iff.mp hcut
    rw [scanFrom_gap offset gap]
    cases scanFrom (offset + byteSize before) (c :: after) <;> rfl
  | cons p pieces ih =>
    obtain ⟨left, others, rfl, rfl, gap, lexeme, longest, hcut⟩ := yields_cons_iff.mp hcut
    have stop' : ∀ d ∈ (left ++ c :: after).head?, ¬ p.kind.GoesOn d := by
      cases left with
      | nil => simpa using stop p.kind
      | cons d left => exact longest
    rw [List.append_assoc, List.append_assoc, scanFrom_gap offset gap,
      scanFrom_lexeme _ lexeme stop', ih hcut]
    simp only [byteSize_append, byteSize_text, Nat.add_assoc]
    cases scanFrom _ (c :: after) <;> rfl

/-- The scan fails at the character at which no token can be taken, behind a part that can be cut. -/
theorem scanFrom_eq_error_iff {offset : Nat} {l : List Char} {e : LexError} :
    scanFrom offset l = .error e ↔
      ∃ before c after, l = before ++ c :: after ∧ (∃ tokens, scanFrom offset before = .ok tokens) ∧
        isGap c = false ∧ takeToken (offset + byteSize before) c after = .error e := by
  constructor
  · intro h
    fun_induction scanFrom offset l with
    | case1 offset => simp at h
    | case2 offset c rest hc ih =>
      obtain ⟨before, d, after, rfl, ⟨tokens, htokens⟩, hd, taken⟩ := ih h
      refine ⟨c :: before, d, after, rfl, ⟨tokens, ?_⟩, hd, ?_⟩
      · rw [scanFrom_cons_of_isGap _ hc]
        exact htokens
      · rw [byteSize_cons, ← Nat.add_assoc]
        exact taken
    | case3 offset c rest hc cause taken =>
      obtain rfl : cause = e := Except.error.inj h
      exact ⟨[], c, rest, rfl, ⟨[], scanFrom_nil offset⟩, by simpa using hc, taken⟩
    | case4 offset c rest hc kind left taken ih =>
      obtain ⟨lexeme, hsplit, longest⟩ := takeToken_eq_ok_iff.mp taken
      cases hothers : scanFrom (offset + kind.text.utf8ByteSize) left with
      | ok others =>
        rw [hothers] at h
        cases h
      | error cause =>
        rw [hothers] at h
        obtain rfl : cause = e := Except.error.inj h
        obtain ⟨before, d, after, rfl, ⟨tokens, htokens⟩, hd, taken'⟩ := ih hothers
        have longest' : ∀ d ∈ before.head?, ¬ kind.GoesOn d := by
          cases before with
          | nil => simp
          | cons d before => exact longest
        refine ⟨kind.text.toList ++ before, d, after, ?_, ⟨⟨kind, offset⟩ :: tokens, ?_⟩, hd, ?_⟩
        · rw [hsplit, List.append_assoc]
        · rw [scanFrom_lexeme offset lexeme longest', htokens]
          rfl
        · rw [byteSize_append, byteSize_text, ← Nat.add_assoc]
          exact taken'
  · rintro ⟨before, c, after, rfl, ⟨tokens, htokens⟩, hc, taken⟩
    rw [scanFrom_append htokens fun k => k.not_goesOn_of_takeToken taken,
      scanFrom_of_takeToken_error hc taken]
    rfl

/-! ## Whole texts -/

/-- The character `found` of the text has `before` in front of it, which can be cut into tokens, and
`rest` behind it. -/
structure Reaches (text before : String) (found : Char) (rest : List Char) : Prop where
  spelled : text.toList = before.toList ++ found :: rest
  cut : ∃ tokens, tokenize before = .ok tokens

theorem tokenize_eq_error_iff_takeToken {text : String} {e : LexError} :
    tokenize text = .error e ↔
      ∃ before found rest, Reaches text before found rest ∧ isGap found = false ∧
        takeToken before.utf8ByteSize found rest = .error e := by
  unfold tokenize
  rw [scanFrom_eq_error_iff]
  constructor
  · rintro ⟨before, c, after, hl, cut, hc, taken⟩
    rw [Nat.zero_add] at taken
    refine ⟨String.ofList before, c, after, ⟨?_, ?_⟩, hc, taken⟩
    · rw [hl, String.toList_ofList]
    · rw [tokenize, String.toList_ofList]
      exact cut
  · rintro ⟨before, c, after, ⟨hl, cut⟩, hc, taken⟩
    refine ⟨before.toList, c, after, hl, cut, hc, ?_⟩
    rw [Nat.zero_add, byteSize, String.ofList_toList]
    exact taken

theorem Stray.isGap {c : Char} {rest : List Char} (h : Stray c rest) : isGap c = false := by
  rcases h with ⟨gap, -⟩ | ⟨rfl | rfl, -⟩
  · rw [Bool.eq_false_iff, ne_eq, isGap_iff]
    exact gap
  · rfl
  · rfl

theorem Unclosed.isGap {c : Char} {rest : List Char} (h : Unclosed c rest) : isGap c = false := by
  rcases h with ⟨rfl | rfl, -⟩ <;> rfl

theorem tokenize_unexpectedChar_iff {text : String} {found : Char} {offset : Nat} :
    tokenize text = .error (.unexpectedChar found offset) ↔ ∃ before rest,
      Reaches text before found rest ∧ before.utf8ByteSize = offset ∧ Stray found rest := by
  rw [tokenize_eq_error_iff_takeToken]
  constructor
  · rintro ⟨before, c, rest, reaches, hc, taken⟩
    rcases (takeToken_eq_error_iff hc).mp taken with ⟨heq, stray⟩ | ⟨heq, -⟩
    · cases heq
      exact ⟨before, rest, reaches, rfl, stray⟩
    · cases heq
  · rintro ⟨before, rest, reaches, rfl, stray⟩
    exact ⟨before, found, rest, reaches, stray.isGap,
      (takeToken_eq_error_iff stray.isGap).mpr (.inl ⟨rfl, stray⟩)⟩

theorem tokenize_unterminatedPhrase_iff {text : String} {offset : Nat} :
    tokenize text = .error (.unterminatedPhrase offset) ↔ ∃ before found rest,
      Reaches text before found rest ∧ before.utf8ByteSize = offset ∧ Unclosed found rest := by
  rw [tokenize_eq_error_iff_takeToken]
  constructor
  · rintro ⟨before, c, rest, reaches, hc, taken⟩
    rcases (takeToken_eq_error_iff hc).mp taken with ⟨heq, -⟩ | ⟨heq, unclosed⟩
    · cases heq
    · cases heq
      exact ⟨before, c, rest, reaches, rfl, unclosed⟩
  · rintro ⟨before, found, rest, reaches, rfl, unclosed⟩
    exact ⟨before, found, rest, reaches, unclosed.isGap,
      (takeToken_eq_error_iff unclosed.isGap).mpr (.inr ⟨rfl, unclosed⟩)⟩

/-- The error of a text names the character that cannot be read, or the quote that is not closed, and
the number of bytes before it, which can be cut into tokens. There is one such place at most. -/
theorem tokenize_eq_error_iff (text : String) :
    (∀ found offset, tokenize text = .error (.unexpectedChar found offset) ↔ ∃ before rest,
      Reaches text before found rest ∧ before.utf8ByteSize = offset ∧ Stray found rest) ∧
    (∀ offset, tokenize text = .error (.unterminatedPhrase offset) ↔ ∃ before found rest,
      Reaches text before found rest ∧ before.utf8ByteSize = offset ∧ Unclosed found rest) ∧
    {offset | ∃ before found rest, Reaches text before found rest ∧ before.utf8ByteSize = offset ∧
      (Stray found rest ∨ Unclosed found rest)}.Subsingleton := by
  refine ⟨fun _ _ => tokenize_unexpectedChar_iff, fun _ => tokenize_unterminatedPhrase_iff, ?_⟩
  -- The error of the text carries the offset.
  have error : ∀ {before found rest}, Reaches text before found rest →
      (Stray found rest ∨ Unclosed found rest) →
      tokenize text = .error (.unexpectedChar found before.utf8ByteSize) ∨
        tokenize text = .error (.unterminatedPhrase before.utf8ByteSize) := by
    intro before found rest reaches
    rintro (stray | unclosed)
    · exact .inl (tokenize_unexpectedChar_iff.mpr ⟨before, rest, reaches, rfl, stray⟩)
    · exact .inr (tokenize_unterminatedPhrase_iff.mpr ⟨before, found, rest, reaches, rfl, unclosed⟩)
  rintro _ ⟨before, found, rest, reaches, rfl, stops⟩ _
    ⟨before', found', rest', reaches', rfl, stops'⟩
  rcases error reaches stops with h | h <;> rcases error reaches' stops' with h' | h' <;>
    simp_all

end TermScore.Query
