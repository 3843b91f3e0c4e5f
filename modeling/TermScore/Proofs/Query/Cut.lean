import Mathlib.Data.Set.Subsingleton
import TermScore.Proofs.Query.Lexeme

/-!
# Cutting a query into tokens

A text is gaps and lexemes in turn. There is one way to cut it so that no lexeme could be longer,
and the scan finds it.
-/

namespace TermScore.Query

/-! ## Cuts -/

/-- A lexeme with the gap before it. -/
structure Piece where
  gap : List Char
  kind : Kind

structure Cut where
  pieces : List Piece
  /-- The gap at the end. -/
  last : List Char

/-- What the pieces spell, with `last` behind them. -/
def spell : List Piece → List Char → List Char
  | [], last => last
  | p :: pieces, last => p.gap ++ p.kind.text.toList ++ spell pieces last

def byteSize (l : List Char) : Nat :=
  (String.ofList l).utf8ByteSize

def Gap (l : List Char) : Prop :=
  ∀ c ∈ l, c = ' ' ∨ c = '\t' ∨ c = '\r' ∨ c = '\n'

/-- The cut of the text `l`, which stands after `offset` bytes, into `tokens`. -/
structure Cut.Yields (cut : Cut) (offset : Nat) (l : List Char) (tokens : List Token) : Prop where
  spelled : l = spell cut.pieces cut.last
  gaps : (∀ p ∈ cut.pieces, Gap p.gap) ∧ Gap cut.last
  lexemes : ∀ p ∈ cut.pieces, Lexeme p.kind
  longest : ∀ before p after, cut.pieces = before ++ p :: after →
    ∀ c ∈ (spell after cut.last).head?, ¬ p.kind.GoesOn c
  length : tokens.length = cut.pieces.length
  /-- The offset of a token is the size of all that stands before its text. -/
  placed : ∀ before p after, cut.pieces = before ++ p :: after →
    tokens[before.length]? = some ⟨p.kind, offset + byteSize (spell before p.gap)⟩

@[simp] theorem spell_nil (last : List Char) : spell [] last = last := rfl

@[simp] theorem spell_cons (p : Piece) (pieces : List Piece) (last : List Char) :
    spell (p :: pieces) last = p.gap ++ p.kind.text.toList ++ spell pieces last := rfl

theorem gap_iff {l : List Char} : Gap l ↔ ∀ c ∈ l, isGap c = true := by
  simp [Gap, isGap, or_assoc]

@[simp] theorem byteSize_nil : byteSize [] = 0 := rfl

@[simp] theorem byteSize_append (l r : List Char) : byteSize (l ++ r) = byteSize l + byteSize r := by
  simp [byteSize, String.utf8ByteSize_append]

theorem byteSize_cons (c : Char) (l : List Char) : byteSize (c :: l) = c.utf8Size + byteSize l := by
  have h := byteSize_append [c] l
  have hc : byteSize [c] = c.utf8Size := by
    rw [byteSize, ← String.singleton_eq_ofList, String.utf8ByteSize_singleton]
  rw [hc] at h
  exact h

@[simp] theorem byteSize_text (k : Kind) : byteSize k.text.toList = k.text.utf8ByteSize := by
  rw [byteSize, String.ofList_toList]

/-! ## Building a cut from its end -/

theorem yields_nil_iff {offset : Nat} {l last : List Char} {tokens : List Token} :
    Cut.Yields ⟨[], last⟩ offset l tokens ↔ l = last ∧ Gap last ∧ tokens = [] := by
  constructor
  · intro h
    exact ⟨h.spelled, h.gaps.2, List.length_eq_zero_iff.mp h.length⟩
  · rintro ⟨rfl, gap, rfl⟩
    exact ⟨rfl, ⟨by simp, gap⟩, by simp, by simp, rfl, by simp⟩

theorem yields_cons_iff {offset : Nat} {l last : List Char} {p : Piece} {pieces : List Piece}
    {tokens : List Token} :
    Cut.Yields ⟨p :: pieces, last⟩ offset l tokens ↔
      ∃ after others, l = p.gap ++ p.kind.text.toList ++ after ∧
        tokens = ⟨p.kind, offset + byteSize p.gap⟩ :: others ∧
        Gap p.gap ∧ Lexeme p.kind ∧ (∀ c ∈ after.head?, ¬ p.kind.GoesOn c) ∧
        Cut.Yields ⟨pieces, last⟩ (offset + byteSize p.gap + p.kind.text.utf8ByteSize) after others := by
  constructor
  · intro h
    obtain ⟨t, others, rfl⟩ := List.exists_cons_of_length_eq_add_one h.length
    have ht := h.placed [] p pieces rfl
    simp only [List.length_nil, List.getElem?_cons_zero, Option.some.injEq, spell_nil] at ht
    refine ⟨spell pieces last, others, h.spelled, by rw [ht], h.gaps.1 p (by simp),
      h.lexemes p (by simp), h.longest [] p pieces rfl, rfl, ⟨?_, h.gaps.2⟩, ?_, ?_, ?_, ?_⟩
    · intro q hq
      exact h.gaps.1 q (by simp [hq])
    · intro q hq
      exact h.lexemes q (by simp [hq])
    · intro before q after hpieces
      obtain rfl : pieces = before ++ q :: after := hpieces
      exact h.longest (p :: before) q after rfl
    · simpa using h.length
    · intro before q after hpieces
      obtain rfl : pieces = before ++ q :: after := hpieces
      have := h.placed (p :: before) q after rfl
      simpa [Nat.add_assoc] using this
  · rintro ⟨after, others, rfl, rfl, gap, lexeme, stop, h⟩
    refine ⟨?_, ⟨?_, h.gaps.2⟩, ?_, ?_, ?_, ?_⟩
    · simp [h.spelled]
    · exact List.forall_mem_cons.mpr ⟨gap, h.gaps.1⟩
    · exact List.forall_mem_cons.mpr ⟨lexeme, h.lexemes⟩
    · intro before q after' hpieces
      cases before with
      | nil =>
        obtain ⟨rfl, rfl⟩ : p = q ∧ pieces = after' := List.cons.inj hpieces
        rw [← h.spelled]
        exact stop
      | cons r before =>
        obtain ⟨rfl, rfl⟩ : p = r ∧ pieces = before ++ q :: after' := List.cons.inj hpieces
        exact h.longest before q after' rfl
    · simpa using h.length
    · intro before q after' hpieces
      cases before with
      | nil =>
        obtain ⟨rfl, rfl⟩ : p = q ∧ pieces = after' := List.cons.inj hpieces
        simp
      | cons r before =>
        obtain ⟨rfl, rfl⟩ : p = r ∧ pieces = before ++ q :: after' := List.cons.inj hpieces
        have := h.placed before q after' rfl
        simpa [Nat.add_assoc] using this

/-! ## The scan -/

@[simp] theorem scanFrom_nil (offset : Nat) : scanFrom offset [] = .ok [] := by
  rw [scanFrom]

theorem scanFrom_cons_of_isGap (offset : Nat) {c : Char} (hc : isGap c = true) (l : List Char) :
    scanFrom offset (c :: l) = scanFrom (offset + c.utf8Size) l := by
  rw [scanFrom, if_pos hc]

theorem scanFrom_gap (offset : Nat) {gap : List Char} (hgap : Gap gap) (l : List Char) :
    scanFrom offset (gap ++ l) = scanFrom (offset + byteSize gap) l := by
  induction gap generalizing offset with
  | nil => simp
  | cons c gap ih =>
    obtain ⟨hc, hgap⟩ := List.forall_mem_cons.mp (gap_iff.mp hgap)
    rw [List.cons_append, scanFrom_cons_of_isGap _ hc, ih _ (gap_iff.mpr hgap), byteSize_cons,
      Nat.add_assoc]

theorem Lexeme.text_eq_cons {kind : Kind} (h : Lexeme kind) :
    ∃ c l, kind.text.toList = c :: l ∧ isGap c = false := by
  cases h with
  | @word front back ne letters alphanums =>
    obtain ⟨c, front, rfl⟩ := List.exists_cons_of_ne_nil ne
    have start := (isWordStart_iff c).mpr (letters c (by simp))
    exact ⟨c, front ++ back, by simp [Kind.text], (plain_of_isWordStart_or_isDigit (Or.inl start)).1⟩
  | @phrase quote inside closed =>
    refine ⟨quote.char, inside ++ [quote.char], by simp [Kind.text], ?_⟩
    cases quote <;> rfl
  | @number digits ne all =>
    obtain ⟨c, digits, rfl⟩ := List.exists_cons_of_ne_nil ne
    have digit := all c (by simp)
    exact ⟨c, digits, by simp [Kind.text], (plain_of_isWordStart_or_isDigit (Or.inr digit)).1⟩
  | _ => exact ⟨_, _, rfl, rfl⟩

theorem scanFrom_of_takeToken {offset : Nat} {c : Char} {rest after : List Char} {kind : Kind}
    (hc : isGap c = false) (h : takeToken offset c rest = .ok (kind, after)) :
    scanFrom offset (c :: rest) =
      (scanFrom (offset + kind.text.utf8ByteSize) after).map (⟨kind, offset⟩ :: ·) := by
  rw [scanFrom, if_neg (by simp [hc])]
  split
  · rename_i heq
    simp [h] at heq
  · rename_i heq
    obtain ⟨rfl, rfl⟩ : kind = _ ∧ after = _ := by simpa [h] using heq
    rfl

theorem scanFrom_of_takeToken_error {offset : Nat} {c : Char} {rest : List Char} {e : LexError}
    (hc : isGap c = false) (h : takeToken offset c rest = .error e) :
    scanFrom offset (c :: rest) = .error e := by
  rw [scanFrom, if_neg (by simp [hc])]
  split
  · rename_i cause heq
    obtain rfl : cause = e := by simpa [h] using heq.symm
    rfl
  · rename_i heq
    simp [h] at heq

theorem scanFrom_lexeme (offset : Nat) {k : Kind} (lexeme : Lexeme k) {after : List Char}
    (stop : ∀ c ∈ after.head?, ¬ k.GoesOn c) :
    scanFrom offset (k.text.toList ++ after) =
      (scanFrom (offset + k.text.utf8ByteSize) after).map (⟨k, offset⟩ :: ·) := by
  obtain ⟨c, rest, htext, hc⟩ := lexeme.text_eq_cons
  rw [htext, List.cons_append]
  apply scanFrom_of_takeToken hc
  rw [takeToken_eq_ok_iff, htext]
  exact ⟨lexeme, rfl, stop⟩

/-- Any cut into longest lexemes is the one that the scan makes. -/
theorem scanFrom_of_yields {pieces : List Piece} {last : List Char} {offset : Nat} {l : List Char}
    {tokens : List Token} (h : Cut.Yields ⟨pieces, last⟩ offset l tokens) :
    scanFrom offset l = .ok tokens := by
  induction pieces generalizing offset l tokens with
  | nil =>
    obtain ⟨rfl, gap, rfl⟩ := yields_nil_iff.mp h
    have := scanFrom_gap offset gap []
    rw [List.append_nil] at this
    rw [this, scanFrom_nil]
  | cons p pieces ih =>
    obtain ⟨after, others, rfl, rfl, gap, lexeme, stop, h⟩ := yields_cons_iff.mp h
    rw [List.append_assoc, scanFrom_gap offset gap, scanFrom_lexeme _ lexeme stop, ih h]
    rfl

theorem Cut.Yields.gap_cons {cut : Cut} {offset : Nat} {c : Char} {l : List Char}
    {tokens : List Token} (h : cut.Yields (offset + c.utf8Size) l tokens) (hc : isGap c = true) :
    ∃ cut' : Cut, cut'.Yields offset (c :: l) tokens := by
  obtain ⟨pieces, last⟩ := cut
  have cons : ∀ gap, Gap gap → Gap (c :: gap) := by
    intro gap hgap
    exact gap_iff.mpr (List.forall_mem_cons.mpr ⟨hc, gap_iff.mp hgap⟩)
  cases pieces with
  | nil =>
    obtain ⟨rfl, gap, rfl⟩ := yields_nil_iff.mp h
    exact ⟨⟨[], c :: l⟩, yields_nil_iff.mpr ⟨rfl, cons _ gap, rfl⟩⟩
  | cons p pieces =>
    obtain ⟨after, others, rfl, rfl, gap, lexeme, stop, h⟩ := yields_cons_iff.mp h
    refine ⟨⟨⟨c :: p.gap, p.kind⟩ :: pieces, last⟩, yields_cons_iff.mpr ⟨after, others, rfl, ?_,
      cons _ gap, lexeme, stop, ?_⟩⟩
    · rw [byteSize_cons, Nat.add_assoc]
    · rw [byteSize_cons]
      simpa [Nat.add_assoc] using h

/-- What the scan makes is a cut into longest lexemes. -/
theorem exists_yields_of_scanFrom {offset : Nat} {l : List Char} {tokens : List Token}
    (h : scanFrom offset l = .ok tokens) : ∃ cut : Cut, cut.Yields offset l tokens := by
  fun_induction scanFrom offset l generalizing tokens with
  | case1 offset =>
    obtain rfl : [] = tokens := by simpa using h
    exact ⟨⟨[], []⟩, yields_nil_iff.mpr ⟨rfl, by simp [Gap], rfl⟩⟩
  | case2 offset c rest hc ih =>
    obtain ⟨cut, hcut⟩ := ih h
    exact hcut.gap_cons hc
  | case3 offset c rest hc e taken => simp at h
  | case4 offset c rest hc kind after taken ih =>
    cases hothers : scanFrom (offset + kind.text.utf8ByteSize) after with
    | error e =>
      rw [hothers] at h
      cases h
    | ok others =>
      rw [hothers] at h
      obtain rfl : ⟨kind, offset⟩ :: others = tokens := Except.ok.inj h
      obtain ⟨cut, hcut⟩ := ih hothers
      obtain ⟨lexeme, hsplit, stop⟩ := takeToken_eq_ok_iff.mp taken
      exact ⟨⟨⟨[], kind⟩ :: cut.pieces, cut.last⟩, yields_cons_iff.mpr
        ⟨after, others, by simpa using hsplit, rfl, by simp [Gap], lexeme, stop, hcut⟩⟩

/-! ## One cut only -/

theorem gap_unique {gap gap' l l' : List Char} {c c' : Char} (hgap : Gap gap) (hgap' : Gap gap')
    (hc : isGap c = false) (hc' : isGap c' = false) (h : gap ++ c :: l = gap' ++ c' :: l') :
    gap = gap' ∧ c = c' ∧ l = l' := by
  have stop : ∀ d ∈ (c :: l).head?, isGap d = false := by simpa using hc
  have stop' : ∀ d ∈ (c' :: l').head?, isGap d = false := by simpa using hc'
  obtain ⟨htake, hdrop⟩ := takeWhile_dropWhile_iff.mpr ⟨rfl, gap_iff.mp hgap, stop⟩
  obtain ⟨htake', hdrop'⟩ := takeWhile_dropWhile_iff.mpr ⟨h, gap_iff.mp hgap', stop'⟩
  rw [hdrop, List.cons.injEq] at hdrop'
  exact ⟨htake.symm.trans htake', hdrop'⟩

theorem piece_unique {p q : Piece} {after after' : List Char} (hgap : Gap p.gap) (hgap' : Gap q.gap)
    (lexeme : Lexeme p.kind) (lexeme' : Lexeme q.kind)
    (stop : ∀ c ∈ after.head?, ¬ p.kind.GoesOn c) (stop' : ∀ c ∈ after'.head?, ¬ q.kind.GoesOn c)
    (h : p.gap ++ p.kind.text.toList ++ after = q.gap ++ q.kind.text.toList ++ after') :
    p = q ∧ after = after' := by
  obtain ⟨c, l, htext, hc⟩ := lexeme.text_eq_cons
  obtain ⟨c', l', htext', hc'⟩ := lexeme'.text_eq_cons
  rw [htext, htext', List.append_assoc, List.append_assoc, List.cons_append, List.cons_append] at h
  obtain ⟨gap, rfl, rest⟩ := gap_unique hgap hgap' hc hc' h
  have taken := takeToken_of_lexeme 0 lexeme (by rw [htext, List.cons_append]) stop
  have taken' := takeToken_of_lexeme 0 lexeme' (by rw [htext', List.cons_append]) stop'
  rw [rest, taken', Except.ok.injEq, Prod.mk.injEq] at taken
  obtain ⟨kind, hafter⟩ := taken
  cases p
  cases q
  simp_all

theorem not_gap_of_yields_cons {p : Piece} {pieces : List Piece} {last : List Char} {offset : Nat}
    {l : List Char} {tokens : List Token} (h : Cut.Yields ⟨p :: pieces, last⟩ offset l tokens) :
    ¬ Gap l := by
  obtain ⟨after, others, rfl, -, -, lexeme, -⟩ := yields_cons_iff.mp h
  obtain ⟨c, text, htext, hc⟩ := lexeme.text_eq_cons
  intro gap
  have := gap_iff.mp gap c (by simp [htext])
  simp [hc] at this

theorem yields_unique {pieces pieces' : List Piece} {last last' : List Char} {offset offset' : Nat}
    {l : List Char} {tokens tokens' : List Token} (h : Cut.Yields ⟨pieces, last⟩ offset l tokens)
    (h' : Cut.Yields ⟨pieces', last'⟩ offset' l tokens') : pieces = pieces' ∧ last = last' := by
  induction pieces generalizing pieces' l offset offset' tokens tokens' with
  | nil =>
    obtain ⟨rfl, gap, -⟩ := yields_nil_iff.mp h
    cases pieces' with
    | nil =>
      obtain ⟨rfl, -⟩ := yields_nil_iff.mp h'
      exact ⟨rfl, rfl⟩
    | cons q pieces' => exact absurd gap (not_gap_of_yields_cons h')
  | cons p pieces ih =>
    cases pieces' with
    | nil =>
      obtain ⟨rfl, gap, -⟩ := yields_nil_iff.mp h'
      exact absurd gap (not_gap_of_yields_cons h)
    | cons q pieces' =>
      obtain ⟨after, others, rfl, rfl, gap, lexeme, stop, h⟩ := yields_cons_iff.mp h
      obtain ⟨after', others', hl, rfl, gap', lexeme', stop', h'⟩ := yields_cons_iff.mp h'
      obtain ⟨rfl, rfl⟩ := piece_unique gap gap' lexeme lexeme' stop stop' hl
      obtain ⟨rfl, hlast⟩ := ih h h'
      exact ⟨rfl, hlast⟩

/-! ## Nothing is lost -/

theorem Cut.Yields.filter_text {pieces : List Piece} {last : List Char} {offset : Nat} {l : List Char}
    {tokens : List Token} (h : Cut.Yields ⟨pieces, last⟩ offset l tokens) :
    (tokens.flatMap (·.kind.text.toList)).filter (!isGap ·) = l.filter (!isGap ·) := by
  induction pieces generalizing offset l tokens with
  | nil =>
    obtain ⟨rfl, gap, rfl⟩ := yields_nil_iff.mp h
    symm
    simpa using gap_iff.mp gap
  | cons p pieces ih =>
    obtain ⟨after, others, rfl, rfl, gap, -, -, h⟩ := yields_cons_iff.mp h
    have hnil : p.gap.filter (!isGap ·) = [] := by simpa using gap_iff.mp gap
    simp only [List.flatMap_cons, List.filter_append, ih h, hnil, List.nil_append]

/-- A text has these tokens if and only if it can be cut into them, with only gaps between lexemes
that could not be longer. There is one way to do so at most, and only gaps are lost. -/
theorem tokenize_eq_ok_iff (text : String) (tokens : List Token) :
    (tokenize text = .ok tokens ↔ ∃ cut : Cut, cut.Yields 0 text.toList tokens) ∧
      {cut : Cut | ∃ others, cut.Yields 0 text.toList others}.Subsingleton ∧
      (tokenize text = .ok tokens →
        (tokens.flatMap (·.kind.text.toList)).filter (!isGap ·) = text.toList.filter (!isGap ·)) := by
  refine ⟨⟨exists_yields_of_scanFrom, ?_⟩, ?_, ?_⟩
  · rintro ⟨cut, h⟩
    exact scanFrom_of_yields h
  · rintro cut ⟨others, h⟩ cut' ⟨others', h'⟩
    obtain ⟨hpieces, hlast⟩ := yields_unique h h'
    cases cut
    cases cut'
    simp_all
  · intro h
    obtain ⟨cut, hcut⟩ := exists_yields_of_scanFrom h
    exact hcut.filter_text

theorem tokenize_mp3_player :
    tokenize "mp3-player\t'é &&'>007" = .ok [⟨.word "mp3", 0⟩, ⟨.word "-player", 3⟩,
        ⟨.phrase .single "'é &&'", 11⟩, ⟨.greater, 18⟩, ⟨.number "007", 19⟩] ∧
      "mp3-player'é &&'>007".toList.filter (!isGap ·) =
        "mp3-player\t'é &&'>007".toList.filter (!isGap ·) := by
  have h : tokenize "mp3-player\t'é &&'>007" = .ok [⟨.word "mp3", 0⟩, ⟨.word "-player", 3⟩,
      ⟨.phrase .single "'é &&'", 11⟩, ⟨.greater, 18⟩, ⟨.number "007", 19⟩] := by
    decide +kernel
  exact ⟨h, (tokenize_eq_ok_iff _ _).2.2 h⟩

end TermScore.Query
