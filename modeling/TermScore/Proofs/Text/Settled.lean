import TermScore.Proofs.Text.Lowercase

/-!
# Text that is lowercase already

Some characters are the same in lowercase wherever they stand: the blanks, the sign that starts a
comment, and all that a lowercase text has in it. So a text that was made lowercase stays as it is.
-/

namespace TermScore.Text

namespace Case

/-- Lowercase leaves the character alone, wherever it stands. -/
def Settled (c : Char) : Prop :=
  ∀ inWord rest, lowerAt inWord c rest = [c]

/-- All letters that have another lowercase form. The capital I with a dot is not in the table. -/
def changing : List Span :=
  ⟨0x130, 0x130, 1, 0x69⟩ :: spans

/-! ## What changes -/

theorem covers_iff {s : Span} {n : Nat} :
    s.covers n = true ↔ s.first ≤ n ∧ n ≤ s.last ∧ (n - s.first) % s.step = 0 := by
  unfold Span.covers
  rw [Bool.and_eq_true, Bool.and_eq_true, decide_eq_true_eq, decide_eq_true_eq, beq_iff_eq,
    and_assoc]

theorem not_covers_of_mem :
    ∀ code ∈ 0 :: ['i', '\u0307', 'σ', 'ς', '#'].map Char.toNat,
      ∀ s ∈ changing, s.covers code = false := by
  decide +kernel

theorem settled_of_not_covers {c : Char} (h : ∀ s ∈ changing, s.covers c.toNat = false) :
    Settled c := by
  intro inWord rest
  have hsigma : c ≠ 'Σ' := by
    rintro rfl
    exact absurd h (by decide +kernel)
  have hdot : c ≠ 'İ' := by
    rintro rfl
    exact absurd h (by decide +kernel)
  have hnone : spans.find? (·.covers c.toNat) = none := by
    rw [List.find?_eq_none]
    intro s hs
    rw [h s (List.mem_cons_of_mem _ hs)]
    exact Bool.false_ne_true
  rw [lowerAt, if_neg hsigma, if_neg hdot, lowerChar, hnone]

theorem settled_of_mem {c : Char} (h : c ∈ ['i', '\u0307', 'σ', 'ς', '#']) : Settled c :=
  settled_of_not_covers (not_covers_of_mem c.toNat (List.mem_cons_of_mem 0 (List.mem_map_of_mem h)))

/-- The forms of the letters in `s` and the letters in `t` are apart, or each are every second
character and they take turns. `Nat.ble` keeps the check of the whole table short. -/
def Span.isApart (s t : Span) : Bool :=
  (t.last + 1).ble s.lower || (s.lower + (s.last - s.first) + 1).ble t.first ||
    (t.step == 2 && (s.step == 2 || s.first == s.last) && (s.lower + t.first) % 2 == 1)

theorem isApart_spans : (spans.all fun s => changing.all s.isApart) = true := by
  decide +kernel

theorem apart_of_mem {s t : Span} (hs : s ∈ spans) (ht : t ∈ changing) :
    t.last < s.lower ∨ s.lower + (s.last - s.first) < t.first ∨
      t.step = 2 ∧ (s.step = 2 ∨ s.first = s.last) ∧ (s.lower + t.first) % 2 = 1 := by
  have h := List.all_eq_true.mp (List.all_eq_true.mp isApart_spans s hs) t ht
  unfold Span.isApart at h
  simp only [Bool.or_eq_true, Bool.and_eq_true, Nat.ble_eq, beq_iff_eq, Nat.add_one_le_iff, or_assoc,
    and_assoc] at h
  exact h

theorem not_covers_lower {s t : Span} (hs : s ∈ spans) (ht : t ∈ changing) {n : Nat}
    (hn : s.covers n = true) : t.covers (s.lower + (n - s.first)) = false := by
  rw [Bool.eq_false_iff, ne_eq, covers_iff]
  rintro ⟨hfirst, hlast, hstep⟩
  obtain ⟨hfirst', hlast', hstep'⟩ := covers_iff.mp hn
  rcases apart_of_mem hs ht with h | h | ⟨ht2, hs2 | hs1, hodd⟩
  · omega
  · omega
  · rw [ht2] at hstep
    rw [hs2] at hstep'
    omega
  · rw [ht2] at hstep
    omega

theorem settled_lowerChar {c : Char} (hc : c ≠ 'İ') : Settled (lowerChar c) := by
  unfold lowerChar
  cases hfind : spans.find? (·.covers c.toNat) with
  | none =>
    rw [List.find?_eq_none] at hfind
    apply settled_of_not_covers
    intro s hs
    rcases List.mem_cons.mp hs with rfl | hs
    · rw [Bool.eq_false_iff, ne_eq, covers_iff]
      rintro ⟨hfirst, hlast, -⟩
      exact hc (Char.toNat_inj.mp (Nat.le_antisymm hlast hfirst))
    · exact Bool.eq_false_iff.mpr (hfind s hs)
  | some s =>
    have hs := List.mem_of_find?_eq_some hfind
    have hcovers := List.find?_some hfind
    apply settled_of_not_covers
    intro t ht
    rcases toNat_ofNat_or (s.lower + (c.toNat - s.first)) with hcode | hcode
    · rw [hcode]
      exact not_covers_lower hs ht hcovers
    · rw [hcode]
      exact not_covers_of_mem 0 List.mem_cons_self t ht

theorem settled_of_mem_lowerAt {inWord : Bool} {c d : Char} {rest : List Char}
    (hd : d ∈ lowerAt inWord c rest) : Settled d := by
  unfold lowerAt at hd
  split at hd
  · apply settled_of_mem
    split at hd
    all_goals simp_all
  · split at hd
    · exact settled_of_mem (List.mem_append_left ['σ', 'ς', '#'] hd)
    · rename_i hdot
      rw [List.mem_singleton.mp hd]
      exact settled_lowerChar hdot

/-! ## What stays -/

theorem settled_of_isBlank {c : Char} (h : isBlank c = true) : Settled c := by
  have apart : ∀ s ∈ changing, ∀ r ∈ blankRanges, r.2 < s.first ∨ s.last < r.1 := by
    decide +kernel
  apply settled_of_not_covers
  intro s hs
  obtain ⟨r, hr, hlow, hhigh⟩ := isBlank_iff.mp h
  have := apart s hs r hr
  rw [Bool.eq_false_iff, ne_eq, covers_iff]
  omega

theorem settled_hash : Settled '#' :=
  settled_of_mem (by simp)

theorem settled_of_mem_lowerFrom {inWord : Bool} {l : List Char} {c : Char}
    (hc : c ∈ lowerFrom inWord l) : Settled c := by
  induction l generalizing inWord with
  | nil => exact absurd hc List.not_mem_nil
  | cons d l ih =>
    rw [lowerFrom, List.mem_append] at hc
    rcases hc with hc | hc
    · exact settled_of_mem_lowerAt hc
    · exact ih hc

theorem exists_lowerFrom_append {l : List Char} (h : ∀ c ∈ l, Settled c) (inWord : Bool)
    (r : List Char) : ∃ inWord', lowerFrom inWord (l ++ r) = l ++ lowerFrom inWord' r := by
  induction l generalizing inWord with
  | nil => exact ⟨inWord, rfl⟩
  | cons c l ih =>
    obtain ⟨hc, hl⟩ := List.forall_mem_cons.mp h
    obtain ⟨inWord', heq⟩ := ih hl (inWordAfter inWord c)
    refine ⟨inWord', ?_⟩
    rw [List.cons_append, lowerFrom, hc, heq]
    rfl

/-! ## After the end of a word -/

theorem goesOn_append_cons {c : Char} (hpass : isIgnorable c = false) (hcase : isCased c = false)
    (l r : List Char) : goesOn (l ++ c :: r) = goesOn l := by
  unfold goesOn
  rw [List.find?_append]
  cases l.find? (!isIgnorable ·) with
  | none => simp [hpass, hcase]
  | some d => rfl

/-- The texts before and after a character that ends words are made lowercase on their own. -/
theorem lowerFrom_append_cons {c : Char} (hpass : isIgnorable c = false)
    (hcase : isCased c = false) (hc : Settled c) (inWord : Bool) (l r : List Char) :
    lowerFrom inWord (l ++ c :: r) = lowerFrom inWord l ++ c :: lowerFrom false r := by
  induction l generalizing inWord with
  | nil =>
    have hafter : inWordAfter inWord c = false := by
      rw [inWordAfter, hpass, if_neg Bool.false_ne_true, hcase]
    rw [List.nil_append, lowerFrom, lowerFrom, hc, hafter]
    rfl
  | cons d l ih =>
    have hat : lowerAt inWord d (l ++ c :: r) = lowerAt inWord d l := by
      unfold lowerAt
      rw [goesOn_append_cons hpass hcase]
    rw [List.cons_append, lowerFrom, lowerFrom, hat, ih, List.append_assoc]

end Case

open Case

theorem settled_of_mem_lowerChars {l : List Char} {c : Char} (hc : c ∈ lowerChars l) : Settled c :=
  settled_of_mem_lowerFrom hc

theorem lowerChars_of_settled {l : List Char} (h : ∀ c ∈ l, Settled c) : lowerChars l = l := by
  obtain ⟨inWord, heq⟩ := exists_lowerFrom_append h false []
  rw [List.append_nil, lowerFrom, List.append_nil] at heq
  exact heq

theorem lowerChars_append_return (l : List Char) :
    lowerChars (l ++ ['\r']) = lowerChars l ++ ['\r'] :=
  lowerFrom_append_cons (by decide +kernel) (by decide +kernel)
    (settled_of_isBlank (by decide)) false l []

end TermScore.Text
