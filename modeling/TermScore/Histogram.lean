import Std.Data.ExtTreeMap

/-!
# Histograms

How often each term occurs. A term with no entry occurs zero times, and no entry is zero, so the
counts alone say which histogram it is.
-/

namespace TermScore

/-- The largest count. A count that would exceed it stays there. -/
def maxCount : Nat := UInt64.size - 1

def saturate (n : Nat) : Nat :=
  min n maxCount

/-- A term and how often it occurs. -/
structure TermCount where
  term : String
  count : Nat
deriving DecidableEq, Repr

namespace TermCount

/-- Most frequent first, and terms with the same count in the order of their characters. -/
def before (a b : TermCount) : Bool :=
  b.count < a.count || (a.count == b.count && decide (a.term ≤ b.term))

def sorted (l : List TermCount) : List TermCount :=
  l.mergeSort before

end TermCount

structure Histogram where
  entries : Std.ExtTreeMap String Nat
  inRange : ∀ (term : String) (n : Nat), entries[term]? = some n → 0 < n ∧ n ≤ maxCount

namespace Histogram

def empty : Histogram where
  entries := ∅
  inRange := by simp

def count (h : Histogram) (term : String) : Nat :=
  h.entries.getD term 0

def contains (h : Histogram) (term : String) : Bool :=
  0 < h.count term

theorem count_le (h : Histogram) (term : String) : h.count term ≤ maxCount := by
  rw [count, Std.ExtTreeMap.getD_eq_getD_getElem?]
  cases he : h.entries[term]? with
  | none => simp
  | some n => simpa using (h.inRange term n he).2

theorem saturate_pos {n : Nat} (h : 0 < n) : 0 < saturate n := by
  simp [saturate, maxCount, UInt64.size]
  omega

/-- Counts `n` more occurrences of a term. -/
def add (h : Histogram) (term : String) (n : Nat) : Histogram :=
  if hn : n = 0 then h
  else {
    entries := h.entries.insert term (saturate (h.count term + n))
    inRange := by
      intro t m hm
      rw [Std.ExtTreeMap.getElem?_insert] at hm
      split at hm
      · simp only [Option.some.injEq] at hm
        subst hm
        exact ⟨saturate_pos (by omega), Nat.min_le_right _ _⟩
      · exact h.inRange t m hm
  }

def insert (h : Histogram) (term : String) : Histogram :=
  h.add term 1

/-- A term may be listed more than once, and then its counts add up. -/
def ofCounts (l : List TermCount) : Histogram :=
  l.foldl (fun h c => h.add c.term c.count) empty

/-- How often each term occurs in a list. -/
def ofTerms (l : List String) : Histogram :=
  l.foldl insert empty

/-- The entries in the order of their terms. -/
def toList (h : Histogram) : List TermCount :=
  h.entries.toList.map fun (term, n) => ⟨term, n⟩

def size (h : Histogram) : Nat :=
  h.entries.size

def isEmpty (h : Histogram) : Bool :=
  h.entries.isEmpty

/-- The terms that occur at least `least` times, most frequent first. -/
def listing (h : Histogram) (least : Nat) : List TermCount :=
  TermCount.sorted (h.toList.filter (least ≤ ·.count))

/-! ## Laws of the counts -/

theorem count_empty (term : String) : empty.count term = 0 := by
  simp [count, empty]

theorem count_add (h : Histogram) (term : String) (n : Nat) (t : String) :
    (h.add term n).count t = if t = term then saturate (h.count term + n) else h.count t := by
  unfold add
  split
  · subst n
    split
    · subst t
      simp [saturate, Nat.min_eq_left (h.count_le term)]
    · rfl
  · simp only [count, Std.ExtTreeMap.getD_insert, Std.compare_eq_iff_eq]
    by_cases ht : t = term
    · simp [ht]
    · simp [ht, Ne.symm ht]

theorem ext {a b : Histogram} (h : ∀ t, a.count t = b.count t) : a = b := by
  obtain ⟨m, hm⟩ := a
  obtain ⟨m', hm'⟩ := b
  simp only [mk.injEq]
  apply Std.ExtTreeMap.ext_getElem?
  intro t
  have ht := h t
  simp only [count, Std.ExtTreeMap.getD_eq_getD_getElem?] at ht
  cases h1 : m[t]? with
  | none =>
    cases h2 : m'[t]? with
    | none => rfl
    | some n =>
      have := (hm' t n h2).1
      simp only [h1, h2, Option.getD_none, Option.getD_some] at ht
      omega
  | some n =>
    have := (hm t n h1).1
    cases h2 : m'[t]? with
    | none =>
      simp only [h1, h2, Option.getD_none, Option.getD_some] at ht
      omega
    | some k => simpa [h1, h2] using ht

theorem toList_inj {a b : Histogram} : a.toList = b.toList ↔ a = b := by
  constructor
  · intro h
    have back : ∀ x : Histogram, x.toList.map (fun c => (c.term, c.count)) = x.entries.toList := by
      intro x
      simp [toList, Function.comp_def]
    have he : a.entries.toList = b.entries.toList := by rw [← back, ← back, h]
    have : a.entries = b.entries := Std.ExtTreeMap.ext_toList (he ▸ List.Perm.refl _)
    cases a
    cases b
    simpa using this
  · rintro rfl
    rfl

instance : DecidableEq Histogram := fun a b =>
  decidable_of_iff (a.toList = b.toList) toList_inj

end Histogram

/-! ## The two histograms of a document -/

/-- A term with a space in it stands for words that follow each other. -/
def isCompound (term : String) : Bool :=
  term.toList.contains ' '

/-- Single words are counted in one histogram and pairs of words in another. Without the second all
terms are looked up in the first. -/
structure Counts where
  single : Histogram
  compound : Option Histogram

namespace Counts

/-- The histogram that knows a term. -/
def modelFor (m : Counts) (term : String) : Histogram :=
  match m.compound with
  | some compound => if isCompound term then compound else m.single
  | none => m.single

def count (m : Counts) (term : String) : Nat :=
  (m.modelFor term).count term

def contains (m : Counts) (term : String) : Bool :=
  0 < m.count term

end Counts

end TermScore
