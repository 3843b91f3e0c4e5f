import Mathlib.Data.String.Basic
import Mathlib.Tactic.SplitIfs

/-!
# The order of bytes

Texts are in the order of their characters, and their bytes in UTF-8 are in the same order.
-/

namespace TermScore.Text

/-- The bytes of a text in UTF-8. -/
def bytes (s : String) : List UInt8 :=
  s.toUTF8.data.toList

theorem bytes_eq_flatMap (s : String) : bytes s = s.toList.flatMap String.utf8EncodeChar := by
  conv => lhs; rw [← String.ofList_toList (s := s)]
  rw [bytes, String.toUTF8_eq_toByteArray, String.toByteArray_ofList]
  exact List.toList_data_toByteArray

/-! ## The bytes of a character -/

/-- How many bytes follow the first one. -/
def extraBytes (n : Nat) : Nat :=
  if n ≤ 0x7F then 0 else if n ≤ 0x7FF then 1 else if n ≤ 0xFFFF then 2 else 3

/-- The first byte says how many follow it, and has what these leave of the number. -/
def leadByte (n : Nat) : Nat :=
  [0, 0xC0, 0xE0, 0xF0].getD (extraBytes n) 0 + n / 64 ^ extraBytes n

/-- The last `k` bytes, with six bits of the number in each. -/
def restBytes : Nat → Nat → List UInt8
  | 0, _ => []
  | k + 1, n => restBytes k (n / 64) ++ [UInt8.ofNat (n % 64 + 0x80)]

theorem utf8EncodeChar_eq (c : Char) : String.utf8EncodeChar c =
    UInt8.ofNat (leadByte c.toNat) :: restBytes (extraBytes c.toNat) c.toNat := by
  have hc := c.valid
  unfold UInt32.isValidChar Nat.isValidChar at hc
  simp only [String.utf8EncodeChar, Char.toNat_val, leadByte, extraBytes] at hc ⊢
  generalize c.toNat = n at *
  split_ifs
  · simp [restBytes]
  · have hlead : n / 64 % 32 = n / 64 := by omega
    simp [restBytes, hlead, UInt8.add_comm]
  · have hlead : n / 4096 % 16 = n / 4096 := by omega
    simp [restBytes, hlead, UInt8.add_comm]
  · have hlead : n / 262144 % 8 = n / 262144 := by omega
    simp [restBytes, hlead, UInt8.add_comm, Nat.div_div_eq_div_mul]

/-! ## Comparing bytes -/

theorem restBytes_lt {k m n : Nat} (hlt : m < n) (hlead : m / 64 ^ k = n / 64 ^ k)
    (r s : List UInt8) : restBytes k m ++ r < restBytes k n ++ s := by
  induction k generalizing m n r s with
  | zero =>
    rw [Nat.pow_zero, Nat.div_one, Nat.div_one] at hlead
    omega
  | succ k ih =>
    rw [Nat.pow_succ', ← Nat.div_div_eq_div_mul, ← Nat.div_div_eq_div_mul] at hlead
    rw [restBytes, restBytes, List.append_assoc, List.append_assoc]
    by_cases hfront : m / 64 < n / 64
    · exact ih hfront hlead _ _
    · have hsame : m / 64 = n / 64 := by omega
      have hlast : UInt8.ofNat (m % 64 + 0x80) < UInt8.ofNat (n % 64 + 0x80) := by
        rw [UInt8.ofNat_lt_iff_lt (by simp [UInt8.size]; omega) (by simp [UInt8.size]; omega)]
        omega
      rw [hsame]
      exact List.append_left_lt (List.Lex.rel hlast)

theorem leadByte_lt_or {m n : Nat} (hlt : m < n) (hn : n < 0x110000) :
    leadByte m < leadByte n ∨ leadByte m = leadByte n ∧ extraBytes m = extraBytes n ∧
      m / 64 ^ extraBytes m = n / 64 ^ extraBytes m := by
  unfold leadByte extraBytes
  split_ifs
  all_goals
    simp
    omega

theorem leadByte_lt {n : Nat} (hn : n < 0x110000) : leadByte n < UInt8.size := by
  unfold leadByte extraBytes UInt8.size
  split_ifs
  all_goals
    simp
    omega

theorem utf8EncodeChar_append_lt {c d : Char} (h : c < d) (r s : List UInt8) :
    String.utf8EncodeChar c ++ r < String.utf8EncodeChar d ++ s := by
  have hlt : c.toNat < d.toNat := h
  have hd : d.toNat < 0x110000 := by
    rcases d.valid with hlow | ⟨-, hhigh⟩
    · exact Nat.lt_trans hlow (by decide)
    · exact hhigh
  rw [utf8EncodeChar_eq, utf8EncodeChar_eq, List.cons_append, List.cons_append]
  rcases leadByte_lt_or hlt hd with hlead | ⟨hlead, hextra, hfront⟩
  · apply List.Lex.rel
    rwa [UInt8.ofNat_lt_iff_lt (leadByte_lt (by omega)) (leadByte_lt hd)]
  · rw [hlead, ← hextra]
    exact List.Lex.cons (restBytes_lt hlt hfront r s)

theorem flatMap_utf8EncodeChar_lt {l l' : List Char} (h : l < l') :
    l.flatMap String.utf8EncodeChar < l'.flatMap String.utf8EncodeChar := by
  induction h with
  | nil =>
    rw [List.flatMap_nil, List.flatMap_cons, utf8EncodeChar_eq]
    exact List.Lex.nil
  | rel h => exact utf8EncodeChar_append_lt h _ _
  | cons _ ih => exact List.append_left_lt ih

theorem bytes_lt_iff {a b : String} : bytes a < bytes b ↔ a < b := by
  have mono : ∀ {a b : String}, a < b → bytes a < bytes b := by
    intro a b h
    rw [bytes_eq_flatMap, bytes_eq_flatMap]
    exact flatMap_utf8EncodeChar_lt (String.lt_iff_toList_lt.mp h)
  constructor
  · intro h
    rcases lt_trichotomy a b with hab | rfl | hba
    · exact hab
    · exact absurd h (List.lt_irrefl _)
    · exact absurd h (List.lt_asymm (mono hba))
  · exact mono

end TermScore.Text
