/-!
# Bytes as text

Reading bytes as UTF-8. Where they are not well formed, each longest piece that could still have
become a character is replaced by one U+FFFD.
-/

namespace TermScore.Text.Utf8

def replacement : Char := '\uFFFD'

def between (low high : Nat) (b : UInt8) : Bool :=
  low ≤ b.toNat && b.toNat ≤ high

def isContinuation (b : UInt8) : Bool :=
  between 0x80 0xBF b

/-- How a character of two or more bytes goes on after its first byte: the bits of that byte, the
range of the second byte, and how many more bytes follow. -/
structure Start where
  bits : Nat
  low : Nat
  high : Nat
  more : Nat

/-- The second byte has a narrower range after a first byte that could otherwise start a longer form
of a shorter character, a surrogate, or a number that is too large. -/
def startOf? (b : UInt8) : Option Start :=
  let n := b.toNat
  if 0xC2 ≤ n ∧ n ≤ 0xDF then some ⟨n - 0xC0, 0x80, 0xBF, 0⟩
  else if n = 0xE0 then some ⟨0, 0xA0, 0xBF, 1⟩
  else if n = 0xED then some ⟨0xD, 0x80, 0x9F, 1⟩
  else if 0xE1 ≤ n ∧ n ≤ 0xEF then some ⟨n - 0xE0, 0x80, 0xBF, 1⟩
  else if n = 0xF0 then some ⟨0, 0x90, 0xBF, 2⟩
  else if n = 0xF4 then some ⟨4, 0x80, 0x8F, 2⟩
  else if 0xF1 ≤ n ∧ n ≤ 0xF3 then some ⟨n - 0xF0, 0x80, 0xBF, 2⟩
  else none

/-- The character whose first bytes gave `bits`, when `more` continuation bytes follow. -/
def takeMore (bits : Nat) : Nat → List UInt8 → Char × List UInt8
  | 0, rest => (Char.ofNat bits, rest)
  | _ + 1, [] => (replacement, [])
  | more + 1, b :: rest =>
    if isContinuation b then takeMore (bits * 64 + (b.toNat - 0x80)) more rest
    else (replacement, b :: rest)

/-- The first character of `b :: rest`, and what follows it. -/
def takeChar (b : UInt8) (rest : List UInt8) : Char × List UInt8 :=
  if b.toNat < 0x80 then (Char.ofNat b.toNat, rest)
  else
    match startOf? b, rest with
    | some start, second :: tail =>
      if between start.low start.high second then
        takeMore (start.bits * 64 + (second.toNat - 0x80)) start.more tail
      else (replacement, rest)
    | _, _ => (replacement, rest)

theorem length_takeMore (bits more : Nat) (l : List UInt8) :
    (takeMore bits more l).2.length ≤ l.length := by
  induction more generalizing bits l with
  | zero => simp [takeMore]
  | succ more ih =>
    cases l with
    | nil => simp [takeMore]
    | cons b rest =>
      simp only [takeMore]
      split
      · have := ih (bits * 64 + (b.toNat - 0x80)) rest
        simp only [List.length_cons]
        omega
      · simp

theorem length_takeChar (b : UInt8) (rest : List UInt8) :
    (takeChar b rest).2.length ≤ rest.length := by
  simp only [takeChar]
  split
  · simp
  · split
    · rename_i start second tail _
      split
      · have := length_takeMore (start.bits * 64 + (second.toNat - 0x80)) start.more tail
        simp only [List.length_cons]
        omega
      · simp
    · simp

/-- The characters of some bytes, put in front of `done` in reverse. -/
def decodeOnto (done : List Char) : List UInt8 → List Char
  | [] => done
  | b :: rest =>
    have := length_takeChar b rest
    decodeOnto ((takeChar b rest).1 :: done) (takeChar b rest).2
termination_by l => l.length

/-- The text of any bytes. -/
def decodeLossy (bytes : ByteArray) : String :=
  String.ofList (decodeOnto [] bytes.toList).reverse

/-- The text of well-formed bytes. -/
def decode? (bytes : ByteArray) : Option String :=
  String.fromUTF8? bytes

end TermScore.Text.Utf8
