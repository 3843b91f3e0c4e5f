import TermScore.Scalar

/-!
# Statistics of a sample

Least and greatest value, median, mean, spread and shape. What a sample is too small for is absent.
-/

namespace TermScore.Stats

variable {α : Type} [Scalar α]

/-! ## Percentiles -/

/-- The place of a value that is counted from one on. Nothing is counted as zero. -/
def place? : Nat → Option Nat
  | 0 => none
  | k + 1 => some k

/-- The value at the position `p * (n + 1) / 100` of an ascending sample, between its two neighbours
there. Before the first position it is the first value, from the last one on it is the last. It is
absent when a place is asked for that the sample does not have. -/
def percentile? (sorted : List α) (p : α) : Option α :=
  let n := sorted.length
  if n = 1 then sorted.head?
  else
    let position := p * (Scalar.ofNat n + Scalar.one) / Scalar.ofNat 100
    if position < Scalar.one then sorted.head?
    else if Scalar.ofNat n ≤ position then sorted.getLast?
    else
      let whole := Scalar.floor position
      (place? whole).bind fun place =>
        match sorted[place]?, sorted[whole]? with
        | some lower, some upper =>
          some (lower + (position - Scalar.ofNat whole) * (upper - lower))
        | _, _ => none

/-! ## Moments -/

/-- The sum of a power of the distances from the mean. -/
def momentSum (power : α → α) (mean : α) (values : List α) : α :=
  Scalar.sum (values.map fun x => power (x - mean))

def square (x : α) : α := x * x

def cube (x : α) : α := square x * x

def fourthPower (x : α) : α := square x * square x

/-- Variances below this count as zero. -/
def zeroVariance : α :=
  Scalar.one / Scalar.ofNat (Nat.pow 10 19)

/-- The bias-corrected skewness of `n` values, from the sums of squares and cubes. -/
def skewness? (n : Nat) (m2 m3 : α) : Option α :=
  let size : α := Scalar.ofNat n
  let variance := m2 / (size - Scalar.one)
  if n < 3 then none
  else if variance < zeroVariance then some Scalar.zero
  else
    let scaled := m3 / (variance * Scalar.sqrt variance)
    some (size / ((size - Scalar.one) * (size - Scalar.ofNat 2)) * scaled)

/-- The bias-corrected excess kurtosis of `n` values, from the sums of squares and fourth powers. -/
def kurtosis? (n : Nat) (m2 m4 : α) : Option α :=
  let size : α := Scalar.ofNat n
  let variance := m2 / (size - Scalar.one)
  if n < 4 then none
  else if variance < zeroVariance then some Scalar.zero
  else
    let above := size * (size + Scalar.one) * m4
      - Scalar.ofNat 3 * m2 * m2 * (size - Scalar.one)
    let below := (size - Scalar.one) * (size - Scalar.ofNat 2) * (size - Scalar.ofNat 3)
      * variance * variance
    some (above / below)

end Stats

/-- The statistics of a sample. Variance and standard deviation are those of the whole sample, and
skewness and kurtosis are estimates. -/
structure Stats (α : Type) where
  size : Nat
  min : Option α
  max : Option α
  median : Option α
  mean : Option α
  standardDeviation : Option α
  variance : Option α
  skewness : Option α
  kurtosis : Option α

namespace Stats

variable {α : Type} [Scalar α]

def empty : Stats α :=
  ⟨0, none, none, none, none, none, none, none, none⟩

def sorted (values : List α) : List α :=
  values.mergeSort Scalar.sortsBefore

def ofValues (values : List α) : Stats α :=
  if values.isEmpty then empty
  else
    let n := values.length
    let ascending := sorted values
    let mean := Scalar.sum values / Scalar.ofNat n
    let m2 := momentSum square mean values
    let variance := m2 / Scalar.ofNat n
    { size := n
      min := ascending.head?
      max := ascending.getLast?
      median := percentile? ascending (Scalar.ofNat 50)
      mean := some mean
      standardDeviation := some (Scalar.sqrt variance)
      variance := some variance
      skewness := skewness? n m2 (momentSum cube mean values)
      kurtosis := kurtosis? n m2 (momentSum fourthPower mean values) }

end Stats

end TermScore
