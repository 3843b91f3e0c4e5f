import TermScore.Proofs.Percentile

/-!
# Statistics of a sample that is reordered, moved or mirrored

The order of the values does not matter. When all values grow by one number, so do the places in the
sample, and its spread and shape stay. When all values change their sign, the sample is read from its
other end.
-/

namespace TermScore.Stats

open Scalar

variable {xs ys : List ℚ}

/-! ## Averages -/

def average (xs : List ℚ) : ℚ :=
  xs.sum / xs.length

theorem average_add (ne : xs ≠ []) (c : ℚ) : average (xs.map (· + c)) = average xs + c := by
  have hn : (xs.length : ℚ) ≠ 0 := by simpa using ne
  unfold average
  rw [List.sum_map_add, List.map_id', List.map_const', List.sum_replicate, List.length_map,
    nsmul_eq_mul, add_div, mul_div_cancel_left₀ c hn]

theorem average_neg (xs : List ℚ) : average (xs.map (-·)) = -average xs := by
  unfold average
  rw [← List.sum_neg, List.length_map, neg_div]

/-- The sum of the powers of the distances from the average. -/
def deviation (k : Nat) (xs : List ℚ) : ℚ :=
  (xs.map fun x => (x - average xs) ^ k).sum

theorem deviation_perm (k : Nat) (h : xs.Perm ys) : deviation k xs = deviation k ys := by
  have same : average xs = average ys := by
    unfold average
    rw [h.sum_eq, h.length_eq]
  unfold deviation
  rw [same, (h.map _).sum_eq]

theorem deviation_add (k : Nat) (ne : xs ≠ []) (c : ℚ) :
    deviation k (xs.map (· + c)) = deviation k xs := by
  unfold deviation
  rw [average_add ne, List.map_map]
  congr 2
  funext x
  rw [Function.comp_apply, add_sub_add_right_eq_sub]

theorem deviation_neg (k : Nat) (xs : List ℚ) :
    deviation k (xs.map (-·)) = (-1) ^ k * deviation k xs := by
  unfold deviation
  rw [average_neg, List.map_map, ← List.sum_map_mul_left]
  congr 2
  funext x
  rw [Function.comp_apply, ← mul_pow]
  congr 1
  ring

theorem deviation_two_eq_zero_iff : deviation 2 xs = 0 ↔ ∀ x ∈ xs, ∀ y ∈ xs, x = y := by
  have nonneg : ∀ d ∈ xs.map fun x => (x - average xs) ^ 2, 0 ≤ d := by
    simp only [List.forall_mem_map]
    exact fun x _ => sq_nonneg _
  unfold deviation
  rw [sum_eq_zero_iff_of_nonneg nonneg]
  simp only [List.forall_mem_map, sq_eq_zero_iff, sub_eq_zero]
  constructor
  · intro h x hx y hy
    rw [h x hx, h y hy]
  · intro h x hx
    have constant : xs.sum = xs.length * x := by
      rw [← nsmul_eq_mul]
      exact List.sum_eq_card_nsmul xs x fun y hy => h y hy x hx
    have hn : (xs.length : ℚ) ≠ 0 := by simpa using List.ne_nil_of_mem hx
    rw [average, constant, mul_div_cancel_left₀ x hn]

/-! ## Sorted values -/

theorem sorted_perm (xs : List ℚ) : (sorted xs).Perm xs :=
  List.mergeSort_perm ..

theorem sorted_ne_nil (ne : xs ≠ []) : sorted xs ≠ [] :=
  fun h => ne (List.nil_perm.mp (h ▸ sorted_perm xs))

theorem pairwise_sorted_le (xs : List ℚ) : (sorted xs).Pairwise (· ≤ ·) :=
  List.pairwise_mergeSort' (· ≤ ·) xs

theorem eq_sorted (h : ys.Pairwise (· ≤ ·)) (perm : ys.Perm xs) : ys = sorted xs :=
  (perm.trans (sorted_perm xs).symm).eq_of_pairwise (fun _ _ _ _ => le_antisymm) h
    (pairwise_sorted_le xs)

theorem sorted_add (xs : List ℚ) (c : ℚ) : sorted (xs.map (· + c)) = (sorted xs).map (· + c) := by
  refine (eq_sorted ?_ ((sorted_perm xs).map _)).symm
  exact (pairwise_sorted_le xs).map _ fun x y h => add_le_add_left h c

theorem sorted_neg (xs : List ℚ) :
    sorted (xs.map (-·)) = ((sorted xs).map (-·)).reverse := by
  refine (eq_sorted ?_ ((List.reverse_perm _).trans ((sorted_perm xs).map _))).symm
  exact List.pairwise_reverse.mpr ((pairwise_sorted_le xs).map _ fun x y h => neg_le_neg h)

/-! ## Medians -/

/-- The middle of a list, or halfway between the two values that share it. -/
def middle (l : List ℚ) : ℚ :=
  (l.getD ((l.length - 1) / 2) 0 + l.getD (l.length / 2) 0) / 2

theorem percentile?_fifty {l : List ℚ} (ne : l ≠ []) : percentile? l 50 = some (middle l) := by
  have pos := List.length_pos_iff.mpr ne
  obtain ⟨v, found, value⟩ := exists_percentile? ne 50
  rw [found, middle]
  congr 1
  rcases Nat.even_or_odd' l.length with ⟨m, even | odd⟩
  · obtain ⟨m, rfl⟩ : ∃ j, m = j + 1 := Nat.exists_eq_add_of_le' (by omega)
    rw [show (l.length - 1) / 2 = m by omega, show l.length / 2 = m + 1 by omega,
      List.getD_eq_getElem _ _ (by omega), List.getD_eq_getElem _ _ (by omega)]
    exact value.median_of_even even
  · rw [show (l.length - 1) / 2 = m by omega, show l.length / 2 = m by omega,
      List.getD_eq_getElem _ _ (by omega), add_self_div_two]
    exact value.median_of_odd odd

theorem middle_add {l : List ℚ} (ne : l ≠ []) (c : ℚ) : middle (l.map (· + c)) = middle l + c := by
  have pos := List.length_pos_iff.mpr ne
  unfold middle
  rw [List.length_map]
  rw [List.getD_eq_getElem _ _ (by simp; omega), List.getD_eq_getElem _ _ (by simp; omega),
    List.getD_eq_getElem _ _ (by omega), List.getD_eq_getElem _ _ (by omega), List.getElem_map,
    List.getElem_map]
  ring

theorem middle_neg {l : List ℚ} (ne : l ≠ []) : middle (l.map (-·)).reverse = -middle l := by
  have pos := List.length_pos_iff.mpr ne
  unfold middle
  rw [List.length_reverse, List.length_map]
  rw [List.getD_eq_getElem _ _ (by simp; omega), List.getD_eq_getElem _ _ (by simp; omega),
    List.getD_eq_getElem _ _ (by omega), List.getD_eq_getElem _ _ (by omega), List.getElem_reverse,
    List.getElem_reverse, List.getElem_map, List.getElem_map]
  have first : l.length - 1 - (l.length - 1) / 2 = l.length / 2 := by omega
  have second : l.length - 1 - l.length / 2 = (l.length - 1) / 2 := by omega
  simp only [List.length_map, first, second]
  ring

/-! ## All statistics -/

theorem ofValues_eq (root : ℚ → ℚ) (ne : xs ≠ []) :
    @ofValues ℚ (exact root) xs =
      { size := xs.length
        min := (sorted xs).head?
        max := (sorted xs).getLast?
        median := some (middle (sorted xs))
        mean := some (average xs)
        standardDeviation := some (root (deviation 2 xs / xs.length))
        variance := some (deviation 2 xs / xs.length)
        skewness := @skewness? ℚ (exact root) xs.length (deviation 2 xs) (deviation 3 xs)
        kurtosis := kurtosis? xs.length (deviation 2 xs) (deviation 4 xs) } := by
  let := exact root
  have mean : sum xs / ofNat xs.length = average xs :=
    congrArg (· / (xs.length : ℚ)) (sum_eq xs)
  have moment (power : ℚ → ℚ) (k : Nat) (h : ∀ x, power x = x ^ k) :
      momentSum power (average xs) xs = deviation k xs := by
    have : momentSum power (average xs) xs = (xs.map fun x => power (x - average xs)).sum := sum_eq _
    rw [this, deviation]
    simp only [h]
  have m2 := moment square 2 fun x => (pow_two x).symm
  have m3 := moment cube 3 fun x => (pow_three' x).symm
  have m4 := moment fourthPower 4 fun x => by rw [pow_mul x 2 2, pow_two, pow_two]; rfl
  unfold ofValues
  rw [if_neg (by simpa using ne)]
  dsimp only
  rw [mean, m2, m3, m4, ← percentile?_fifty (sorted_ne_nil ne)]
  rfl

/-- The statistics of a sample in which every value is larger by `c`. -/
def shifted (c : ℚ) (s : Stats ℚ) : Stats ℚ :=
  { s with
    min := s.min.map (· + c)
    max := s.max.map (· + c)
    median := s.median.map (· + c)
    mean := s.mean.map (· + c) }

/-- The statistics of a sample in which every value has the other sign. -/
def mirrored (s : Stats ℚ) : Stats ℚ :=
  { s with
    min := s.max.map (-·)
    max := s.min.map (-·)
    median := s.median.map (-·)
    mean := s.mean.map (-·)
    skewness := s.skewness.map (-·) }

theorem ofValues_perm (root : ℚ → ℚ) (h : xs.Perm ys) :
    @ofValues ℚ (exact root) xs = @ofValues ℚ (exact root) ys := by
  have same : sorted xs = sorted ys := eq_sorted (pairwise_sorted_le xs) ((sorted_perm xs).trans h)
  have average : average xs = average ys := by
    unfold Stats.average
    rw [h.sum_eq, h.length_eq]
  rcases eq_or_ne xs [] with rfl | ne
  · rw [List.nil_perm.mp h]
  · have ne' : ys ≠ [] := fun he => ne (List.perm_nil.mp (he ▸ h))
    rw [ofValues_eq root ne, ofValues_eq root ne', same, average, h.length_eq, deviation_perm 2 h,
      deviation_perm 3 h, deviation_perm 4 h]

theorem ofValues_add (root : ℚ → ℚ) (xs : List ℚ) (c : ℚ) :
    @ofValues ℚ (exact root) (xs.map (· + c)) = (@ofValues ℚ (exact root) xs).shifted c := by
  rcases eq_or_ne xs [] with rfl | ne
  · rfl
  · have ne' : xs.map (· + c) ≠ [] := by simpa using ne
    rw [ofValues_eq root ne, ofValues_eq root ne', sorted_add, middle_add (sorted_ne_nil ne),
      average_add ne, deviation_add 2 ne, deviation_add 3 ne, deviation_add 4 ne, List.length_map,
      List.head?_map, List.getLast?_map]
    rfl

theorem skewness?_neg (root : ℚ → ℚ) (n : Nat) (m2 m3 : ℚ) :
    @skewness? ℚ (exact root) n m2 (-m3) = (@skewness? ℚ (exact root) n m2 m3).map (-·) := by
  unfold skewness?
  dsimp only
  split_ifs
  · rfl
  · have zero : @Scalar.zero ℚ (exact root) = 0 := zero_eq
    rw [Option.map_some, zero, neg_zero]
  · rw [Option.map_some, neg_div, mul_neg]

theorem ofValues_neg (root : ℚ → ℚ) (xs : List ℚ) :
    @ofValues ℚ (exact root) (xs.map (-·)) = (@ofValues ℚ (exact root) xs).mirrored := by
  rcases eq_or_ne xs [] with rfl | ne
  · rfl
  · have ne' : xs.map (-·) ≠ [] := by simpa using ne
    have m2 : deviation 2 (xs.map (-·)) = deviation 2 xs := by rw [deviation_neg]; ring
    have m3 : deviation 3 (xs.map (-·)) = -deviation 3 xs := by rw [deviation_neg]; ring
    have m4 : deviation 4 (xs.map (-·)) = deviation 4 xs := by rw [deviation_neg]; ring
    rw [ofValues_eq root ne, ofValues_eq root ne', sorted_neg, middle_neg (sorted_ne_nil ne),
      average_neg, m2, m3, m4, skewness?_neg, List.length_map, List.head?_reverse,
      List.getLast?_reverse, List.head?_map, List.getLast?_map]
    rfl

/-! ## Bounds -/

/-- The average and the median are between the least value and the greatest, and there is no spread
only where all values are the same. -/
structure Bounds (xs : List ℚ) (least greatest median mean variance : ℚ) : Prop where
  least_mem : least ∈ xs
  greatest_mem : greatest ∈ xs
  within : ∀ x ∈ xs, least ≤ x ∧ x ≤ greatest
  median : least ≤ median ∧ median ≤ greatest
  mean : least ≤ mean ∧ mean ≤ greatest
  variance_nonneg : 0 ≤ variance
  variance_eq_zero_iff : variance = 0 ↔ ∀ x ∈ xs, ∀ y ∈ xs, x = y

theorem average_mem {a b : ℚ} (ne : xs ≠ []) (within : ∀ x ∈ xs, a ≤ x ∧ x ≤ b) :
    a ≤ average xs ∧ average xs ≤ b := by
  have hn : (0 : ℚ) < xs.length := by exact_mod_cast List.length_pos_iff.mpr ne
  unfold average
  rw [le_div_iff₀ hn, div_le_iff₀ hn, mul_comm a, mul_comm b, ← nsmul_eq_mul, ← nsmul_eq_mul]
  constructor
  · exact List.card_nsmul_le_sum xs a fun x hx => (within x hx).1
  · exact List.sum_le_card_nsmul xs b fun x hx => (within x hx).2

theorem exists_bounds (root : ℚ → ℚ) (ne : xs ≠ []) :
    ∃ least greatest median mean variance, Bounds xs least greatest median mean variance ∧
      (@ofValues ℚ (exact root) xs).min = some least ∧
      (@ofValues ℚ (exact root) xs).max = some greatest ∧
      (@ofValues ℚ (exact root) xs).median = some median ∧
      (@ofValues ℚ (exact root) xs).mean = some mean ∧
      (@ofValues ℚ (exact root) xs).variance = some variance := by
  have ne' := sorted_ne_nil ne
  have hn : (0 : ℚ) < xs.length := by exact_mod_cast List.length_pos_iff.mpr ne
  have ascending := pairwise_sorted_le xs
  have within : ∀ x ∈ xs, (sorted xs).head ne' ≤ x ∧ x ≤ (sorted xs).getLast ne' := by
    intro x hx
    obtain ⟨i, hi, rfl⟩ := List.getElem_of_mem ((sorted_perm xs).mem_iff.mpr hx)
    rw [List.head_eq_getElem, List.getLast_eq_getElem]
    exact ⟨getElem_mono ascending (Nat.zero_le i) hi,
      getElem_mono ascending (Nat.le_sub_one_of_lt hi) _⟩
  obtain ⟨v, found, value⟩ := exists_percentile? ne' 50
  rw [percentile?_fifty ne'] at found
  obtain rfl := Option.some.inj found
  rw [ofValues_eq root ne]
  refine ⟨_, _, _, _, _, ⟨?_, ?_, within, value.mem_bounds ascending ne', average_mem ne within, ?_, ?_⟩,
    List.head?_eq_some_head ne', List.getLast?_eq_some_getLast ne', rfl, rfl, rfl⟩
  · exact (sorted_perm xs).mem_iff.mp (List.head_mem ne')
  · exact (sorted_perm xs).mem_iff.mp (List.getLast_mem ne')
  · apply div_nonneg _ hn.le
    apply List.sum_nonneg
    simp only [List.forall_mem_map]
    exact fun x _ => sq_nonneg _
  · rw [div_eq_zero_iff, or_iff_left hn.ne', deviation_two_eq_zero_iff]

/-! ## Kurtosis -/

theorem zeroVariance_pos : (0 : ℚ) < zeroVariance := by
  rw [zeroVariance, ofNat_eq, one_eq]
  exact one_div_pos.mpr (Nat.cast_pos.mpr (by decide))

/-- The usual estimate, in which the variance `m2 / (n - 1)` is that of a sample. -/
theorem kurtosis?_eq {n : Nat} (enough : 4 ≤ n) {m2 m4 : ℚ} (spread : zeroVariance ≤ m2 / (n - 1)) :
    kurtosis? n m2 m4 = some (n * (n + 1) / ((n - 1) * (n - 2) * (n - 3)) *
      (m4 / (m2 / (n - 1)) ^ 2) - 3 * (n - 1) ^ 2 / ((n - 2) * (n - 3))) := by
  have size : (4 : ℚ) ≤ n := by exact_mod_cast enough
  have h1 : (n - 1 : ℚ) ≠ 0 := by linarith
  have h2 : (n - 2 : ℚ) ≠ 0 := by linarith
  have h3 : (n - 3 : ℚ) ≠ 0 := by linarith
  have hm2 : m2 ≠ 0 := by
    rintro rfl
    rw [zero_div] at spread
    exact zeroVariance_pos.not_ge spread
  unfold kurtosis?
  simp only [ofNat_eq, one_eq]
  rw [if_neg (Nat.not_lt.mpr enough), if_neg (not_lt.mpr spread)]
  congr 1
  push_cast
  field_simp

/-! ## Samples -/

/-- The statistics of a sample follow its values, whatever roots are. -/
theorem ofValues_follows (root : ℚ → ℚ) :
    (∀ xs ys : List ℚ, xs.Perm ys → @ofValues ℚ (exact root) xs = @ofValues ℚ (exact root) ys) ∧
      (∀ xs : List ℚ, xs ≠ [] → ∃ least greatest median mean variance,
        Bounds xs least greatest median mean variance ∧
        (@ofValues ℚ (exact root) xs).min = some least ∧
        (@ofValues ℚ (exact root) xs).max = some greatest ∧
        (@ofValues ℚ (exact root) xs).median = some median ∧
        (@ofValues ℚ (exact root) xs).mean = some mean ∧
        (@ofValues ℚ (exact root) xs).variance = some variance) ∧
      (∀ (xs : List ℚ) (c : ℚ), @ofValues ℚ (exact root) (xs.map (· + c)) =
        (@ofValues ℚ (exact root) xs).shifted c) ∧
      (∀ xs : List ℚ, @ofValues ℚ (exact root) (xs.map (-·)) =
        (@ofValues ℚ (exact root) xs).mirrored) ∧
      ∀ (xs : List ℚ) (n : Nat) (m2 m4 s2 : ℚ), xs.length = n → 4 ≤ n →
        (xs.map fun x => (x - xs.sum / n) ^ 2).sum = m2 →
        (xs.map fun x => (x - xs.sum / n) ^ 4).sum = m4 → m2 / (n - 1) = s2 → zeroVariance ≤ s2 →
        (@ofValues ℚ (exact root) xs).kurtosis =
          some (n * (n + 1) / ((n - 1) * (n - 2) * (n - 3)) * (m4 / s2 ^ 2) -
            3 * (n - 1) ^ 2 / ((n - 2) * (n - 3))) := by
  refine ⟨fun _ _ => ofValues_perm root, fun _ => exists_bounds root, ofValues_add root,
    ofValues_neg root, ?_⟩
  rintro xs n m2 m4 s2 rfl enough rfl rfl rfl spread
  have ne : xs ≠ [] := by
    rintro rfl
    simp at enough
  rw [ofValues_eq root ne]
  exact kurtosis?_eq enough spread

theorem ofValues_four_one_three_two :
    (ofValues ([4, 1, 3, 2] : List ℚ)).kurtosis = some (-6 / 5) ∧
      (ofValues ([4, 1, 3, 2] : List ℚ)).variance ≠ some 0 := by
  obtain ⟨-, bounds, -, -, kurtosis⟩ := ofValues_follows Rat.sqrt
  constructor
  · refine (kurtosis [4, 1, 3, 2] 4 5 (41 / 4) (5 / 3) rfl le_rfl ?_ ?_ ?_ ?_).trans ?_
    all_goals norm_num [zeroVariance, ofNat_eq, one_eq]
  · obtain ⟨_, _, _, _, variance, within, -, -, -, -, found⟩ := bounds [4, 1, 3, 2] (by decide)
    rw [show (ofValues ([4, 1, 3, 2] : List ℚ)).variance = some variance from found]
    intro h
    have same := within.variance_eq_zero_iff.mp (Option.some.inj h) 4 (by decide) 1 (by decide)
    norm_num at same

end TermScore.Stats
