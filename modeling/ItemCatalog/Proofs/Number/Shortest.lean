import Mathlib.Data.Nat.Factorization.Basic
import ItemCatalog.Proofs.Number.Rounding

/-! # Shortest decimals: what the digits of a number are

`shortest` searches grids of more and more digits for a decimal that is rounded to a number. This
module says what it finds without the search: `IsShortest` calls a decimal shortest if no decimal
with fewer digits, and no nearer one with as many, is rounded to the same number.

* `readsTo_shortest`: seventeen digits are always enough, so the decimal that is found reads back.
* `isShortest_shortest`, `IsShortest.unique`: it is the only shortest decimal of its number.
* `isShortest_of_fewDigits`, `eq_of_fewDigits`: a decimal of at most fifteen digits is the shortest
  of its number, and no other such decimal is rounded to that number. -/

namespace ItemCatalog.Number

/-- The rational that a decimal writes. -/
def Decimal.value (d : Decimal) : ℚ :=
  d.digits * 10 ^ d.exponent

/-! ### Powers of two and of ten -/

/-- `10 ^ 3` is a little less than `2 ^ 10`, and `10 ^ 28` a little more than `2 ^ 93`. -/
theorem ten_zpow_le_two_zpow {a b : ℤ} (h : 10 * a ≤ 3 * b) (h' : 93 * a ≤ 28 * b) :
    (10 : ℚ) ^ a ≤ 2 ^ b := by
  have hcomm : ∀ (x : ℚ) (c : ℤ) (n : ℕ), (x ^ c) ^ n = (x ^ n) ^ c := by
    intro x c n
    rw [← zpow_natCast, ← zpow_natCast, zpow_comm]
  have htwo : ∀ (c : ℤ) (n : ℕ), ((2 : ℚ) ^ n) ^ c = 2 ^ (n * c) := by
    intro c n
    rw [← zpow_natCast, ← zpow_mul]
  rcases le_total 0 a with ha | ha
  · refine (pow_le_pow_iff_left₀ (by positivity) (by positivity) three_ne_zero).mp ?_
    calc ((10 : ℚ) ^ a) ^ 3 = (10 ^ 3) ^ a := hcomm 10 a 3
      _ ≤ (2 ^ 10) ^ a := zpow_le_zpow_left₀ ha (by norm_num) (by norm_num)
      _ = 2 ^ (10 * a) := htwo a 10
      _ ≤ 2 ^ (3 * b) := zpow_le_zpow_right₀ one_le_two h
      _ = (2 ^ 3) ^ b := (htwo b 3).symm
      _ = (2 ^ b) ^ 3 := (hcomm 2 b 3).symm
  · refine (pow_le_pow_iff_left₀ (by positivity) (by positivity)
      (show (28 : ℕ) ≠ 0 by norm_num)).mp ?_
    calc ((10 : ℚ) ^ a) ^ 28 = (10 ^ 28) ^ a := hcomm 10 a 28
      _ ≤ (2 ^ 93) ^ a := by
        have hneg : ((2 : ℚ) ^ 93) ^ (-a) ≤ (10 ^ 28) ^ (-a) :=
          zpow_le_zpow_left₀ (neg_nonneg.mpr ha) (by norm_num) (by norm_num)
        rw [zpow_neg, zpow_neg] at hneg
        exact (inv_le_inv₀ (by positivity) (by positivity)).mp hneg
      _ = 2 ^ (93 * a) := htwo a 93
      _ ≤ 2 ^ (28 * b) := zpow_le_zpow_right₀ one_le_two h'
      _ = (2 ^ 28) ^ b := (htwo b 28).symm
      _ = (2 ^ b) ^ 28 := (hcomm 2 b 28).symm

theorem two_zpow_le_ten_zpow {a b : ℤ} (h : 3 * b ≤ 10 * a) (h' : 28 * b ≤ 93 * a) :
    (2 : ℚ) ^ b ≤ 10 ^ a := by
  have hinv := ten_zpow_le_two_zpow (a := -a) (b := -b) (by omega) (by omega)
  rw [zpow_neg, zpow_neg] at hinv
  exact (inv_le_inv₀ (by positivity) (by positivity)).mp hinv

/-! ### Magnitudes -/

section Magnitude
variable {num den : ℕ} (hnum : 0 < num) (hden : 0 < den)
include hnum hden

theorem leastPower_eq {k : ℤ} {n : ℕ} (hlow : k ≤ Int.log 10 ((num : ℚ) / den) + 1)
    (hhigh : Int.log 10 ((num : ℚ) / den) + 1 ≤ k + n) :
    leastPower num den k n = Int.log 10 ((num : ℚ) / den) + 1 := by
  have hten : 0 < 10 := by norm_num
  have hq : (0 : ℚ) < num / den := by positivity
  induction n generalizing k with
  | zero =>
    unfold leastPower
    omega
  | succ n ih =>
    unfold leastPower
    simp only [← Nat.not_le, zpow_le_div_iff hten k hden,
      Int.zpow_le_iff_le_log (show 1 < 10 by norm_num) hq]
    split
    · omega
    · exact ih (by omega) (by push_cast at hhigh; omega)

/-- **The magnitude** of a quotient in the range of the numbers is one more than its logarithm. -/
theorem decimalMagnitude_eq (hlow : (2 : ℚ) ^ (-1074 : ℤ) ≤ num / den)
    (hhigh : (num : ℚ) / den < 2 ^ (1024 : ℤ)) :
    decimalMagnitude num den = Int.log 10 ((num : ℚ) / den) + 1 := by
  have hten : 1 < 10 := by norm_num
  have hq : (0 : ℚ) < num / den := by positivity
  obtain ⟨hbelow, habove⟩ := Binary64.log2_sub_log2_bounds hnum hden
  have hlt : (num.log2 : ℤ) - den.log2 - 1 < 1024 :=
    (zpow_lt_zpow_iff_right₀ one_lt_two).mp (hbelow.trans hhigh)
  have hgt : (-1074 : ℤ) < (num.log2 : ℤ) - den.log2 + 1 :=
    (zpow_lt_zpow_iff_right₀ one_lt_two).mp (hlow.trans_lt habove)
  unfold decimalMagnitude
  generalize (num.log2 : ℤ) - den.log2 = l at hbelow habove hlt hgt ⊢
  -- The estimate takes a hundred thousand binary digits for 30103 decimal ones.
  refine leastPower_eq hnum hden ?_ ?_
  · have hpow : (10 : ℚ) ^ (l * 30103 / 100000 - 2 - 1) ≤ 2 ^ (l - 1) :=
      ten_zpow_le_two_zpow (by omega) (by omega)
    have := (Int.zpow_le_iff_le_log hten hq).mp
      (by rw [Nat.cast_ofNat]; exact hpow.trans hbelow.le)
    omega
  · have hpow : (2 : ℚ) ^ (l + 1) ≤ 10 ^ (l * 30103 / 100000 - 2 + 6) :=
      two_zpow_le_ten_zpow (by omega) (by omega)
    have := (Int.lt_zpow_iff_log_lt hten hq).mp
      (by rw [Nat.cast_ofNat]; exact habove.trans_le hpow)
    push_cast
    omega

end Magnitude

namespace Binary64

/-! ### Rationals that are rounded to a number -/

/-- A rational is rounded to the number with these parts. -/
def ReadsTo (m : ℕ) (e : ℤ) (q : ℚ) : Prop :=
  ofRational q = .finite false m e

theorem readsBack_iff {m : ℕ} {e : ℤ} (d : Decimal) :
    readsBack m e d = true ↔ ReadsTo m e d.value := by
  unfold readsBack ReadsTo Decimal.value
  rw [beq_iff_eq, ofDecimal_eq]

theorem ratio_pos {m : ℕ} (hm : 0 < m) (e : ℤ) : 0 < (ratio m e).1 ∧ 0 < (ratio m e).2 := by
  obtain ⟨hp, hp'⟩ := powerRatio_pos two_pos e
  exact ⟨Nat.mul_pos hm hp, hp'⟩

theorem ratio_value (m : ℕ) (e : ℤ) : ((ratio m e).1 : ℚ) / (ratio m e).2 = m * 2 ^ e := by
  have hpow := powerRatio_value 2 e
  unfold ratio
  push_cast at hpow ⊢
  rw [mul_div_assoc, hpow]

section Number
variable {m : ℕ} {e : ℤ} (h : Canonical m e) (hmax : e ≤ maxExponent) (hm : 0 < m)

section
include h hmax

theorem readsTo_iff {q : ℚ} (hq : 0 < q) : ReadsTo m e q ↔ rounded q = m * 2 ^ e := by
  unfold ReadsTo
  rw [ofRational_eq_finite_iff hq]
  simp [h, hmax]

/-- The rationals that are rounded to one number have no gaps. -/
theorem ReadsTo.between {q q' r : ℚ} (hq : 0 < q) (hle : q ≤ r) (hle' : r ≤ q')
    (hread : ReadsTo m e q) (hread' : ReadsTo m e q') : ReadsTo m e r := by
  have hr := hq.trans_le hle
  rw [readsTo_iff h hmax hq] at hread
  rw [readsTo_iff h hmax (hr.trans_le hle')] at hread'
  rw [readsTo_iff h hmax hr, ← hread]
  exact rounded_eq_of_between hq hle hle' (hread.trans hread'.symm)

/-- Two rationals that are rounded to one number differ by at most its last place. -/
theorem ReadsTo.dist_le {q q' : ℚ} (hq : 0 < q) (hq' : 0 < q') (hread : ReadsTo m e q)
    (hread' : ReadsTo m e q') : |q - q'| ≤ 2 ^ e := by
  have hdist := abs_sub_le_of_rounded hq h ((readsTo_iff h hmax hq).mp hread)
  have hdist' := abs_sub_le_of_rounded hq' h ((readsTo_iff h hmax hq').mp hread')
  rw [abs_sub_comm] at hdist'
  calc |q - q'| ≤ |q - m * 2 ^ e| + |m * 2 ^ e - q'| := abs_sub_le _ _ _
    _ ≤ 2 ^ e / 2 + 2 ^ e / 2 := add_le_add hdist hdist'
    _ = 2 ^ e := add_halves _

end

include hm in
theorem ReadsTo.pos {q : ℚ} (hq : 0 ≤ q) (hread : ReadsTo m e q) : 0 < q := by
  rcases hq.eq_or_lt with rfl | hq
  · unfold ReadsTo at hread
    rw [ofRational_zero] at hread
    cases hread
    omega
  · exact hq

include h hmax hm

theorem readsTo_value : ReadsTo m e (m * 2 ^ e) :=
  (readsTo_iff h hmax (by positivity)).mpr (h.rounded_eq hm)

/-- **The magnitude** of a number. -/
theorem decimalMagnitude_ratio :
    decimalMagnitude (ratio m e).1 (ratio m e).2 = Int.log 10 ((m : ℚ) * 2 ^ e) + 1 := by
  have hmin := h.least
  have hmq : (1 : ℚ) ≤ m := by exact_mod_cast hm
  have hbelow : (m : ℚ) < 2 ^ (53 : ℤ) := by exact_mod_cast h.below
  obtain ⟨hnum, hden⟩ := ratio_pos hm e
  rw [← ratio_value]
  refine decimalMagnitude_eq hnum hden ?_ ?_
  · rw [ratio_value]
    calc (2 : ℚ) ^ (-1074 : ℤ) ≤ 2 ^ e := zpow_le_zpow_right₀ one_le_two hmin
      _ = 1 * 2 ^ e := (one_mul _).symm
      _ ≤ m * 2 ^ e := by gcongr
  · rw [ratio_value]
    calc (m : ℚ) * 2 ^ e < 2 ^ (53 : ℤ) * 2 ^ e := by gcongr
      _ = 2 ^ (53 + e) := (zpow_add₀ two_ne_zero _ _).symm
      _ ≤ 2 ^ (1024 : ℤ) := by
        unfold maxExponent at hmax
        exact zpow_le_zpow_right₀ one_le_two (by omega)

end Number

/-! ### One grid -/

/-- A decimal of a grid is the nearest one that is rounded to a number. -/
structure BestOnGrid (m : ℕ) (e place : ℤ) (d : Decimal) : Prop where
  exponent_eq : d.exponent = place
  reads : ReadsTo m e d.value
  near : ∀ n : ℕ, ReadsTo m e (n * 10 ^ place) →
    |(m : ℚ) * 2 ^ e - d.value| ≤ |(m : ℚ) * 2 ^ e - n * 10 ^ place|
  even : ∀ n : ℕ, ReadsTo m e (n * 10 ^ place) →
    |(m : ℚ) * 2 ^ e - d.value| = |(m : ℚ) * 2 ^ e - n * 10 ^ place| → n = d.digits ∨ Even d.digits

/-- The position of a number on a grid. -/
def position (m : ℕ) (e place : ℤ) : ℚ :=
  m * 2 ^ e / 10 ^ place

theorem position_nonneg (m : ℕ) (e place : ℤ) : 0 ≤ position m e place := by
  unfold position
  positivity

/-- Distances on a grid are counted in steps. -/
theorem abs_sub_grid (m : ℕ) (e place : ℤ) (q : ℚ) :
    |m * 2 ^ e - q * 10 ^ place| = |position m e place - q| * 10 ^ place := by
  have hstep : (0 : ℚ) < 10 ^ place := by positivity
  have hfactor : m * 2 ^ e - q * 10 ^ place = (position m e place - q) * 10 ^ place := by
    unfold position
    rw [sub_mul, div_mul_cancel₀ _ hstep.ne']
  rw [hfactor, abs_mul, abs_of_pos hstep]

theorem abs_sub_grid_le_iff (m : ℕ) (e place : ℤ) (q q' : ℚ) :
    |m * 2 ^ e - q * 10 ^ place| ≤ |m * 2 ^ e - q' * 10 ^ place| ↔
      |position m e place - q| ≤ |position m e place - q'| := by
  rw [abs_sub_grid, abs_sub_grid]
  exact mul_le_mul_iff_left₀ (by positivity)

theorem abs_sub_grid_inj (m : ℕ) (e place : ℤ) (q q' : ℚ) :
    |m * 2 ^ e - q * 10 ^ place| = |m * 2 ^ e - q' * 10 ^ place| ↔
      |position m e place - q| = |position m e place - q'| := by
  rw [abs_sub_grid, abs_sub_grid]
  exact mul_left_inj' (by positivity)

/-- A decimal is the best of its grid if it reads back and no other that does is as near. -/
theorem bestOnGrid_of {m : ℕ} {e place : ℤ} {k : ℕ} (hread : ReadsTo m e (k * 10 ^ place))
    (hnear : ∀ n : ℕ, ReadsTo m e (n * 10 ^ place) →
      |position m e place - k| ≤ |position m e place - n| ∧
        (|position m e place - k| = |position m e place - n| → n = k ∨ Even k)) :
    BestOnGrid m e place ⟨k, place⟩ where
  exponent_eq := rfl
  reads := hread
  near n hn := (abs_sub_grid_le_iff m e place k n).mpr (hnear n hn).1
  even n hn heq := (hnear n hn).2 ((abs_sub_grid_inj m e place k n).mp heq)

section Search
variable {m : ℕ} {e : ℤ} (h : Canonical m e) (hmax : e ≤ maxExponent) (hm : 0 < m)

/-- What is found on a grid: of the two neighbours of the number, the one that reads back, or the
nearer one if both do. -/
theorem onGrid_cases (m : ℕ) (e place : ℤ) :
    (ReadsTo m e (⌊position m e place⌋₊ * 10 ^ place) ∧
      ReadsTo m e ((⌊position m e place⌋₊ + 1 : ℕ) * 10 ^ place) ∧
      onGrid m e place = some ⟨nearest (position m e place), place⟩) ∨
    (ReadsTo m e (⌊position m e place⌋₊ * 10 ^ place) ∧
      ¬ ReadsTo m e ((⌊position m e place⌋₊ + 1 : ℕ) * 10 ^ place) ∧
      onGrid m e place = some ⟨⌊position m e place⌋₊, place⟩) ∨
    (¬ ReadsTo m e (⌊position m e place⌋₊ * 10 ^ place) ∧
      ReadsTo m e ((⌊position m e place⌋₊ + 1 : ℕ) * 10 ^ place) ∧
      onGrid m e place = some ⟨⌊position m e place⌋₊ + 1, place⟩) ∨
    (¬ ReadsTo m e (⌊position m e place⌋₊ * 10 ^ place) ∧
      ¬ ReadsTo m e ((⌊position m e place⌋₊ + 1 : ℕ) * 10 ^ place) ∧
      onGrid m e place = none) := by
  have hden : 0 < (ratio m e).2 := (powerRatio_pos two_pos e).2
  obtain ⟨hp, hp'⟩ := powerRatio_pos (b := 10) (by norm_num) place
  have hvalue := ratio_value m e
  have hpow := powerRatio_value 10 place
  rw [Nat.cast_ofNat] at hpow
  have hposition : (((ratio m e).1 * (powerRatio 10 place).2 : ℕ) : ℚ) /
      ((ratio m e).2 * (powerRatio 10 place).1 : ℕ) = position m e place := by
    unfold position
    rw [← hvalue, ← hpow]
    push_cast
    rw [div_div_div_eq]
  have hfloor : (ratio m e).1 * (powerRatio 10 place).2 /
      ((ratio m e).2 * (powerRatio 10 place).1) =
      ⌊position m e place⌋₊ := by
    rw [← hposition, Nat.floor_div_eq_div]
  have hround : roundDiv ((ratio m e).1 * (powerRatio 10 place).2)
      ((ratio m e).2 * (powerRatio 10 place).1) = nearest (position m e place) := by
    rw [← hposition, roundDiv_eq_nearest _ (Nat.mul_pos hden hp)]
  unfold onGrid
  simp only [hfloor, hround]
  have hlow := readsBack_iff (m := m) (e := e) ⟨⌊position m e place⌋₊, place⟩
  have hhigh := readsBack_iff (m := m) (e := e) ⟨⌊position m e place⌋₊ + 1, place⟩
  unfold Decimal.value at hlow hhigh
  rw [← hlow, ← hhigh]
  cases readsBack m e ⟨⌊position m e place⌋₊, place⟩ <;>
    cases readsBack m e ⟨⌊position m e place⌋₊ + 1, place⟩ <;> simp

include hm in
theorem ReadsTo.digits_pos {n : ℕ} {place : ℤ} (hread : ReadsTo m e (n * 10 ^ place)) : 0 < n := by
  have hpos := ReadsTo.pos hm (by positivity) hread
  exact_mod_cast pos_of_mul_pos_left hpos (by positivity)

include h hmax hm

/-- If a decimal below reads back, then so does the lower neighbour. -/
theorem readsTo_floor {place : ℤ} {n : ℕ} (hread : ReadsTo m e (n * 10 ^ place))
    (hle : n ≤ ⌊position m e place⌋₊) : ReadsTo m e (⌊position m e place⌋₊ * 10 ^ place) := by
  have hstep : (0 : ℚ) < 10 ^ place := by positivity
  have hn : (0 : ℚ) < n := by exact_mod_cast hread.digits_pos hm
  refine ReadsTo.between h hmax (by positivity) ?_ ?_ hread (readsTo_value h hmax hm)
  · gcongr
  · exact (le_div_iff₀ hstep).mp (Nat.floor_le (position_nonneg m e place))

/-- If a decimal above reads back, then so does the upper neighbour. -/
theorem readsTo_ceil {place : ℤ} {n : ℕ} (hread : ReadsTo m e (n * 10 ^ place))
    (hlt : ⌊position m e place⌋₊ < n) :
    ReadsTo m e ((⌊position m e place⌋₊ + 1 : ℕ) * 10 ^ place) := by
  have hstep : (0 : ℚ) < 10 ^ place := by positivity
  have hv : (0 : ℚ) < m * 2 ^ e := by positivity
  refine ReadsTo.between h hmax hv ?_ ?_ (readsTo_value h hmax hm) hread
  · push_cast
    exact ((div_lt_iff₀ hstep).mp (Nat.lt_floor_add_one (position m e place))).le
  · have : ((⌊position m e place⌋₊ + 1 : ℕ) : ℚ) ≤ n := by exact_mod_cast hlt
    gcongr

/-- **What is found on a grid** is the best of its decimals. -/
theorem onGrid_best {place : ℤ} {d : Decimal} (hd : onGrid m e place = some d) :
    BestOnGrid m e place d := by
  have hfloor := Nat.floor_le (position_nonneg m e place)
  have hceil := Nat.lt_floor_add_one (position m e place)
  have hnearest := isNearest_nearest (position_nonneg m e place)
  rcases onGrid_cases m e place with ⟨hlow, hhigh, hgrid⟩ | ⟨hlow, hhigh, hgrid⟩ |
    ⟨hlow, hhigh, hgrid⟩ | ⟨-, -, hgrid⟩
  · cases hgrid.symm.trans hd
    refine bestOnGrid_of ?_ fun n _ => hnearest.closest n
    rcases nearest_eq_floor (position_nonneg m e place) with hn | hn
    · rwa [hn]
    · rwa [hn]
  · cases hgrid.symm.trans hd
    refine bestOnGrid_of hlow fun n hn => ?_
    -- Nothing above the number reads back.
    have hle : n ≤ ⌊position m e place⌋₊ := by
      by_contra hlt
      exact hhigh (readsTo_ceil h hmax hm hn (Nat.lt_of_not_le hlt))
    have hleq : (n : ℚ) ≤ ⌊position m e place⌋₊ := by exact_mod_cast hle
    rw [abs_of_nonneg (by linarith), abs_of_nonneg (by linarith)]
    refine ⟨by linarith, fun heq => .inl ?_⟩
    exact_mod_cast (by linarith : (n : ℚ) = ⌊position m e place⌋₊)
  · cases hgrid.symm.trans hd
    refine bestOnGrid_of hhigh fun n hn => ?_
    -- Nothing below the number reads back.
    have hlt : ⌊position m e place⌋₊ + 1 ≤ n := by
      by_contra hle
      exact hlow (readsTo_floor h hmax hm hn (by omega))
    have hltq : ((⌊position m e place⌋₊ + 1 : ℕ) : ℚ) ≤ n := by exact_mod_cast hlt
    have hceilq : position m e place < (⌊position m e place⌋₊ + 1 : ℕ) := by exact_mod_cast hceil
    rw [abs_of_nonpos (by linarith), abs_of_nonpos (by linarith)]
    refine ⟨by linarith, fun heq => .inl ?_⟩
    exact_mod_cast (by linarith : (n : ℚ) = (⌊position m e place⌋₊ + 1 : ℕ))
  · cases hgrid.symm.trans hd

/-- If nothing is found on a grid, then none of its decimals reads back. -/
theorem onGrid_none {place : ℤ} (hnone : onGrid m e place = none) (n : ℕ) :
    ¬ ReadsTo m e (n * 10 ^ place) := by
  intro hread
  rcases onGrid_cases m e place with ⟨-, -, hgrid⟩ | ⟨-, -, hgrid⟩ | ⟨-, -, hgrid⟩ |
    ⟨hlow, hhigh, -⟩
  · cases hgrid.symm.trans hnone
  · cases hgrid.symm.trans hnone
  · cases hgrid.symm.trans hnone
  · rcases Nat.lt_or_ge ⌊position m e place⌋₊ n with hlt | hle
    · exact hhigh (readsTo_ceil h hmax hm hread hlt)
    · exact hlow (readsTo_floor h hmax hm hread hle)

/-- **Seventeen digits are enough.** -/
theorem onGrid_seventeen_ne_none :
    onGrid m e (Int.log 10 ((m : ℚ) * 2 ^ e) + 1 - 17) ≠ none := by
  have hv : (0 : ℚ) < m * 2 ^ e := by positivity
  have hlog : (10 : ℚ) ^ Int.log 10 ((m : ℚ) * 2 ^ e) ≤ m * 2 ^ e := by
    exact_mod_cast Int.zpow_log_le_self (b := 10) (by norm_num) hv
  generalize hplace : Int.log 10 ((m : ℚ) * 2 ^ e) + 1 - 17 = place
  have hstep : (0 : ℚ) < 10 ^ place := by positivity
  have hsixteen : (10 : ℚ) ^ 16 * 10 ^ place ≤ m * 2 ^ e := by
    refine le_trans (le_of_eq ?_) hlog
    rw [← zpow_natCast, ← zpow_add₀ (by norm_num)]
    congr 1
    push_cast
    omega
  intro hnone
  -- The nearest decimal of the grid is within half a step, which is close enough.
  refine onGrid_none h hmax hm hnone (nearest (position m e place)) ?_
  have hhalf := abs_sub_nearest_le (position_nonneg m e place)
  have hdist : |(m : ℚ) * 2 ^ e - nearest (position m e place) * 10 ^ place| ≤
      1 / 2 * 10 ^ place := by
    rw [abs_sub_grid]
    gcongr
  have hclose :
      |(m : ℚ) * 2 ^ e - nearest (position m e place) * 10 ^ place| < m * 2 ^ e / 2 ^ 54 := by
    refine hdist.trans_lt ?_
    rw [lt_div_iff₀ (by norm_num)]
    calc (1 : ℚ) / 2 * 10 ^ place * 2 ^ 54 < 10 ^ 16 * 10 ^ place := by linarith
      _ ≤ (m : ℚ) * 2 ^ e := hsixteen
  have hq : (0 : ℚ) < nearest (position m e place) * 10 ^ place := by
    have := (abs_lt.mp hclose).2
    linarith [div_lt_self hv (show (1 : ℚ) < 2 ^ 54 by norm_num)]
  rw [abs_sub_comm] at hclose
  exact (readsTo_iff h hmax hq).mpr (rounded_of_close hq h hclose)

end Search

/-! ### The search -/

/-- The search stops at the first grid on which something is found. -/
theorem firstGrid_spec (m : ℕ) (e k : ℤ) {count n last : ℕ} (hle : count ≤ last)
    (hlt : last < count + n) (hsome : onGrid m e (k - last) ≠ none) :
    ∃ c, count ≤ c ∧ onGrid m e (k - c) = some (firstGrid m e k count n) ∧
      ∀ c', count ≤ c' → c' < c → onGrid m e (k - c') = none := by
  induction n generalizing count with
  | zero => omega
  | succ n ih =>
    unfold firstGrid
    cases hgrid : onGrid m e (k - count) with
    | some d => exact ⟨count, le_rfl, hgrid, fun c' h h' => by omega⟩
    | none =>
      have hne : count ≠ last := by
        rintro rfl
        exact hsome hgrid
      obtain ⟨c, hc, hfound, hbefore⟩ := @ih (count + 1) (by omega) (by omega)
      refine ⟨c, by omega, hfound, fun c' h h' => ?_⟩
      rcases h.eq_or_lt with rfl | h
      · exact hgrid
      · exact hbefore c' h h'

section Number
variable {m : ℕ} {e : ℤ} (h : Canonical m e) (hmax : e ≤ maxExponent) (hm : 0 < m)
include h hmax hm

/-- **What the search finds:** the best decimal of the first grid that has one. -/
theorem shortest_spec : ∃ c : ℕ, 1 ≤ c ∧
    BestOnGrid m e (Int.log 10 ((m : ℚ) * 2 ^ e) + 1 - c) (shortest m e) ∧
    ∀ c' : ℕ, 1 ≤ c' → c' < c → ∀ n : ℕ,
      ¬ ReadsTo m e (n * 10 ^ (Int.log 10 ((m : ℚ) * 2 ^ e) + 1 - c')) := by
  obtain ⟨c, hc, hfound, hbefore⟩ := @firstGrid_spec m e (Int.log 10 ((m : ℚ) * 2 ^ e) + 1)
    1 17 17 (by norm_num) (by norm_num) (onGrid_seventeen_ne_none h hmax hm)
  have hshortest : shortest m e = firstGrid m e (Int.log 10 ((m : ℚ) * 2 ^ e) + 1) 1 17 := by
    unfold shortest
    simp only
    rw [decimalMagnitude_ratio h hmax hm]
  rw [hshortest]
  exact ⟨c, hc, onGrid_best h hmax hm hfound,
    fun c' hc' hlt => onGrid_none h hmax hm (hbefore c' hc' hlt)⟩

/-- **The digits of a number are read back as the number.** -/
theorem readsTo_shortest : ReadsTo m e (shortest m e).value := by
  obtain ⟨c, -, hbest, -⟩ := shortest_spec h hmax hm
  exact hbest.reads

end Number

/-! ### Shortest decimals -/

/-- A rational is a decimal whose last digit has the power `p`. -/
def OnGrid (p : ℤ) (q : ℚ) : Prop :=
  ∃ n : ℕ, q = n * 10 ^ p

/-- A decimal is as short as can be among those that are rounded to the same number, and as near to
the number as can be among the shortest, with an even last digit from halfway. -/
structure IsShortest (q : ℚ) : Prop where
  short : ∀ p q', OnGrid p q' → ofRational q' = ofRational q → OnGrid p q
  near : ∀ p q', OnGrid p q' → ofRational q' = ofRational q → ¬ OnGrid (p + 1) q →
    |rounded q - q| ≤ |rounded q - q'|
  even : ∀ p q', OnGrid p q' → ofRational q' = ofRational q → ¬ OnGrid (p + 1) q →
    |rounded q - q| = |rounded q - q'| → q' = q ∨ ∃ n : ℕ, Even n ∧ q = n * 10 ^ p

theorem OnGrid.finer {p p' : ℤ} {q : ℚ} (hq : OnGrid p q) (hle : p' ≤ p) : OnGrid p' q := by
  obtain ⟨n, rfl⟩ := hq
  obtain ⟨d, hd⟩ : ∃ d : ℕ, p = d + p' := ⟨(p - p').toNat, by omega⟩
  refine ⟨n * 10 ^ d, ?_⟩
  rw [hd, zpow_add₀ (by norm_num), zpow_natCast]
  push_cast
  ring

/-- Two decimals of a grid that are less than a step apart are the same. -/
theorem OnGrid.eq_of_close {p : ℤ} {q q' : ℚ} (hq : OnGrid p q) (hq' : OnGrid p q')
    (hclose : |q - q'| < 10 ^ p) : q = q' := by
  obtain ⟨n, rfl⟩ := hq
  obtain ⟨n', rfl⟩ := hq'
  have hstep : (0 : ℚ) < 10 ^ p := by positivity
  rw [← sub_mul, abs_mul, abs_of_pos hstep, mul_lt_iff_lt_one_left hstep] at hclose
  have : |(n : ℤ) - n'| < 1 := by exact_mod_cast hclose
  rw [Int.abs_lt_one_iff] at this
  rw [show n = n' by omega]

/-- A positive decimal has a last digit. -/
theorem OnGrid.exists_last {p : ℤ} {q : ℚ} (hq : OnGrid p q) (hpos : 0 < q) :
    ∃ p, OnGrid p q ∧ ¬ OnGrid (p + 1) q := by
  obtain ⟨n, rfl⟩ := hq
  have hten : (10 : ℚ) ≠ 0 := by norm_num
  have hn : n ≠ 0 := by
    rintro rfl
    simp at hpos
  obtain ⟨j, n', hdvd, rfl⟩ := Nat.exists_eq_pow_mul_and_not_dvd hn 10 (by norm_num)
  have hvalue : ((10 ^ j * n' : ℕ) : ℚ) * 10 ^ p = n' * 10 ^ (p + j) := by
    rw [zpow_add₀ hten, zpow_natCast]
    push_cast
    ring
  rw [hvalue]
  refine ⟨p + j, ⟨n', rfl⟩, ?_⟩
  rintro ⟨k, hk⟩
  refine hdvd ⟨k, ?_⟩
  have hstep : (10 : ℚ) ^ (p + j) ≠ 0 := by positivity
  rw [zpow_add_one₀ hten, ← mul_assoc, mul_right_comm] at hk
  have := mul_right_cancel₀ hstep hk
  rw [Nat.mul_comm]
  exact_mod_cast this

section Number
variable {m : ℕ} {e : ℤ} (h : Canonical m e) (hmax : e ≤ maxExponent)
include h hmax

/-- **A number has one shortest decimal.** -/
theorem IsShortest.unique (hm : 0 < m) {p : ℤ} {q q' : ℚ} (hshort : IsShortest q)
    (hshort' : IsShortest q') (hgrid : OnGrid p q) (hpos : 0 < q) (hpos' : 0 < q')
    (hread : ReadsTo m e q) (hread' : ReadsTo m e q') : q = q' := by
  have hsame : ofRational q' = ofRational q := Eq.trans hread' (Eq.symm hread)
  have hround := (readsTo_iff h hmax hpos).mp hread
  have hround' := (readsTo_iff h hmax hpos').mp hread'
  -- They have the same last place, and the same distance from the number.
  obtain ⟨p, hp, hlast⟩ := hgrid.exists_last hpos
  have hp' := hshort'.short p q hp hsame.symm
  have hlast' : ¬ OnGrid (p + 1) q' := fun hcoarse => hlast (hshort.short _ _ hcoarse hsame)
  have hdist : |rounded q - q| = |rounded q - q'| := by
    refine le_antisymm (hshort.near p q' hp' hsame hlast) ?_
    have := hshort'.near p q hp hsame.symm hlast'
    rwa [hround', ← hround] at this
  by_contra hne
  have hdist' : |rounded q' - q'| = |rounded q' - q| := by
    rw [hround', ← hround]
    exact hdist.symm
  obtain ⟨n, hn, hqn⟩ := (hshort.even p q' hp' hsame hlast hdist).resolve_left (Ne.symm hne)
  obtain ⟨n', hn', hqn'⟩ := (hshort'.even p q hp hsame.symm hlast' hdist').resolve_left hne
  -- Two even digits have the number itself in the middle, which is nearer than both.
  have hmiddle : rounded q = (q + q') / 2 := by
    rcases abs_eq_abs.mp hdist with heq | heq
    · exact absurd (by linarith) hne
    · linarith
  have hon : OnGrid p (rounded q) := by
    obtain ⟨j, rfl⟩ := hn
    obtain ⟨j', rfl⟩ := hn'
    refine ⟨j + j', ?_⟩
    rw [hmiddle, hqn, hqn']
    push_cast
    ring
  have hvread : ofRational (rounded q) = ofRational q := by
    rw [hround]
    exact Eq.trans (readsTo_value h hmax hm) (Eq.symm hread)
  have hnear := hshort.near p _ hon hvread hlast
  rw [sub_self, abs_zero] at hnear
  have hzero : rounded q - q = 0 := abs_eq_zero.mp (le_antisymm hnear (abs_nonneg _))
  exact hne (by linarith)

section Full
variable (hfull : 2 ^ 52 ≤ m)
include hfull

/-- On a coarse grid only one decimal is rounded to a number. -/
theorem OnGrid.eq_of_reads {p : ℤ} {q q' : ℚ} (hq : OnGrid p q) (hq' : OnGrid p q') (hpos : 0 < q)
    (hpos' : 0 < q') (hread : ReadsTo m e q) (hread' : ReadsTo m e q')
    (hp : Int.log 10 ((m : ℚ) * 2 ^ e) + 1 - 15 ≤ p) : q = q' := by
  refine hq.eq_of_close hq' ((ReadsTo.dist_le h hmax hpos hpos' hread hread').trans_lt ?_)
  have hfullq : (2 : ℚ) ^ 52 ≤ m := by exact_mod_cast hfull
  have hlog : (m : ℚ) * 2 ^ e < 10 ^ (Int.log 10 ((m : ℚ) * 2 ^ e) + 1) := by
    exact_mod_cast Int.lt_zpow_succ_log_self (b := 10) (by norm_num) ((m : ℚ) * 2 ^ e)
  have hplace : (10 : ℚ) ^ (Int.log 10 ((m : ℚ) * 2 ^ e) + 1) ≤ 10 ^ 15 * 10 ^ p := by
    rw [← zpow_natCast, ← zpow_add₀ (by norm_num)]
    refine zpow_le_zpow_right₀ (by norm_num) ?_
    push_cast
    omega
  have hpow : (0 : ℚ) < 2 ^ e := by positivity
  have hlarge : (2 : ℚ) ^ 52 * 2 ^ e ≤ m * 2 ^ e := by gcongr
  have hstep : (0 : ℚ) < 10 ^ p := by positivity
  linarith

omit hfull in
theorem shortest_pos (hm : 0 < m) : 0 < (shortest m e).value := by
  refine ReadsTo.pos hm ?_ (readsTo_shortest h hmax hm)
  unfold Decimal.value
  positivity

/-- A decimal on a grid above the one that is found is the one that is found. -/
theorem exists_coarsest : ∃ p, BestOnGrid m e p (shortest m e) ∧
    ∀ p' q, p < p' → OnGrid p' q → ReadsTo m e q → q = (shortest m e).value := by
  have hm : 0 < m := lt_of_lt_of_le (by norm_num) hfull
  obtain ⟨c, hc, hbest, hbefore⟩ := shortest_spec h hmax hm
  refine ⟨_, hbest, fun p' q hp hq hread => ?_⟩
  rcases lt_or_ge p' (Int.log 10 ((m : ℚ) * 2 ^ e) + 1) with hlt | hge
  · obtain ⟨n, rfl⟩ := hq
    refine absurd ?_ (hbefore (Int.log 10 ((m : ℚ) * 2 ^ e) + 1 - p').toNat (by omega) (by omega) n)
    rw [Int.toNat_of_nonneg (by omega), sub_sub_cancel]
    exact hread
  · -- Only the coarsest grid that is searched has nothing above it but coarser ones.
    have hone : c = 1 := by
      by_contra hne
      obtain ⟨n, rfl⟩ : OnGrid (Int.log 10 ((m : ℚ) * 2 ^ e) + 1 - (1 : ℕ)) q :=
        hq.finer (by omega)
      exact hbefore 1 le_rfl (by omega) n hread
    subst hone
    have hpos : 0 < q := by
      obtain ⟨n, rfl⟩ := hq
      exact ReadsTo.pos hm (by positivity) hread
    have hgrid : OnGrid (Int.log 10 ((m : ℚ) * 2 ^ e) + 1 - (1 : ℕ)) (shortest m e).value := by
      rw [← hbest.exponent_eq]
      exact ⟨_, rfl⟩
    exact OnGrid.eq_of_reads h hmax hfull (hq.finer (by omega)) hgrid hpos
      (shortest_pos h hmax hm) hread hbest.reads (by push_cast; omega)

/-- **The digits of a number are its shortest decimal.** -/
theorem isShortest_shortest : IsShortest (shortest m e).value := by
  have hm : 0 < m := lt_of_lt_of_le (by norm_num) hfull
  obtain ⟨p, hbest, hcoarse⟩ := exists_coarsest h hmax hfull
  have hread := hbest.reads
  have hround := (readsTo_iff h hmax (shortest_pos h hmax hm)).mp hread
  have hgrid : OnGrid p (shortest m e).value := by
    rw [← hbest.exponent_eq]
    exact ⟨_, rfl⟩
  have hreads : ∀ q, ofRational q = ofRational (shortest m e).value → ReadsTo m e q :=
    fun q hsame => Eq.trans hsame hread
  constructor
  · intro p' q hq hsame
    rcases le_or_gt p' p with hle | hlt
    · exact hgrid.finer hle
    · rwa [← hcoarse p' q hlt hq (hreads q hsame)]
  · intro p' q hq hsame hlast
    rcases lt_trichotomy p' p with hlt | rfl | hgt
    · exact absurd (hgrid.finer hlt) hlast
    · obtain ⟨n, rfl⟩ := hq
      rw [hround]
      exact hbest.near n (hreads _ hsame)
    · rw [hcoarse p' q hgt hq (hreads q hsame)]
  · intro p' q hq hsame hlast heq
    rcases lt_trichotomy p' p with hlt | rfl | hgt
    · exact absurd (hgrid.finer hlt) hlast
    · obtain ⟨n, rfl⟩ := hq
      rw [hround] at heq
      rcases hbest.even n (hreads _ hsame) heq with hn | heven
      · left
        rw [hn, ← hbest.exponent_eq]
        rfl
      · right
        refine ⟨_, heven, ?_⟩
        rw [← hbest.exponent_eq]
        rfl
    · exact .inl (hcoarse p' q hgt hq (hreads q hsame))

/-! ### Fifteen digits -/

/-- The last place of a number is below that of a decimal of at most fifteen digits. -/
theorem ReadsTo.lastPlace_lt {n : ℕ} {p : ℤ} (hpos : 0 < n) (hn : n < 10 ^ 15)
    (hread : ReadsTo m e (n * 10 ^ p)) : (2 : ℚ) ^ e < 10 ^ p := by
  have hq : (0 : ℚ) < n * 10 ^ p := by positivity
  have hnq : (n : ℚ) < 10 ^ 15 := by exact_mod_cast hn
  have hfullq : (2 : ℚ) ^ 52 ≤ m := by exact_mod_cast hfull
  have hstep : (0 : ℚ) < 10 ^ p := by positivity
  have hpow : (0 : ℚ) < 2 ^ e := by positivity
  have hdist := abs_sub_le_of_rounded hq h ((readsTo_iff h hmax hq).mp hread)
  have hlow := (abs_le.mp hdist).1
  have hlarge : (2 : ℚ) ^ 52 * 2 ^ e ≤ m * 2 ^ e := by gcongr
  have hsmall : (n : ℚ) * 10 ^ p < 10 ^ 15 * 10 ^ p := by gcongr
  linarith

/-- **A decimal of at most fifteen digits is the shortest of its number.** -/
theorem isShortest_of_fewDigits {n : ℕ} {p : ℤ} (hpos : 0 < n) (hn : n < 10 ^ 15)
    (hread : ReadsTo m e (n * 10 ^ p)) : IsShortest (n * 10 ^ p) := by
  have hm : 0 < m := lt_of_lt_of_le (by norm_num) hfull
  have hgrid : OnGrid p ((n : ℚ) * 10 ^ p) := ⟨n, rfl⟩
  have hq : (0 : ℚ) < n * 10 ^ p := by positivity
  have hplace := hread.lastPlace_lt h hmax hfull hpos hn
  have hcoarse : ∀ p' q', OnGrid p' q' → ofRational q' = ofRational (n * 10 ^ p) → p ≤ p' →
      q' = n * 10 ^ p := by
    intro p' q' hq' hsame hle
    have hread' : ReadsTo m e q' := Eq.trans hsame hread
    have hpos' : 0 < q' := by
      obtain ⟨k, rfl⟩ := hq'
      exact ReadsTo.pos hm (by positivity) hread'
    exact (hq'.finer hle).eq_of_close hgrid
      ((ReadsTo.dist_le h hmax hpos' hq hread' hread).trans_lt hplace)
  constructor
  · intro p' q' hq' hsame
    rcases le_or_gt p' p with hle | hlt
    · exact hgrid.finer hle
    · rwa [← hcoarse p' q' hq' hsame hlt.le]
  · intro p' q' hq' hsame hlast
    rcases lt_or_ge p' p with hlt | hge
    · exact absurd (hgrid.finer hlt) hlast
    · rw [hcoarse p' q' hq' hsame hge]
  · intro p' q' hq' hsame hlast _
    rcases lt_or_ge p' p with hlt | hge
    · exact absurd (hgrid.finer hlt) hlast
    · exact .inl (hcoarse p' q' hq' hsame hge)

/-- **Two decimals of at most fifteen digits are rounded to different numbers.** -/
theorem eq_of_fewDigits {n n' : ℕ} {p p' : ℤ} (hpos : 0 < n) (hpos' : 0 < n') (hn : n < 10 ^ 15)
    (hn' : n' < 10 ^ 15) (hread : ReadsTo m e (n * 10 ^ p))
    (hread' : ReadsTo m e (n' * 10 ^ p')) : (n : ℚ) * 10 ^ p = n' * 10 ^ p' := by
  have hdist := ReadsTo.dist_le h hmax (by positivity) (by positivity) hread hread'
  have hgrid : OnGrid p ((n : ℚ) * 10 ^ p) := ⟨n, rfl⟩
  have hgrid' : OnGrid p' ((n' : ℚ) * 10 ^ p') := ⟨n', rfl⟩
  rcases le_total p p' with hle | hle
  · exact hgrid.eq_of_close (hgrid'.finer hle)
      (hdist.trans_lt (hread.lastPlace_lt h hmax hfull hpos hn))
  · exact (hgrid.finer hle).eq_of_close hgrid'
      (hdist.trans_lt (hread'.lastPlace_lt h hmax hfull hpos' hn'))

end Full

end Number

end Binary64

end ItemCatalog.Number
