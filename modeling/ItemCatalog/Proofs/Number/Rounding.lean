import Mathlib.Algebra.Order.Field.Power
import Mathlib.Algebra.Order.Floor.Semifield
import Mathlib.Data.Int.Log
import Mathlib.Data.Rat.Floor
import Mathlib.Tactic.Linarith
import Mathlib.Tactic.Positivity
import Mathlib.Tactic.Ring
import Mathlib.Tactic.FieldSimp
import ItemCatalog.Number.Shortest

/-! # Rounding: the number of 64 bits that is nearest to a rational

The program rounds quotients of natural numbers. `ofRational` is the same rounding on rationals, and
everything about it is read off one equation: a positive rational becomes the nearest multiple of
the power of two at which its mantissa has 53 bits (`rounded`), with the parts that are the only
ones for this value (`Canonical`).

* `ofRational_eq_finite_iff`: what a positive rational is rounded to.
* `rounded_mono`: rounding keeps the order, so all rationals between two of one number are of it.
* `abs_sub_rounded_le`, `rounded_of_close`: how far the rounded value is, and how near is enough. -/

namespace ItemCatalog.Number

/-! ### Powers as fractions -/

theorem powerRatio_pos {b : ℕ} (hb : 0 < b) (e : ℤ) :
    0 < (powerRatio b e).1 ∧ 0 < (powerRatio b e).2 := by
  cases e with
  | ofNat n => exact ⟨Nat.pow_pos hb, Nat.one_pos⟩
  | negSucc n => exact ⟨Nat.one_pos, Nat.pow_pos hb⟩

/-- The fraction has the value of the power. -/
theorem powerRatio_value (b : ℕ) (e : ℤ) :
    ((powerRatio b e).1 : ℚ) / (powerRatio b e).2 = (b : ℚ) ^ e := by
  cases e with
  | ofNat n => simp [powerRatio]
  | negSucc n => simp [powerRatio, zpow_negSucc]

/-- A quotient is compared with a power by cross-multiplication. -/
theorem zpow_le_div_iff {b : ℕ} (hb : 0 < b) (e : ℤ) {num den : ℕ} (hden : 0 < den) :
    den * (powerRatio b e).1 ≤ num * (powerRatio b e).2 ↔ (b : ℚ) ^ e ≤ (num : ℚ) / den := by
  obtain ⟨-, hp⟩ := powerRatio_pos hb e
  rw [← powerRatio_value b e, div_le_div_iff₀ (by exact_mod_cast hp) (by exact_mod_cast hden),
    ← Nat.cast_mul, ← Nat.cast_mul, Nat.cast_le, Nat.mul_comm den]

/-! ### The nearest integer -/

/-- An integer is nearest to a rational, and even if the rational is halfway. -/
def IsNearest (q : ℚ) (n : ℕ) : Prop :=
  |q - n| ≤ 1 / 2 ∧ (|q - n| = 1 / 2 → Even n)

/-- The order of rationals is that of their nearest integers. -/
theorem IsNearest.mono {q q' : ℚ} {n n' : ℕ} (h : IsNearest q n) (h' : IsNearest q' n')
    (hle : q ≤ q') : n ≤ n' := by
  by_contra hlt
  have hstep : (n' : ℚ) + 1 ≤ n := by exact_mod_cast Nat.lt_of_not_le hlt
  obtain ⟨hlow, hhigh⟩ := abs_le.mp h.1
  obtain ⟨hlow', hhigh'⟩ := abs_le.mp h'.1
  -- Only a rational halfway between two integers is left, and one of these is odd.
  have hq : q - n = -(1 / 2) := by linarith
  have hq' : q' - n' = 1 / 2 := by linarith
  have hn : (n : ℚ) = n' + 1 := by linarith
  have heven := h.2 (by rw [hq, abs_neg, abs_of_pos one_half_pos])
  have heven' := h'.2 (by rw [hq', abs_of_pos one_half_pos])
  have hsucc : n = n' + 1 := by exact_mod_cast hn
  rw [hsucc, Nat.even_add_one] at heven
  exact heven heven'

theorem IsNearest.unique {q : ℚ} {n n' : ℕ} (h : IsNearest q n) (h' : IsNearest q n') : n = n' :=
  le_antisymm (h.mono h' le_rfl) (h'.mono h le_rfl)

/-- No other integer is nearer than the nearest one, and as near only to an even one. -/
theorem IsNearest.closest {q : ℚ} {k : ℕ} (h : IsNearest q k) (n : ℕ) :
    |q - k| ≤ |q - n| ∧ (|q - k| = |q - n| → n = k ∨ Even k) := by
  rcases eq_or_ne n k with rfl | hne
  · exact ⟨le_rfl, fun _ => .inl rfl⟩
  · have hstep : (1 : ℚ) ≤ |(k : ℚ) - n| := by
      have : (1 : ℤ) ≤ |(k : ℤ) - n| := Int.one_le_abs (by omega)
      exact_mod_cast this
    have htriangle : |(k : ℚ) - n| ≤ |q - k| + |q - n| := by
      rw [abs_sub_comm q k]
      exact abs_sub_le _ _ _
    have hhalf := h.1
    exact ⟨by linarith, fun heq => .inr (h.2 (by linarith))⟩

theorem isNearest_natCast (n : ℕ) : IsNearest n n := by
  simp [IsNearest]

theorem isNearest_roundDiv (num : ℕ) {den : ℕ} (hden : 0 < den) :
    IsNearest ((num : ℚ) / den) (roundDiv num den) := by
  have hd : (0 : ℚ) < den := by exact_mod_cast hden
  have hdiv : (num : ℚ) = den * (num / den : ℕ) + (num % den : ℕ) := by
    exact_mod_cast (Nat.div_add_mod num den).symm
  -- The distance to the integer below is the remainder in parts of the divisor.
  have hq : (num : ℚ) / den = (num / den : ℕ) + ((num % den : ℕ) : ℚ) / den := by
    rw [div_eq_iff hd.ne', add_mul, div_mul_cancel₀ _ hd.ne', mul_comm, ← hdiv]
  have hr : 0 ≤ ((num % den : ℕ) : ℚ) / den := by positivity
  have hr1 : ((num % den : ℕ) : ℚ) / den < 1 := by
    rw [div_lt_one hd]
    exact_mod_cast Nat.mod_lt num hden
  unfold IsNearest roundDiv
  simp only
  split
  case isTrue hlow =>
    have hhalf : ((num % den : ℕ) : ℚ) / den < 1 / 2 := by
      rw [div_lt_iff₀ hd]
      have : (2 : ℚ) * (num % den : ℕ) < den := by exact_mod_cast hlow
      linarith
    rw [hq, add_sub_cancel_left, abs_of_nonneg hr]
    exact ⟨hhalf.le, fun h => absurd h hhalf.ne⟩
  case isFalse hnotlow =>
    split
    case isTrue hhigh =>
      have hhalf : 1 / 2 < ((num % den : ℕ) : ℚ) / den := by
        rw [lt_div_iff₀ hd]
        have : (den : ℚ) < 2 * (num % den : ℕ) := by exact_mod_cast hhigh
        linarith
      have habs : |(num : ℚ) / den - ((num / den + 1 : ℕ) : ℚ)| =
          1 - ((num % den : ℕ) : ℚ) / den := by
        rw [hq, abs_of_nonpos (by push_cast; linarith)]
        push_cast
        ring
      rw [habs]
      exact ⟨by linarith, fun h => by linarith⟩
    case isFalse hnothigh =>
      have hhalf : ((num % den : ℕ) : ℚ) / den = 1 / 2 := by
        rw [div_eq_iff hd.ne']
        have : (2 : ℚ) * (num % den : ℕ) = den := by exact_mod_cast (by omega)
        linarith
      rcases Nat.mod_two_eq_zero_or_one (num / den) with heven | hodd
      · rw [heven, Nat.add_zero, hq, add_sub_cancel_left, hhalf]
        exact ⟨by norm_num, fun _ => Nat.even_iff.mpr heven⟩
      · rw [hodd, hq, hhalf]
        refine ⟨by push_cast; rw [abs_le]; constructor <;> linarith, fun _ => ?_⟩
        rw [Nat.even_iff]
        omega

/-- The integer nearest to a rational. -/
def nearest (q : ℚ) : ℕ :=
  roundDiv q.num.toNat q.den

theorem num_toNat_div_den {q : ℚ} (hq : 0 ≤ q) : ((q.num.toNat : ℕ) : ℚ) / q.den = q := by
  have hnum : ((q.num.toNat : ℕ) : ℤ) = q.num := Int.toNat_of_nonneg (Rat.num_nonneg.mpr hq)
  have hcast : ((q.num.toNat : ℕ) : ℚ) = q.num := by exact_mod_cast hnum
  rw [hcast, Rat.num_div_den]

theorem isNearest_nearest {q : ℚ} (hq : 0 ≤ q) : IsNearest q (nearest q) := by
  have h := isNearest_roundDiv q.num.toNat q.den_pos
  rwa [num_toNat_div_den hq] at h

theorem IsNearest.nearest_eq {q : ℚ} {n : ℕ} (h : IsNearest q n) (hq : 0 ≤ q) : nearest q = n :=
  (isNearest_nearest hq).unique h

@[simp] theorem nearest_natCast (n : ℕ) : nearest n = n :=
  (isNearest_natCast n).nearest_eq n.cast_nonneg

theorem roundDiv_eq_nearest (num : ℕ) {den : ℕ} (hden : 0 < den) :
    roundDiv num den = nearest ((num : ℚ) / den) :=
  ((isNearest_roundDiv num hden).nearest_eq (by positivity)).symm

/-- The nearest integer is one of the two neighbours. -/
theorem nearest_eq_floor {q : ℚ} (hq : 0 ≤ q) :
    nearest q = ⌊q⌋₊ ∨ nearest q = ⌊q⌋₊ + 1 := by
  have hfloor := Nat.floor_div_eq_div (K := ℚ) q.num.toNat q.den
  rw [num_toNat_div_den hq] at hfloor
  unfold nearest roundDiv
  rw [hfloor]
  simp only
  split
  · exact .inl rfl
  · split
    · exact .inr rfl
    · omega

theorem nearest_mono {q q' : ℚ} (hq : 0 ≤ q) (hle : q ≤ q') : nearest q ≤ nearest q' :=
  (isNearest_nearest hq).mono (isNearest_nearest (hq.trans hle)) hle

theorem abs_sub_nearest_le {q : ℚ} (hq : 0 ≤ q) : |q - nearest q| ≤ 1 / 2 :=
  (isNearest_nearest hq).1

/-- An integer that is less than a half away is the nearest one. -/
theorem nearest_of_close {q : ℚ} {n : ℕ} (hq : 0 ≤ q) (h : |q - n| < 1 / 2) : nearest q = n :=
  IsNearest.nearest_eq ⟨h.le, fun heq => absurd heq h.ne⟩ hq

/-- Integer bounds of a rational are bounds of the nearest integer. -/
theorem nearest_le {q : ℚ} {n : ℕ} (hq : 0 ≤ q) (h : q ≤ n) : nearest q ≤ n := by
  simpa using nearest_mono hq h

theorem le_nearest {q : ℚ} {n : ℕ} (h : n ≤ q) : n ≤ nearest q := by
  simpa using nearest_mono n.cast_nonneg h

namespace Binary64

/-! ### Rounding of rationals -/

/-- The number nearest to a rational that is not negative. -/
def ofRational (q : ℚ) : Binary64 :=
  ofRatio false q.num.toNat q.den

/-- The exponent at which the mantissa of a rational has 53 bits, or the least exponent. -/
def exponentAt (q : ℚ) : ℤ :=
  max (Int.log 2 q - 52) minExponent

/-- The value to which a rational is rounded, were there no greatest exponent. -/
def rounded (q : ℚ) : ℚ :=
  nearest (q / 2 ^ exponentAt q) * 2 ^ exponentAt q

theorem exponentAt_mono {q q' : ℚ} (hq : 0 < q) (hle : q ≤ q') : exponentAt q ≤ exponentAt q' := by
  have := Int.log_mono_right (b := 2) hq hle
  unfold exponentAt
  omega

theorem minExponent_le_exponentAt (q : ℚ) : minExponent ≤ exponentAt q :=
  le_max_right _ _

/-- A quotient lies between the powers of two one below and one above the difference of lengths. -/
theorem log2_sub_log2_bounds {num den : ℕ} (hnum : 0 < num) (hden : 0 < den) :
    (2 : ℚ) ^ ((num.log2 : ℤ) - den.log2 - 1) < num / den ∧
      (num : ℚ) / den < 2 ^ ((num.log2 : ℤ) - den.log2 + 1) := by
  have hd : (0 : ℚ) < den := by exact_mod_cast hden
  have hnlow : (2 : ℚ) ^ (num.log2 : ℤ) ≤ num := by
    exact_mod_cast Nat.log2_self_le hnum.ne'
  have hnhigh : (num : ℚ) < 2 ^ ((num.log2 : ℤ) + 1) := by
    exact_mod_cast Nat.lt_log2_self (n := num)
  have hdlow : (2 : ℚ) ^ (den.log2 : ℤ) ≤ den := by
    exact_mod_cast Nat.log2_self_le hden.ne'
  have hdhigh : (den : ℚ) < 2 ^ ((den.log2 : ℤ) + 1) := by
    exact_mod_cast Nat.lt_log2_self (n := den)
  constructor
  · rw [lt_div_iff₀ hd]
    calc (2 : ℚ) ^ ((num.log2 : ℤ) - den.log2 - 1) * den
        < 2 ^ ((num.log2 : ℤ) - den.log2 - 1) * 2 ^ ((den.log2 : ℤ) + 1) := by gcongr
      _ = 2 ^ (num.log2 : ℤ) := by rw [← zpow_add₀ two_ne_zero]; congr 1; ring
      _ ≤ num := hnlow
  · rw [div_lt_iff₀ hd]
    calc (num : ℚ) < 2 ^ ((num.log2 : ℤ) + 1) := hnhigh
      _ = 2 ^ ((num.log2 : ℤ) - den.log2 + 1) * 2 ^ (den.log2 : ℤ) := by
        rw [← zpow_add₀ two_ne_zero]; congr 1; ring
      _ ≤ 2 ^ ((num.log2 : ℤ) - den.log2 + 1) * den := by gcongr

/-- The estimate from the lengths in bits is corrected to the right exponent. -/
theorem exponentOf_eq {num den : ℕ} (hnum : 0 < num) (hden : 0 < den) :
    exponentOf num den = exponentAt ((num : ℚ) / den) := by
  have hq : (0 : ℚ) < num / den := by positivity
  obtain ⟨hlow, hhigh⟩ := log2_sub_log2_bounds hnum hden
  have hle := (Int.zpow_le_iff_le_log one_lt_two hq).mp (by rw [Nat.cast_ofNat]; exact hlow.le)
  have hlt := (Int.lt_zpow_iff_log_lt one_lt_two hq).mp (by rw [Nat.cast_ofNat]; exact hhigh)
  unfold exponentOf exponentAt
  simp only [zpow_le_div_iff two_pos _ hden, Int.zpow_le_iff_le_log one_lt_two hq]
  split <;> omega

/-- **Rounding of a quotient**, in rationals. -/
theorem ofRatio_eq_normalize (negative : Bool) {num den : ℕ} (hnum : 0 < num) (hden : 0 < den) :
    ofRatio negative num den =
      normalize negative (nearest (num / den / 2 ^ exponentAt (num / den)))
        (exponentAt (num / den)) := by
  obtain ⟨hp, hp'⟩ := powerRatio_pos two_pos (exponentAt (num / den))
  have hpow := powerRatio_value 2 (exponentAt (num / den))
  unfold ofRatio
  rw [if_neg hnum.ne', exponentOf_eq hnum hden]
  simp only
  rw [roundDiv_eq_nearest _ (Nat.mul_pos hden hp)]
  rw [Nat.cast_ofNat] at hpow
  rw [← hpow]
  congr 2
  push_cast
  rw [div_div_div_eq]

theorem ofRational_eq_normalize {q : ℚ} (hq : 0 < q) :
    ofRational q = normalize false (nearest (q / 2 ^ exponentAt q)) (exponentAt q) := by
  have hnum : 0 < q.num.toNat := by
    have := Rat.num_pos.mpr hq
    omega
  unfold ofRational
  rw [ofRatio_eq_normalize false hnum q.den_pos, num_toNat_div_den hq.le]

@[simp] theorem ofRational_zero : ofRational 0 = zero false := rfl

/-- The number does not depend on how the quotient is written. -/
theorem ofRatio_eq_ofRational (num : ℕ) {den : ℕ} (hden : 0 < den) :
    ofRatio false num den = ofRational ((num : ℚ) / den) := by
  rcases Nat.eq_zero_or_pos num with rfl | hnum
  · simp [ofRatio]
  · have hq : (0 : ℚ) < num / den := by positivity
    rw [ofRatio_eq_normalize false hnum hden, ofRational_eq_normalize hq]

/-! ### Canonical parts -/

/-- The parts of a number are those that its value has: 53 bits, or the least exponent. -/
structure Canonical (m : ℕ) (e : ℤ) : Prop where
  below : m < 2 ^ 53
  least : minExponent ≤ e
  full : e = minExponent ∨ 2 ^ 52 ≤ m

theorem Canonical.zero : Canonical 0 minExponent :=
  ⟨by norm_num, le_rfl, .inl rfl⟩

/-- The exponent of canonical parts is that of their value. -/
theorem Canonical.exponentAt_eq {m : ℕ} {e : ℤ} (h : Canonical m e) (hm : 0 < m) :
    exponentAt ((m : ℚ) * 2 ^ e) = e := by
  have hmq : (0 : ℚ) < m := by exact_mod_cast hm
  have hv : (0 : ℚ) < m * 2 ^ e := by positivity
  have hhigh : (m : ℚ) * 2 ^ e < (2 : ℕ) ^ (e + 53) := by
    have : (m : ℚ) < 2 ^ (53 : ℤ) := by exact_mod_cast h.below
    rw [Nat.cast_ofNat, zpow_add₀ two_ne_zero, mul_comm]
    gcongr
  have hlt := (Int.lt_zpow_iff_log_lt one_lt_two hv).mp hhigh
  have hleast := h.least
  unfold exponentAt
  rcases h.full with heq | hfull
  · omega
  · have hlow : ((2 : ℕ) : ℚ) ^ (e + 52) ≤ m * 2 ^ e := by
      have : (2 : ℚ) ^ (52 : ℤ) ≤ m := by exact_mod_cast hfull
      rw [Nat.cast_ofNat, zpow_add₀ two_ne_zero, mul_comm]
      gcongr
    have hle := (Int.zpow_le_iff_le_log one_lt_two hv).mp hlow
    omega

/-- Canonical parts of one value are the same. -/
theorem Canonical.eq_of_value {m m' : ℕ} {e e' : ℤ} (h : Canonical m e) (h' : Canonical m' e')
    (heq : (m : ℚ) * 2 ^ e = m' * 2 ^ e') : m = m' ∧ e = e' := by
  have hpow : ∀ k : ℤ, (0 : ℚ) < 2 ^ k := fun k => by positivity
  rcases Nat.eq_zero_or_pos m with rfl | hm
  · have hm' : m' = 0 := by
      have : (m' : ℚ) = 0 := by
        simpa [(hpow e').ne'] using heq.symm
      exact_mod_cast this
    subst hm'
    exact ⟨rfl, (h.full.resolve_right (by norm_num)).trans
      (h'.full.resolve_right (by norm_num)).symm⟩
  · have hm' : 0 < m' := by
      rcases Nat.eq_zero_or_pos m' with rfl | hm'
      · have : (0 : ℚ) < m * 2 ^ e := by positivity
        simp [heq] at this
      · exact hm'
    have he : e = e' := by rw [← h.exponentAt_eq hm, heq, h'.exponentAt_eq hm']
    subst he
    exact ⟨by exact_mod_cast mul_right_cancel₀ (hpow e).ne' heq, rfl⟩

/-- A number is its own rounding. -/
theorem Canonical.rounded_eq {m : ℕ} {e : ℤ} (h : Canonical m e) (hm : 0 < m) :
    rounded ((m : ℚ) * 2 ^ e) = m * 2 ^ e := by
  unfold rounded
  rw [h.exponentAt_eq hm, mul_div_cancel_right₀ _ (by positivity), nearest_natCast]

/-- A rational lies below the power of two that its mantissa cannot reach. -/
theorem div_exponentAt_lt (q : ℚ) : q / 2 ^ exponentAt q < 2 ^ 53 := by
  have hlt := Int.lt_zpow_succ_log_self (b := 2) one_lt_two q
  have hexp : Int.log 2 q + 1 ≤ exponentAt q + 53 := by
    unfold exponentAt
    omega
  rw [div_lt_iff₀ (by positivity)]
  calc q < 2 ^ (Int.log 2 q + 1) := by exact_mod_cast hlt
    _ ≤ 2 ^ (exponentAt q + 53) := zpow_le_zpow_right₀ one_le_two hexp
    _ = 2 ^ 53 * 2 ^ exponentAt q := by
      rw [zpow_add₀ two_ne_zero, mul_comm]
      norm_cast

section Positive
variable {q q' : ℚ} (hq : 0 < q)
include hq

/-- Above the least exponent the mantissa has its leading bit. -/
theorem le_div_exponentAt (he : exponentAt q ≠ minExponent) : 2 ^ 52 ≤ q / 2 ^ exponentAt q := by
  have hle := Int.zpow_log_le_self (b := 2) one_lt_two hq
  have hexp : exponentAt q + 52 = Int.log 2 q := by
    unfold exponentAt at he ⊢
    omega
  rw [le_div_iff₀ (by positivity)]
  calc (2 : ℚ) ^ 52 * 2 ^ exponentAt q = 2 ^ (exponentAt q + 52) := by
        rw [zpow_add₀ two_ne_zero, mul_comm]
        norm_cast
    _ ≤ q := by
      rw [hexp]
      exact_mod_cast hle

theorem nearest_le_full : nearest (q / 2 ^ exponentAt q) ≤ 2 ^ 53 :=
  nearest_le (by positivity) (by exact_mod_cast (div_exponentAt_lt q).le)

theorem full_le_nearest (he : exponentAt q ≠ minExponent) :
    2 ^ 52 ≤ nearest (q / 2 ^ exponentAt q) :=
  le_nearest (by exact_mod_cast le_div_exponentAt hq he)

/-- **What a positive rational is rounded to:** the number with the canonical parts of the rounded
value, unless these are out of range. -/
theorem ofRational_eq_finite_iff {m : ℕ} {e : ℤ} :
    ofRational q = .finite false m e ↔
      Canonical m e ∧ e ≤ maxExponent ∧ rounded q = m * 2 ^ e := by
  have hle := nearest_le_full hq
  have hleast := minExponent_le_exponentAt q
  have hfull := full_le_nearest hq
  rw [ofRational_eq_normalize hq]
  unfold rounded
  generalize nearest (q / 2 ^ exponentAt q) = n at hle hfull ⊢
  generalize exponentAt q = k at hleast hfull ⊢
  -- The rounded mantissa, carried if it is full, is canonical and has the same value.
  obtain ⟨m', e', hnormal, hcanonical, hvalue⟩ : ∃ m' e',
      normalize false n k = (if maxExponent < e' then .infinite false else .finite false m' e') ∧
      Canonical m' e' ∧ (n : ℚ) * 2 ^ k = m' * 2 ^ e' := by
    unfold normalize
    by_cases hn : n = 2 ^ 53
    · subst hn
      refine ⟨2 ^ 52, k + 1, rfl, ⟨by norm_num, by omega, .inr le_rfl⟩, ?_⟩
      rw [zpow_add_one₀ two_ne_zero]
      push_cast
      ring
    · refine ⟨n, k, ?_, ⟨by omega, hleast, ?_⟩, rfl⟩
      · have : (n == Nat.pow 2 53) = false := by simpa using hn
        simp [this]
      · by_cases hk : k = minExponent
        · exact .inl hk
        · exact .inr (hfull hk)
  rw [hnormal, hvalue]
  constructor
  · intro h
    split at h
    · cases h
    · cases h
      exact ⟨hcanonical, by omega, rfl⟩
  · rintro ⟨h, hmax, heq⟩
    obtain ⟨rfl, rfl⟩ := hcanonical.eq_of_value h heq
    rw [if_neg (by omega)]

/-- A positive rational is rounded to a finite number or to the infinity. -/
theorem ofRational_cases :
    (∃ m e, ofRational q = .finite false m e) ∨ ofRational q = .infinite false := by
  rw [ofRational_eq_normalize hq]
  by_cases hrange : maxExponent <
      if nearest (q / 2 ^ exponentAt q) == Nat.pow 2 53 then exponentAt q + 1 else exponentAt q
  · exact .inr (if_pos hrange)
  · exact .inl ⟨_, _, if_neg hrange⟩

/-- **Rounding keeps the order.** -/
theorem rounded_mono (hle : q ≤ q') : rounded q ≤ rounded q' := by
  have hq' : 0 < q' := hq.trans_le hle
  rcases (exponentAt_mono hq hle).eq_or_lt with heq | hlt
  · unfold rounded
    rw [← heq]
    have : nearest (q / 2 ^ exponentAt q) ≤ nearest (q' / 2 ^ exponentAt q) :=
      nearest_mono (by positivity) (by gcongr)
    gcongr
  · -- A power of two lies between them that both roundings respect.
    have hmin : exponentAt q' ≠ minExponent := by
      have := minExponent_le_exponentAt q
      omega
    have hfull : (2 : ℚ) ^ 52 ≤ nearest (q' / 2 ^ exponentAt q') := by
      exact_mod_cast full_le_nearest hq' hmin
    have hbelow : (nearest (q / 2 ^ exponentAt q) : ℚ) ≤ 2 ^ 53 := by
      exact_mod_cast nearest_le_full hq
    calc rounded q ≤ 2 ^ 53 * 2 ^ exponentAt q := by
          unfold rounded
          gcongr
      _ = 2 ^ 52 * 2 ^ (exponentAt q + 1) := by
          rw [zpow_add_one₀ two_ne_zero]
          ring
      _ ≤ 2 ^ 52 * 2 ^ exponentAt q' := by
          gcongr
          · exact one_le_two
          · omega
      _ ≤ rounded q' := by
          unfold rounded
          gcongr

/-- The rounded value is within half of the last place. -/
theorem abs_sub_rounded_le : |q - rounded q| ≤ 2 ^ exponentAt q / 2 := by
  have hpow : (0 : ℚ) < 2 ^ exponentAt q := by positivity
  have h := abs_sub_nearest_le (q := q / 2 ^ exponentAt q) (by positivity)
  have hfactor : q - rounded q =
      (q / 2 ^ exponentAt q - nearest (q / 2 ^ exponentAt q)) * 2 ^ exponentAt q := by
    unfold rounded
    rw [sub_mul, div_mul_cancel₀ _ hpow.ne']
  rw [hfactor, abs_mul, abs_of_pos hpow]
  calc _ ≤ (1 : ℚ) / 2 * 2 ^ exponentAt q := by gcongr
    _ = 2 ^ exponentAt q / 2 := by ring

/-- A rational between two that are rounded alike is rounded like them. -/
theorem rounded_eq_of_between {r : ℚ} (hle : q ≤ r) (hle' : r ≤ q') (h : rounded q = rounded q') :
    rounded r = rounded q := by
  refine le_antisymm ?_ (rounded_mono hq hle)
  rw [h]
  exact rounded_mono (hq.trans_le hle) hle'

end Positive

section Finite
variable {q : ℚ} (hq : 0 < q) {m : ℕ} {e : ℤ} (h : Canonical m e)
include hq h

/-- The last place of the rational is not above that of the number that it is rounded to. -/
theorem exponentAt_le_of_rounded (hvalue : rounded q = m * 2 ^ e) : exponentAt q ≤ e := by
  by_contra hlt
  have hleast := h.least
  have hmin : exponentAt q ≠ minExponent := by omega
  have hfull : (2 : ℚ) ^ 52 ≤ nearest (q / 2 ^ exponentAt q) := by
    exact_mod_cast full_le_nearest hq hmin
  have hbelow : (m : ℚ) < 2 ^ 53 := by exact_mod_cast h.below
  have : (m : ℚ) * 2 ^ e < rounded q :=
    calc (m : ℚ) * 2 ^ e < 2 ^ 53 * 2 ^ e := by gcongr
      _ = 2 ^ 52 * 2 ^ (e + 1) := by
        rw [zpow_add_one₀ two_ne_zero]
        ring
      _ ≤ 2 ^ 52 * 2 ^ exponentAt q := by
        gcongr
        · exact one_le_two
        · omega
      _ ≤ rounded q := by
        unfold rounded
        gcongr
  exact this.ne hvalue.symm

/-- A rational is within half of the last place of the number that it is rounded to. -/
theorem abs_sub_le_of_rounded (hvalue : rounded q = m * 2 ^ e) : |q - m * 2 ^ e| ≤ 2 ^ e / 2 := by
  have hle := exponentAt_le_of_rounded hq h hvalue
  calc |q - m * 2 ^ e| ≤ 2 ^ exponentAt q / 2 := by
        rw [← hvalue]
        exact abs_sub_rounded_le hq
    _ ≤ 2 ^ e / 2 := by
      gcongr
      exact one_le_two

/-- **A rational that differs from a number by less than the part `2 ^ (-54)` is rounded to it.** -/
theorem rounded_of_close (hclose : |q - m * 2 ^ e| < m * 2 ^ e / 2 ^ 54) :
    rounded q = m * 2 ^ e := by
  have hpow : (0 : ℚ) < 2 ^ e := by positivity
  have hbelow : (m : ℚ) + 1 ≤ 2 ^ 53 := by exact_mod_cast h.below
  have hleast := h.least
  obtain ⟨hlow, hhigh⟩ := abs_lt.mp hclose
  -- The last place of the rational is at most that of the number, which is on its grid then.
  have hexp : exponentAt q ≤ e := by
    have hlt : q < (2 : ℕ) ^ (e + 53) := by
      rw [Nat.cast_ofNat, zpow_add₀ two_ne_zero]
      calc q < m * 2 ^ e + m * 2 ^ e / 2 ^ 54 := by linarith
        _ = (m + m / 2 ^ 54) * 2 ^ e := by ring
        _ ≤ 2 ^ 53 * 2 ^ e := by
          gcongr
          linarith
        _ = 2 ^ e * 2 ^ (53 : ℤ) := by
          rw [mul_comm]
          norm_cast
    have := (Int.lt_zpow_iff_log_lt one_lt_two hq).mp hlt
    unfold exponentAt
    omega
  obtain ⟨d, hd⟩ : ∃ d : ℕ, e = d + exponentAt q := ⟨(e - exponentAt q).toNat, by omega⟩
  have hplace : (0 : ℚ) < 2 ^ exponentAt q := by positivity
  have hgrid : (m : ℚ) * 2 ^ e = (m * 2 ^ d : ℕ) * 2 ^ exponentAt q := by
    conv_lhs => rw [hd, zpow_add₀ two_ne_zero]
    push_cast
    rw [zpow_natCast]
    ring
  have hn : m * 2 ^ d ≤ 2 ^ 53 := by
    have hq53 : q < 2 ^ 53 * 2 ^ exponentAt q := (div_lt_iff₀ hplace).mp (div_exponentAt_lt q)
    have : ((m * 2 ^ d : ℕ) : ℚ) < 2 ^ 53 + 1 := by
      rw [hgrid] at hlow
      nlinarith
    exact Nat.lt_succ_iff.mp (by exact_mod_cast this)
  have hnq : ((m * 2 ^ d : ℕ) : ℚ) ≤ 2 ^ 53 := by exact_mod_cast hn
  have hhalf : |q / 2 ^ exponentAt q - (m * 2 ^ d : ℕ)| < 1 / 2 := by
    have hfactor : q / 2 ^ exponentAt q - (m * 2 ^ d : ℕ) = (q - m * 2 ^ e) / 2 ^ exponentAt q := by
      rw [hgrid, sub_div, mul_div_cancel_right₀ _ hplace.ne']
    rw [hfactor, abs_div, abs_of_pos hplace, div_lt_iff₀ hplace]
    calc |q - m * 2 ^ e| < m * 2 ^ e / 2 ^ 54 := hclose
      _ ≤ 1 / 2 * 2 ^ exponentAt q := by
        rw [hgrid]
        nlinarith
  unfold rounded
  rw [nearest_of_close (by positivity) hhalf, hgrid]

end Finite

/-! ### Rounding of decimals -/

theorem lt_pow_length_digits (d : ℕ) : d < 10 ^ (Nat.toDigits 10 d).length :=
  (Nat.length_toDigits_le_iff (by norm_num) Nat.length_toDigits_pos).mp le_rfl

theorem pow_length_digits_le {d : ℕ} (hd : 0 < d) : 10 ^ ((Nat.toDigits 10 d).length - 1) ≤ d := by
  have hpos := Nat.length_toDigits_pos (b := 10) (n := d)
  rcases Nat.eq_zero_or_pos ((Nat.toDigits 10 d).length - 1) with h | h
  · rw [h]
    exact hd
  · refine Nat.le_of_not_lt fun hlt => ?_
    have := (Nat.length_toDigits_le_iff (by norm_num) h).mpr hlt
    omega

theorem ofRational_of_huge {q : ℚ} (hq : 2 ^ 1024 ≤ q) : ofRational q = .infinite false := by
  have hpos : 0 < q := lt_of_lt_of_le (by positivity) hq
  rcases ofRational_cases hpos with ⟨m, e, h⟩ | h
  · -- A finite number is below the bound, which is itself one too many.
    obtain ⟨hcanonical, hmax, hvalue⟩ := (ofRational_eq_finite_iff hpos).mp h
    have hexp := exponentAt_le_of_rounded hpos hcanonical hvalue
    have hlog := (Int.zpow_le_iff_le_log one_lt_two hpos).mp
      (show (((2 : ℕ) : ℚ) ^ (1024 : ℤ)) ≤ q by exact_mod_cast hq)
    unfold exponentAt at hexp
    unfold maxExponent at hmax
    omega
  · exact h

theorem ofRational_of_tiny {q : ℚ} (hq : 0 < q) (htiny : q < 2 ^ (-1075 : ℤ)) :
    ofRational q = zero false := by
  have hlog := (Int.lt_zpow_iff_log_lt one_lt_two hq).mp
    (show q < ((2 : ℕ) : ℚ) ^ (-1075 : ℤ) by exact_mod_cast htiny)
  have hexp : exponentAt q = minExponent := by
    unfold exponentAt minExponent
    omega
  refine (ofRational_eq_finite_iff hq).mpr ⟨.zero, by decide, ?_⟩
  have hhalf : |q / 2 ^ minExponent - (0 : ℕ)| < 1 / 2 := by
    rw [Nat.cast_zero, sub_zero, abs_of_pos (by positivity), div_lt_iff₀ (by positivity)]
    calc q < 2 ^ (-1075 : ℤ) := htiny
      _ = 1 / 2 * 2 ^ minExponent := by
        unfold minExponent
        rw [show (-1075 : ℤ) = -1 + -1074 by rfl, zpow_add₀ two_ne_zero]
        norm_num
  unfold rounded
  rw [hexp, nearest_of_close (by positivity) hhalf]

/-- **Rounding of a decimal**, in rationals: the bounds on its size only save work. -/
theorem ofDecimal_eq (digits : ℕ) (exponent : ℤ) :
    ofDecimal false digits exponent = ofRational (digits * 10 ^ exponent) := by
  rcases Nat.eq_zero_or_pos digits with rfl | hd
  · simp [ofDecimal]
  have hten : (1 : ℚ) ≤ 10 := by norm_num
  have hq : (0 : ℚ) < digits * 10 ^ exponent := by positivity
  have hpos := Nat.length_toDigits_pos (b := 10) (n := digits)
  obtain ⟨n, hn⟩ : ∃ n, (Nat.toDigits 10 digits).length = n + 1 :=
    ⟨_, (Nat.sub_add_cancel hpos).symm⟩
  have hlow : (10 : ℚ) ^ (n : ℤ) ≤ digits := by
    have := pow_length_digits_le hd
    rw [hn, Nat.add_sub_cancel] at this
    exact_mod_cast this
  have hhigh : (digits : ℚ) < 10 ^ ((n : ℤ) + 1) := by
    have := lt_pow_length_digits digits
    rw [hn] at this
    exact_mod_cast this
  unfold ofDecimal
  rw [if_neg hd.ne', hn]
  simp only
  split
  case isTrue hhuge =>
    refine (ofRational_of_huge ?_).symm
    have hbound : 2 ^ 1024 ≤ 10 ^ 310 := by decide +kernel
    calc (2 : ℚ) ^ 1024 ≤ 10 ^ (310 : ℤ) := by exact_mod_cast hbound
      _ ≤ 10 ^ ((n : ℤ) + exponent) := zpow_le_zpow_right₀ hten (by push_cast at hhuge; omega)
      _ = 10 ^ (n : ℤ) * 10 ^ exponent := zpow_add₀ (by norm_num) _ _
      _ ≤ digits * 10 ^ exponent := by gcongr
  case isFalse =>
    split
    case isTrue htiny =>
      refine (ofRational_of_tiny hq ?_).symm
      calc (digits : ℚ) * 10 ^ exponent < 10 ^ ((n : ℤ) + 1) * 10 ^ exponent := by gcongr
        _ = 10 ^ ((n : ℤ) + 1 + exponent) := (zpow_add₀ (by norm_num) _ _).symm
        _ ≤ 10 ^ (-331 : ℤ) := zpow_le_zpow_right₀ hten (by push_cast at htiny; omega)
        _ ≤ 2 ^ (-1075 : ℤ) := by
          have hbound : 2 ^ 1075 ≤ 10 ^ 331 := by decide +kernel
          rw [zpow_neg, zpow_neg]
          exact inv_anti₀ (by positivity) (by exact_mod_cast hbound)
    case isFalse =>
      obtain ⟨hp, hp'⟩ := powerRatio_pos (b := 10) (by norm_num) exponent
      have hpow := powerRatio_value 10 exponent
      rw [ofRatio_eq_ofRational _ hp', Nat.cast_mul, mul_div_assoc, hpow, Nat.cast_ofNat]

end Binary64

end ItemCatalog.Number
