/-
Module: KubeSchedulerSim.Numeric.Float64
Purpose: Go's `float64` arithmetic, where the code's verdicts depend on it. A `float64` is
  the rational it denotes; each operation computes the exact result and rounds it to the
  nearest value with a 53-bit significand, ties to even (IEEE 754 binary64, round to
  nearest). The lemmas say what the rounding keeps: values with a 53-bit significand (small
  integers, short dyadics) are unchanged, the relative error is at most `2^-53`, and rounding
  is monotone, rounding twice is rounding once. A running sum of `n` non-negative terms
  stays within a factor `(1 ± 2^-53)^n` of the exact sum, and is exact on natural numbers
  below `2^53`; a quotient of two rounded quotients by one divisor is within `2^-50` of the
  exact one. A concrete rounding is evaluated in natural numbers (`round_div_nat`).
Trusted boundary: the exponent is unbounded, so overflow to infinity and subnormal results
  are not modelled; every value the modelled code computes lies in the normal range.
  Division by zero is `0`, as in `ℚ`; its callers say what the code does there.
Main exports: roundHalfEven, F64.round, F64.ofInt, F64.add, F64.mul, F64.div,
  F64.abs_round_sub_le, F64.exists_round_eq_mul, F64.relError_bounds, F64.round_le_round,
  F64.round_eq_self, F64.round_intCast, F64.round_round, F64.abs_div_sub_le,
  F64.abs_div_div_sub_le, F64.foldl_add_le, F64.le_foldl_add, F64.foldl_add_eq_sum,
  F64.one_add_pow_le, F64.one_sub_le_pow, F64.round_div_nat
-/
import Mathlib.Algebra.Order.Ring.Pow
import Mathlib.Data.Int.Log
import Mathlib.Data.Rat.Floor
import Mathlib.Tactic.Linarith
import Mathlib.Tactic.NormNum
import Mathlib.Tactic.Positivity

namespace KubeSchedulerSim

/-! ### Rounding to an integer -/

/-- The integer nearest `y`; of two equally near, the even one. -/
def roundHalfEven (y : ℚ) : ℤ :=
  if y - ⌊y⌋ < 1 / 2 then ⌊y⌋
  else if 1 / 2 < y - ⌊y⌋ then ⌊y⌋ + 1
  else if ⌊y⌋ % 2 = 0 then ⌊y⌋ else ⌊y⌋ + 1

theorem abs_roundHalfEven_sub_le (y : ℚ) : |(roundHalfEven y : ℚ) - y| ≤ 1 / 2 := by
  have h1 := Int.floor_le y
  have h2 := Int.lt_floor_add_one y
  rw [abs_le]
  unfold roundHalfEven
  split_ifs with hlt hgt
  · constructor <;> linarith only [h1, hlt]
  · push_cast; constructor <;> linarith only [h2, hgt]
  · constructor <;> linarith only [h1, not_lt.mp hgt]
  · push_cast; constructor <;> linarith only [h2, not_lt.mp hlt]

@[simp] theorem roundHalfEven_intCast (n : ℤ) : roundHalfEven n = n := by
  simp [roundHalfEven]

/-- Rounding is monotone: two values it put in the wrong order would be more than one
apart, and each is within `1/2` of its rounding. -/
theorem roundHalfEven_mono {y z : ℚ} (h : y ≤ z) : roundHalfEven y ≤ roundHalfEven z := by
  by_contra hlt
  have hle : (roundHalfEven z : ℚ) + 1 ≤ roundHalfEven y := by exact_mod_cast not_le.mp hlt
  have hzy : z ≤ y := by
    linarith only [hle, (abs_le.mp (abs_roundHalfEven_sub_le y)).2,
      (abs_le.mp (abs_roundHalfEven_sub_le z)).1]
  exact hlt (le_antisymm h hzy ▸ le_rfl)

/-- Below an integer `n`, the rounding is at most `n`; from `n` up, at least `n`. -/
theorem roundHalfEven_le_of_le {y : ℚ} {n : ℤ} (h : y ≤ n) : roundHalfEven y ≤ n :=
  roundHalfEven_intCast n ▸ roundHalfEven_mono h

theorem le_roundHalfEven_of_le {y : ℚ} {n : ℤ} (h : (n : ℚ) ≤ y) : n ≤ roundHalfEven y :=
  roundHalfEven_intCast n ▸ roundHalfEven_mono h

/-- `roundHalfEven (a / b)` in natural numbers: quotient and remainder. -/
def rneDiv (a b : ℕ) : ℕ :=
  if 2 * (a % b) < b then a / b
  else if b < 2 * (a % b) then a / b + 1
  else if a / b % 2 = 0 then a / b else a / b + 1

theorem roundHalfEven_div_nat (a b : ℕ) (hb : 0 < b) :
    roundHalfEven ((a : ℚ) / b) = rneDiv a b := by
  have hb' : (0 : ℚ) < b := by exact_mod_cast hb
  have hfl : ⌊(a : ℚ) / b⌋ = ((a / b : ℕ) : ℤ) := by
    rw [Rat.floor_natCast_div_natCast, Int.natCast_div]
  have hfrac : (a : ℚ) / b - ⌊(a : ℚ) / b⌋ = ((a % b : ℕ) : ℚ) / b :=
    Int.fract_div_natCast_eq_div_natCast_mod
  have key : ∀ c : ℕ, ((c : ℚ) / b < 1 / 2 ↔ 2 * c < b) ∧ (1 / 2 < (c : ℚ) / b ↔ b < 2 * c) :=
    fun c => ⟨by rw [div_lt_div_iff₀ hb' (by norm_num)]; norm_cast; omega,
      by rw [div_lt_div_iff₀ (by norm_num) hb']; norm_cast; omega⟩
  unfold roundHalfEven rneDiv
  simp only [hfrac]
  simp only [key, hfl]
  generalize a / b = q
  generalize a % b = r
  split_ifs <;> push_cast <;> omega

/-! ### Rounding to `float64` -/

namespace F64

/-- The exponent of the last of the 53 significand bits of `x`. -/
def ulpExponent (x : ℚ) : ℤ := Int.log 2 |x| - 52

/-- Rounding to `float64`: to the nearest value with a 53-bit significand, ties to even. -/
def round (x : ℚ) : ℚ := roundHalfEven (x / 2 ^ ulpExponent x) * 2 ^ ulpExponent x

/-- `float64(n)`. -/
def ofInt (n : ℤ) : ℚ := round n

/-- `a + b` on `float64`. -/
def add (a b : ℚ) : ℚ := round (a + b)

/-- `a * b` on `float64`. -/
def mul (a b : ℚ) : ℚ := round (a * b)

/-- `a / b` on `float64`. -/
def div (a b : ℚ) : ℚ := round (a / b)

theorem log_two_eq {r : ℚ} {k : ℤ} (hr : 0 < r) (h1 : (2 : ℚ) ^ k ≤ r) (h2 : r < 2 ^ (k + 1)) :
    Int.log 2 r = k := by
  have hle := (Int.zpow_le_iff_le_log (b := 2) (by norm_num) hr).1 (by exact_mod_cast h1)
  have hlt := (Int.lt_zpow_iff_log_lt (b := 2) (by norm_num) hr).1 (by exact_mod_cast h2)
  omega

theorem two_zpow_log_le {r : ℚ} (hr : 0 < r) : (2 : ℚ) ^ Int.log 2 r ≤ r := by
  exact_mod_cast Int.zpow_log_le_self (b := 2) (by norm_num) hr

theorem lt_two_zpow_log_succ (r : ℚ) : r < (2 : ℚ) ^ (Int.log 2 r + 1) := by
  exact_mod_cast Int.lt_zpow_succ_log_self (b := 2) (by norm_num) r

@[simp] theorem round_zero : round 0 = 0 := by
  have h := roundHalfEven_intCast 0
  push_cast at h
  simp [round, h]

/-- The rounding error is at most `2^-53` of the value. -/
theorem abs_round_sub_le (x : ℚ) : |round x - x| ≤ |x| / 2 ^ 53 := by
  rcases eq_or_ne x 0 with rfl | hx
  · simp
  have hx' : 0 < |x| := abs_pos.mpr hx
  have hu : (0 : ℚ) < 2 ^ ulpExponent x := zpow_pos (by norm_num) _
  have hdiff : round x - x = ((roundHalfEven (x / 2 ^ ulpExponent x) : ℚ) - x / 2 ^ ulpExponent x)
      * 2 ^ ulpExponent x := by
    rw [round, sub_mul, div_mul_cancel₀ _ hu.ne']
  have hulp : (2 : ℚ) ^ ulpExponent x / 2 = 2 ^ Int.log 2 |x| / 2 ^ 53 := by
    rw [ulpExponent, zpow_sub₀ (by norm_num : (2 : ℚ) ≠ 0)]
    norm_num [div_div]
  calc |round x - x|
      = |(roundHalfEven (x / 2 ^ ulpExponent x) : ℚ) - x / 2 ^ ulpExponent x|
          * 2 ^ ulpExponent x := by rw [hdiff, abs_mul, abs_of_pos hu]
    _ ≤ 1 / 2 * 2 ^ ulpExponent x := mul_le_mul_of_nonneg_right (abs_roundHalfEven_sub_le _) hu.le
    _ = 2 ^ Int.log 2 |x| / 2 ^ 53 := by rw [← hulp]; ring
    _ ≤ |x| / 2 ^ 53 := div_le_div_of_nonneg_right (two_zpow_log_le hx') (by positivity)

theorem round_le (x : ℚ) : round x ≤ x + |x| / 2 ^ 53 := by
  linarith [(abs_le.mp (abs_round_sub_le x)).2]

theorem le_round (x : ℚ) : x - |x| / 2 ^ 53 ≤ round x := by
  linarith [(abs_le.mp (abs_round_sub_le x)).1]

theorem round_nonneg {x : ℚ} (hx : 0 ≤ x) : 0 ≤ round x := by
  have := le_round x
  rw [abs_of_nonneg hx] at this
  linarith

theorem round_pos {x : ℚ} (hx : 0 < x) : 0 < round x := by
  have := le_round x
  rw [abs_of_pos hx] at this
  linarith

/-- The relative error of a rounding: `round x = x * (1 + δ)` with `|δ| ≤ 2^-53`. -/
theorem exists_round_eq_mul (x : ℚ) : ∃ δ : ℚ, |δ| ≤ 1 / 2 ^ 53 ∧ round x = x * (1 + δ) := by
  rcases eq_or_ne x 0 with rfl | hx
  · exact ⟨0, by norm_num, by simp⟩
  refine ⟨(round x - x) / x, ?_, by field_simp⟩
  rw [abs_div, div_le_iff₀ (abs_pos.mpr hx)]
  linarith [abs_round_sub_le x]

theorem one_add_mem_of_abs_le {a e : ℚ} (ha : |a| ≤ e) : 1 - e ≤ 1 + a ∧ 1 + a ≤ 1 + e := by
  obtain ⟨h1, h2⟩ := abs_le.mp ha
  exact ⟨by linarith only [h1], by linarith only [h2]⟩

/-- Three roundings over one: the factor stays within `8e` of one when each relative error
is at most `e ≤ 1/16`. -/
theorem relError_bounds_of_le {a b c d e : ℚ} (he : 0 ≤ e) (he' : e ≤ 1 / 16) (ha : |a| ≤ e)
    (hb : |b| ≤ e) (hc : |c| ≤ e) (hd : |d| ≤ e) :
    1 - 8 * e ≤ (1 + a) * (1 + b) * (1 + c) / (1 + d) ∧
      (1 + a) * (1 + b) * (1 + c) / (1 + d) ≤ 1 + 8 * e := by
  obtain ⟨ha1, ha2⟩ := one_add_mem_of_abs_le ha
  obtain ⟨hb1, hb2⟩ := one_add_mem_of_abs_le hb
  obtain ⟨hc1, hc2⟩ := one_add_mem_of_abs_le hc
  obtain ⟨hd1, hd2⟩ := one_add_mem_of_abs_le hd
  have he1 : 0 ≤ 1 - e := by linarith only [he']
  have hd0 : 0 < 1 + d := by linarith only [hd1, he']
  have hq : e * e ≤ e * (1 / 16) := mul_le_mul_of_nonneg_left he' he
  have hq' : e * (e * e) ≤ e * (e * (1 / 16)) := mul_le_mul_of_nonneg_left hq he
  constructor
  · rw [le_div_iff₀ hd0]
    calc (1 - 8 * e) * (1 + d) ≤ (1 - 8 * e) * (1 + e) :=
          mul_le_mul_of_nonneg_left hd2 (by linarith only [he'])
      _ ≤ (1 - e) * (1 - e) * (1 - e) := by linarith only [he, mul_nonneg he he, hq']
      _ ≤ (1 + a) * (1 + b) * (1 + c) :=
          mul_le_mul (mul_le_mul ha1 hb1 he1 (he1.trans ha1)) hc1 he1
            (mul_nonneg (he1.trans ha1) (he1.trans hb1))
  · rw [div_le_iff₀ hd0]
    calc (1 + a) * (1 + b) * (1 + c) ≤ (1 + e) * (1 + e) * (1 + e) :=
          mul_le_mul (mul_le_mul ha2 hb2 (he1.trans hb1) (by positivity)) hc2 (he1.trans hc1)
            (by positivity)
      _ ≤ (1 + 8 * e) * (1 - e) := by linarith only [he, hq, hq']
      _ ≤ (1 + 8 * e) * (1 + d) := mul_le_mul_of_nonneg_left hd1 (by positivity)

/-- Three `float64` roundings over one stay within `2^-50` of one. -/
theorem relError_bounds {a b c d : ℚ} (ha : |a| ≤ 1 / 2 ^ 53) (hb : |b| ≤ 1 / 2 ^ 53)
    (hc : |c| ≤ 1 / 2 ^ 53) (hd : |d| ≤ 1 / 2 ^ 53) :
    1 - 1 / 2 ^ 50 ≤ (1 + a) * (1 + b) * (1 + c) / (1 + d) ∧
      (1 + a) * (1 + b) * (1 + c) / (1 + d) ≤ 1 + 1 / 2 ^ 50 := by
  rw [show (1 : ℚ) / 2 ^ 50 = 8 * (1 / 2 ^ 53) by norm_num]
  exact relError_bounds_of_le (by norm_num) (by norm_num) ha hb hc hd

/-- A value with a 53-bit significand is left as it is. -/
theorem round_eq_self {m e : ℤ} (hm : |m| < 2 ^ 53) : round (m * 2 ^ e) = m * 2 ^ e := by
  rcases eq_or_ne m 0 with rfl | hm0
  · simp
  set x : ℚ := m * 2 ^ e
  have he : (0 : ℚ) < 2 ^ e := zpow_pos (by norm_num) _
  have hx : 0 < |x| := by
    simp only [x, abs_mul, abs_of_pos he]
    exact mul_pos (by exact_mod_cast abs_pos.mpr hm0) he
  have hlt : |x| < (2 : ℚ) ^ (53 + e) := by
    rw [zpow_add₀ (by norm_num : (2 : ℚ) ≠ 0)]
    simp only [x, abs_mul, abs_of_pos he]
    exact mul_lt_mul_of_pos_right (by exact_mod_cast hm) he
  have hlog : Int.log 2 |x| < 53 + e :=
    (Int.lt_zpow_iff_log_lt (b := 2) (by norm_num) hx).1 (by exact_mod_cast hlt)
  obtain ⟨d, hd⟩ : ∃ d : ℕ, e - ulpExponent x = d := ⟨(e - ulpExponent x).toNat, by
    rw [Int.toNat_of_nonneg]; simp only [ulpExponent]; omega⟩
  have hq : x / 2 ^ ulpExponent x = ((m * 2 ^ d : ℤ) : ℚ) := by
    rw [div_eq_iff (zpow_pos (by norm_num) _).ne']
    push_cast
    rw [mul_assoc, ← zpow_natCast, ← zpow_add₀ (by norm_num : (2 : ℚ) ≠ 0), ← hd]
    simp [x]
  rw [round, hq, roundHalfEven_intCast]
  rw [← hq, div_mul_cancel₀ _ (zpow_pos (by norm_num) _).ne']

theorem round_intCast {n : ℤ} (hn : |n| < 2 ^ 53) : round n = n := by
  simpa using round_eq_self (e := 0) hn

theorem round_natCast {n : ℕ} (hn : n < 2 ^ 53) : round n = n := by
  have : |(n : ℤ)| < 2 ^ 53 := by rw [abs_of_nonneg (by positivity)]; exact_mod_cast hn
  exact_mod_cast round_intCast this

@[simp] theorem round_one : round 1 = 1 := by exact_mod_cast round_natCast (n := 1) (by norm_num)

/-- A dyadic `m / 2^k` with a 53-bit numerator is left as it is. -/
theorem round_div_two_pow {m : ℤ} (k : ℕ) (hm : |m| < 2 ^ 53) :
    round (m / 2 ^ k) = m / 2 ^ k := by
  have := round_eq_self (e := -(k : ℤ)) hm
  rwa [zpow_neg, zpow_natCast, ← div_eq_mul_inv] at this

/-- `2^(k + 1)` is `2^53` units of the last place of a value of binade `k`. -/
theorem two_zpow_succ_eq (k : ℤ) :
    (2 : ℚ) ^ (k + 1) = ((2 ^ 53 : ℤ) : ℚ) * 2 ^ (k - 52) := by
  rw [show k + 1 = 53 + (k - 52) by ring, zpow_add₀ (by norm_num : (2 : ℚ) ≠ 0)]
  norm_num

/-- `2^k` is `2^52` units of the last place of a value of binade `k`. -/
theorem two_zpow_eq (k : ℤ) : (2 : ℚ) ^ k = ((2 ^ 52 : ℤ) : ℚ) * 2 ^ (k - 52) := by
  rw [show k = 52 + (k - 52) by ring, zpow_add₀ (by norm_num : (2 : ℚ) ≠ 0)]
  norm_num

/-- A positive value rounds to at most the top of its binade. -/
theorem round_le_two_zpow_log_succ {x : ℚ} (hx : 0 < x) : round x ≤ 2 ^ (Int.log 2 x + 1) := by
  have hu : (0 : ℚ) < 2 ^ (Int.log 2 x - 52) := zpow_pos (by norm_num) _
  have hxq : x / 2 ^ (Int.log 2 x - 52) ≤ ((2 ^ 53 : ℤ) : ℚ) := by
    rw [div_le_iff₀ hu, ← two_zpow_succ_eq]; exact (lt_two_zpow_log_succ x).le
  rw [round, ulpExponent, abs_of_pos hx, two_zpow_succ_eq]
  exact mul_le_mul_of_nonneg_right (by exact_mod_cast roundHalfEven_le_of_le hxq) hu.le

/-- A positive value rounds to at least the bottom of its binade. -/
theorem two_zpow_log_le_round {x : ℚ} (hx : 0 < x) : 2 ^ Int.log 2 x ≤ round x := by
  have hu : (0 : ℚ) < 2 ^ (Int.log 2 x - 52) := zpow_pos (by norm_num) _
  have hxq : ((2 ^ 52 : ℤ) : ℚ) ≤ x / 2 ^ (Int.log 2 x - 52) := by
    rw [le_div_iff₀ hu, ← two_zpow_eq]; exact two_zpow_log_le hx
  rw [round, ulpExponent, abs_of_pos hx, two_zpow_eq (Int.log 2 x)]
  exact mul_le_mul_of_nonneg_right (by exact_mod_cast le_roundHalfEven_of_le hxq) hu.le

/-- Rounding is monotone on non-negative values. -/
theorem round_le_round {x y : ℚ} (hx : 0 ≤ x) (h : x ≤ y) : round x ≤ round y := by
  rcases hx.eq_or_lt with rfl | hx
  · rw [round_zero]; exact round_nonneg h
  have hy : 0 < y := hx.trans_le h
  have hlog : Int.log 2 x ≤ Int.log 2 y := Int.log_mono_right hx h
  rcases hlog.lt_or_eq with hlt | heq
  · -- in a lower binade, `x` rounds to at most the bottom of the binade of `y`
    calc round x ≤ 2 ^ (Int.log 2 x + 1) := round_le_two_zpow_log_succ hx
      _ ≤ 2 ^ Int.log 2 y := zpow_le_zpow_right₀ (by norm_num) (by omega)
      _ ≤ round y := two_zpow_log_le_round hy
  · have hu : (0 : ℚ) < 2 ^ (Int.log 2 y - 52) := zpow_pos (by norm_num) _
    simp only [round, ulpExponent, abs_of_pos hx, abs_of_pos hy, heq]
    exact mul_le_mul_of_nonneg_right
      (by exact_mod_cast roundHalfEven_mono (div_le_div_of_nonneg_right h hu.le)) hu.le
/-- A rounded value is left as it is: its significand has at most 53 bits, or it is the
power of two a significand of `2^53` stands for. -/
theorem round_round (x : ℚ) : round (round x) = round x := by
  rcases eq_or_ne x 0 with rfl | hx
  · simp
  have hu : (0 : ℚ) < 2 ^ ulpExponent x := zpow_pos (by norm_num) _
  have htop : (2 : ℚ) ^ (Int.log 2 |x| + 1) = ((2 ^ 53 : ℤ) : ℚ) * 2 ^ ulpExponent x :=
    two_zpow_succ_eq _
  have hlt : |x / 2 ^ ulpExponent x| < ((2 ^ 53 : ℤ) : ℚ) := by
    rw [abs_div, abs_of_pos hu, div_lt_iff₀ hu, ← htop]
    exact lt_two_zpow_log_succ _
  obtain ⟨hlo, hhi⟩ := abs_lt.mp hlt
  have hm : |roundHalfEven (x / 2 ^ ulpExponent x)| ≤ 2 ^ 53 :=
    abs_le.mpr ⟨le_roundHalfEven_of_le (by push_cast at hlo ⊢; linarith),
      roundHalfEven_le_of_le hhi.le⟩
  rcases hm.lt_or_eq with hm | hm
  · exact round_eq_self hm
  · -- a significand of `±2^53` is `±1` at the next exponent
    have hshift : ∀ s : ℤ, (((s * 2 ^ 53 : ℤ) : ℚ)) * 2 ^ ulpExponent x =
        (s : ℚ) * 2 ^ (ulpExponent x + 53) := fun s => by
      rw [zpow_add₀ (by norm_num : (2 : ℚ) ≠ 0)]; push_cast; ring
    rcases (abs_eq (by norm_num)).mp hm with h | h
    · have hr : round x = ((1 : ℤ) : ℚ) * 2 ^ (ulpExponent x + 53) := by
        rw [← hshift 1, one_mul, ← h]; rfl
      rw [hr]; exact round_eq_self (by norm_num)
    · have hr : round x = ((-1 : ℤ) : ℚ) * 2 ^ (ulpExponent x + 53) := by
        rw [← hshift (-1), neg_one_mul, ← h]; rfl
      rw [hr]; exact round_eq_self (by norm_num)

/-- Rounding a non-negative value scales it by at most `1 + 2^-53`. -/
theorem round_le_mul {x : ℚ} (hx : 0 ≤ x) : round x ≤ x * (1 + 1 / 2 ^ 53) := by
  have := round_le x
  rw [abs_of_nonneg hx] at this
  linarith

/-- Rounding a non-negative value scales it by at least `1 - 2^-53`. -/
theorem mul_le_round {x : ℚ} (hx : 0 ≤ x) : x * (1 - 1 / 2 ^ 53) ≤ round x := by
  have := le_round x
  rw [abs_of_nonneg hx] at this
  linarith

/-! ### Quotients -/

theorem div_le_div_of_le_left {c c' d : ℚ} (hc : 0 ≤ c) (h : c ≤ c') (hd : 0 ≤ d) :
    div c d ≤ div c' d :=
  round_le_round (div_nonneg hc hd) (div_le_div_of_nonneg_right h hd)

theorem div_pos_of_pos {c d : ℚ} (hc : 0 < c) (hd : 0 < d) : 0 < div c d :=
  round_pos (by positivity)

/-- A quotient of at most one rounds to at most one. -/
theorem div_le_one_of_le {c d : ℚ} (hc : 0 ≤ c) (h : c ≤ d) (hd : 0 < d) : div c d ≤ 1 := by
  have := round_le_round (div_nonneg hc hd.le) ((div_le_one₀ hd).mpr h)
  rwa [round_one] at this

/-- One rounded division is within `2^-50` of the exact quotient, relatively. -/
theorem abs_div_sub_le {c d : ℚ} (hc : 0 ≤ c) (hd : 0 ≤ d) :
    |div c d - c / d| ≤ c / d / 2 ^ 50 := by
  have hq : 0 ≤ c / d := div_nonneg hc hd
  calc |div c d - c / d| ≤ |c / d| / 2 ^ 53 := abs_round_sub_le _
    _ ≤ c / d / 2 ^ 50 := by
        rw [abs_of_nonneg hq]; exact div_le_div_of_nonneg_left hq (by norm_num) (by norm_num)

/-- Dividing two rounded quotients by the same divisor and rounding stays within `2^-50` of
the exact quotient, relatively: the divisor cancels, three roundings remain. -/
theorem abs_div_div_sub_le {c m d : ℚ} (hc : 0 ≤ c) (hm : 0 < m) (hd : 0 < d) :
    |div (div c d) (div m d) - c / m| ≤ c / m / 2 ^ 50 := by
  obtain ⟨a, ha, hca⟩ := exists_round_eq_mul (c / d)
  obtain ⟨b, hb, hmb⟩ := exists_round_eq_mul (m / d)
  obtain ⟨e, he, hq⟩ := exists_round_eq_mul (round (c / d) / round (m / d))
  have hfac : div (div c d) (div m d) = c / m * ((1 + a) * (1 + e) * (1 + 0) / (1 + b)) := by
    rw [show div (div c d) (div m d) = round (round (c / d) / round (m / d)) from rfl, hq, hca, hmb,
      mul_div_mul_comm, div_div_div_cancel_right₀ hd.ne']
    ring
  have h0 : |(0 : ℚ)| ≤ 1 / 2 ^ 53 := by norm_num
  obtain ⟨h₁, h₂⟩ := relError_bounds ha he h0 hb
  have hcm : 0 ≤ c / m := div_nonneg hc hm.le
  rw [hfac]
  generalize (1 + a) * (1 + e) * (1 + 0) / (1 + b) = F at h₁ h₂
  have k₁ := mul_le_mul_of_nonneg_left h₁ hcm
  have k₂ := mul_le_mul_of_nonneg_left h₂ hcm
  rw [abs_le]
  constructor
  · linarith only [k₁]
  · linarith only [k₂]

/-! ### Sums -/

/-- A `float64` running sum of non-negative terms stays non-negative. -/
theorem foldl_add_nonneg {a : ℚ} (ha : 0 ≤ a) :
    ∀ {xs : List ℚ}, (∀ x ∈ xs, 0 ≤ x) → 0 ≤ xs.foldl add a
  | [], _ => ha
  | x :: xs, hxs => by
    rw [List.foldl_cons]
    exact foldl_add_nonneg (round_nonneg (add_nonneg ha (hxs x (List.mem_cons_self _ _))))
      fun y hy => hxs y (List.mem_cons_of_mem _ hy)

/-- A `float64` running sum of `n` non-negative terms is at most `(1 + 2^-53)^n` times the
exact sum. -/
theorem foldl_add_le {a : ℚ} (ha : 0 ≤ a) :
    ∀ {xs : List ℚ}, (∀ x ∈ xs, 0 ≤ x) →
      xs.foldl add a ≤ (1 + 1 / 2 ^ 53) ^ xs.length * (a + xs.sum)
  | [], _ => by simp
  | x :: xs, hxs => by
    have hx := hxs x (List.mem_cons_self _ _)
    have hxs' : ∀ y ∈ xs, 0 ≤ y := fun y hy => hxs y (List.mem_cons_of_mem _ hy)
    have hs : 0 ≤ xs.sum := List.sum_nonneg hxs'
    have hp : (0 : ℚ) ≤ (1 + 1 / 2 ^ 53) ^ xs.length := by positivity
    calc (x :: xs).foldl add a = xs.foldl add (round (a + x)) := rfl
      _ ≤ (1 + 1 / 2 ^ 53) ^ xs.length * (round (a + x) + xs.sum) :=
          foldl_add_le (round_nonneg (add_nonneg ha hx)) hxs'
      _ ≤ (1 + 1 / 2 ^ 53) ^ xs.length * ((a + x + xs.sum) * (1 + 1 / 2 ^ 53)) :=
          mul_le_mul_of_nonneg_left (by nlinarith only [round_le_mul (add_nonneg ha hx), hs]) hp
      _ = _ := by rw [List.length_cons, pow_succ, List.sum_cons]; ring

/-- A `float64` running sum of `n` non-negative terms is at least `(1 - 2^-53)^n` times the
exact sum. -/
theorem le_foldl_add {a : ℚ} (ha : 0 ≤ a) :
    ∀ {xs : List ℚ}, (∀ x ∈ xs, 0 ≤ x) →
      (1 - 1 / 2 ^ 53) ^ xs.length * (a + xs.sum) ≤ xs.foldl add a
  | [], _ => by simp
  | x :: xs, hxs => by
    have hx := hxs x (List.mem_cons_self _ _)
    have hxs' : ∀ y ∈ xs, 0 ≤ y := fun y hy => hxs y (List.mem_cons_of_mem _ hy)
    have hs : 0 ≤ xs.sum := List.sum_nonneg hxs'
    have hp : (0 : ℚ) ≤ (1 - 1 / 2 ^ 53) ^ xs.length := pow_nonneg (by norm_num) _
    calc (1 - 1 / 2 ^ 53) ^ (x :: xs).length * (a + (x :: xs).sum)
        = (1 - 1 / 2 ^ 53) ^ xs.length * ((a + x + xs.sum) * (1 - 1 / 2 ^ 53)) := by
          rw [List.length_cons, pow_succ, List.sum_cons]; ring
      _ ≤ (1 - 1 / 2 ^ 53) ^ xs.length * (round (a + x) + xs.sum) :=
          mul_le_mul_of_nonneg_left (by nlinarith only [mul_le_round (add_nonneg ha hx), hs]) hp
      _ ≤ xs.foldl add (round (a + x)) := le_foldl_add (round_nonneg (add_nonneg ha hx)) hxs'

/-- Natural numbers whose running sum stays below `2^53` add exactly. -/
theorem foldl_add_eq_sum {a : ℚ} (ha : ∃ n : ℕ, a = n) :
    ∀ {xs : List ℚ}, (∀ x ∈ xs, ∃ n : ℕ, x = n) → a + xs.sum < 2 ^ 53 →
      xs.foldl add a = a + xs.sum
  | [], _, _ => by simp
  | x :: xs, hxs, hlt => by
    obtain ⟨n, rfl⟩ := ha
    obtain ⟨k, rfl⟩ := hxs x (List.mem_cons_self _ _)
    have hxs' : ∀ y ∈ xs, ∃ n : ℕ, y = n := fun y hy => hxs y (List.mem_cons_of_mem _ hy)
    have hs : 0 ≤ xs.sum := List.sum_nonneg fun y hy => by
      obtain ⟨m, rfl⟩ := hxs' y hy; positivity
    rw [List.sum_cons] at hlt
    have hround : round ((n : ℚ) + k) = n + k := by
      exact_mod_cast round_natCast (n := n + k) (by exact_mod_cast (by linarith : (n : ℚ) + k < 2 ^ 53))
    rw [List.foldl_cons, add, hround, foldl_add_eq_sum ⟨n + k, by push_cast; rfl⟩ hxs'
      (by linarith), List.sum_cons, add_assoc]

/-- Up to `2^40` roundings shrink a value by at most `2^-13`. -/
theorem one_sub_le_pow {n : ℕ} (hn : n ≤ 2 ^ 40) : 1 - 1 / 2 ^ 13 ≤ (1 - 1 / 2 ^ 53 : ℚ) ^ n := by
  have hb : (1 : ℚ) - n * (1 / 2 ^ 53) ≤ (1 - 1 / 2 ^ 53) ^ n := by
    simpa [sub_eq_add_neg] using one_add_mul_le_pow (by norm_num : (-2 : ℚ) ≤ -(1 / 2 ^ 53)) n
  have hn' : (n : ℚ) ≤ 2 ^ 40 := by exact_mod_cast hn
  linarith only [hb, hn']

/-- Up to `2^40` roundings grow a value by at most `2^-12`: `(1 + ε)^n (1 - ε)^n ≤ 1`. -/
theorem one_add_pow_le {n : ℕ} (hn : n ≤ 2 ^ 40) : (1 + 1 / 2 ^ 53 : ℚ) ^ n ≤ 1 + 1 / 2 ^ 12 := by
  have hprod : (1 + 1 / 2 ^ 53 : ℚ) ^ n * (1 - 1 / 2 ^ 53) ^ n ≤ 1 := by
    rw [← mul_pow]; exact pow_le_one₀ (by norm_num) (by norm_num)
  have h := mul_le_mul_of_nonneg_left (one_sub_le_pow hn)
    (pow_nonneg (by norm_num : (0 : ℚ) ≤ 1 + 1 / 2 ^ 53) n)
  linarith only [h, hprod]

/-- A concrete rounding in natural numbers: for `2^52 ≤ n * 2^s / d < 2^53`, the value
`n / d` rounds to `rneDiv (n * 2^s) d / 2^s`. -/
theorem round_div_nat (n d s : ℕ) (hd : 0 < d) (h1 : 2 ^ 52 * d ≤ n * 2 ^ s)
    (h2 : n * 2 ^ s < 2 ^ 53 * d) : round ((n : ℚ) / d) = (rneDiv (n * 2 ^ s) d : ℚ) / 2 ^ s := by
  have hd' : (0 : ℚ) < d := by exact_mod_cast hd
  have hs : (0 : ℚ) < 2 ^ s := by positivity
  have hpos : 0 < (n : ℚ) / d := by
    have : 0 < n := by
      rcases Nat.eq_zero_or_pos n with rfl | h
      · simp at h1; omega
      · exact h
    positivity
  have hlog : Int.log 2 ((n : ℚ) / d) = 52 - s := by
    refine log_two_eq hpos ?_ ?_
    · rw [zpow_sub₀ (by norm_num), zpow_natCast, div_le_div_iff₀ hs hd']
      exact_mod_cast (by simpa [mul_comm] using h1 : (2 : ℕ) ^ 52 * d ≤ n * 2 ^ s)
    · rw [show (52 - (s : ℤ) + 1) = 53 - s by ring, zpow_sub₀ (by norm_num), zpow_natCast,
        div_lt_div_iff₀ hd' hs]
      exact_mod_cast (by simpa [mul_comm] using h2 : n * 2 ^ s < 2 ^ 53 * d)
  have hu : ulpExponent ((n : ℚ) / d) = -(s : ℤ) := by
    rw [ulpExponent, abs_of_pos hpos, hlog]; ring
  rw [round, hu, zpow_neg, zpow_natCast, div_inv_eq_mul,
    show (n : ℚ) / d * 2 ^ s = ((n * 2 ^ s : ℕ) : ℚ) / d by push_cast; ring,
    roundHalfEven_div_nat _ _ hd, ← div_eq_mul_inv, Int.cast_natCast]

end F64

end KubeSchedulerSim
