import Mathlib.Data.Int.Log
import Mathlib.Tactic

/-! Rounding a rational to a binary floating-point format: to the nearest number with a significand
of so many bits, to the even one of two. Overflow is left to the range a caller asks for. -/

namespace Rs485Gateway.Numbers

def roundEven (x : ℚ) : ℤ :=
  let low := ⌊x⌋
  let rest := x - low
  if rest < 1 / 2 then low
  else if 1 / 2 < rest then low + 1
  else if low % 2 = 0 then low
  else low + 1

structure Format where
  precision : ℕ
  minExponent : ℤ

/-- IEEE 754 binary32, the `float` of C. -/
def single : Format := ⟨24, -149⟩

namespace Format

def exponent (f : Format) (x : ℚ) : ℤ := max (Int.log 2 |x| - (f.precision - 1)) f.minExponent

def round (f : Format) (x : ℚ) : ℚ := roundEven (x / 2 ^ f.exponent x) * 2 ^ f.exponent x

end Format

section Integers

variable {x : ℚ}

theorem roundEven_close (x : ℚ) : |roundEven x - x| ≤ 1 / 2 := by
  have low := Int.floor_le x
  have high := Int.lt_floor_add_one x
  rw [abs_le]
  simp only [roundEven]
  split
  · rename_i below
    constructor <;> linarith
  · rename_i atLeast
    have half : 1 / 2 ≤ x - ⌊x⌋ := not_lt.mp atLeast
    split
    · push_cast
      constructor <;> linarith
    · rename_i atMost
      have same : x - ⌊x⌋ ≤ 1 / 2 := not_lt.mp atMost
      split
      · constructor <;> linarith
      · push_cast
        constructor <;> linarith

@[simp] theorem roundEven_int (n : ℤ) : roundEven n = n := by
  simp [roundEven]

theorem roundEven_near {n : ℤ} (near : |x - n| < 1 / 2) : roundEven x = n := by
  have error := roundEven_close x
  rw [abs_lt] at near
  rw [abs_le] at error
  have above : (roundEven x : ℚ) < n + 1 := by linarith
  have below : (n : ℚ) < roundEven x + 1 := by linarith
  have upper : roundEven x < n + 1 := by exact_mod_cast above
  have lower : n < roundEven x + 1 := by exact_mod_cast below
  omega

end Integers

namespace Format

variable (f : Format) {x : ℚ}

theorem round_error_le (x : ℚ) : |f.round x - x| ≤ 2 ^ f.exponent x / 2 := by
  have positive : (0 : ℚ) < 2 ^ f.exponent x := zpow_pos (by norm_num) _
  have error := roundEven_close (x / 2 ^ f.exponent x)
  have scaled : f.round x - x =
      (roundEven (x / 2 ^ f.exponent x) - x / 2 ^ f.exponent x) * 2 ^ f.exponent x := by
    rw [round, sub_mul, div_mul_cancel₀ _ positive.ne']
  calc
    |f.round x - x| = |roundEven (x / 2 ^ f.exponent x) - x / 2 ^ f.exponent x| *
        2 ^ f.exponent x := by rw [scaled, abs_mul, abs_of_pos positive]
    _ ≤ 1 / 2 * 2 ^ f.exponent x := mul_le_mul_of_nonneg_right error positive.le
    _ = 2 ^ f.exponent x / 2 := by ring

/-- Away from the smallest numbers the error is a fraction of the number. -/
theorem round_error (normal : f.minExponent ≤ Int.log 2 |x| - (f.precision - 1))
    (nonzero : x ≠ 0) : |f.round x - x| ≤ |x| / 2 ^ f.precision := by
  have leading : (2 : ℚ) ^ Int.log 2 |x| ≤ |x| := by
    have below := Int.zpow_log_le_self (b := 2) (by decide) (abs_pos.mpr nonzero)
    exact_mod_cast below
  have exponent_eq : f.exponent x = Int.log 2 |x| - (f.precision - 1) := max_eq_left normal
  have scale : (2 : ℚ) ^ (Int.log 2 |x| - (f.precision - 1)) / 2 =
      2 ^ Int.log 2 |x| / 2 ^ f.precision := by
    rw [zpow_sub₀ (by norm_num), zpow_sub₀ (by norm_num), zpow_natCast, zpow_one]
    field_simp
  calc
    |f.round x - x| ≤ 2 ^ f.exponent x / 2 := f.round_error_le x
    _ = 2 ^ Int.log 2 |x| / 2 ^ f.precision := by rw [exponent_eq, scale]
    _ ≤ |x| / 2 ^ f.precision := by gcongr

theorem round_int (n : ℤ) (fits : |n| < 2 ^ f.precision) (small : f.minExponent ≤ 0) :
    f.round n = n := by
  by_cases zero : n = 0
  · subst zero
    have same : roundEven 0 = 0 := roundEven_int 0
    simp [round, same]
  · have nonzero : (0 : ℚ) < |(n : ℚ)| := abs_pos.mpr (by exact_mod_cast zero)
    have bits : Int.log 2 |(n : ℚ)| < f.precision := by
      apply (Int.lt_zpow_iff_log_lt (by decide) nonzero).mp
      rw [zpow_natCast]
      exact_mod_cast fits
    have below : f.exponent n ≤ 0 := max_le (by omega) small
    rcases Int.eq_ofNat_of_zero_le (neg_nonneg.mpr below) with ⟨shift, same⟩
    have exponent_eq : f.exponent n = -shift := by omega
    have integral : (n : ℚ) / 2 ^ f.exponent n = ((n * 2 ^ shift : ℤ) : ℚ) := by
      rw [exponent_eq, zpow_neg, zpow_natCast, div_inv_eq_mul]
      push_cast
      ring
    rw [round, integral, roundEven_int, ← integral, div_mul_cancel₀]
    exact (zpow_pos (by norm_num) _).ne'

end Format

end Rs485Gateway.Numbers
