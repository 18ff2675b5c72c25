/- module: TrackerGateway/Foundation/Wire/Binary64
   layer: library
   digest: Rounding to the nearest integer, decimal and double, and how far it can be off. -/

import Mathlib.Algebra.Order.Field.Power
import Mathlib.Data.Int.Log
import Mathlib.Data.Rat.Floor
import Mathlib.Tactic.FieldSimp

set_option autoImplicit false
set_option relaxedAutoImplicit false

namespace TrackerGateway.Foundation.Wire

/-- The nearest integer, ties to the even one. -/
def roundHalfEven (q : ℚ) : ℤ :=
  let below := ⌊q⌋
  let excess := q - below
  if excess < 1 / 2 then below
  else if 1 / 2 < excess then below + 1
  else if below % 2 = 0 then below else below + 1

def roundTo (places : Nat) (q : ℚ) : ℚ := roundHalfEven (q * 10 ^ places) / 10 ^ places

theorem roundHalfEven_error (q : ℚ) : |(roundHalfEven q : ℚ) - q| ≤ 1 / 2 := by
  have low := Int.floor_le q
  have high := Int.lt_floor_add_one q
  unfold roundHalfEven
  dsimp only
  split_ifs <;> push_cast <;> rw [abs_le] <;> constructor <;> linarith

theorem roundHalfEven_eq {q : ℚ} {n : ℤ} (near : |q - n| < 1 / 2) : roundHalfEven q = n := by
  have error := roundHalfEven_error q
  have apart : |((roundHalfEven q - n : ℤ) : ℚ)| < 1 := by
    push_cast
    calc |(roundHalfEven q : ℚ) - n| ≤ |(roundHalfEven q : ℚ) - q| + |q - n| := abs_sub_le _ _ _
      _ < 1 := by linarith
  have same : |roundHalfEven q - n| < 1 := by exact_mod_cast apart
  have := Int.abs_lt_one_iff.mp same
  omega

@[simp] theorem roundHalfEven_intCast (n : ℤ) : roundHalfEven (n : ℚ) = n :=
  roundHalfEven_eq (by simp)

@[simp] theorem roundTo_natCast (places n : Nat) : roundTo places (n : ℚ) = n := by
  have whole : (n : ℚ) * 10 ^ places = ((n * 10 ^ places : ℤ) : ℚ) := by
    push_cast
    rfl
  rw [roundTo, whole, roundHalfEven_intCast, ← whole, mul_div_cancel_right₀ _ (by positivity)]

theorem roundHalfEven_le {q : ℚ} {high : ℤ} (below : q ≤ high) : roundHalfEven q ≤ high := by
  have near := abs_le.mp (roundHalfEven_error q)
  have most : (roundHalfEven q : ℚ) < ((high + 1 : ℤ) : ℚ) := by
    push_cast
    linarith
  have := Int.cast_lt.mp most
  omega

theorem le_roundHalfEven {q : ℚ} {low : ℤ} (above : low ≤ q) : low ≤ roundHalfEven q := by
  have near := abs_le.mp (roundHalfEven_error q)
  have least : ((low - 1 : ℤ) : ℚ) < roundHalfEven q := by
    push_cast
    linarith
  have := Int.cast_lt.mp least
  omega

theorem roundHalfEven_pos {q : ℚ} (above : 1 / 2 < q) : 0 < roundHalfEven q := by
  have near := abs_le.mp (roundHalfEven_error q)
  have positive : ((0 : ℤ) : ℚ) < roundHalfEven q := by
    rw [Int.cast_zero]
    linarith
  exact Int.cast_lt.mp positive

theorem roundHalfEven_between {q : ℚ} {low high : ℤ} (above : low ≤ q) (below : q ≤ high) :
    low ≤ roundHalfEven q ∧ roundHalfEven q ≤ high :=
  ⟨le_roundHalfEven above, roundHalfEven_le below⟩

/-- The middle below an even number is rounded up to it. -/
theorem roundHalfEven_middle {n : ℤ} (even : n % 2 = 0) :
    roundHalfEven ((n : ℚ) - 1 / 2) = n := by
  have floor_ : ⌊(n : ℚ) - 1 / 2⌋ = n - 1 := by
    rw [Int.floor_eq_iff]
    push_cast
    constructor <;> linarith
  have excess : (n : ℚ) - 1 / 2 - ((n - 1 : ℤ) : ℚ) = 1 / 2 := by
    push_cast
    ring
  have odd : ¬(n - 1) % 2 = 0 := by omega
  rw [roundHalfEven, floor_]
  simp only [excess, lt_irrefl, if_false, if_neg odd]
  omega

theorem roundHalfEven_lt_iff {q : ℚ} {n : ℤ} (even : n % 2 = 0) :
    roundHalfEven q < n ↔ q < n - 1 / 2 := by
  have near := abs_le.mp (roundHalfEven_error q)
  constructor
  · intro less
    by_contra above
    rcases eq_or_lt_of_le (not_lt.mp above) with same | beyond
    · rw [← same, roundHalfEven_middle even] at less
      exact lt_irrefl n less
    · have least : ((n - 1 : ℤ) : ℚ) < roundHalfEven q := by
        push_cast
        linarith
      have := Int.cast_lt.mp least
      omega
  · intro below
    have most : (roundHalfEven q : ℚ) < n := by linarith
    exact Int.cast_lt.mp most

theorem roundTo_between {q : ℚ} {low high : ℤ} (places : Nat) (above : low ≤ q)
    (below : q ≤ high) : low ≤ roundTo places q ∧ roundTo places q ≤ high := by
  have positive : (0 : ℚ) < 10 ^ places := by positivity
  have scaled : ((low * 10 ^ places : ℤ) : ℚ) ≤ q * 10 ^ places := by
    push_cast
    gcongr
  have scaled' : q * 10 ^ places ≤ ((high * 10 ^ places : ℤ) : ℚ) := by
    push_cast
    gcongr
  obtain ⟨least, most⟩ := roundHalfEven_between scaled scaled'
  rw [roundTo, le_div_iff₀ positive, div_le_iff₀ positive]
  exact ⟨by exact_mod_cast least, by exact_mod_cast most⟩

/-- The distance between the doubles around a number; it grows no smaller below the normal range. -/
def ulp (q : ℚ) : ℚ := 2 ^ (max (Int.log 2 |q|) (-1022) - 52)

/-- The nearest double, ties to the even one, of a number that is not too large for one. -/
def binary64 (q : ℚ) : ℚ := roundHalfEven (q / ulp q) * ulp q

theorem ulp_pos (q : ℚ) : 0 < ulp q := zpow_pos (by norm_num) _

theorem binary64_error (q : ℚ) : |binary64 q - q| ≤ ulp q / 2 := by
  have positive := ulp_pos q
  have error := roundHalfEven_error (q / ulp q)
  calc |binary64 q - q| = |(roundHalfEven (q / ulp q) : ℚ) - q / ulp q| * ulp q := by
        rw [binary64, ← abs_of_pos positive, ← abs_mul, abs_of_pos positive, sub_mul,
          div_mul_cancel₀ q positive.ne']
    _ ≤ 1 / 2 * ulp q := mul_le_mul_of_nonneg_right error positive.le
    _ = ulp q / 2 := by ring

theorem ulp_eq {q : ℚ} {e : ℤ} (normal : -1022 ≤ e) (low : 2 ^ e ≤ |q|) (high : |q| < 2 ^ (e + 1)) :
    ulp q = 2 ^ (e - 52) := by
  have positive : 0 < |q| := (zpow_pos (by norm_num) e).trans_le low
  have least : e ≤ Int.log 2 |q| := (Int.zpow_le_iff_le_log (by norm_num) positive).mp low
  have most : Int.log 2 |q| < e + 1 := (Int.lt_zpow_iff_log_lt (by norm_num) positive).mp high
  have log : Int.log 2 |q| = e := by omega
  rw [ulp, log, max_eq_left normal]

theorem ulp_le {q : ℚ} {e : ℤ} (normal : -1022 < e) (nonzero : q ≠ 0) (below : |q| < 2 ^ e) :
    ulp q ≤ 2 ^ (e - 53) := by
  have bound : Int.log 2 |q| < e :=
    (Int.lt_zpow_iff_log_lt (by norm_num) (abs_pos.mpr nonzero)).mp below
  exact zpow_le_zpow_right₀ (by norm_num) (by omega)

theorem ulp_le_abs {q : ℚ} (normal : 2 ^ (-1022 : ℤ) ≤ |q|) : ulp q ≤ |q| / 2 ^ 52 := by
  have positive : 0 < |q| := (zpow_pos (by norm_num) (-1022 : ℤ)).trans_le normal
  have log : -1022 ≤ Int.log 2 |q| := (Int.zpow_le_iff_le_log (by norm_num) positive).mp normal
  have split_ : (2 : ℚ) ^ (Int.log 2 |q| - 52) = 2 ^ Int.log 2 |q| / 2 ^ 52 := by
    rw [zpow_sub₀ (by norm_num)]
    norm_num
  rw [ulp, max_eq_left log, split_]
  have least : (2 : ℚ) ^ Int.log 2 |q| ≤ |q| := Int.zpow_log_le_self (by norm_num) positive
  gcongr

@[simp] theorem binary64_zero : binary64 0 = 0 := by
  have zero : roundHalfEven 0 = 0 := roundHalfEven_intCast 0
  rw [binary64, zero_div, zero, Int.cast_zero, zero_mul]

/-- Numbers with at most 53 binary digits in front of the point are a power of one half apart. -/
theorem exists_ulp_eq {q : ℚ} (small : |q| < 2 ^ 53) : ∃ k : Nat, ulp q = (2 ^ k)⁻¹ := by
  have few : max (Int.log 2 |q|) (-1022) ≤ 52 := by
    rcases eq_or_ne q 0 with rfl | nonzero
    · simp
    · have bound : Int.log 2 |q| < 53 :=
        (Int.lt_zpow_iff_log_lt (by norm_num) (abs_pos.mpr nonzero)).mp (by exact_mod_cast small)
      omega
  refine ⟨(52 - max (Int.log 2 |q|) (-1022)).toNat, ?_⟩
  rw [ulp, ← zpow_natCast, ← zpow_neg, Int.toNat_of_nonneg (by omega), neg_sub]

/-- The nearest double stays between the whole numbers around a number. -/
theorem binary64_between {q : ℚ} (low high : ℤ) (small : |q| < 2 ^ 53) (above : low ≤ q)
    (below : q ≤ high) : low ≤ binary64 q ∧ binary64 q ≤ high := by
  obtain ⟨k, unit⟩ := exists_ulp_eq small
  have positive : (0 : ℚ) < 2 ^ k := by positivity
  have least : ((low * 2 ^ k : ℤ) : ℚ) ≤ q * 2 ^ k := by
    push_cast
    gcongr
  have most : q * 2 ^ k ≤ ((high * 2 ^ k : ℤ) : ℚ) := by
    push_cast
    gcongr
  obtain ⟨least, most⟩ := roundHalfEven_between least most
  rw [binary64, unit, div_inv_eq_mul, ← div_eq_mul_inv, le_div_iff₀ positive, div_le_iff₀ positive]
  exact ⟨by exact_mod_cast least, by exact_mod_cast most⟩

theorem binary64_natCast {n : Nat} (small : n < 2 ^ 53) : binary64 n = n := by
  have bound : |(n : ℚ)| < 2 ^ 53 := by
    rw [Nat.abs_cast]
    exact_mod_cast small
  have between := binary64_between n n bound (by simp) (by simp)
  exact le_antisymm (by exact_mod_cast between.2) (by exact_mod_cast between.1)

/-- A number is rounded below an even multiple of the distance, if it lies in the same binade, up to
half the distance below that multiple. -/
theorem binary64_lt_iff {q : ℚ} {n : ℤ} (even : n % 2 = 0) :
    binary64 q < n * ulp q ↔ q < (n - 1 / 2) * ulp q := by
  have positive := ulp_pos q
  rw [binary64, mul_lt_mul_iff_left₀ positive, Int.cast_lt, roundHalfEven_lt_iff even,
    div_lt_iff₀ positive]

theorem binary64_relative {q : ℚ} (normal : 2 ^ (-1022 : ℤ) ≤ |q|) :
    |binary64 q - q| ≤ |q| / 2 ^ 53 :=
  calc |binary64 q - q| ≤ ulp q / 2 := binary64_error q
    _ ≤ |q| / 2 ^ 52 / 2 := div_le_div_of_nonneg_right (ulp_le_abs normal) (by norm_num)
    _ = |q| / 2 ^ 53 := by ring

theorem binary64_nonpos {q : ℚ} (nonpos : q ≤ 0) : binary64 q ≤ 0 := by
  have positive := ulp_pos q
  have scaled : q / ulp q ≤ ((0 : ℤ) : ℚ) := by
    rw [Int.cast_zero]
    exact div_nonpos_of_nonpos_of_nonneg nonpos positive.le
  have rounded : roundHalfEven (q / ulp q) ≤ 0 := roundHalfEven_le scaled
  exact mul_nonpos_of_nonpos_of_nonneg (by exact_mod_cast rounded) positive.le

example : binary64 (1 / 10) = 3602879701896397 / 36028797018963968 := by decide +kernel

end TrackerGateway.Foundation.Wire
