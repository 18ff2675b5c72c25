/- module: TrackerGateway/Foundation/Wire/Calendar
   layer: library
   digest: Valid calendar dates with time of day, and the instants they denote. -/

import TrackerGateway.Foundation.Wire.Binary64
import TrackerGateway.Foundation.Wire.Texts

set_option autoImplicit false
set_option relaxedAutoImplicit false

namespace TrackerGateway.Foundation.Wire

/-- Microseconds since the beginning of 1970, in universal time. -/
abbrev Instant := ℤ

def isLeap (year : Nat) : Bool := year % 4 = 0 && (year % 100 != 0 || year % 400 = 0)

def daysInMonth (year month : Nat) : Nat :=
  match month with
  | 2 => if isLeap year then 29 else 28
  | 4 | 6 | 9 | 11 => 30
  | _ => 31

/-- Whether the six numbers name a second of the calendar years 1 to 9999. -/
def isDate (year month day hour minute second : Nat) : Bool :=
  1 ≤ year && year ≤ 9999 && 1 ≤ month && month ≤ 12 && 1 ≤ day && day ≤ daysInMonth year month &&
    hour < 24 && minute < 60 && second < 60

structure Civil where
  year : Nat
  month : Nat
  day : Nat
  hour : Nat
  minute : Nat
  second : Nat
  valid : isDate year month day hour minute second = true
  deriving DecidableEq

def civil? (year month day hour minute second : Nat) : Option Civil :=
  if valid : isDate year month day hour minute second = true then
    some ⟨year, month, day, hour, minute, second, valid⟩
  else none

theorem civil?_components {year month day hour minute second : Nat} {c : Civil}
    (exists_ : civil? year month day hour minute second = some c) :
    c.year = year ∧ c.month = month := by
  rw [civil?] at exists_
  split at exists_
  · cases exists_
    exact ⟨rfl, rfl⟩
  · cases exists_

theorem civil?_eq_some_iff {year month day hour minute second : Nat} {c : Civil} :
    civil? year month day hour minute second = some c ↔ c.year = year ∧ c.month = month ∧
      c.day = day ∧ c.hour = hour ∧ c.minute = minute ∧ c.second = second := by
  rw [civil?]
  constructor
  · intro exists_
    split at exists_
    · cases exists_
      exact ⟨rfl, rfl, rfl, rfl, rfl, rfl⟩
    · cases exists_
  · rintro ⟨rfl, rfl, rfl, rfl, rfl, rfl⟩
    rw [dif_pos c.valid]

theorem Civil.month_le (c : Civil) : c.month ≤ 12 := by
  have valid := c.valid
  simp only [isDate, Bool.and_eq_true, decide_eq_true_eq] at valid
  omega

namespace Civil

/-- The number of the day, counted from the first day of the year 1. -/
def ordinal (c : Civil) : Nat :=
  (c.year - 1) * 365 + (c.year - 1) / 4 - (c.year - 1) / 100 + (c.year - 1) / 400 +
    ((List.range (c.month - 1)).map fun m => daysInMonth c.year (m + 1)).sum + c.day

/-- The instant a date denotes when it is read as universal time. -/
def instant (c : Civil) : Instant :=
  ((((c.ordinal : ℤ) - 719163) * 86400 + (c.hour * 3600 + c.minute * 60 + c.second : Nat)) *
    1000000)

/-- `YYYY-MM-DD HH:MM:SS`. -/
def text (c : Civil) : Text :=
  padded 4 c.year ++ '-' :: padded 2 c.month ++ '-' :: padded 2 c.day ++ ' ' ::
    padded 2 c.hour ++ ':' :: padded 2 c.minute ++ ':' :: padded 2 c.second

end Civil

example : (civil? 2024 2 29 0 0 0).map Civil.instant = some 1709164800000000 := by decide +kernel

/-- The instant of a nonnegative number of seconds, given as a double: the whole seconds, and the
fraction rounded to microseconds. -/
def fromTimestamp (seconds : ℚ) : Instant :=
  ⌊seconds⌋ * 1000000 + roundHalfEven (binary64 ((seconds - ⌊seconds⌋) * 1000000))

/-- The instant of a number of seconds that is close to `whole` and `millis` thousandths. -/
theorem fromTimestamp_error {seconds δ : ℚ} {whole millis : Nat} (few : millis < 1000)
    (close : |seconds - (whole + millis / 1000)| ≤ δ) (fine : δ < 1 / 1000)
    (sharp : millis = 0 → seconds = whole) :
    |((fromTimestamp seconds - (whole * 1000000 + millis * 1000) : ℤ) : ℚ)| ≤
      1000000 * δ + 1 / 2 + 1 / 2 ^ 34 := by
  obtain ⟨low, high⟩ := abs_le.mp close
  have nonnegative : 0 ≤ δ := (abs_nonneg _).trans close
  rcases Nat.eq_zero_or_pos millis with rfl | positive
  · have exact_ : fromTimestamp seconds = whole * 1000000 := by
      simp [fromTimestamp, sharp rfl, show roundHalfEven 0 = 0 from roundHalfEven_intCast 0]
    rw [exact_]
    norm_num
    positivity
  · have more : (1 : ℚ) ≤ millis := by exact_mod_cast positive
    have less : (millis : ℚ) ≤ 999 := by exact_mod_cast Nat.le_of_lt_succ few
    have floor : ⌊seconds⌋ = whole := by
      rw [Int.floor_eq_iff]
      push_cast
      constructor <;> linarith
    have between : |(seconds - whole) * 1000000| < 2 ^ (20 : ℤ) := by
      rw [abs_lt]
      norm_num
      constructor <;> linarith
    have rounded : |binary64 ((seconds - whole) * 1000000) - (seconds - whole) * 1000000| ≤
        1 / 2 ^ 34 := by
      have nonzero : (seconds - whole) * 1000000 ≠ 0 := by
        have : 0 < seconds - whole := by linarith
        positivity
      have unit := ulp_le (by norm_num) nonzero between
      have error := binary64_error ((seconds - whole) * 1000000)
      norm_num at unit ⊢
      linarith
    have nearest := roundHalfEven_error (binary64 ((seconds - whole) * 1000000))
    have off : |(seconds - whole) * 1000000 - millis * 1000| ≤ 1000000 * δ := by
      rw [abs_le]
      constructor <;> linarith
    rw [fromTimestamp, floor, add_sub_add_left_eq_sub]
    push_cast
    rw [abs_le] at rounded nearest off ⊢
    constructor <;> linarith [rounded.1, rounded.2, nearest.1, nearest.2, off.1, off.2]

end TrackerGateway.Foundation.Wire
