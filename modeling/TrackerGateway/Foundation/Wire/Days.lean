/- module: TrackerGateway/Foundation/Wire/Days
   layer: library
   digest: The days of the calendar follow one another, so that every second has its date. -/

import TrackerGateway.Foundation.Wire.Calendar

set_option autoImplicit false
set_option relaxedAutoImplicit false

namespace TrackerGateway.Foundation.Wire

def daysBeforeYear (year : Nat) : Nat :=
  (year - 1) * 365 + (year - 1) / 4 - (year - 1) / 100 + (year - 1) / 400

def daysBeforeMonth (year month : Nat) : Nat :=
  ((List.range (month - 1)).map fun m => daysInMonth year (m + 1)).sum

theorem Civil.ordinal_eq (c : Civil) :
    c.ordinal = daysBeforeYear c.year + daysBeforeMonth c.year c.month + c.day := rfl

theorem isLeap_iff {year : Nat} :
    isLeap year = true ↔ year % 4 = 0 ∧ (year % 100 ≠ 0 ∨ year % 400 = 0) := by
  simp [isLeap]

theorem daysBeforeYear_succ {year : Nat} (first : 1 ≤ year) :
    daysBeforeYear (year + 1) = daysBeforeYear year + if isLeap year then 366 else 365 := by
  obtain ⟨before, rfl⟩ := Nat.exists_eq_add_of_le' first
  have steps : ∀ d, 0 < d →
      (before + 1) / d = before / d + if (before + 1) % d = 0 then 1 else 0 := by
    intro d positive
    rw [Nat.succ_div, if_congr Nat.dvd_iff_mod_eq_zero rfl rfl]
  have fewer : before / 100 ≤ before / 4 := by omega
  have centuries : (before + 1) % 100 = 0 → (before + 1) % 4 = 0 := by omega
  have eras : (before + 1) % 400 = 0 → (before + 1) % 100 = 0 := by omega
  rw [daysBeforeYear, daysBeforeYear, if_congr isLeap_iff rfl rfl, Nat.add_sub_cancel,
    Nat.add_sub_cancel, steps 4 (by decide), steps 100 (by decide), steps 400 (by decide)]
  generalize (before + 1) % 4 = r4 at *
  generalize (before + 1) % 100 = r100 at *
  generalize (before + 1) % 400 = r400 at *
  generalize before / 4 = q4 at *
  generalize before / 100 = q100 at *
  generalize before / 400 = q400 at *
  split_ifs <;> omega

theorem daysBeforeYear_mono {year later : Nat} (first : 1 ≤ year) (before : year ≤ later) :
    daysBeforeYear year ≤ daysBeforeYear later := by
  induction later, before using Nat.le_induction with
  | base => exact le_rfl
  | succ later before ih =>
      rw [daysBeforeYear_succ (first.trans before)]
      omega

theorem daysInMonth_pos (year month : Nat) : 1 ≤ daysInMonth year month := by
  rw [daysInMonth.eq_def]
  split
  · split <;> decide
  all_goals decide

theorem daysInMonth_le (year month : Nat) : daysInMonth year month ≤ 31 := by
  rw [daysInMonth.eq_def]
  split
  · split <;> decide
  all_goals decide

theorem daysBeforeMonth_succ (year : Nat) {month : Nat} (first : 1 ≤ month) :
    daysBeforeMonth year (month + 1) = daysBeforeMonth year month + daysInMonth year month := by
  obtain ⟨before, rfl⟩ := Nat.exists_eq_add_of_le' first
  simp [daysBeforeMonth, List.range_succ]

theorem daysBeforeMonth_end (year : Nat) :
    daysBeforeMonth year 13 = if isLeap year then 366 else 365 := by
  cases leap : isLeap year <;> simp [daysBeforeMonth, daysInMonth, List.range_succ, leap]

theorem daysBeforeMonth_mono (year : Nat) {month later : Nat} (first : 1 ≤ month)
    (before : month ≤ later) :
    daysBeforeMonth year month ≤ daysBeforeMonth year later := by
  induction later, before using Nat.le_induction with
  | base => exact le_rfl
  | succ later before ih =>
      rw [daysBeforeMonth_succ year (first.trans before)]
      omega

theorem isDate_iff {year month day hour minute second : Nat} :
    isDate year month day hour minute second = true ↔
      (1 ≤ year ∧ year ≤ 9999) ∧ (1 ≤ month ∧ month ≤ 12) ∧
        (1 ≤ day ∧ day ≤ daysInMonth year month) ∧ hour < 24 ∧ minute < 60 ∧ second < 60 := by
  simp only [isDate, Bool.and_eq_true, decide_eq_true_eq]
  tauto

theorem Civil.ordinal_bounds (c : Civil) :
    daysBeforeYear c.year < c.ordinal ∧ c.ordinal ≤ daysBeforeYear (c.year + 1) := by
  obtain ⟨⟨year, -⟩, ⟨month, last⟩, ⟨day, fits⟩, -⟩ := isDate_iff.mp c.valid
  have within := daysBeforeMonth_mono c.year (show 1 ≤ c.month + 1 by omega)
    (show c.month + 1 ≤ 13 by omega)
  rw [daysBeforeMonth_succ c.year month, daysBeforeMonth_end] at within
  rw [c.ordinal_eq, daysBeforeYear_succ year]
  omega

theorem exists_date {n : Nat} (before : n < daysBeforeYear 10000) :
    ∃ year month day, (1 ≤ year ∧ year ≤ 9999) ∧ (1 ≤ month ∧ month ≤ 12) ∧
      (1 ≤ day ∧ day ≤ daysInMonth year month) ∧
      daysBeforeYear year + daysBeforeMonth year month + day = n + 1 := by
  induction n with
  | zero => exact ⟨1, 1, 1, by decide, by decide, by decide, rfl⟩
  | succ n ih =>
      obtain ⟨year, month, day, years, months, days, here⟩ := ih (by omega)
      rcases Nat.lt_or_ge day (daysInMonth year month) with more | full
      · exact ⟨year, month, day + 1, years, months, by omega, by omega⟩
      rcases Nat.lt_or_ge month 12 with more | last
      · have next := daysBeforeMonth_succ year months.1
        have some_ := daysInMonth_pos year (month + 1)
        exact ⟨year, month + 1, 1, years, by omega, by omega, by omega⟩
      · have december : month = 12 := by omega
        subst december
        have next := daysBeforeYear_succ years.1
        have months_end := daysBeforeMonth_end year
        rw [daysBeforeMonth_succ year (by decide)] at months_end
        have not_last : year ≠ 9999 := by
          intro is
          rw [is] at next
          have past : daysBeforeYear 10000 =
              daysBeforeYear year + if isLeap year then 366 else 365 := by
            rw [is]
            exact next
          omega
        have january : daysBeforeMonth (year + 1) 1 = 0 := rfl
        exact ⟨year + 1, 1, 1, by omega, by omega, ⟨le_rfl, daysInMonth_pos _ _⟩, by omega⟩

def yearStart (year : Nat) : ℤ := ((daysBeforeYear year : ℤ) - 719162) * 86400000000

theorem Civil.instant_eq {c : Civil} {t : ℤ} (at_ : c.instant = t) :
    t = ((c.ordinal : ℤ) - 719163) * 86400000000 +
      ((c.hour * 3600 + c.minute * 60 + c.second : Nat) : ℤ) * 1000000 := by
  rw [← at_, Civil.instant]
  ring

theorem Civil.time_lt (c : Civil) : c.hour < 24 ∧ c.minute < 60 ∧ c.second < 60 :=
  (isDate_iff.mp c.valid).2.2.2

theorem Civil.year_range (c : Civil) : 1 ≤ c.year ∧ c.year ≤ 9999 := (isDate_iff.mp c.valid).1

/-- The year of a date is known from the instant it denotes. -/
theorem Civil.year_iff {c : Civil} {t : ℤ} (at_ : c.instant = t) {first last : Nat}
    (some_ : 1 ≤ first) (behind : 1 ≤ last) :
    first ≤ c.year ∧ c.year < last ↔ yearStart first ≤ t ∧ t < yearStart last := by
  obtain ⟨low, high⟩ := c.ordinal_bounds
  obtain ⟨hours, minutes, seconds⟩ := c.time_lt
  have years := c.year_range.1
  rw [Civil.instant_eq at_, yearStart, yearStart]
  push_cast
  constructor
  · rintro ⟨from_, until_⟩
    have before := daysBeforeYear_mono some_ from_
    have after := daysBeforeYear_mono (show 1 ≤ c.year + 1 by omega) (Nat.succ_le_of_lt until_)
    constructor <;> omega
  · rintro ⟨from_, until_⟩
    constructor
    · by_contra early
      have before := daysBeforeYear_mono (show 1 ≤ c.year + 1 by omega)
        (show c.year + 1 ≤ first by omega)
      omega
    · by_contra late
      have after := daysBeforeYear_mono behind (not_lt.mp late)
      omega

theorem exists_civil {t : ℤ} (whole : t % 1000000 = 0) (from_ : yearStart 1 ≤ t)
    (until_ : t < yearStart 10000) : ∃ c : Civil, c.instant = t := by
  have first : daysBeforeYear 1 = 0 := rfl
  rw [yearStart, first] at from_
  rw [yearStart] at until_
  obtain ⟨year, month, day, years, months, days, here⟩ :=
    exists_date (n := (t / 86400000000 + 719162).toNat) (by omega)
  have valid : isDate year month day (t / 3600000000 % 24).toNat (t / 60000000 % 60).toNat
      (t / 1000000 % 60).toNat = true :=
    isDate_iff.mpr ⟨years, months, days, by omega, by omega, by omega⟩
  refine ⟨⟨year, month, day, _, _, _, valid⟩, ?_⟩
  rw [Civil.instant_eq rfl, Civil.ordinal_eq]
  dsimp only
  rw [here]
  push_cast
  change (_ : ℤ) = t
  omega

end TrackerGateway.Foundation.Wire
