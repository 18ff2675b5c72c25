/- module: TrackerGateway/Packets/Timestamps
   source: src/parsers/gps103_parser.py
   digest: The universal date that a local date and a universal time of day determine. -/

import TrackerGateway.Foundation.Wire.Days
import TrackerGateway.Parsers.Gps103

set_option autoImplicit false
set_option relaxedAutoImplicit false

namespace TrackerGateway.Packets.Timestamps

open Foundation.Wire
open Parsers.Gps103

/-- `yymmddhhmm`, with or without `ss` behind it. -/
def localText (seconds : Bool) (c : Civil) : Text :=
  padded 2 (c.year - 2000) ++ (padded 2 c.month ++ (padded 2 c.day ++ (padded 2 c.hour ++
    (padded 2 c.minute ++ if seconds then padded 2 c.second else []))))

/-- A local field: a date of this century, of which the short form begins a minute. -/
structure LocalField (value : Text) (c : Civil) : Prop where
  century : 2000 ≤ c.year ∧ c.year < 2100
  is : value = localText true c ∨ value = localText false c ∧ c.second = 0

/-- `hhmmss`. -/
def utcText (h m s : Nat) : Text := padded 2 h ++ (padded 2 m ++ padded 2 s)

structure Timed (tail : Text → Prop) (value : Text) (h m s : Nat) : Prop where
  hour : h < 24
  minute : m < 60
  second : s < 60
  is : value = utcText h m s ∨ ∃ rest, tail rest ∧ value = utcText h m s ++ '.' :: rest

/-- A universal field: behind the point there are the digits of a fraction. -/
abbrev UtcField (value : Text) (h m s : Nat) : Prop :=
  Timed (fun rest => ∀ c ∈ rest, c.isDigit = true) value h m s

theorem Timed.mono {tail weaker : Text → Prop} {value : Text} {h m s : Nat}
    (timed : Timed tail value h m s) (imp : ∀ rest, tail rest → weaker rest) :
    Timed weaker value h m s := by
  refine ⟨timed.hour, timed.minute, timed.second, ?_⟩
  rcases timed.is with alone | ⟨rest, is_tail, is⟩
  · exact .inl alone
  · exact .inr ⟨rest, imp rest is_tail, is⟩

theorem padded_pair {n : Nat} (small : n < 100) :
    ∃ a b, padded 2 n = [a, b] ∧ a.isDigit = true ∧ b.isDigit = true ∧ digitsValue [a, b] = n := by
  have all : ∀ n < 100, (padded 2 n).length = 2 ∧ (padded 2 n).all Char.isDigit = true ∧
      digitsValue (padded 2 n) = n := by decide +kernel
  obtain ⟨two, digits, value⟩ := all n small
  obtain ⟨a, b, pair⟩ := List.length_eq_two.mp two
  rw [pair] at digits value
  obtain ⟨one, other⟩ : a.isDigit = true ∧ b.isDigit = true := by simpa using digits
  exact ⟨a, b, pair, one, other, value⟩

theorem pair_padded {a b : Char} (one : a.isDigit = true) (other : b.isDigit = true) :
    padded 2 (digitsValue [a, b]) = [a, b] ∧ digitsValue [a, b] < 100 := by
  have all : ∀ i < 10, ∀ j < 10,
      padded 2 (digitsValue [Char.ofNat (48 + i), Char.ofNat (48 + j)]) =
        [Char.ofNat (48 + i), Char.ofNat (48 + j)] ∧
      digitsValue [Char.ofNat (48 + i), Char.ofNat (48 + j)] < 100 := by decide +kernel
  have range : ∀ c : Char, c.isDigit = true → ∃ i < 10, c = Char.ofNat (48 + i) := by
    intro c digit
    have bounds := isDigit_bounds digit
    refine ⟨c.toNat - 48, by omega, ?_⟩
    rw [Nat.add_sub_cancel' bounds.1, Char.ofNat_toNat]
  obtain ⟨i, small, rfl⟩ := range a one
  obtain ⟨j, small', rfl⟩ := range b other
  exact all i small j small'

theorem slice_pair {value : Text} {i : Nat} (digits : isDigits value = true)
    (fits : i + 2 ≤ value.length) :
    slice value i (i + 2) = padded 2 (digitsValue (slice value i (i + 2))) ∧
      digitsValue (slice value i (i + 2)) < 100 := by
  have two : (slice value i (i + 2)).length = 2 := by
    rw [slice_length]
    omega
  have all : ∀ c ∈ slice value i (i + 2), c.isDigit = true := by
    intro c member
    have inside := List.mem_of_mem_take (List.mem_of_mem_drop member)
    exact (isDigits_iff.mp digits).2 c inside
  obtain ⟨a, b, pair⟩ := List.length_eq_two.mp two
  rw [pair] at all ⊢
  obtain ⟨same, small⟩ := pair_padded (all a (by simp)) (all b (by simp))
  exact ⟨same.symm, small⟩

section Local

variable {value : Text} {c : Civil}

theorem small_components (c : Civil) (century : c.year < 2100) :
    c.year - 2000 < 100 ∧ c.month < 100 ∧ c.day < 100 ∧ c.hour < 100 ∧ c.minute < 100 ∧
      c.second < 100 := by
  obtain ⟨-, ⟨-, month⟩, ⟨-, day⟩, hour, minute, second⟩ := isDate_iff.mp c.valid
  have days : daysInMonth c.year c.month ≤ 31 := daysInMonth_le _ _
  omega

theorem parseLocalDatetime_localText (century : 2000 ≤ c.year ∧ c.year < 2100) (seconds : Bool) :
    parseLocalDatetime (localText seconds c) = civil? c.year c.month c.day c.hour c.minute
      (if seconds then c.second else 0) := by
  obtain ⟨year, month, day, hour, minute, second⟩ := small_components c century.2
  have back : 2000 + (c.year - 2000) = c.year := by omega
  obtain ⟨y₁, y₂, years, dy₁, dy₂, year⟩ := padded_pair year
  obtain ⟨m₁, m₂, months, dm₁, dm₂, month⟩ := padded_pair month
  obtain ⟨d₁, d₂, days, dd₁, dd₂, day⟩ := padded_pair day
  obtain ⟨h₁, h₂, hours, dh₁, dh₂, hour⟩ := padded_pair hour
  obtain ⟨n₁, n₂, minutes, dn₁, dn₂, minute⟩ := padded_pair minute
  obtain ⟨s₁, s₂, ends, ds₁, ds₂, second⟩ := padded_pair second
  rw [localText, years, months, days, hours, minutes, ends]
  cases seconds with
  | true =>
      have digits : isDigits [y₁, y₂, m₁, m₂, d₁, d₂, h₁, h₂, n₁, n₂, s₁, s₂] = true := by
        simp [isDigits, dy₁, dy₂, dm₁, dm₂, dd₁, dd₂, dh₁, dh₂, dn₁, dn₂, ds₁, ds₂]
      change parseLocalDatetime [y₁, y₂, m₁, m₂, d₁, d₂, h₁, h₂, n₁, n₂, s₁, s₂] = _
      rw [parseLocalDatetime, digits]
      change civil? (2000 + digitsValue [y₁, y₂]) (digitsValue [m₁, m₂]) (digitsValue [d₁, d₂])
        (digitsValue [h₁, h₂]) (digitsValue [n₁, n₂]) (digitsValue [s₁, s₂]) = _
      rw [year, month, day, hour, minute, second, back]
      rfl
  | false =>
      have digits : isDigits [y₁, y₂, m₁, m₂, d₁, d₂, h₁, h₂, n₁, n₂] = true := by
        simp [isDigits, dy₁, dy₂, dm₁, dm₂, dd₁, dd₂, dh₁, dh₂, dn₁, dn₂]
      change parseLocalDatetime [y₁, y₂, m₁, m₂, d₁, d₂, h₁, h₂, n₁, n₂] = _
      rw [parseLocalDatetime, digits]
      change civil? (2000 + digitsValue [y₁, y₂]) (digitsValue [m₁, m₂]) (digitsValue [d₁, d₂])
        (digitsValue [h₁, h₂]) (digitsValue [n₁, n₂]) 0 = _
      rw [year, month, day, hour, minute, back]
      rfl

theorem localField_of_parse (parsed : parseLocalDatetime value = some c) : LocalField value c := by
  rw [parseLocalDatetime] at parsed
  split at parsed
  case isFalse => cases parsed
  case isTrue shape =>
  rw [Bool.and_eq_true, Bool.or_eq_true, decide_eq_true_eq, decide_eq_true_eq] at shape
  obtain ⟨digits, sizes⟩ := shape
  obtain ⟨year, month, day, hour, minute, second⟩ := civil?_eq_some_iff.mp parsed
  dsimp only at year month day hour minute second
  obtain ⟨years, small⟩ := slice_pair (i := 0) digits (by omega)
  obtain ⟨months, -⟩ := slice_pair (i := 2) digits (by omega)
  obtain ⟨days, -⟩ := slice_pair (i := 4) digits (by omega)
  obtain ⟨hours, -⟩ := slice_pair (i := 6) digits (by omega)
  obtain ⟨minutes, -⟩ := slice_pair (i := 8) digits (by omega)
  have ten : slice value 0 10 = padded 2 (c.year - 2000) ++ (padded 2 c.month ++
      (padded 2 c.day ++ (padded 2 c.hour ++ padded 2 c.minute))) := by
    rw [year, month, day, hour, minute, Nat.add_sub_cancel_left, ← years, ← months, ← days,
      ← hours, ← minutes, slice_append_slice, slice_append_slice, slice_append_slice,
      slice_append_slice]
    all_goals decide
  refine ⟨by omega, ?_⟩
  rcases sizes with short | long
  · rw [if_neg (by omega)] at second
    refine .inr ⟨?_, second⟩
    have whole : slice value 0 10 = value := List.take_of_length_le short.le
    rw [← whole, ten, localText]
    simp
  · rw [if_pos long] at second
    obtain ⟨ends, -⟩ := slice_pair (i := 10) digits (by omega)
    have whole : slice value 0 10 ++ slice value 10 12 = value := by
      rw [slice_append_slice _ (by decide) (by decide)]
      exact List.take_of_length_le long.le
    refine .inl ?_
    rw [← whole, ten, ends, ← second, localText]
    simp

theorem parseLocalDatetime_eq_some_iff :
    parseLocalDatetime value = some c ↔ LocalField value c := by
  constructor
  · exact localField_of_parse
  · rintro ⟨century, rfl | ⟨rfl, zero⟩⟩
    · rw [parseLocalDatetime_localText century, civil?_eq_some_iff]
      exact ⟨rfl, rfl, rfl, rfl, rfl, rfl⟩
    · rw [parseLocalDatetime_localText century, civil?_eq_some_iff]
      exact ⟨rfl, rfl, rfl, rfl, rfl, zero⟩

end Local

section Universal

variable {value : Text} {h m s : Nat}

theorem utcText_digits (hour : h < 100) (minute : m < 100) (second : s < 100) :
    isDigits (utcText h m s) = true ∧ (utcText h m s).length = 6 ∧ '.' ∉ utcText h m s ∧
      digitsValue (slice (utcText h m s) 0 2) = h ∧ digitsValue (slice (utcText h m s) 2 4) = m ∧
      digitsValue (slice (utcText h m s) 4 6) = s := by
  obtain ⟨h₁, h₂, hours, dh₁, dh₂, hour⟩ := padded_pair hour
  obtain ⟨m₁, m₂, minutes, dm₁, dm₂, minute⟩ := padded_pair minute
  obtain ⟨s₁, s₂, ends, ds₁, ds₂, second⟩ := padded_pair second
  have digits : isDigits [h₁, h₂, m₁, m₂, s₁, s₂] = true := by
    simp [isDigits, dh₁, dh₂, dm₁, dm₂, ds₁, ds₂]
  rw [utcText, hours, minutes, ends]
  refine ⟨digits, rfl, ?_, hour, minute, second⟩
  intro point
  exact absurd ((isDigits_iff.mp digits).2 '.' point) (by decide)

theorem parseUtcTime_eq_some_iff :
    parseUtcTime value = some (h, m, s) ↔ Timed (fun _ => True) value h m s := by
  constructor
  · intro parsed
    rw [parseUtcTime] at parsed
    dsimp only at parsed
    split at parsed
    case isFalse => cases parsed
    case isTrue shape =>
    split at parsed
    case isFalse => cases parsed
    case isTrue range =>
    rw [Bool.and_eq_true, decide_eq_true_eq] at shape
    obtain ⟨digits, six⟩ := shape
    obtain ⟨hours, -⟩ := slice_pair (i := 0) digits (by omega)
    obtain ⟨minutes, -⟩ := slice_pair (i := 2) digits (by omega)
    obtain ⟨ends, -⟩ := slice_pair (i := 4) digits (by omega)
    obtain ⟨hour, others⟩ := Prod.mk.inj (Option.some.inj parsed)
    obtain ⟨minute, second⟩ := Prod.mk.inj others
    have whole : slice (partition '.' value).1 0 6 = (partition '.' value).1 :=
      List.take_of_length_le six.le
    have head : (partition '.' value).1 = utcText h m s := by
      rw [utcText, ← hour, ← minute, ← second, ← hours, ← minutes, ← ends,
        slice_append_slice _ (by decide) (by decide), slice_append_slice _ (by decide) (by decide),
        whole]
    refine ⟨by omega, by omega, by omega, ?_⟩
    rw [← head]
    rcases partition_cases '.' value with ⟨-, alone⟩ | ⟨front, rest, -, split_, parts⟩
    · exact .inl (by rw [alone])
    · exact .inr ⟨rest, trivial, by rw [parts]; exact split_⟩
  · rintro ⟨hour, minute, second, is⟩
    obtain ⟨digits, six, pointless, hours, minutes, ends⟩ :=
      utcText_digits (show h < 100 by omega) (show m < 100 by omega) (show s < 100 by omega)
    have head : (partition '.' value).1 = utcText h m s := by
      rcases is with rfl | ⟨rest, -, rfl⟩
      · rw [partition_of_notMem pointless]
      · rw [partition_append pointless]
    rw [parseUtcTime]
    simp only [head, digits, six, hours, minutes, ends]
    rw [if_pos (by rfl), if_pos (by omega)]

end Universal

def dayLength : ℤ := 86400000000

def minuteLength : ℤ := 60000000

/-- The instant has this time of day, and the local clock is at most half a day away from it. -/
structure Resolved (l : ℤ) (h m s : Nat) (r : ℤ) : Prop where
  timeOfDay : r % dayLength = (h * 3600 + m * 60 + s : Nat) * 1000000
  ahead : l / minuteLength - r / minuteLength ≤ 720
  behind : -720 < l / minuteLength - r / minuteLength

/-- What becomes of two fields: the only instant that fits well-formed ones, and none for others. -/
structure Meets (localValue utcValue : Text) : Prop where
  resolves : ∀ c h m s, LocalField localValue c → UtcField utcValue h m s →
    ∃ r, resolveUtcTimestamp localValue utcValue = some r ∧ Resolved c.instant h m s r ∧
      ∀ r', Resolved c.instant h m s r' → r' = r
  refuses : ((¬∃ c, LocalField localValue c) ∨ ¬∃ h m s, UtcField utcValue h m s) →
    resolveUtcTimestamp localValue utcValue = none

def reconstructed (c : Civil) (h m s : Nat) : ℤ :=
  c.instant - c.second * 1000000 -
    wrappedOffset (c.hour * 60 + c.minute) (h * 60 + m) * 60000000 + s * 1000000

section Resolution

variable {localValue utcValue : Text} {c : Civil} {h m s : Nat}

theorem resolve_eq (localField : LocalField localValue c)
    (timed : Timed (fun _ => True) utcValue h m s) :
    resolveUtcTimestamp localValue utcValue = some (reconstructed c h m s) := by
  rw [resolveUtcTimestamp, parseLocalDatetime_eq_some_iff.mpr localField,
    parseUtcTime_eq_some_iff.mpr timed]
  rfl

theorem resolve_none (malformed : (¬∃ c, LocalField localValue c) ∨
    ¬∃ h m s, Timed (fun _ => True) utcValue h m s) :
    resolveUtcTimestamp localValue utcValue = none := by
  rw [resolveUtcTimestamp]
  cases one : parseLocalDatetime localValue with
  | none => rfl
  | some c =>
      cases two : parseUtcTime utcValue with
      | none => rfl
      | some hms =>
          rcases malformed with noLocal | noTime
          · exact absurd ⟨c, parseLocalDatetime_eq_some_iff.mp one⟩ noLocal
          · exact absurd ⟨_, _, _, parseUtcTime_eq_some_iff.mp two⟩ noTime

theorem wrappedOffset_spec (localMinutes utcMinutes : ℤ) (one : 0 ≤ localMinutes)
    (day : localMinutes < 1440) (two : 0 ≤ utcMinutes) (day' : utcMinutes < 1440) :
    -720 < wrappedOffset localMinutes utcMinutes ∧ wrappedOffset localMinutes utcMinutes ≤ 720 ∧
      (wrappedOffset localMinutes utcMinutes - (localMinutes - utcMinutes)) % 1440 = 0 := by
  rw [wrappedOffset]
  split_ifs <;> omega

theorem reconstructed_eq (c : Civil) (h m s : Nat) :
    reconstructed c h m s = (((c.ordinal : ℤ) - 719163) * 1440 + (c.hour * 60 + c.minute : ℤ) -
      wrappedOffset (c.hour * 60 + c.minute) (h * 60 + m)) * 60000000 + s * 1000000 := by
  have at_ := Civil.instant_eq (c := c) rfl
  rw [reconstructed, at_]
  push_cast
  ring

theorem reconstructed_resolved (hour : h < 24) (minute : m < 60) (second : s < 60) :
    Resolved c.instant h m s (reconstructed c h m s) := by
  obtain ⟨hours, minutes, seconds⟩ := c.time_lt
  obtain ⟨above, below, congruent⟩ := wrappedOffset_spec (c.hour * 60 + c.minute) (h * 60 + m)
    (by omega) (by omega) (by omega) (by omega)
  rw [reconstructed_eq, Civil.instant_eq (c := c) rfl]
  generalize wrappedOffset (c.hour * 60 + c.minute) (h * 60 + m) = offset at *
  push_cast
  constructor
  · rw [dayLength]
    push_cast
    omega
  · rw [minuteLength]
    omega
  · rw [minuteLength]
    omega

theorem Resolved.unique {l r r' : ℤ} (one : Resolved l h m s r) (other : Resolved l h m s r') :
    r' = r := by
  obtain ⟨time, ahead, behind⟩ := one
  obtain ⟨time', ahead', behind'⟩ := other
  rw [dayLength] at time time'
  rw [minuteLength] at ahead behind ahead' behind'
  omega

/-- Behind the point of a time of day there is something else than digits. -/
def Garbled (value : Text) : Prop :=
  ∃ h m s rest, h < 24 ∧ m < 60 ∧ s < 60 ∧ value = utcText h m s ++ '.' :: rest ∧
    ∃ c ∈ rest, c.isDigit = false

theorem Garbled.timed {value : Text} (garbled : Garbled value) :
    (∃ h m s, Timed (fun _ => True) value h m s) ∧ ¬∃ h m s, UtcField value h m s := by
  obtain ⟨h, m, s, rest, hour, minute, second, is, c, member, other⟩ := garbled
  refine ⟨⟨h, m, s, hour, minute, second, .inr ⟨rest, trivial, is⟩⟩, ?_⟩
  rintro ⟨h', m', s', hour', minute', second', same⟩
  obtain ⟨-, -, pointless, -⟩ :=
    utcText_digits (show h < 100 by omega) (show m < 100 by omega) (show s < 100 by omega)
  obtain ⟨-, -, pointless', -⟩ :=
    utcText_digits (show h' < 100 by omega) (show m' < 100 by omega) (show s' < 100 by omega)
  have parts := partition_append pointless rest
  rw [← is] at parts
  rcases same with alone | ⟨rest', digits, is'⟩
  · rw [alone, partition_of_notMem pointless'] at parts
    cases (Prod.mk.inj parts).2
  · rw [is', partition_append pointless'] at parts
    obtain rfl := Option.some.inj (Prod.mk.inj parts).2
    rw [digits c member] at other
    cases other

theorem garbled_of_timed {value : Text} (timed : Timed (fun _ => True) value h m s)
    (other : ¬∃ h m s, UtcField value h m s) : Garbled value := by
  obtain ⟨hour, minute, second, is⟩ := timed
  rcases is with alone | ⟨rest, -, is⟩
  · exact absurd ⟨h, m, s, hour, minute, second, .inl alone⟩ other
  · refine ⟨h, m, s, rest, hour, minute, second, is, ?_⟩
    by_contra digits
    refine other ⟨h, m, s, hour, minute, second, .inr ⟨rest, ?_, is⟩⟩
    intro c member
    by_contra apart
    exact digits ⟨c, member, by simpa using apart⟩

theorem meets_iff (localValue utcValue : Text) :
    Meets localValue utcValue ↔ ¬((∃ c, LocalField localValue c) ∧ Garbled utcValue) := by
  constructor
  · rintro meets ⟨⟨c, localField⟩, garbled⟩
    obtain ⟨⟨h, m, s, timed⟩, malformed⟩ := garbled.timed
    have some_ := resolve_eq localField timed
    rw [meets.refuses (.inr malformed)] at some_
    cases some_
  · intro clean
    constructor
    · intro c h m s localField utcField
      have timed := utcField.mono fun _ _ => trivial
      have resolved := reconstructed_resolved (c := c) timed.hour timed.minute timed.second
      exact ⟨_, resolve_eq localField timed, resolved, fun r' other => resolved.unique other⟩
    · intro malformed
      apply resolve_none
      rcases malformed with noLocal | noTime
      · exact .inl noLocal
      · by_contra both
        simp only [not_or, not_not] at both
        obtain ⟨localField, h, m, s, timed⟩ := both
        exact clean ⟨localField, garbled_of_timed timed noTime⟩

end Resolution

def utcOf (t : ℤ) : Text :=
  utcText (t / 3600000000 % 24).toNat (t / 60000000 % 60).toNat (t / 1000000 % 60).toNat

section Formatting

variable {t o : ℤ} {c : Civil}

def minuteStart (c : Civil) : Civil where
  year := c.year
  month := c.month
  day := c.day
  hour := c.hour
  minute := c.minute
  second := 0
  valid := by
    obtain ⟨year, month, day, hour, minute, -⟩ := isDate_iff.mp c.valid
    exact isDate_iff.mpr ⟨year, month, day, hour, minute, by decide⟩

theorem localField_localText (century : 2000 ≤ c.year ∧ c.year < 2100) :
    LocalField (localText true c) c ∧ LocalField (localText false c) (minuteStart c) :=
  ⟨⟨century, .inl rfl⟩, ⟨century, .inr ⟨rfl, rfl⟩⟩⟩

theorem minuteStart_instant :
    ((minuteStart c).instant : ℤ) / minuteLength = c.instant / minuteLength := by
  obtain ⟨-, -, seconds⟩ := c.time_lt
  have at_ := Civil.instant_eq (c := c) rfl
  have start := Civil.instant_eq (c := minuteStart c) rfl
  have same : (minuteStart c).ordinal = c.ordinal := rfl
  rw [same] at start
  rw [at_, start, minuteLength]
  change (_ : ℤ) = _
  simp only [minuteStart]
  push_cast
  omega

/-- A true instant fits its own time of day and the local time of a zone. -/
theorem resolved_of_offset (whole : t % 1000000 = 0) (west : -720 < o) (east : o ≤ 720) {l : ℤ}
    (minute : l / minuteLength = (t + o * minuteLength) / minuteLength) :
    Resolved l (t / 3600000000 % 24).toNat (t / 60000000 % 60).toNat (t / 1000000 % 60).toNat
      t := by
  rw [minuteLength] at minute
  constructor
  · rw [dayLength]
    push_cast
    omega
  · rw [minuteLength]
    omega
  · rw [minuteLength]
    omega

theorem resolve_formatted (whole : t % 1000000 = 0) (west : -720 < o) (east : o ≤ 720)
    (century : 2000 ≤ c.year ∧ c.year < 2100) (at_ : c.instant = t + o * minuteLength)
    (seconds : Bool) : resolveUtcTimestamp (localText seconds c) (utcOf t) = some t := by
  have timed : Timed (fun _ => True) (utcOf t) (t / 3600000000 % 24).toNat
      (t / 60000000 % 60).toNat (t / 1000000 % 60).toNat :=
    ⟨by omega, by omega, by omega, .inl rfl⟩
  have computed : ∀ c', LocalField (localText seconds c) c' →
      (c'.instant : ℤ) / minuteLength = (t + o * minuteLength) / minuteLength →
      resolveUtcTimestamp (localText seconds c) (utcOf t) = some t := by
    intro c' localField minute
    have resolved := reconstructed_resolved (c := c') timed.hour timed.minute timed.second
    rw [resolve_eq localField timed,
      ← resolved.unique (resolved_of_offset whole west east minute)]
  obtain ⟨long, short⟩ := localField_localText century
  cases seconds with
  | true => exact computed c long (by rw [at_])
  | false => exact computed (minuteStart c) short (by rw [minuteStart_instant, at_])

end Formatting

/-- Two fields are resolved to the one instant that fits them exactly when there is no garbage
behind the point of the time of day; every instant comes back from the fields it is written to. -/
theorem timestamps_resolved_iff (localValue utcValue : Text) :
    (Meets localValue utcValue ↔ ¬((∃ c, LocalField localValue c) ∧ Garbled utcValue)) ∧
    ∀ t o : ℤ, t % 1000000 = 0 → -720 < o → o ≤ 720 →
      yearStart 2000 ≤ t + o * minuteLength → t + o * minuteLength < yearStart 2100 →
      (∃ c : Civil, c.instant = t + o * minuteLength) ∧
      ∀ c : Civil, c.instant = t + o * minuteLength → ∀ seconds,
        resolveUtcTimestamp (localText seconds c) (utcOf t) = some t := by
  refine ⟨meets_iff localValue utcValue, ?_⟩
  intro t o whole west east from_ until_
  constructor
  · apply exists_civil
    · rw [minuteLength]
      omega
    · exact le_trans (by decide +kernel) from_
    · exact lt_trans until_ (by decide +kernel)
  · intro c at_ seconds
    have century := (Civil.year_iff at_ (by decide) (by decide)).mpr ⟨from_, until_⟩
    exact resolve_formatted whole west east century at_ seconds

theorem garbage_resolved :
    resolveUtcTimestamp "2401011200".toList "120000.abc".toList = some 1704110400000000 ∧
      ¬Meets "2401011200".toList "120000.abc".toList := by
  have noon : parseLocalDatetime "2401011200".toList =
      some ⟨2024, 1, 1, 12, 0, 0, by decide⟩ := by decide +kernel
  refine ⟨by decide +kernel, ?_⟩
  rw [meets_iff, not_not]
  exact ⟨⟨_, parseLocalDatetime_eq_some_iff.mp noon⟩, 12, 0, 0, "abc".toList, by decide, by decide,
    by decide, by decide, 'a', by decide, by decide⟩

end TrackerGateway.Packets.Timestamps
