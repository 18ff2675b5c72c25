/- module: TrackerGateway/Packets/Coordinates
   source: src/parsers/gps103_parser.py (extract_messages, classify, _nmea_to_degrees,
     parse_tracker), src/test/smoke_test_gps103.py (nmea, tracker)
   digest: Position reports, from the angles they are formatted from to those that are read. -/

import TrackerGateway.Framing.Gps103
import TrackerGateway.Packets.WholeImei

set_option autoImplicit false
set_option relaxedAutoImplicit false

namespace TrackerGateway.Packets.Coordinates

open Foundation.Wire
open Framing.Gps103 (extractMessages_ok lastRun messages runs runs_message runs_open)
open Packets.Fixes
open Packets.WholeImei (isImei_of_whole)
open Parsers.Gps103
open TrackerGateway.Runtime
open Utils.Gps103CommandBuilder (isCommandImei)

def tenths : List (Fin 10) → ℚ
  | [] => 0
  | d :: digits => ((d : ℕ) + tenths digits) / 10

def digitText (digits : List (Fin 10)) : Text := digits.map fun d : Fin 10 => d.val.digitChar

/-- Whole degrees, whole minutes and the decimals of a minute, if there is a point. -/
structure Angle where
  degrees : Nat
  minutes : Fin 60
  decimals : Option (List (Fin 10))

def Angle.arc (a : Angle) : ℚ := (a.minutes : ℕ) + tenths (a.decimals.getD [])

def Angle.value (a : Angle) : ℚ := a.degrees + a.arc / 60

/-- The minutes are still below sixty as a double. -/
def Angle.Sharp (a : Angle) : Prop := a.arc < roundedLimit

instance (a : Angle) : Decidable a.Sharp := inferInstanceAs (Decidable (a.arc < roundedLimit))

/-- `ddmm` or `ddmm.m`, with as many digits for the degrees as the axis has. -/
def Angle.text (width : Nat) (a : Angle) : Text :=
  padded width a.degrees ++ padded 2 a.minutes ++
    (a.decimals.map fun digits => '.' :: digitText digits).getD []

section Angles

variable {a : Angle} {width : Nat}

theorem length_digitText (digits : List (Fin 10)) : (digitText digits).length = digits.length :=
  List.length_map _

theorem length_minutes (a : Angle) : (padded 2 a.minutes).length = 2 := by
  have small := a.minutes.isLt
  exact length_padded (by decide) (by omega)

theorem isDigit_of_mem_digitText {digits : List (Fin 10)} {c : Char}
    (member : c ∈ digitText digits) : c.isDigit = true := by
  have all : ∀ d : Fin 10, d.val.digitChar.isDigit = true := by decide
  obtain ⟨d, -, rfl⟩ := List.mem_map.mp member
  exact all d

theorem digitsValue_digitText (digits : List (Fin 10)) :
    (digitsValue (digitText digits) : ℚ) = tenths digits * 10 ^ digits.length := by
  induction digits with
  | nil => simp [digitText, digitsValue, tenths]
  | cons d digits ih =>
      have all : ∀ d : Fin 10, digitsValue [d.val.digitChar] = d.val := by decide
      have split_ : digitText (d :: digits) = [d.val.digitChar] ++ digitText digits := rfl
      rw [split_, digitsValue_append, all, length_digitText, Nat.cast_add, Nat.cast_mul, ih, tenths,
        List.length_cons, pow_succ]
      push_cast
      ring

theorem Angle.numeral (a : Angle) (wide : 1 ≤ width) (fits : a.degrees < 10 ^ width) :
    Numeral (a.text width) (padded width a.degrees ++ padded 2 a.minutes)
      (digitText (a.decimals.getD [])) := by
  have long : 3 ≤ (padded width a.degrees ++ padded 2 a.minutes).length := by
    rw [List.length_append, length_padded wide fits, length_minutes]
    omega
  refine ⟨?_, long, fun c member => isDigit_of_mem_digitText member, ?_⟩
  · rw [isDigits_iff]
    constructor
    · exact List.ne_nil_of_length_pos (by omega)
    · intro c member
      rcases List.mem_append.mp member with early | late
      · exact isDigit_of_mem_padded early
      · exact isDigit_of_mem_padded late
  · rw [Angle.text]
    cases a.decimals with
    | none => exact .inl ⟨List.append_nil _, rfl⟩
    | some digits => exact .inr rfl

theorem whole_text (a : Angle) (width : Nat) :
    whole (padded width a.degrees ++ padded 2 a.minutes) = padded width a.degrees := by
  rw [whole, List.length_append, length_minutes, Nat.add_sub_cancel, List.take_left']
  rfl

theorem minutes_text (a : Angle) (width : Nat) :
    minutes (padded width a.degrees ++ padded 2 a.minutes) (digitText (a.decimals.getD [])) =
      a.arc := by
  have scale : (10 : ℚ) ^ (a.decimals.getD []).length ≠ 0 := by positivity
  rw [Angle.arc, minutes, List.length_append, length_minutes, Nat.add_sub_cancel,
    List.drop_left' rfl, digitsValue_append, digitsValue_padded, length_digitText, Nat.cast_add, digitsValue_digitText,
    Nat.cast_mul, Nat.cast_pow, Nat.cast_ofNat, ← add_mul]
  exact mul_div_cancel_right₀ _ scale

theorem thousand_le_overflowBound : 1000 ≤ overflowBound := by
  have factor : overflowBound = 2 ^ 970 * (2 ^ 54 - 1) := by
    rw [overflowBound, mul_sub, mul_one, ← pow_add]
  have one : (1 : ℚ) ≤ 2 ^ 970 := one_le_pow₀ (by norm_num)
  rw [factor]
  calc (1000 : ℚ) ≤ 1 * (2 ^ 54 - 1) := by norm_num
    _ ≤ 2 ^ 970 * (2 ^ 54 - 1) := mul_le_mul_of_nonneg_right one (by norm_num)

/-- An angle of few degrees is read exactly, with the sign of its letter, or not at all. -/
theorem Angle.read (a : Angle) {hemisphere : Text} (wide : 1 ≤ width) (short : width ≤ 3)
    (fits : a.degrees < 10 ^ width) (letter : Letter hemisphere) :
    nmeaToDegrees (a.text width) hemisphere = .ok (if a.Sharp then some
      (if hemisphere = "S".toList ∨ hemisphere = "W".toList then -a.value else a.value)
    else none) := by
  obtain ⟨e, decided⟩ := nmeaToDegrees_numeral (a.numeral wide fits) letter
  have few : ¬intMaxDigits < (padded width a.degrees).length := by
    rw [length_padded wide fits, intMaxDigits]
    omega
  have small : ¬overflowBound ≤ (a.degrees : ℚ) := by
    have thousand : a.degrees < 1000 :=
      fits.trans_le (Nat.pow_le_pow_right (by decide) short)
    have bound : (a.degrees : ℚ) < 1000 := by exact_mod_cast thousand
    exact not_le.mpr (bound.trans_le thousand_le_overflowBound)
  rw [whole_text, minutes_text, if_neg few, digitsValue_padded, if_neg small, degreesOf, whole_text,
    minutes_text, digitsValue_padded] at decided
  rw [decided]
  by_cases sharp : a.Sharp
  · rw [if_pos sharp, if_neg (not_le.mpr sharp)]
    rfl
  · rw [if_neg sharp, if_pos (not_lt.mp sharp)]

end Angles

/-- ASCII without the marks that end fields and messages. -/
def isPlain (t : Text) : Bool := t.all fun c => c.toNat < 128 && c != ',' && c != ';'

structure Message where
  imei : Text
  keyword : Text
  localTime : Text
  utcTime : Text
  latitude : Angle
  south : Bool
  longitude : Angle
  west : Bool
  speed : Text
  course : Text
  identity : isCommandImei imei = true
  plain : ∀ t ∈ [keyword, localTime, utcTime, speed, course], isPlain t = true
  latitude_le : latitude.degrees ≤ 90
  longitude_le : longitude.degrees ≤ 180

namespace Message

def leading (m : Message) : List Text :=
  ["imei:".toList ++ m.imei, m.keyword, m.localTime, [], "F".toList, m.utcTime, "A".toList,
    m.latitude.text 2, if m.south then "S".toList else "N".toList,
    m.longitude.text 3, if m.west then "W".toList else "E".toList, m.speed]

def text (m : Message) : Text := [','].intercalate (m.leading ++ [m.course])

def latitudeValue (m : Message) : ℚ := if m.south then -m.latitude.value else m.latitude.value

def longitudeValue (m : Message) : ℚ := if m.west then -m.longitude.value else m.longitude.value

def Sharp (m : Message) : Prop := m.latitude.Sharp ∧ m.longitude.Sharp

end Message

def wire (ms : List Message) : Bytes := asciiBytes (ms.flatMap fun m => m.text ++ ";".toList)

/-- What is framed is the message without the white space around it, and it is read as the position
that the message was formatted from. -/
def Reads (cfg : Config) (m : Message) (raw : Bytes) : Prop :=
  raw = stripBytes (asciiBytes m.text) ∧ ∃ text report fix, classify raw = (.tracker, text) ∧
    parseTracker cfg text = .ok report ∧ report.imei = m.imei ∧
    report.keyword = lower (strip m.keyword) ∧ report.fix = some fix ∧
    fix.latitude = m.latitudeValue ∧ fix.longitude = m.longitudeValue

namespace Message

variable (m : Message)

def front (m : Message) : Text := m.leading.flatMap fun part => part ++ [',']

theorem text_eq : m.text = m.front ++ m.course := intercalate_concat ',' m.leading m.course

theorem isPlain_iff {t : Text} :
    isPlain t = true ↔ ∀ c ∈ t, c.toNat < 128 ∧ c ≠ ',' ∧ c ≠ ';' := by
  simp [isPlain, and_assoc]

theorem isPlain_of_numeral {t : Text} (numeral : ∀ c ∈ t, c.isDigit = true ∨ c = '.') :
    isPlain t = true := by
  rw [isPlain_iff]
  intro c member
  rcases numeral c member with digit | rfl
  · refine ⟨ascii_of_isDigit digit, ?_, ?_⟩
    · rintro rfl
      exact absurd digit (by decide)
    · rintro rfl
      exact absurd digit (by decide)
  · decide

theorem mem_angle {a : Angle} {width : Nat} {c : Char} (member : c ∈ a.text width) :
    c.isDigit = true ∨ c = '.' := by
  rcases List.mem_append.mp member with front | back
  · rcases List.mem_append.mp front with digit | digit
    · exact .inl (isDigit_of_mem_padded digit)
    · exact .inl (isDigit_of_mem_padded digit)
  · cases points : a.decimals with
    | none => simp [points] at back
    | some digits =>
        rw [points] at back
        rcases List.mem_cons.mp back with rfl | digit
        · exact .inr rfl
        · exact .inl (isDigit_of_mem_digitText digit)

theorem isPlain_angle (a : Angle) (width : Nat) : isPlain (a.text width) = true :=
  isPlain_of_numeral fun _ member => mem_angle member

theorem isDigit_of_mem_imei {c : Char} (member : c ∈ m.imei) : c.isDigit = true := by
  have identity := m.identity
  rw [isCommandImei, Bool.and_eq_true, Bool.and_eq_true] at identity
  exact (isDigits_iff.mp identity.1.1).2 c member

theorem isPlain_leading {part : Text} (member : part ∈ m.leading) : isPlain part = true := by
  have named : isPlain ("imei:".toList ++ m.imei) = true := by
    have label : isPlain "imei:".toList = true := by decide
    have digits : isPlain m.imei = true :=
      isPlain_of_numeral fun c digit => .inl (m.isDigit_of_mem_imei digit)
    rw [isPlain] at label digits ⊢
    rw [List.all_append, label, digits, Bool.and_self]
  have north : isPlain (if m.south then "S".toList else "N".toList) = true := by
    cases m.south <;> decide
  have east : isPlain (if m.west then "W".toList else "E".toList) = true := by
    cases m.west <;> decide
  rw [leading] at member
  simp only [List.mem_cons, List.not_mem_nil, or_false] at member
  rcases member with rfl | rfl | rfl | rfl | rfl | rfl | rfl | rfl | rfl | rfl | rfl | rfl
  · exact named
  · exact m.plain _ (by simp)
  · exact m.plain _ (by simp)
  · rfl
  · decide
  · exact m.plain _ (by simp)
  · decide
  · exact isPlain_angle _ _
  · exact north
  · exact isPlain_angle _ _
  · exact east
  · exact m.plain _ (by simp)

theorem isPlain_course : isPlain m.course = true := m.plain _ (by simp)

theorem front_head : m.front.head? = some 'i' := rfl

theorem front_last : m.front.getLast? = some ',' := by
  have last : m.leading = m.leading.dropLast ++ [m.speed] := rfl
  rw [front, last, List.flatMap_append, List.flatMap_singleton, ← List.append_assoc,
    List.getLast?_concat]

theorem text_marks {c : Char} (member : c ∈ m.text) : c.toNat < 128 ∧ c ≠ ';' := by
  rw [text_eq, List.mem_append] at member
  rcases member with early | late
  · obtain ⟨part, among, inside⟩ := List.mem_flatMap.mp early
    rcases List.mem_append.mp inside with field | comma
    · have plain := isPlain_iff.mp (m.isPlain_leading among) c field
      exact ⟨plain.1, plain.2.2⟩
    · rw [List.mem_singleton.mp comma]
      decide
  · have plain := isPlain_iff.mp m.isPlain_course c late
    exact ⟨plain.1, plain.2.2⟩

theorem splitOn_front {kept : Text} (part : kept <+: m.course) :
    (m.front ++ kept).splitOn ',' = m.leading ++ [kept] := by
  rw [front, ← intercalate_concat]
  apply List.splitOn_intercalate
  · intro field among comma
    rcases List.mem_append.mp among with early | late
    · exact (isPlain_iff.mp (m.isPlain_leading early) _ comma).2.1 rfl
    · rw [List.mem_singleton.mp late] at comma
      exact (isPlain_iff.mp m.isPlain_course _ (part.subset comma)).2.1 rfl
  · simp

theorem strip_front (kept : Text) :
    ∃ left, left <+: kept ∧ strip (m.front ++ kept) = m.front ++ left :=
  trim_append m.front_head (by decide) m.front_last (by decide) kept

theorem stripBytes_text :
    ∃ kept, kept <+: m.course ∧ stripBytes (asciiBytes m.text) = asciiBytes (m.front ++ kept) := by
  have first : (asciiBytes m.front).head? = some 0x69 := rfl
  have last : (asciiBytes m.front).getLast? = some 0x2C := by
    rw [asciiBytes, List.getLast?_map, front_last]
    rfl
  obtain ⟨kept, part, trimmed⟩ :=
    trim_append first (p := isSpaceByte) (by decide) last (by decide) (asciiBytes m.course)
  refine ⟨m.course.take kept.length, List.take_prefix _ _, ?_⟩
  have back : kept = asciiBytes (m.course.take kept.length) := by
    rw [asciiBytes, List.map_take]
    exact List.prefix_iff_eq_take.mp part
  rw [text_eq, asciiBytes_append, asciiBytes_append, stripBytes, trimmed, ← back]

theorem classify_front {kept : Text} (part : kept <+: m.course) :
    ∃ left, left <+: m.course ∧ classify (asciiBytes (m.front ++ kept)) =
      (.tracker, m.front ++ left) := by
  have ascii : ∀ c ∈ m.front ++ kept, c.toNat < 128 := by
    intro c member
    apply And.left
    apply m.text_marks
    rw [text_eq]
    rcases List.mem_append.mp member with early | late
    · exact List.mem_append_left _ early
    · exact List.mem_append_right _ (part.subset late)
  obtain ⟨left, shorter, stripped⟩ := m.strip_front kept
  obtain ⟨rest, label⟩ : ∃ rest, m.front ++ left = "imei:".toList ++ rest := by
    refine ⟨(m.front ++ left).drop 5, ?_⟩
    rfl
  have unmarked : ("##".toList.isPrefixOf (m.front ++ left) &&
      occursIn "imei:".toList (m.front ++ left)) = false := by
    rw [label]
    rfl
  have lettered : isImei (m.front ++ left) = false := by
    rw [label, isImei]
    split
    · rfl
    · rfl
  have labelled : "imei:".toList.isPrefixOf (m.front ++ left) = true := by
    rw [label]
    exact List.isPrefixOf_iff_prefix.mpr (List.prefix_append _ _)
  refine ⟨left, shorter.trans part, ?_⟩
  rw [classify, asciiStrict_asciiBytes ascii]
  dsimp only
  rw [stripped, unmarked, lettered, if_neg Bool.false_ne_true, if_neg Bool.false_ne_true,
    if_pos labelled]

theorem strip_angle (a : Angle) (width : Nat) : strip (a.text width) = a.text width := by
  apply strip_eq_self
  intro c member
  rcases mem_angle member with digit | rfl
  · exact not_isSpace_of_isDigit digit
  · decide

theorem read_latitude (kept : Text) : nmeaToDegrees (field (m.leading ++ [kept]) 7)
    (upper (field (m.leading ++ [kept]) 8)) =
      .ok (if m.latitude.Sharp then some m.latitudeValue else none) := by
  have value : field (m.leading ++ [kept]) 7 = m.latitude.text 2 := strip_angle _ _
  have letter : field (m.leading ++ [kept]) 8 =
      strip (if m.south then "S".toList else "N".toList) := rfl
  have bound := m.latitude_le
  rw [value, letter, latitudeValue]
  cases m.south
  · exact m.latitude.read (by decide) (by decide) (by omega) (by unfold Letter; decide)
  · exact m.latitude.read (by decide) (by decide) (by omega) (by unfold Letter; decide)

theorem read_longitude (kept : Text) : nmeaToDegrees (field (m.leading ++ [kept]) 9)
    (upper (field (m.leading ++ [kept]) 10)) =
      .ok (if m.longitude.Sharp then some m.longitudeValue else none) := by
  have value : field (m.leading ++ [kept]) 9 = m.longitude.text 3 := strip_angle _ _
  have letter : field (m.leading ++ [kept]) 10 =
      strip (if m.west then "W".toList else "E".toList) := rfl
  have bound := m.longitude_le
  rw [value, letter, longitudeValue]
  cases m.west
  · exact m.longitude.read (by decide) (by decide) (by omega) (by unfold Letter; decide)
  · exact m.longitude.read (by decide) (by decide) (by omega) (by unfold Letter; decide)

theorem identified_front {kept : Text} (part : kept <+: m.course) :
    Identified (m.front ++ kept) ∧
      strip ((((m.front ++ kept).splitOn ',').headD []).drop 5) = m.imei := by
  have solid : strip m.imei = m.imei :=
    strip_eq_self fun c member => not_isSpace_of_isDigit (m.isDigit_of_mem_imei member)
  have named : strip ((((m.front ++ kept).splitOn ',').headD []).drop 5) = m.imei := by
    rw [m.splitOn_front part]
    exact solid
  refine ⟨⟨rfl, ?_⟩, named⟩
  rw [named]
  have identity := m.identity
  rw [isCommandImei, Bool.and_assoc, Bool.and_eq_true] at identity
  exact isImei_of_whole (fun c member => m.isDigit_of_mem_imei member) identity.2

/-- What is left of a message is parsed to the position that it was formatted from, if its minutes
are still below sixty as doubles, and otherwise to none. -/
theorem parseTracker_front (cfg : Config) {kept : Text} (part : kept <+: m.course) :
    ∃ report, parseTracker cfg (m.front ++ kept) = .ok report ∧ report.imei = m.imei ∧
      report.keyword = lower (strip m.keyword) ∧ ((∃ fix, report.fix = some fix ∧
        fix.latitude = m.latitudeValue ∧ fix.longitude = m.longitudeValue) ↔ m.Sharp) := by
  have kind : upper (field (m.leading ++ [kept]) 4) = "F".toList := rfl
  have flag : upper (field (m.leading ++ [kept]) 6) = "A".toList := rfl
  have north := m.read_latitude kept
  have east := m.read_longitude kept
  obtain ⟨identified, named⟩ := m.identified_front part
  have whole : parseTracker cfg (m.front ++ kept) = _ := parseTracker_identified identified
  rw [named, m.splitOn_front part, if_pos kind] at whole
  by_cases sharp : m.Sharp
  · rw [if_pos sharp.1] at north
    rw [if_pos sharp.2] at east
    obtain ⟨fix, parsed, latitude, longitude⟩ := parseFix_ok cfg flag north east
    refine ⟨reportOf m.imei (m.leading ++ [kept]) (some fix), ?_, rfl, rfl, iff_of_true ?_ sharp⟩
    · rw [whole, parsed]
      rfl
    · exact ⟨fix, rfl, latitude, longitude⟩
  · have missing : (if m.latitude.Sharp then some m.latitudeValue else none) = none ∨
        (if m.longitude.Sharp then some m.longitudeValue else none) = none := by
      rcases not_and_or.mp sharp with blunt | blunt
      · exact .inl (if_neg blunt)
      · exact .inr (if_neg blunt)
    refine ⟨reportOf m.imei (m.leading ++ [kept]) none, ?_, rfl, rfl, iff_of_false ?_ sharp⟩
    · rw [whole, parseFix_none cfg north east missing]
      rfl
    · rintro ⟨fix, read, -⟩
      cases read

theorem reads_iff (cfg : Config) : Reads cfg m (stripBytes (asciiBytes m.text)) ↔ m.Sharp := by
  obtain ⟨kept, part, framed⟩ := m.stripBytes_text
  obtain ⟨left, shorter, classified⟩ := m.classify_front part
  obtain ⟨report, parsed, imei, keyword, fixed⟩ := m.parseTracker_front cfg shorter
  rw [← fixed]
  constructor
  · rintro ⟨-, text, report', fix, classified', parsed', -, -, read⟩
    rw [framed, classified] at classified'
    cases classified'
    rw [parsed] at parsed'
    cases parsed'
    exact ⟨fix, read⟩
  · rintro ⟨fix, read⟩
    exact ⟨rfl, m.front ++ left, report, fix, framed ▸ classified, parsed, imei, keyword, read⟩

end Message

theorem runs_wire (ms : List Message) :
    runs (wire ms) = ms.map (fun m => asciiBytes m.text) ++ [[]] := by
  induction ms with
  | nil => rfl
  | cons m ms ih =>
      have open_ : terminator ∉ asciiBytes m.text :=
        notMem_asciiBytes (by decide) fun c member => m.text_marks member
      have whole : wire (m :: ms) = asciiBytes m.text ++ terminator :: wire ms := by
        rw [wire, List.flatMap_cons, asciiBytes_append, asciiBytes_append, List.append_assoc]
        rfl
      rw [whole, runs_message open_, ih]
      rfl

theorem extractMessages_wire {cfg : Config} (limit : 0 ≤ cfg.gps103MaxUnframedBytes)
    (ms : List Message) :
    extractMessages cfg (wire ms) = .ok (ms.map fun m => stripBytes (asciiBytes m.text), []) := by
  have last : lastRun (wire ms) = [] := by
    rw [lastRun, runs_wire, List.getLastD_concat]
  have framed : messages (runs (wire ms)).dropLast =
      ms.map fun m => stripBytes (asciiBytes m.text) := by
    rw [runs_wire, List.dropLast_concat, messages, List.map_map]
    apply List.filter_eq_self.mpr
    intro raw member
    obtain ⟨m, -, rfl⟩ := List.mem_map.mp member
    obtain ⟨kept, -, trimmed⟩ := m.stripBytes_text
    rw [Function.comp_apply, trimmed]
    rfl
  rw [← framed, ← last]
  apply extractMessages_ok
  rw [last]
  exact decide_eq_true limit

/-- The messages on the wire are framed one by one and each is read as the exact position that it
was formatted from, exactly if no minutes are so close below sixty that their double is sixty. -/
theorem coordinates_round_trip_iff (cfg : Config) (limit : 0 ≤ cfg.gps103MaxUnframedBytes)
    (ms : List Message) : (∃ framed, extractMessages cfg (wire ms) = .ok (framed, []) ∧
      List.Forall₂ (Reads cfg) ms framed) ↔ ∀ m ∈ ms, m.Sharp := by
  rw [extractMessages_wire limit]
  constructor
  · rintro ⟨framed, same, reads⟩ m member
    cases same
    rw [List.forall₂_map_right_iff, List.forall₂_same] at reads
    exact (m.reads_iff cfg).mp (reads m member)
  · intro sharp
    refine ⟨_, rfl, ?_⟩
    rw [List.forall₂_map_right_iff, List.forall₂_same]
    exact fun m member => (m.reads_iff cfg).mpr (sharp m member)

/-- A report from 6° 55.626' north and 79° 51.672' east. -/
def colombo : Message where
  imei := "359586015829802".toList
  keyword := "tracker".toList
  localTime := "260114093000".toList
  utcTime := "093000.000".toList
  latitude := ⟨6, 55, some [6, 2, 6, 0]⟩
  south := false
  longitude := ⟨79, 51, some [6, 7, 2, 0]⟩
  west := false
  speed := "12.00".toList
  course := "90".toList
  identity := by decide
  plain := by decide
  latitude_le := by decide
  longitude_le := by decide

theorem coordinates_round_trip_colombo :
    wire [colombo] = asciiBytes ("imei:359586015829802,tracker,260114093000,,F,".toList ++
      "093000.000,A,0655.6260,N,07951.6720,E,12.00,90;".toList) ∧
    0 ≤ defaults.gps103MaxUnframedBytes ∧
    ∃ framed, extractMessages defaults (wire [colombo]) = .ok (framed, []) ∧
      List.Forall₂ (Reads defaults) [colombo] framed := by
  refine ⟨by decide +kernel, by decide, ?_⟩
  apply (coordinates_round_trip_iff defaults (by decide) [colombo]).mpr
  intro m member
  obtain rfl := List.mem_singleton.mp member
  exact ⟨by decide +kernel, by decide +kernel⟩

/-- The same report with minutes that round to sixty. -/
def almostSeven : Message :=
  { colombo with
    latitude := ⟨6, 59, some [9, 9, 9, 9, 9, 9, 9, 9, 9, 9, 9, 9, 9, 9, 7]⟩
    latitude_le := by decide }

theorem almostSeven_lost :
    wire [almostSeven] = asciiBytes ("imei:359586015829802,tracker,260114093000,,F,".toList ++
      "093000.000,A,0659.999999999999997,N,07951.6720,E,12.00,90;".toList) ∧
    ¬∃ framed, extractMessages defaults (wire [almostSeven]) = .ok (framed, []) ∧
      List.Forall₂ (Reads defaults) [almostSeven] framed := by
  refine ⟨by decide +kernel, ?_⟩
  rintro ⟨framed, same, reads⟩
  rw [extractMessages_wire (by decide)] at same
  cases same
  rw [List.forall₂_map_right_iff, List.forall₂_same] at reads
  have sharp := (almostSeven.reads_iff defaults).mp (reads _ List.mem_cons_self)
  exact absurd sharp.1 (by decide +kernel)

end TrackerGateway.Packets.Coordinates
