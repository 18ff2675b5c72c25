/- module: TrackerGateway/Packets/Fixes
   source: src/parsers/gps103_parser.py
   digest: Which reports hold a position, and which raise in the middle of one. -/

import TrackerGateway.Parsers.Gps103

set_option autoImplicit false
set_option relaxedAutoImplicit false

namespace TrackerGateway.Packets.Fixes

open Foundation.Wire
open TrackerGateway.Runtime
open Parsers.Gps103

/-- A text of digits and, perhaps behind a point, more of them. -/
structure Numeral (value head fraction : Text) : Prop where
  digits : isDigits head = true
  long : 3 ≤ head.length
  decimals : ∀ c ∈ fraction, c.isDigit = true
  is : value = head ∧ fraction = [] ∨ value = head ++ '.' :: fraction

def whole (head : Text) : Text := head.take (head.length - 2)

/-- The last two digits in front of the point, and those behind it. -/
def minutes (head fraction : Text) : ℚ :=
  digitsValue (head.drop (head.length - 2) ++ fraction) / 10 ^ fraction.length

def degreesOf (hemisphere head fraction : Text) : ℚ :=
  let result := digitsValue (whole head) + minutes head fraction / 60
  if hemisphere = "S".toList ∨ hemisphere = "W".toList then -result else result

/-- A letter of any of the four hemispheres. -/
def Letter (hemisphere : Text) : Prop :=
  hemisphere ∈ ["N".toList, "S".toList, "E".toList, "W".toList]

/-- `ddmm` or `ddmm.mmmm` with minutes below a limit. -/
def CoordinateBelow (limit : ℚ) (value : Text) : Prop :=
  ∃ head fraction, Numeral value head fraction ∧ minutes head fraction < limit

def Coordinate : Text → Prop := CoordinateBelow 60

/-- The minutes from which on the nearest double is sixty. -/
def roundedLimit : ℚ := 60 - 1 / 2 ^ 48

/-- A coordinate whose minutes are still below sixty as a double. -/
def Readable : Text → Prop := CoordinateBelow roundedLimit

/-- The degrees have too many digits for an integer, or are too large for a float. -/
def TooLong (value : Text) : Prop :=
  ∃ head fraction, Numeral value head fraction ∧ (intMaxDigits < (whole head).length ∨
    minutes head fraction < roundedLimit ∧ overflowBound ≤ digitsValue (whole head))

theorem sixty_le_binary64 {q : ℚ} (far : 64 ≤ q) : 60 ≤ binary64 q := by
  have positive : |q| = q := abs_of_nonneg (by linarith)
  rcases lt_or_ge q (2 ^ 53) with few | many
  · have least := (binary64_between 64 (2 ^ 53) (by rwa [positive]) (by exact_mod_cast far)
      (by exact_mod_cast few.le)).1
    norm_num at least
    linarith
  · have tiny : (2 : ℚ) ^ (-1022 : ℤ) ≤ 1 := zpow_le_one_of_nonpos₀ (by norm_num) (by norm_num)
    have error := binary64_relative (q := q) (by rw [positive]; linarith)
    rw [positive, abs_le] at error
    linarith [error.1]

/-- The middle between the last double below sixty and sixty is rounded up. -/
theorem binary64_lt_sixty_iff {q : ℚ} (nonneg : 0 ≤ q) : binary64 q < 60 ↔ q < roundedLimit := by
  have positive : |q| = q := abs_of_nonneg nonneg
  rw [roundedLimit]
  rcases lt_or_ge q 32 with low | high
  · have most := (binary64_between 0 32 (by rw [positive]; linarith) (by exact_mod_cast nonneg)
      (by exact_mod_cast low.le)).2
    norm_num at most
    exact iff_of_true (by linarith) (by linarith)
  rcases lt_or_ge q 64 with near | far
  · have unit : ulp q = 2 ^ (5 - 52 : ℤ) := by
      apply ulp_eq (by norm_num)
      · rw [positive]
        norm_num
        exact high
      · rw [positive]
        norm_num
        exact near
    have rounded := binary64_lt_iff (q := q) (n := 60 * 2 ^ 47) (by norm_num)
    rw [unit] at rounded
    norm_num at rounded
    rw [rounded]
    norm_num
  · exact iff_of_false (not_lt.mpr (sixty_le_binary64 far)) (by linarith)

section Coordinates

variable {value hemisphere head fraction : Text}

theorem Numeral.pointless (numeral : Numeral value head fraction) : '.' ∉ head := by
  intro point
  exact absurd ((isDigits_iff.mp numeral.digits).2 '.' point) (by decide)

theorem Numeral.partition_eq (numeral : Numeral value head fraction) :
    (partition '.' value).1 = head ∧ (partition '.' value).2.getD [] = fraction := by
  rcases numeral.is with ⟨rfl, rfl⟩ | rfl
  · rw [partition_of_notMem numeral.pointless]
    exact ⟨rfl, rfl⟩
  · rw [partition_append numeral.pointless]
    exact ⟨rfl, rfl⟩

theorem Numeral.unique {head' fraction' : Text} (one : Numeral value head fraction)
    (other : Numeral value head' fraction') : head' = head ∧ fraction' = fraction := by
  obtain ⟨heads, fractions⟩ := one.partition_eq
  obtain ⟨heads', fractions'⟩ := other.partition_eq
  exact ⟨heads'.symm.trans heads, fractions'.symm.trans fractions⟩

theorem Numeral.nonempty (numeral : Numeral value head fraction) : value.isEmpty = false := by
  have long := numeral.long
  rcases numeral.is with ⟨rfl, -⟩ | rfl
  · cases value with
    | nil => simp at long
    | cons c t => rfl
  · cases head with
    | nil => simp at long
    | cons c t => rfl

theorem nmeaToDegrees_numeral (numeral : Numeral value head fraction)
    (letter : Letter hemisphere) :
    ∃ e, nmeaToDegrees value hemisphere =
      if intMaxDigits < (whole head).length then .error e
      else if roundedLimit ≤ minutes head fraction then .ok none
      else if overflowBound ≤ digitsValue (whole head) then .error .overflowError
      else .ok (some (degreesOf hemisphere head fraction)) := by
  obtain ⟨heads, fractions⟩ := numeral.partition_eq
  have decimals : (!fraction.isEmpty && !isDigits fraction) = false := by
    cases fraction with
    | nil => rfl
    | cons c t => simpa [isDigits] using numeral.decimals
  have known : (value.isEmpty || !(["N".toList, "S".toList, "E".toList, "W".toList].contains
      hemisphere)) = false := by
    rw [numeral.nonempty, Bool.false_or, Bool.not_eq_false', List.contains_iff_mem]
    exact letter
  have shaped : (!isDigits head || decide (head.length < 3) ||
      (!fraction.isEmpty && !isDigits fraction)) = false := by
    rw [decimals, numeral.digits, decide_eq_false (not_lt.mpr numeral.long)]
    rfl
  have decided := nmeaToDegrees.eq_def value hemisphere
  simp only [known, Bool.false_eq_true, if_false, heads, fractions, shaped] at decided
  have rounded : 60 ≤ binary64 (minutes head fraction) ↔ roundedLimit ≤ minutes head fraction := by
    rw [← not_lt, ← not_lt, binary64_lt_sixty_iff (by unfold minutes; positivity)]
  simp only [← rounded]
  exact ⟨_, decided⟩

theorem nmeaToDegrees_other (other : ¬(Letter hemisphere ∧ ∃ head fraction,
    Numeral value head fraction)) : nmeaToDegrees value hemisphere = .ok none := by
  rw [nmeaToDegrees]
  split
  case isTrue => rfl
  case isFalse known =>
  dsimp only
  split
  case isTrue => rfl
  case isFalse shaped =>
  exfalso
  apply other
  simp only [Bool.or_eq_true, Bool.not_eq_true', Bool.and_eq_true, decide_eq_true_eq, not_or,
    not_and, not_lt, Bool.not_eq_false] at known shaped
  obtain ⟨-, letter⟩ := known
  obtain ⟨⟨digits, long⟩, decimals⟩ := shaped
  refine ⟨List.contains_iff_mem.mp letter, (partition '.' value).1,
    (partition '.' value).2.getD [], digits, long, ?_, ?_⟩
  · intro c member
    cases fraction : (partition '.' value).2.getD [] with
    | nil => simp [fraction] at member
    | cons first rest =>
        rw [fraction] at member decimals
        exact (isDigits_iff.mp (decimals rfl)).2 c member
  · rcases partition_cases '.' value with ⟨-, alone⟩ | ⟨front, rest, -, split_, parts⟩
    · rw [alone]
      exact .inl ⟨rfl, rfl⟩
    · rw [parts]
      exact .inr split_

theorem nmeaToDegrees_error_iff :
    (∃ e, nmeaToDegrees value hemisphere = .error e) ↔ Letter hemisphere ∧ TooLong value := by
  by_cases shaped : Letter hemisphere ∧ ∃ head fraction, Numeral value head fraction
  · obtain ⟨letter, head, fraction, numeral⟩ := shaped
    obtain ⟨e, decided⟩ := nmeaToDegrees_numeral numeral letter
    have long : TooLong value ↔ intMaxDigits < (whole head).length ∨
        minutes head fraction < roundedLimit ∧ overflowBound ≤ digitsValue (whole head) := by
      constructor
      · rintro ⟨head', fraction', numeral', long⟩
        obtain ⟨rfl, rfl⟩ := numeral.unique numeral'
        exact long
      · intro long
        exact ⟨head, fraction, numeral, long⟩
    rw [decided, long]
    split_ifs with many late large
    · exact iff_of_true ⟨e, rfl⟩ ⟨letter, .inl many⟩
    · apply iff_of_false (by simp)
      rintro ⟨-, many' | ⟨early, -⟩⟩
      · exact many many'
      · exact absurd late (not_le.mpr early)
    · exact iff_of_true ⟨_, rfl⟩ ⟨letter, .inr ⟨not_le.mp late, large⟩⟩
    · apply iff_of_false (by simp)
      rintro ⟨-, many' | ⟨-, large'⟩⟩
      · exact many many'
      · exact large large'
  · rw [nmeaToDegrees_other shaped]
    apply iff_of_false (by simp)
    rintro ⟨letter, head, fraction, numeral, -⟩
    exact shaped ⟨letter, head, fraction, numeral⟩

theorem nmeaToDegrees_some_iff {degrees : Option ℚ}
    (read : nmeaToDegrees value hemisphere = .ok degrees) :
    degrees.isSome = true ↔ Letter hemisphere ∧ Readable value := by
  by_cases shaped : Letter hemisphere ∧ ∃ head fraction, Numeral value head fraction
  · obtain ⟨letter, head, fraction, numeral⟩ := shaped
    obtain ⟨e, decided⟩ := nmeaToDegrees_numeral numeral letter
    rw [decided] at read
    have few : Readable value ↔ minutes head fraction < roundedLimit := by
      constructor
      · rintro ⟨head', fraction', numeral', few⟩
        obtain ⟨rfl, rfl⟩ := numeral.unique numeral'
        exact few
      · intro few
        exact ⟨head, fraction, numeral, few⟩
    rw [few]
    split_ifs at read with many late large
    · cases read
      apply iff_of_false (by simp)
      rintro ⟨-, early⟩
      exact absurd late (not_le.mpr early)
    · cases read
      exact iff_of_true rfl ⟨letter, not_le.mp late⟩
  · rw [nmeaToDegrees_other shaped] at read
    cases read
    apply iff_of_false (by simp)
    rintro ⟨letter, head, fraction, numeral, -⟩
    exact shaped ⟨letter, head, fraction, numeral⟩

end Coordinates

/-- A fix block that is flagged as usable, with two numerals and letters of these kinds. -/
structure FixBlock (numeral northSouth eastWest : Text → Prop) (fields : List Text) : Prop where
  kind : upper (field fields 4) = "F".toList
  flag : upper (field fields 6) = "A".toList
  latitude : numeral (field fields 7)
  latitudeLetter : northSouth (upper (field fields 8))
  longitude : numeral (field fields 9)
  longitudeLetter : eastWest (upper (field fields 10))

def NorthSouth (hemisphere : Text) : Prop := hemisphere ∈ ["N".toList, "S".toList]

def EastWest (hemisphere : Text) : Prop := hemisphere ∈ ["E".toList, "W".toList]

/-- A fix block in which a coordinate cannot be converted. -/
def Overlong (fields : List Text) : Prop :=
  upper (field fields 4) = "F".toList ∧
    ((Letter (upper (field fields 8)) ∧ TooLong (field fields 7)) ∨
      (Letter (upper (field fields 10)) ∧ TooLong (field fields 9)))

structure Identified (text : Text) : Prop where
  start : "imei:".toList.isPrefixOf text = true
  imei : isImei (strip (((text.splitOn ',').headD []).drop 5)) = true

section Reports

variable {cfg : Config} {fields : List Text} {text : Text}

theorem parseFix_error_iff (cfg : Config) : (∃ e, parseFix cfg fields = .error e) ↔
    (Letter (upper (field fields 8)) ∧ TooLong (field fields 7)) ∨
      (Letter (upper (field fields 10)) ∧ TooLong (field fields 9)) := by
  rw [← nmeaToDegrees_error_iff, ← nmeaToDegrees_error_iff, parseFix]
  cases latitude : nmeaToDegrees (field fields 7) (upper (field fields 8)) with
  | error e => exact iff_of_true ⟨e, rfl⟩ (.inl ⟨e, rfl⟩)
  | ok lat =>
      cases longitude : nmeaToDegrees (field fields 9) (upper (field fields 10)) with
      | error e => exact iff_of_true ⟨e, rfl⟩ (.inr ⟨e, rfl⟩)
      | ok lon =>
          refine iff_of_false ?_ (by simp)
          rintro ⟨e, raised⟩
          cases lat <;> cases lon
          · cases raised
          · cases raised
          · cases raised
          · simp only [bind, Except.bind, pure, Except.pure] at raised
            split at raised <;> cases raised

theorem parseFix_ok {latitude longitude : ℚ} (cfg : Config)
    (flag : upper (field fields 6) = "A".toList)
    (north : nmeaToDegrees (field fields 7) (upper (field fields 8)) = .ok (some latitude))
    (east : nmeaToDegrees (field fields 9) (upper (field fields 10)) = .ok (some longitude)) :
    ∃ fix, parseFix cfg fields = .ok (some fix) ∧ fix.latitude = latitude ∧
      fix.longitude = longitude := by
  rw [parseFix, north, east]
  simp only [bind, Except.bind, pure, Except.pure]
  rw [if_neg (by simpa using flag)]
  exact ⟨_, rfl, rfl, rfl⟩

theorem parseFix_none {latitude longitude : Option ℚ} (cfg : Config)
    (north : nmeaToDegrees (field fields 7) (upper (field fields 8)) = .ok latitude)
    (east : nmeaToDegrees (field fields 9) (upper (field fields 10)) = .ok longitude)
    (missing : latitude = none ∨ longitude = none) : parseFix cfg fields = .ok none := by
  rw [parseFix, north, east]
  rcases missing with rfl | rfl
  · rfl
  · cases latitude <;> rfl

theorem parseFix_isSome_iff {fix : Option Fix} (parsed : parseFix cfg fields = .ok fix)
    (kind : upper (field fields 4) = "F".toList) :
    fix.isSome = true ↔ FixBlock Readable Letter Letter fields := by
  rw [parseFix] at parsed
  cases latitude : nmeaToDegrees (field fields 7) (upper (field fields 8)) with
  | error e =>
      rw [latitude] at parsed
      cases parsed
  | ok lat =>
      cases longitude : nmeaToDegrees (field fields 9) (upper (field fields 10)) with
      | error e =>
          rw [latitude, longitude] at parsed
          cases parsed
      | ok lon =>
          have one := nmeaToDegrees_some_iff latitude
          have two := nmeaToDegrees_some_iff longitude
          have block : FixBlock Readable Letter Letter fields ↔
              upper (field fields 6) = "A".toList ∧ lat.isSome = true ∧ lon.isSome = true := by
            rw [one, two]
            constructor
            · intro block
              exact ⟨block.flag, ⟨block.latitudeLetter, block.latitude⟩, block.longitudeLetter,
                block.longitude⟩
            · rintro ⟨flag, ⟨letter, latitude⟩, letter', longitude⟩
              exact ⟨kind, flag, latitude, letter, longitude, letter'⟩
          rw [latitude, longitude] at parsed
          rw [block]
          cases lat <;> cases lon
          · cases parsed
            simp
          · cases parsed
            simp
          · cases parsed
            simp
          · simp only [bind, Except.bind, pure, Except.pure] at parsed
            split at parsed
            case isTrue other =>
              cases parsed
              simpa using other
            case isFalse flag =>
              cases parsed
              simpa using flag

theorem parseTracker_identified (identified : Identified text) :
    parseTracker cfg text = if upper (field (text.splitOn ',') 4) = "F".toList then
      (parseFix cfg (text.splitOn ',')).map
        (reportOf (strip (((text.splitOn ',').headD []).drop 5)) (text.splitOn ','))
    else .ok (reportOf (strip (((text.splitOn ',').headD []).drop 5)) (text.splitOn ',') none) := by
  rw [parseTracker]
  simp only [identified.start, identified.imei, Bool.not_true, Bool.false_eq_true, if_false]

theorem parseTracker_unidentified (cfg : Config) (not_ : ¬Identified text) :
    ∃ message, parseTracker cfg text = .error (.gps103ParseError message) := by
  rw [parseTracker]
  split_ifs with start imei
  · exact ⟨_, rfl⟩
  · exact ⟨_, rfl⟩
  · exact absurd ⟨by simpa using start, by simpa using imei⟩ not_
  · exact absurd ⟨by simpa using start, by simpa using imei⟩ not_

theorem identified_of_ok {report : Report} (parsed : parseTracker cfg text = .ok report) :
    Identified text := by
  by_contra not_
  obtain ⟨message, refused⟩ := parseTracker_unidentified cfg not_
  rw [refused] at parsed
  cases parsed

theorem parseTracker_error_iff (cfg : Config) (identified : Identified text) :
    (∃ e, parseTracker cfg text = .error e) ↔ Overlong (text.splitOn ',') := by
  rw [parseTracker_identified identified, Overlong, ← parseFix_error_iff cfg]
  split_ifs with kind
  · cases parseFix cfg (text.splitOn ',') with
    | error e => exact iff_of_true ⟨e, rfl⟩ ⟨kind, e, rfl⟩
    | ok fix => simp [Except.map]
  · exact iff_of_false (by simp) fun overlong => kind overlong.1

theorem parseTracker_ok {report : Report} (identified : Identified text)
    (parsed : parseTracker cfg text = .ok report) :
    ∃ fix, report = reportOf (strip (((text.splitOn ',').headD []).drop 5)) (text.splitOn ',') fix ∧
      (fix.isSome = true ↔ FixBlock Readable Letter Letter (text.splitOn ',')) := by
  rw [parseTracker_identified identified] at parsed
  split_ifs at parsed with kind
  · cases found : parseFix cfg (text.splitOn ',') with
    | error e =>
        rw [found] at parsed
        cases parsed
    | ok fix =>
        rw [found] at parsed
        cases parsed
        exact ⟨fix, rfl, parseFix_isSome_iff found kind⟩
  · cases parsed
    exact ⟨none, rfl, iff_of_false (by simp) fun block => kind block.kind⟩

theorem parseTracker_imei_nonempty {report : Report}
    (parsed : parseTracker cfg text = .ok report) : report.imei ≠ [] := by
  have identified := identified_of_ok parsed
  obtain ⟨fix, rfl, -⟩ := parseTracker_ok identified parsed
  intro empty
  have valid := identified.imei
  rw [show strip (((text.splitOn ',').headD []).drop 5) = [] from empty] at valid
  cases valid

end Reports

/-- A complete fix block in which a coordinate carries the letter of the other axis. -/
def Crossed (fields : List Text) : Prop :=
  FixBlock Readable Letter Letter fields ∧
    (EastWest (upper (field fields 8)) ∨ NorthSouth (upper (field fields 10)))

theorem letter_iff {hemisphere : Text} :
    Letter hemisphere ↔ NorthSouth hemisphere ∨ EastWest hemisphere := by
  simp [Letter, NorthSouth, EastWest, or_assoc]

theorem NorthSouth.not_eastWest {hemisphere : Text} (letter : NorthSouth hemisphere) :
    ¬EastWest hemisphere := by
  intro other
  simp only [NorthSouth, EastWest, List.mem_cons, List.not_mem_nil, or_false] at letter other
  rcases letter with rfl | rfl
  · exact absurd other (by decide)
  · exact absurd other (by decide)

theorem Readable.coordinate {value : Text} (readable : Readable value) : Coordinate value := by
  obtain ⟨head, fraction, numeral, few⟩ := readable
  exact ⟨head, fraction, numeral, few.trans (by norm_num [roundedLimit])⟩

theorem FixBlock.coordinates {northSouth eastWest : Text → Prop} {fields : List Text}
    (block : FixBlock Readable northSouth eastWest fields) :
    FixBlock Coordinate northSouth eastWest fields :=
  { block with latitude := block.latitude.coordinate, longitude := block.longitude.coordinate }

/-- A complete fix block in which the minutes of a coordinate are below sixty, and sixty as a
double. -/
def RoundedUp (fields : List Text) : Prop :=
  FixBlock Coordinate NorthSouth EastWest fields ∧
    (¬Readable (field fields 7) ∨ ¬Readable (field fields 9))

/-- The blocks that are read are those of the right letters, unless letters are crossed or minutes
are rounded up to sixty. -/
theorem fixBlock_iff {fields : List Text} :
    (FixBlock Readable Letter Letter fields ↔ FixBlock Coordinate NorthSouth EastWest fields) ↔
      ¬Crossed fields ∧ ¬RoundedUp fields := by
  constructor
  · intro same
    constructor
    · rintro ⟨block, crossed | crossed⟩
      · exact (same.mp block).latitudeLetter.not_eastWest crossed
      · exact crossed.not_eastWest (same.mp block).longitudeLetter
    · rintro ⟨block, latitude | longitude⟩
      · exact latitude (same.mpr block).latitude
      · exact longitude (same.mpr block).longitude
  · rintro ⟨straight, sharp⟩
    constructor
    · intro block
      have first : NorthSouth (upper (field fields 8)) := by
        rcases letter_iff.mp block.latitudeLetter with letter | letter
        · exact letter
        · exact absurd ⟨block, .inl letter⟩ straight
      have second : EastWest (upper (field fields 10)) := by
        rcases letter_iff.mp block.longitudeLetter with letter | letter
        · exact absurd ⟨block, .inr letter⟩ straight
        · exact letter
      exact ⟨block.kind, block.flag, block.latitude.coordinate, first, block.longitude.coordinate,
        second⟩
    · intro block
      have latitude : Readable (field fields 7) := by
        by_contra not_
        exact sharp ⟨block, .inl not_⟩
      have longitude : Readable (field fields 9) := by
        by_contra not_
        exact sharp ⟨block, .inr not_⟩
      exact ⟨block.kind, block.flag, latitude, letter_iff.mpr (.inl block.latitudeLetter),
        longitude, letter_iff.mpr (.inr block.longitudeLetter)⟩

/-- A report is read with a position exactly when it has a fix block, unless the letters of that
block are crossed or its minutes are rounded up to sixty. -/
theorem fix_grammar_iff (cfg : Config) {text : Text} (identified : Identified text)
    (short : ¬Overlong (text.splitOn ',')) :
    (∃ report, parseTracker cfg text = .ok report ∧
      (report.fix.isSome = true ↔ FixBlock Coordinate NorthSouth EastWest (text.splitOn ','))) ↔
      ¬Crossed (text.splitOn ',') ∧ ¬RoundedUp (text.splitOn ',') := by
  cases parsed : parseTracker cfg text with
  | error e => exact absurd ((parseTracker_error_iff cfg identified).mp ⟨e, parsed⟩) short
  | ok report =>
      obtain ⟨fix, rfl, found⟩ := parseTracker_ok identified parsed
      rw [← fixBlock_iff, ← found]
      constructor
      · rintro ⟨report, same, exactly⟩
        cases same
        exact exactly
      · intro exactly
        exact ⟨_, rfl, exactly⟩

/-- A report whose coordinates carry each other's letters, and the same with their own. -/
def crossedReport : Text :=
  "imei:359586015829802,tracker,0809231929,,F,112909.000,A,0656.2000,E,07951.2000,N,0.00,0".toList

def straightReport : Text :=
  "imei:359586015829802,tracker,0809231929,,F,112909.000,A,0656.2000,N,07951.2000,E,0.00,0".toList

theorem reads_of_isSome (text : Text)
    (found : ((parseTracker defaults text).toOption.bind (·.fix)).isSome = true) :
    ∃ report, parseTracker defaults text = .ok report ∧ report.fix.isSome = true := by
  cases parsed : parseTracker defaults text with
  | error e =>
      rw [parsed] at found
      cases found
  | ok report =>
      rw [parsed] at found
      exact ⟨report, rfl, found⟩

theorem fix_grammar_straight : ∃ report, parseTracker defaults straightReport = .ok report ∧
    (report.fix.isSome = true ↔
      FixBlock Coordinate NorthSouth EastWest (straightReport.splitOn ',')) := by
  obtain ⟨report, parsed, found⟩ := reads_of_isSome straightReport (by decide +kernel)
  have identified : Identified straightReport := ⟨by decide +kernel, by decide +kernel⟩
  obtain ⟨fix, rfl, exactly⟩ := parseTracker_ok identified parsed
  have block := exactly.mp found
  have short : ¬Overlong (straightReport.splitOn ',') := by
    rw [← parseTracker_error_iff defaults identified, parsed]
    simp
  refine (fix_grammar_iff defaults identified short).mpr ⟨?_, ?_⟩
  · rintro ⟨-, crossed | crossed⟩
    · exact absurd crossed (by unfold EastWest; decide +kernel)
    · exact absurd crossed (by unfold NorthSouth; decide +kernel)
  · rintro ⟨-, latitude | longitude⟩
    · exact latitude block.latitude
    · exact longitude block.longitude

theorem crossed_letters_read :
    classify (asciiBytes crossedReport) = (.tracker, crossedReport) ∧ Identified crossedReport ∧
      ¬Overlong (crossedReport.splitOn ',') ∧
      ∃ report, parseTracker defaults crossedReport = .ok report ∧ report.fix.isSome = true ∧
        ¬FixBlock Coordinate NorthSouth EastWest (crossedReport.splitOn ',') := by
  obtain ⟨report, parsed, found⟩ := reads_of_isSome crossedReport (by decide +kernel)
  have identified : Identified crossedReport := ⟨by decide +kernel, by decide +kernel⟩
  refine ⟨by decide +kernel, identified, ?_, report, parsed, found, ?_⟩
  · rw [← parseTracker_error_iff defaults identified, parsed]
    simp
  · intro block
    exact absurd block.latitudeLetter (by unfold NorthSouth; decide +kernel)

end TrackerGateway.Packets.Fixes
