/- module: TrackerGateway/Parsers/Gps103
   source: src/parsers/gps103_parser.py
   digest: Framing, classification and decoding of the text messages of the TK103 family. -/

import TrackerGateway.Runtime.Effects

set_option autoImplicit false
set_option relaxedAutoImplicit false

namespace TrackerGateway.Parsers.Gps103

open Foundation.Wire
open TrackerGateway.Runtime

def terminator : UInt8 := 0x3B

/-- Split a stream buffer into complete messages, trimmed, and the remaining bytes. A remainder
longer than the limit is no message stream. -/
def extractMessages (cfg : Config) (buffer : Bytes) : Except Exn (List Bytes × Bytes) :=
  let segments := buffer.splitOn terminator
  let remaining := segments.getLastD []
  let messages := (segments.dropLast.map stripBytes).filter (!·.isEmpty)
  if cfg.gps103MaxUnframedBytes < (remaining.length : ℤ) then
    .error (.frameOverflowError (decimal remaining.length ++
      " bytes without a ';' terminator (limit ".toList ++ decimalInt cfg.gps103MaxUnframedBytes ++
      ")".toList))
  else .ok (messages, remaining)

inductive Kind
  | login | heartbeat | tracker | unknown
  deriving DecidableEq

def Kind.name : Kind → Text
  | .login => "login".toList
  | .heartbeat => "heartbeat".toList
  | .tracker => "tracker".toList
  | .unknown => "unknown".toList

/-- Ten to seventeen digits; the pattern also matches in front of a final line feed. -/
def isImei (t : Text) : Bool :=
  let body := if t.getLast? = some '\n' then t.dropLast else t
  isDigits body && 10 ≤ body.length && body.length ≤ 17

def classify (raw : Bytes) : Kind × Text :=
  match asciiStrict raw with
  | none => (.unknown, [])
  | some decoded =>
      let text := strip decoded
      if "##".toList.isPrefixOf text && occursIn "imei:".toList text then (.login, text)
      else if isImei text then (.heartbeat, text)
      else if "imei:".toList.isPrefixOf text then (.tracker, text)
      else (.unknown, text)

/-- At most seventeen digits of a run of at least ten. -/
def imeiRun (t : Text) : Option Text :=
  let run := t.takeWhile Char.isDigit
  if 10 ≤ run.length then some (run.take 17) else none

def parseLogin (text : Text) : Except Exn Text :=
  match searchAfter "imei:".toList imeiRun text with
  | some imei => .ok imei
  | none => .error (.gps103ParseError "login without a valid IMEI".toList)

def parseHeartbeat (text : Text) : Except Exn Text :=
  if isImei text then .ok text
  else .error (.gps103ParseError "heartbeat is not a bare IMEI".toList)

/-- A field by its position, trimmed, or the empty text. -/
def field (fields : List Text) (i : Nat) : Text := strip (fields.getD i [])

/-- Signed degrees from `ddmm.mmmm` and a hemisphere letter. A numeral too long for an integer or
for a floating-point number raises. The minutes are compared as the double that they are read as,
the degrees are the exact sum. -/
def nmeaToDegrees (value hemisphere : Text) : Except Exn (Option ℚ) :=
  if value.isEmpty || !(["N".toList, "S".toList, "E".toList, "W".toList].contains hemisphere) then
    .ok none
  else
    let (head, afterPoint) := partition '.' value
    let fraction := afterPoint.getD []
    if !isDigits head || head.length < 3 || (!fraction.isEmpty && !isDigits fraction) then .ok none
    else
      let whole := head.take (head.length - 2)
      if intMaxDigits < whole.length then
        .error (.valueError
          ("Exceeds the limit (4300 digits) for integer string conversion: value has ".toList ++
            decimal whole.length ++
            " digits; use sys.set_int_max_str_digits() to increase the limit".toList))
      else
        let minutes : ℚ := digitsValue (head.drop (head.length - 2) ++ fraction) /
          10 ^ fraction.length
        if 60 ≤ binary64 minutes then .ok none
        else if overflowBound ≤ digitsValue whole then .error .overflowError
        else
          let result := digitsValue whole + minutes / 60
          .ok (some (if hemisphere = "S".toList ∨ hemisphere = "W".toList then -result else result))

/-- `yymmddhhmm` or `yymmddhhmmss`. -/
def parseLocalDatetime (value : Text) : Option Civil :=
  if isDigits value && (value.length = 10 || value.length = 12) then
    let at_ (i : Nat) : Nat := digitsValue (slice value i (i + 2))
    civil? (2000 + at_ 0) (at_ 2) (at_ 4) (at_ 6) (at_ 8)
      (if value.length = 12 then at_ 10 else 0)
  else none

/-- Hour, minute and second of `hhmmss`, with anything behind a point. -/
def parseUtcTime (value : Text) : Option (Nat × Nat × Nat) :=
  let head := (partition '.' value).1
  if isDigits head && head.length = 6 then
    let h := digitsValue (slice head 0 2)
    let m := digitsValue (slice head 2 4)
    let s := digitsValue (slice head 4 6)
    if h ≤ 23 ∧ m ≤ 59 ∧ s ≤ 59 then some (h, m, s) else none
  else none

/-- Local minus universal minutes of the day, wrapped into `(-720, 720]`. -/
def wrappedOffset (localMinutes utcMinutes : ℤ) : ℤ :=
  let offset := localMinutes - utcMinutes
  if 720 < offset then offset - 1440 else if offset ≤ -720 then offset + 1440 else offset

def resolveUtcTimestamp (localValue utcValue : Text) : Option Instant := do
  let localTime ← parseLocalDatetime localValue
  let (h, m, s) ← parseUtcTime utcValue
  let offset := wrappedOffset (localTime.hour * 60 + localTime.minute) (h * 60 + m)
  let wholeMinute := localTime.instant - localTime.second * 1000000
  return wholeMinute - offset * 60000000 + s * 1000000

/-- The usable part of a report with a position fix. -/
structure Fix where
  timestamp : Option Instant
  latitude : ℚ
  longitude : ℚ
  speed : Number
  heading : Number

structure Report where
  imei : Text
  keyword : Text
  alarmName : Option Text
  knownKeyword : Bool
  fixType : Option Text
  fix : Option Fix
  ignition : Option Bool

/-- The known keywords; `none` for a plain position report. -/
def alarmNames : List (Text × Option Text) :=
  [("tracker".toList, none), ([], none), ("help me".toList, some "SOS".toList),
    ("low battery".toList, some "LOW_BATTERY".toList), ("stockade".toList, some "GEOFENCE".toList),
    ("move".toList, some "MOVE".toList), ("speed".toList, some "OVERSPEED".toList),
    ("ac alarm".toList, some "POWER_CUT".toList), ("door alarm".toList, some "DOOR_OPEN".toList),
    ("sensor alarm".toList, some "SENSOR".toList), ("acc on".toList, some "ACC_ON".toList),
    ("acc off".toList, some "ACC_OFF".toList)]

def highSeverityAlarms : List Text := ["SOS".toList, "POWER_CUT".toList]

def knotsToKmh : ℚ := binary64 (1852 / 1000)

/-- The position of a report whose fix block is flagged `A` and complete. -/
def parseFix (cfg : Config) (fields : List Text) : Except Exn (Option Fix) := do
  let latitude ← nmeaToDegrees (field fields 7) (upper (field fields 8))
  let longitude ← nmeaToDegrees (field fields 9) (upper (field fields 10))
  match latitude, longitude with
  | some latitude, some longitude =>
      if upper (field fields 6) != "A".toList then return none
      else
        let speed := (parseFloat (field fields 11)).map fun speed =>
          if cfg.gps103SpeedInKmh then speed else speed.scale knotsToKmh
        return some {
          timestamp := resolveUtcTimestamp (field fields 2) (field fields 5)
          latitude
          longitude
          speed := (speed.map (Number.roundTo 2)).getD (.finite 0)
          heading := (parseFloat (field fields 12)).getD (.finite 0) }
  | _, _ => return none

def keywordIgnition (keyword : Text) : Option Bool :=
  if keyword = "acc on".toList then some true
  else if keyword = "acc off".toList then some false
  else none

def flagIgnition (fields : List Text) : Option Bool :=
  if field fields 14 = "1".toList then some true
  else if field fields 14 = "0".toList then some false
  else none

def reportOf (imei : Text) (fields : List Text) (fix : Option Fix) : Report :=
  let keyword := lower (field fields 1)
  let fixType := upper (field fields 4)
  { imei
    keyword
    alarmName := (alarmNames.lookup keyword).join
    knownKeyword := (alarmNames.lookup keyword).isSome
    fixType := if fixType.isEmpty then none else some fixType
    fix
    ignition := (keywordIgnition keyword).or (if fix.isSome then flagIgnition fields else none) }

def parseTracker (cfg : Config) (text : Text) : Except Exn Report :=
  let fields := text.splitOn ','
  let imei := strip ((fields.headD []).drop 5)
  if !"imei:".toList.isPrefixOf text then
    .error (.gps103ParseError "not a tracker message".toList)
  else if !isImei imei then
    .error (.gps103ParseError "invalid IMEI in tracker message".toList)
  else if upper (field fields 4) = "F".toList then (parseFix cfg fields).map (reportOf imei fields)
  else .ok (reportOf imei fields none)

def loginReply : Bytes := asciiBytes "LOAD".toList

def heartbeatReply : Bytes := asciiBytes "ON".toList

/-- The reply that stops a device from repeating its alarm. -/
def buildHelpMeAck (imei : Text) : Bytes :=
  asciiBytes ("**,imei:".toList ++ imei ++ ",E;".toList)

end TrackerGateway.Parsers.Gps103
