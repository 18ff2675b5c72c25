/- module: TrackerGateway/Parsers/CommandResponse
   source: src/parsers/command_response_parser.py
   digest: The replies a V5 device sends to text commands. -/

import TrackerGateway.Parsers.V5

set_option autoImplicit false
set_option relaxedAutoImplicit false

namespace TrackerGateway.Parsers.CommandResponse

open Foundation.Wire
open TrackerGateway.Runtime
open V5 (payload assign)

structure Response where
  command : Text
  rawText : Text
  data : List (Text × Json)

/-- The control characters that are removed; tab, line feed and carriage return stay. -/
def isControl (c : Char) : Bool :=
  c.toNat ≤ 8 || c.toNat = 11 || c.toNat = 12 || (14 ≤ c.toNat && c.toNat ≤ 31)

def replyText (packet : Bytes) : Text :=
  strip ((strip (asciiIgnore (payload packet))).filter (!isControl ·))

def leading (p : Char → Bool) (t : Text) : Option Text :=
  match t.takeWhile p with
  | [] => none
  | run => some run

def hemisphere (positive negative : Char) : Text → Option (Bool × Text)
  | c :: t =>
      if c = positive ∨ c = negative then
        (leading (fun d => d.isDigit || d = '.') t).map fun numeral => (c = negative, numeral)
      else none
  | [] => none

/-- A coordinate of the reply, `null` when it is missing. -/
def coordinate (label : String) (positive negative : Char) (text : Text) : Except Exn Json :=
  match searchAfter label.toList (hemisphere positive negative) text with
  | none => .ok .null
  | some (negated, numeral) =>
      match parseFloat numeral with
      | some (.finite q) => .ok (.float (.finite (if negated then -q else q)))
      | some (.infinite sign) => .ok (.float (.infinite (sign != negated)))
      | some .nan => .ok (.float .nan)
      | none => .error (.valueError "could not convert string to float".toList)

def number (label : String) (text : Text) : Except Exn Json :=
  match searchAfter label.toList (leading Char.isDigit) text with
  | none => .ok .null
  | some digits =>
      match parseInt digits with
      | some n => .ok (.int n)
      | none => .error (.valueError "Exceeds the limit for integer string conversion".toList)

def boundedField (low high : Nat) (t : Text) : Option Nat :=
  if isDigits t && t.length ≤ 2 && low ≤ digitsValue t && digitsValue t ≤ high then
    some (digitsValue t)
  else none

/-- The day may be written with a blank in place of a leading zero. -/
def dayField : Text → Option Nat
  | ' ' :: t => if t.length = 1 then boundedField 1 9 t else none
  | t => boundedField 1 31 t

/-- A date written as `YYYY-MM-DD HH:MM:SS`. -/
def parseDateTime (t : Text) : Option Civil := do
  let (year, afterYear) := partition '-' t
  let (month, afterMonth) := partition '-' (← afterYear)
  let afterMonth ← afterMonth
  let blank := (afterMonth.take 1).takeWhile (· = ' ')
  let day := (afterMonth.drop blank.length).takeWhile (!isSpace ·)
  let time := (afterMonth.drop blank.length).dropWhile (!isSpace ·)
  let (hour, afterHour) := partition ':' (time.dropWhile isSpace)
  let (minute, afterMinute) := partition ':' (← afterHour)
  let second ← afterMinute
  if isDigits year && year.length = 4 && !time.isEmpty then
    civil? (digitsValue year) (← boundedField 1 12 month) (← dayField (blank ++ day))
      (← boundedField 0 23 hour) (← boundedField 0 59 minute) (← boundedField 0 61 second)
  else none

def restOfLine (label : String) (text : Text) : Option Text :=
  searchAfter label.toList (leading (· != '\n')) text

def whereData (text : Text) : Except Exn (List (Text × Json)) := do
  let latitude ← coordinate "Lat:" 'N' 'S' text
  let longitude ← coordinate "Lon:" 'E' 'W' text
  let course ← number "Course:" text
  let speed ← number "Speed:" text
  let timestamp := (restOfLine "DateTime:" text).bind fun line => parseDateTime (strip line)
  return [("latitude".toList, latitude), ("longitude".toList, longitude),
    ("course".toList, course), ("speed".toList, speed),
    ("timestamp".toList, .ofText? (timestamp.map Civil.text))]

def keyValues (items : List Text) : List (Text × Json) :=
  items.foldl (fun data item =>
    match partition ':' item with
    | (key, some value) => assign (strip key) (.text (strip value)) data
    | (_, none) => data) []

/-- The reply by its kind; a malformed number of a position reply raises. -/
def parseCommandResponse (packet : Bytes) : Except Exn Response :=
  let text := replyText packet
  if occursIn "position!".toList (lower text) then do
    return ⟨"WHERE".toList, text, ← whereData text⟩
  else if ["[STATUS]", "Volt:", "GPRS:", "Battery:"].any (occursIn ·.toList text) then
    .ok ⟨"STATUS".toList, text,
      keyValues ((text.splitOnP fun c => c = ';' || c = '\n').map strip)⟩
  else if occursIn "[VERSION]".toList text then
    .ok ⟨"VERSION".toList, text,
      [("firmware".toList, .text (strip (removeAll "[VERSION]".toList 0 text)))]⟩
  else if occursIn "[PARAM]".toList text then
    .ok ⟨"PARAM".toList, text, keyValues (lines text)⟩
  else .ok ⟨"UNKNOWN".toList, text, []⟩

example : (parseDateTime "2026-1- 5 07:08:09".toList).map Civil.text =
    some "2026-01-05 07:08:09".toList := by decide

end TrackerGateway.Parsers.CommandResponse
