/- module: TrackerGateway/Parsers/Teltonika
   source: src/parsers/teltonika_parser.py
   digest: Framing and decoding of the record packets of the FMB family. -/

import TrackerGateway.Runtime.Effects

set_option autoImplicit false
set_option relaxedAutoImplicit false

namespace TrackerGateway.Parsers.Teltonika

open Foundation.Wire
open TrackerGateway.Runtime

def codec8 : Nat := 0x08

def codec8E : Nat := 0x8E

def loginAccept : Bytes := [0x01]

def ioIgnition : Nat := 239

/-- A value of an IO element: a number, or the bytes of a variable-length element. -/
inductive IoValue
  | number (n : Nat)
  | bytes (b : Bytes)
  deriving DecidableEq

structure AvlRecord where
  timestamp : Instant
  priority : Nat
  latitude : ℚ
  longitude : ℚ
  altitude : ℤ
  angle : Nat
  satellites : Nat
  speed : Nat
  eventIoId : Nat
  io : List (Nat × IoValue)
  deriving DecidableEq

/-- Satellites are in view and the position is not the marker of a missing fix. -/
def AvlRecord.hasFix (rec : AvlRecord) : Bool :=
  0 < rec.satellites && !(rec.latitude = 0 && rec.longitude = 0)

/-- The flag an IO element holds; a variable-length element holds none. -/
def AvlRecord.flag (rec : AvlRecord) (ioId : Nat) : Option Bool :=
  match rec.io.lookup ioId with
  | some (.number n) => some (n != 0)
  | _ => none

def AvlRecord.ignition (rec : AvlRecord) : Option Bool := rec.flag ioIgnition

structure AvlPacket where
  codec : Nat
  records : List AvlRecord
  deriving DecidableEq

/-- One of the eight bit steps of the reflected polynomial `0xA001`. -/
def crcIbmStep (crc : BitVec 16) : BitVec 16 :=
  if crc &&& 1 = 1 then (crc >>> 1) ^^^ 0xA001 else crc >>> 1

def crc16Ibm (data : Bytes) : BitVec 16 :=
  data.foldl (fun crc b => crcIbmStep^[8] (crc ^^^ b.toBitVec.setWidth 16)) 0

def loginFrameLen : Nat := 17

def preamble : Bytes := [0, 0, 0, 0]

def loginPrefix : Bytes := [0x00, 0x0F]

def isLoginFrame (frame : Bytes) : Bool :=
  frame.length = loginFrameLen && frame.take 2 = loginPrefix

def isDigitByte (b : UInt8) : Bool := 48 ≤ b && b ≤ 57

/-- Split a stream buffer into login frames, record packets and the remaining bytes. -/
def extractFrames (cfg : Config) (buffer : Bytes) : Except Exn (List Bytes × Bytes) :=
  if _ : buffer.length < 4 then .ok ([], buffer)
  else if loginPrefix.isPrefixOf buffer then
    if buffer.length < loginFrameLen then .ok ([], buffer)
    else if !(slice buffer 2 loginFrameLen).all isDigitByte then
      .error (.teltonikaFrameError "login frame with a non-numeric IMEI".toList)
    else do
      let (frames, rest) ← extractFrames cfg (buffer.drop loginFrameLen)
      return (buffer.take loginFrameLen :: frames, rest)
  else if preamble.isPrefixOf buffer then
    if buffer.length < 8 then .ok ([], buffer)
    else
      let length := bigEndian (slice buffer 4 8)
      if length = 0 ∨ cfg.teltonikaMaxPacketBytes < length then
        .error (.teltonikaFrameError
          ("AVL data length ".toList ++ decimal length ++ " outside 1..".toList ++
            decimalInt cfg.teltonikaMaxPacketBytes))
      else if buffer.length < 8 + length + 4 then .ok ([], buffer)
      else do
        let (frames, rest) ← extractFrames cfg (buffer.drop (8 + length + 4))
        return (buffer.take (8 + length + 4) :: frames, rest)
  else
    .error (.teltonikaFrameError
      ("unframed data, first bytes ".toList ++ hex (buffer.take 8)))
termination_by buffer.length
decreasing_by all_goals simp only [List.length_drop, loginFrameLen]; omega

def parseLogin (frame : Bytes) : Except Exn Text :=
  if !isLoginFrame frame then
    .error (.teltonikaParseError "not a Teltonika login frame".toList)
  else
    match asciiStrict (frame.drop 2) with
    | none => .error (.valueError "ordinal not in range(128)".toList)
    | some imei =>
        if isDigits imei then .ok imei
        else .error (.teltonikaParseError "login IMEI is not numeric".toList)

/-- A reader of the data field: it returns a value and the bytes behind it. -/
abbrev Reader (α : Type) := StateT Bytes (Except Exn) α

/-- The next `n` bytes; running off the end is a parse error. -/
def take (n : Nat) : Reader Bytes := fun data =>
  if data.length < n then
    .error (.teltonikaParseError "record runs past the end of the data field".toList)
  else .ok (data.take n, data.drop n)

def uint (n : Nat) : Reader Nat := do return bigEndian (← take n)

def sint (n : Nat) : Reader ℤ := do return signedBigEndian (← take n)

def repeatRead {α : Type} (read : Reader α) : Nat → Reader (List α)
  | 0 => return []
  | n + 1 => do
      let first ← read
      let others ← repeatRead read n
      return first :: others

/-- Set an element; a repeated id keeps its place and takes the new value. -/
def putIo (io : List (Nat × IoValue)) (element : Nat × IoValue) : List (Nat × IoValue) :=
  match io with
  | [] => [element]
  | (k, v) :: rest =>
      if k = element.1 then element :: rest else (k, v) :: putIo rest element

def readGroup (idLen valueLen : Nat) : Reader (List (Nat × IoValue)) := do
  let count ← uint idLen
  repeatRead (do
    let ioId ← uint idLen
    let value ← uint valueLen
    return (ioId, .number value)) count

def readVariableGroup : Reader (List (Nat × IoValue)) := do
  let count ← uint 2
  repeatRead (do
    let ioId ← uint 2
    let length ← uint 2
    let value ← take length
    return (ioId, .bytes value)) count

def readIo (extended : Bool) : Reader (Nat × List (Nat × IoValue)) := do
  let idLen := if extended then 2 else 1
  let eventIoId ← uint idLen
  -- The total count is redundant: the counts of the groups decide.
  let _ ← uint idLen
  let one ← readGroup idLen 1
  let two ← readGroup idLen 2
  let four ← readGroup idLen 4
  let eight ← readGroup idLen 8
  let variable_ ← if extended then readVariableGroup else pure []
  return (eventIoId, (one ++ two ++ four ++ eight ++ variable_).foldl putIo [])

/-- The last millisecond of the year 9999. -/
def maxMillis : Nat := 253402300799999

def readRecord (extended : Bool) : Reader AvlRecord := do
  let millis ← uint 8
  if maxMillis < millis then
    throw (.teltonikaParseError ("timestamp out of range: ".toList ++ decimal millis))
  let priority ← uint 1
  let longitude ← sint 4
  let latitude ← sint 4
  let altitude ← sint 2
  let angle ← uint 2
  let satellites ← uint 1
  let speed ← uint 2
  let (eventIoId, io) ← readIo extended
  return {
    timestamp := fromTimestamp (binary64 (millis / 1000))
    priority
    latitude := latitude / 10000000
    longitude := longitude / 10000000
    altitude, angle, satellites, speed, eventIoId, io }

def readRecords (extended : Bool) : Reader (List AvlRecord) := do
  let count ← uint 1
  let records ← repeatRead (readRecord extended) count
  let trailingCount ← uint 1
  if trailingCount ≠ count then
    throw (.teltonikaParseError ("record count mismatch (".toList ++ decimal count ++
      " vs ".toList ++ decimal trailingCount ++ ")".toList))
  let remaining ← get
  if !remaining.isEmpty then
    throw (.teltonikaParseError
      (decimal remaining.length ++ " unexpected bytes after the last record".toList))
  return records

def parseAvlPacket (frame : Bytes) : Except Exn AvlPacket := do
  if frame.length < 15 || !preamble.isPrefixOf frame then
    throw (.teltonikaParseError "not an AVL data packet".toList)
  let length := bigEndian (slice frame 4 8)
  if frame.length ≠ 8 + length + 4 then
    throw (.teltonikaParseError "data field length does not match the frame size".toList)
  let data := slice frame 8 (8 + length)
  if bigEndian (frame.drop (8 + length)) ≠ (crc16Ibm data).toNat then
    throw .teltonikaCrcError
  let codec := (← index data 0).toNat
  if codec ≠ codec8 ∧ codec ≠ codec8E then
    throw (.unsupportedCodecError codec)
  let (records, _) ← (readRecords (codec = codec8E)).run (data.drop 1)
  return ⟨codec, records⟩

/-- The reply that tells the device how many records were taken. -/
def ack (recordsAccepted : Nat) : Bytes := bigEndianBytes 4 recordsAccepted

end TrackerGateway.Parsers.Teltonika
