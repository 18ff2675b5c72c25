/- module: TrackerGateway/Parsers/V5
   source: src/parsers/v5_parser.py, src/utils/packet_buffer.py
   digest: Framing, decoding and acknowledging of the binary packets of the V5 family. -/

import Mathlib.Tactic.Ring
import TrackerGateway.Runtime.Effects

set_option autoImplicit false
set_option relaxedAutoImplicit false

namespace TrackerGateway.Parsers.V5

open Foundation.Wire
open TrackerGateway.Runtime

def shortMarker : Bytes := [0x78, 0x78]

def longMarker : Bytes := [0x79, 0x79]

/-- Split a stream buffer into complete packets and the remaining bytes. Bytes in front of a start
marker are skipped one by one. -/
def extractPackets (buffer : Bytes) : List Bytes × Bytes :=
  if _ : buffer.length < 5 then ([], buffer)
  else if shortMarker.isPrefixOf buffer then
    let total := (buffer.getD 2 0).toNat + 5
    if buffer.length < total then ([], buffer)
    else
      let (packets, rest) := extractPackets (buffer.drop total)
      (buffer.take total :: packets, rest)
  else if longMarker.isPrefixOf buffer then
    let total := bigEndian (slice buffer 2 4) + 6
    if buffer.length < total then ([], buffer)
    else
      let (packets, rest) := extractPackets (buffer.drop total)
      (buffer.take total :: packets, rest)
  else extractPackets (buffer.drop 1)
termination_by buffer.length
decreasing_by all_goals simp only [List.length_drop]; omega

/-- One of the eight bit steps of the reflected polynomial `0x8408`. -/
def crcX25Step (crc : BitVec 16) : BitVec 16 :=
  if crc &&& 1 = 1 then (crc >>> 1) ^^^ 0x8408 else crc >>> 1

def crc16X25 (data : Bytes) : BitVec 16 :=
  data.foldl (fun crc b => crcX25Step^[8] (crc ^^^ b.toBitVec.setWidth 16)) 0xFFFF ^^^ 0xFFFF

/-- The serial number in front of the checksum, `packet[-6:-4]`. -/
def serialBytes (packet : Bytes) : Bytes := slice packet (packet.length - 6) (packet.length - 4)

/-- Where the protocol byte stands: a long packet has a two-byte length in front of it. -/
def protocolIndex (packet : Bytes) : Nat := if packet.take 2 = longMarker then 4 else 3

/-- The acknowledgement of a packet, echoing its protocol byte and serial number. -/
def buildAck (packet : Bytes) : Except Exn Bytes := do
  let protocolNumber ← index packet (protocolIndex packet)
  let ackBody := 0x05 :: protocolNumber :: serialBytes packet
  return shortMarker ++ ackBody ++ bigEndianBytes 2 (crc16X25 ackBody).toNat ++ [0x0D, 0x0A]

structure Login where
  imei : Text
  serial : Text
  deriving DecidableEq

/-- The identity is eight bytes at a fixed place, its leading zero digits removed. -/
def parseLoginPacket (raw : Bytes) : Login where
  imei := (hex (slice raw 4 12)).dropWhile (· = '0')
  serial := hex (serialBytes raw)

/-- The block of date, position and course that location and alarm packets share. -/
structure Location where
  latitude : ℚ
  longitude : ℚ
  speed : Nat
  timestamp : Civil
  heading : Nat
  gpsFixed : Bool
  gpsLength : Nat
  satellites : Nat
  deriving DecidableEq

def parseTimestamp (raw : Bytes) : Except Exn Civil := do
  let year ← index raw 4
  let month ← index raw 5
  let day ← index raw 6
  let hour ← index raw 7
  let minute ← index raw 8
  let second ← index raw 9
  match civil? (year.toNat + 2000) month.toNat day.toNat hour.toNat minute.toNat second.toNat with
  | some timestamp => return timestamp
  | none => throw (.valueError "date out of range".toList)

/-- Degrees from a four-byte coordinate and the bit that keeps its sign. -/
def degrees (raw : Nat) (positive : Bool) : ℚ :=
  if positive then raw / 1800000 else -(raw / 1800000)

def parseLocationPacket (raw : Bytes) : Except Exn Location := do
  let timestamp ← parseTimestamp raw
  let speed ← index raw 19
  let gpsInfo ← index raw 10
  -- The low ten bits are the heading; bit 10 set means north, bit 11 set means west.
  let courseStatus := bigEndian (slice raw 20 22)
  return {
    latitude := degrees (bigEndian (slice raw 11 15)) (courseStatus.testBit 10)
    longitude := degrees (bigEndian (slice raw 15 19)) (!courseStatus.testBit 11)
    speed := speed.toNat
    timestamp
    heading := courseStatus % 1024
    gpsFixed := courseStatus.testBit 12
    gpsLength := gpsInfo.toNat / 16
    satellites := gpsInfo.toNat % 16 }

structure TerminalInfo where
  ignitionStatus : Bool
  powerCut : Bool
  gpsTracking : Bool
  charging : Bool
  activated : Bool
  deriving DecidableEq

def terminalInfo (b : UInt8) : TerminalInfo where
  ignitionStatus := b.toNat.testBit 1
  powerCut := b.toNat.testBit 7
  gpsTracking := b.toNat.testBit 6
  charging := b.toNat.testBit 2
  activated := b.toNat.testBit 0

structure TerminalStatus where
  batteryLevel : Nat
  gsmSignal : Nat
  info : TerminalInfo
  deriving DecidableEq

/-- The decoder of status and of heartbeat packets. -/
def parseTerminalStatus (packet : Bytes) : Except Exn TerminalStatus := do
  let info ← index packet 4
  let voltage ← index packet 5
  let gsmSignal ← index packet 6
  return ⟨voltage.toNat, gsmSignal.toNat, terminalInfo info⟩

structure Alarm where
  location : Location
  courseStatus : Nat
  mcc : Nat
  mnc : Nat
  lac : Nat
  cellId : Nat
  batteryLevel : Nat
  gsmSignal : Nat
  alarmType : Nat
  language : Text
  terminalInfo : Nat
  info : TerminalInfo
  deriving DecidableEq

/-- The block of a position is decoded here once more. -/
def parseAlarmPacket (packet : Bytes) : Except Exn Alarm := do
  let timestamp ← parseTimestamp packet
  let gpsInfo ← index packet 10
  let speed ← index packet 19
  let courseStatus := bigEndian (slice packet 20 22)
  let mnc ← index packet 24
  let info ← index packet 30
  let batteryLevel ← index packet 31
  let gsmSignal ← index packet 32
  let alarmLanguage ← index packet 33
  return {
    location := {
      latitude := degrees (bigEndian (slice packet 11 15)) (courseStatus.testBit 10)
      longitude := degrees (bigEndian (slice packet 15 19)) (!courseStatus.testBit 11)
      speed := speed.toNat
      timestamp
      heading := courseStatus % 1024
      gpsFixed := courseStatus.testBit 12
      gpsLength := gpsInfo.toNat / 16
      satellites := gpsInfo.toNat % 16 }
    courseStatus
    mcc := bigEndian (slice packet 22 24)
    mnc := mnc.toNat
    lac := bigEndian (slice packet 25 27)
    cellId := bigEndian (slice packet 27 30)
    batteryLevel := batteryLevel.toNat
    gsmSignal := gsmSignal.toNat
    alarmType := alarmLanguage.toNat / 16
    language := if alarmLanguage.toNat.testBit 0 then "English".toList else "Chinese".toList
    terminalInfo := info.toNat
    info := terminalInfo info }

def alarmNames : List Text :=
  ["NORMAL".toList, "SOS".toList, "POWER_CUT".toList, "SHOCK".toList, "FENCE_IN".toList,
    "FENCE_OUT".toList, "OVERSPEED".toList, "LOW_BATTERY".toList, "VIBRATION".toList,
    "MOVE".toList, "ACC_ON".toList, "ACC_OFF".toList, "TOW".toList, "GPS_ANTENNA".toList,
    "EXTERNAL_POWER".toList]

def getAlarmName (alarmType : Nat) : Text :=
  match alarmNames[alarmType]? with
  | some name => name
  | none => "UNKNOWN (0x".toList ++ upper (hex [UInt8.ofNat alarmType]) ++ ")".toList

/-- Set a key of an insertion-ordered dictionary. -/
def assign {β : Type} (key : Text) (value : β) : List (Text × β) → List (Text × β)
  | [] => [(key, value)]
  | (k, v) :: rest => if k = key then (k, value) :: rest else (k, v) :: assign key value rest

/-- The payload between the header and the serial number, which starts behind a long header too. -/
def payload (packet : Bytes) : Bytes :=
  slice packet (if packet.take 2 = longMarker then 5 else 4) (packet.length - 6)

structure Information where
  text : Text
  values : List (Text × Text)
  deriving DecidableEq

def isPrintable (c : Char) : Bool := 32 ≤ c.toNat && c.toNat ≤ 126

def parseItems (text : Text) : List (Text × Text) :=
  (text.splitOn ';').foldl (fun values item =>
    match partition '=' item with
    | (key, some value) => assign (strip key) (strip value) values
    | (_, none) => values) []

/-- `none` when the payload is not printable ASCII text. -/
def parseInformationPacket (packet : Bytes) : Option Information :=
  match asciiStrict (payload packet) with
  | none => none
  | some decoded =>
      let text := trim (· = Char.ofNat 0) decoded
      if text.all isPrintable then some ⟨text, parseItems text⟩ else none

end TrackerGateway.Parsers.V5
