/- module: TrackerGateway/Packets/GpsBlock
   source: src/parsers/v5_parser.py (parse_location_packet, parse_alarm_packet),
     src/utils/packet_buffer.py, src/test/test_multiprotocol_server.py (gt06_location)
   digest: The block of a position comes back from the frames that carry it. -/

import TrackerGateway.Foundation.Wire.Days
import TrackerGateway.Framing.V5
import TrackerGateway.Packets.Fields

set_option autoImplicit false
set_option relaxedAutoImplicit false

namespace TrackerGateway.Packets.GpsBlock

open Foundation.Wire
open TrackerGateway.Runtime
open Framing.V5
open Parsers.V5

/-- The values of a block: the date has a year that fits into one byte, and the course word has
three bits that nothing reads. -/
structure Block where
  date : Civil
  since : 2000 ≤ date.year
  before : date.year ≤ 2255
  gpsLength : Fin 16
  satellites : Fin 16
  latitude : Fin (2 ^ 32)
  longitude : Fin (2 ^ 32)
  speed : UInt8
  heading : Fin 1024
  north : Bool
  west : Bool
  fixed : Bool
  spare : Fin 8

/-- The course word: ten bits of heading, the hemispheres, the fix. -/
def Block.course (block : Block) : Nat :=
  block.heading + 1024 * block.north.toNat + 2048 * block.west.toNat + 4096 * block.fixed.toNat +
    8192 * block.spare

def Block.head (block : Block) : Bytes :=
  [UInt8.ofNat (block.date.year - 2000), UInt8.ofNat block.date.month, UInt8.ofNat block.date.day,
    UInt8.ofNat block.date.hour, UInt8.ofNat block.date.minute, UInt8.ofNat block.date.second,
    UInt8.ofNat (16 * block.gpsLength + block.satellites)]

def Block.bytes (block : Block) : Bytes :=
  block.head ++ (bigEndianBytes 4 block.latitude ++ (bigEndianBytes 4 block.longitude ++
    (block.speed :: bigEndianBytes 2 block.course)))

/-- The location that a block says: south and west are negative. -/
def Block.location (block : Block) : Location where
  latitude := if block.north then block.latitude.val / 1800000 else -(block.latitude.val / 1800000)
  longitude :=
    if block.west then -(block.longitude.val / 1800000) else block.longitude.val / 1800000
  speed := block.speed.toNat
  timestamp := block.date
  heading := block.heading
  gpsFixed := block.fixed
  gpsLength := block.gpsLength
  satellites := block.satellites

/-- What an alarm adds to the block: the radio cell, the terminal and the alarm. -/
structure Status where
  mcc : Fin (2 ^ 16)
  mnc : UInt8
  lac : Fin (2 ^ 16)
  cellId : Fin (2 ^ 24)
  info : TerminalInfo
  alarmBits : Fin 8
  batteryLevel : UInt8
  gsmSignal : UInt8
  alarmType : Fin 16
  language : Fin 16

/-- The byte of the terminal information; three of its bits are not decoded. -/
def Status.terminal (status : Status) : Nat :=
  status.info.activated.toNat + 2 * status.info.ignitionStatus.toNat +
    4 * status.info.charging.toNat + 8 * status.alarmBits + 64 * status.info.gpsTracking.toNat +
    128 * status.info.powerCut.toNat

def Status.bytes (status : Status) : Bytes :=
  bigEndianBytes 2 status.mcc ++ (status.mnc :: (bigEndianBytes 2 status.lac ++
    (bigEndianBytes 3 status.cellId ++ [UInt8.ofNat status.terminal, status.batteryLevel,
      status.gsmSignal, UInt8.ofNat (16 * status.alarmType + status.language)])))

def alarmOf (block : Block) (status : Status) : Alarm where
  location := block.location
  courseStatus := block.course
  mcc := status.mcc
  mnc := status.mnc.toNat
  lac := status.lac
  cellId := status.cellId
  batteryLevel := status.batteryLevel.toNat
  gsmSignal := status.gsmSignal.toNat
  alarmType := status.alarmType
  language := if status.language.val % 2 = 1 then "English".toList else "Chinese".toList
  terminalInfo := status.terminal
  info := status.info

def frame (protocol : UInt8) (payload : Bytes) (serial : Nat) : Bytes :=
  let body := protocol :: (payload ++ bigEndianBytes 2 serial)
  let length := UInt8.ofNat (body.length + 2)
  shortMarker ++ (length :: body) ++ bigEndianBytes 2 (crc16X25 (length :: body)).toNat ++
    [0x0D, 0x0A]

theorem wellFormed_frame (protocol : UInt8) {payload : Bytes} (serial : Nat)
    (fits : payload.length ≤ 250) : WellFormed (frame protocol payload serial) := by
  have declares : declaredLength (frame protocol payload serial) =
      some ((UInt8.ofNat ((protocol :: (payload ++ bigEndianBytes 2 serial)).length + 2)).toNat +
        5) := rfl
  rw [WellFormed, declares, UInt8.toNat_ofNat']
  simp only [frame, shortMarker, List.length_append, List.length_cons, List.length_nil,
    bigEndianBytes_length, Option.some.injEq]
  omega

theorem frame_eq (protocol : UInt8) (payload : Bytes) (serial : Nat) :
    ∃ length back, frame protocol payload serial =
      0x78 :: 0x78 :: length :: protocol :: (payload ++ back) := by
  refine ⟨UInt8.ofNat ((protocol :: (payload ++ bigEndianBytes 2 serial)).length + 2),
    bigEndianBytes 2 serial ++ (bigEndianBytes 2 (crc16X25 (UInt8.ofNat
      ((protocol :: (payload ++ bigEndianBytes 2 serial)).length + 2) ::
        protocol :: (payload ++ bigEndianBytes 2 serial))).toNat ++ [0x0D, 0x0A]), ?_⟩
  simp [frame, shortMarker]

section Layout

variable (a b c d : UInt8) (block : Block) (back : Bytes)

theorem layout : a :: b :: c :: d :: (block.bytes ++ back) =
    (a :: b :: c :: d :: block.head) ++ (bigEndianBytes 4 block.latitude ++
      (bigEndianBytes 4 block.longitude ++ (block.speed :: (bigEndianBytes 2 block.course ++
        back)))) := by
  simp [Block.bytes]

theorem index_head {i : Nat} {byte : UInt8}
    (stands : (a :: b :: c :: d :: block.head)[i]? = some byte) :
    index (a :: b :: c :: d :: (block.bytes ++ back)) i = .ok byte := by
  rw [layout, index_eq_ok_iff, List.getElem?_append_left (List.getElem?_eq_some_iff.mp stands).1]
  exact stands

theorem toNat_ofNat_of_lt {n : Nat} (small : n < 256) : (UInt8.ofNat n).toNat = n := by
  rw [UInt8.toNat_ofNat', Nat.mod_eq_of_lt small]

theorem bigEndian_of_lt {width n : Nat} (small : n < 256 ^ width) :
    bigEndian (bigEndianBytes width n) = n := by
  rw [bigEndian_bigEndianBytes, Nat.mod_eq_of_lt small]

theorem parseTimestamp_block :
    parseTimestamp (a :: b :: c :: d :: (block.bytes ++ back)) = .ok block.date := by
  have since := block.since
  have before := block.before
  obtain ⟨-, months, days, hours, minutes, seconds⟩ := isDate_iff.mp block.date.valid
  have most := daysInMonth_le block.date.year block.date.month
  have exists_ : civil? ((UInt8.ofNat (block.date.year - 2000)).toNat + 2000)
      (UInt8.ofNat block.date.month).toNat (UInt8.ofNat block.date.day).toNat
      (UInt8.ofNat block.date.hour).toNat (UInt8.ofNat block.date.minute).toNat
      (UInt8.ofNat block.date.second).toNat = some block.date := by
    rw [toNat_ofNat_of_lt (by omega), toNat_ofNat_of_lt (by omega), toNat_ofNat_of_lt (by omega),
      toNat_ofNat_of_lt (by omega), toNat_ofNat_of_lt (by omega), toNat_ofNat_of_lt (by omega),
      Nat.sub_add_cancel since]
    exact civil?_eq_some_iff.mpr ⟨rfl, rfl, rfl, rfl, rfl, rfl⟩
  have read : ∀ i byte, (a :: b :: c :: d :: block.head)[i]? = some byte →
      index (a :: b :: c :: d :: (block.bytes ++ back)) i = .ok byte :=
    fun _ _ stands => index_head a b c d block back stands
  unfold parseTimestamp
  rw [read 4 _ rfl, read 5 _ rfl, read 6 _ rfl, read 7 _ rfl, read 8 _ rfl, read 9 _ rfl]
  simp only [bind, Except.bind]
  rw [exists_]
  rfl

theorem course_lt : block.course < 2 ^ 16 := by
  have heading := block.heading.isLt
  have spare := block.spare.isLt
  unfold Block.course
  cases block.north <;> cases block.west <;> cases block.fixed <;>
    simp only [Bool.toNat_true, Bool.toNat_false] <;> omega

theorem course_fields : block.course % 1024 = block.heading ∧
    block.course.testBit 10 = block.north ∧ block.course.testBit 11 = block.west ∧
    block.course.testBit 12 = block.fixed := by
  have heading := block.heading.isLt
  simp only [Nat.testBit_eq_decide_div_mod_eq]
  unfold Block.course
  cases block.north <;> cases block.west <;> cases block.fixed <;>
    simp only [Bool.toNat_true, Bool.toNat_false, decide_eq_true_eq, decide_eq_false_iff_not] <;>
    omega

theorem terminalInfo_status (status : Status) :
    status.terminal < 256 ∧ terminalInfo (UInt8.ofNat status.terminal) = status.info := by
  have bits := status.alarmBits.isLt
  have small : status.terminal < 256 := by
    unfold Status.terminal
    cases status.info.activated <;> cases status.info.ignitionStatus <;>
      cases status.info.charging <;> cases status.info.gpsTracking <;>
      cases status.info.powerCut <;> simp only [Bool.toNat_true, Bool.toNat_false] <;> omega
  refine ⟨small, ?_⟩
  rw [terminalInfo, toNat_ofNat_of_lt small]
  simp only [Nat.testBit_eq_decide_div_mod_eq]
  unfold Status.terminal
  obtain ⟨ignition, cut, tracking, charging, activated⟩ := status.info
  cases activated <;> cases ignition <;> cases charging <;> cases tracking <;> cases cut <;>
    simp only [Bool.toNat_true, Bool.toNat_false, TerminalInfo.mk.injEq, decide_eq_true_eq,
      decide_eq_false_iff_not] <;> omega

theorem degrees_latitude : degrees (bigEndian (bigEndianBytes 4 block.latitude))
    (block.course.testBit 10) = block.location.latitude := by
  rw [bigEndian_of_lt block.latitude.isLt, (course_fields block).2.1]
  rfl

theorem degrees_longitude : degrees (bigEndian (bigEndianBytes 4 block.longitude))
    (!block.course.testBit 11) = block.location.longitude := by
  rw [bigEndian_of_lt block.longitude.isLt, (course_fields block).2.2.1]
  unfold degrees Block.location
  cases block.west <;> rfl

structure Reads (raw : Bytes) : Prop where
  timestamp : parseTimestamp raw = .ok block.date
  info : index raw 10 = .ok (UInt8.ofNat (16 * block.gpsLength + block.satellites))
  latitude : slice raw 11 15 = bigEndianBytes 4 block.latitude
  longitude : slice raw 15 19 = bigEndianBytes 4 block.longitude
  speed : index raw 19 = .ok block.speed
  course : bigEndian (slice raw 20 22) = block.course

theorem reads_block : Reads block (a :: b :: c :: d :: (block.bytes ++ back)) := by
  refine ⟨parseTimestamp_block a b c d block back, index_head a b c d block back rfl, ?_, ?_, ?_,
    ?_⟩
  · rw [layout]
    exact slice_middle rfl (by simp [Block.head])
  · rw [layout, ← List.append_assoc]
    exact slice_middle (by simp [Block.head]) (by simp [Block.head])
  · rw [layout, ← List.append_assoc, ← List.append_assoc]
    exact index_behind (j := 0) (by simp [Block.head])
  · have whole : a :: b :: c :: d :: (block.bytes ++ back) =
        (a :: b :: c :: d :: block.head ++ bigEndianBytes 4 block.latitude ++
          bigEndianBytes 4 block.longitude ++ [block.speed]) ++
            (bigEndianBytes 2 block.course ++ back) := by
      simp [Block.bytes]
    rw [whole, slice_middle (by simp [Block.head]) (by simp [Block.head])]
    exact bigEndian_of_lt (course_lt block)

theorem counts_fields : (UInt8.ofNat (16 * block.gpsLength + block.satellites)).toNat / 16 =
      block.gpsLength ∧
    (UInt8.ofNat (16 * block.gpsLength + block.satellites)).toNat % 16 = block.satellites := by
  have high := block.gpsLength.isLt
  have low := block.satellites.isLt
  rw [toNat_ofNat_of_lt (by omega)]
  omega

variable {block} in
theorem parseLocationPacket_of_reads {raw : Bytes} (reads : Reads block raw) :
    parseLocationPacket raw = .ok block.location := by
  obtain ⟨heading, -, -, fixed⟩ := course_fields block
  obtain ⟨high, low⟩ := counts_fields block
  unfold parseLocationPacket
  rw [reads.timestamp, reads.speed, reads.info, reads.latitude, reads.longitude, reads.course]
  simp only [bind, Except.bind, pure, Except.pure, degrees_latitude, degrees_longitude, heading,
    fixed, high, low]
  rfl

structure Adds (status : Status) (raw : Bytes) : Prop where
  mcc : bigEndian (slice raw 22 24) = status.mcc
  mnc : index raw 24 = .ok status.mnc
  lac : bigEndian (slice raw 25 27) = status.lac
  cellId : bigEndian (slice raw 27 30) = status.cellId
  terminal : index raw 30 = .ok (UInt8.ofNat status.terminal)
  batteryLevel : index raw 31 = .ok status.batteryLevel
  gsmSignal : index raw 32 = .ok status.gsmSignal
  language : index raw 33 = .ok (UInt8.ofNat (16 * status.alarmType + status.language))

theorem adds_status {front : Bytes} (long : front.length = 22) (status : Status) :
    Adds status (front ++ (status.bytes ++ back)) := by
  let cells := bigEndianBytes 3 status.cellId
  let terminal := UInt8.ofNat status.terminal :: status.batteryLevel :: status.gsmSignal ::
    UInt8.ofNat (16 * status.alarmType + status.language) :: back
  have parts : front ++ (status.bytes ++ back) = front ++ (bigEndianBytes 2 status.mcc ++
      (status.mnc :: (bigEndianBytes 2 status.lac ++ (cells ++ terminal)))) := by
    simp [Status.bytes, cells, terminal]
  have behind_mcc : front ++ (status.bytes ++ back) = (front ++ bigEndianBytes 2 status.mcc) ++
      (status.mnc :: (bigEndianBytes 2 status.lac ++ (cells ++ terminal))) := by
    rw [parts, List.append_assoc]
  have behind_mnc : front ++ (status.bytes ++ back) =
      (front ++ bigEndianBytes 2 status.mcc ++ [status.mnc]) ++
        (bigEndianBytes 2 status.lac ++ (cells ++ terminal)) := by
    simp [parts]
  have behind_lac : front ++ (status.bytes ++ back) =
      (front ++ bigEndianBytes 2 status.mcc ++ [status.mnc] ++ bigEndianBytes 2 status.lac) ++
        (cells ++ terminal) := by
    simp [parts]
  have behind_cells : front ++ (status.bytes ++ back) =
      (front ++ bigEndianBytes 2 status.mcc ++ [status.mnc] ++ bigEndianBytes 2 status.lac ++
        cells) ++ terminal := by
    simp [parts]
  have thirty : (front ++ bigEndianBytes 2 status.mcc ++ [status.mnc] ++
      bigEndianBytes 2 status.lac ++ cells).length = 30 := by
    simp [long, cells]
  refine ⟨?_, ?_, ?_, ?_, ?_, ?_, ?_, ?_⟩
  · rw [parts, slice_middle long.symm (by rw [long, bigEndianBytes_length])]
    exact bigEndian_of_lt status.mcc.isLt
  · rw [behind_mcc]
    exact index_behind (j := 0) (by simp [long])
  · rw [behind_mnc, slice_middle (by simp [long]) (by simp [long])]
    exact bigEndian_of_lt status.lac.isLt
  · rw [behind_lac, slice_middle (by simp [long]) (by simp [long, cells])]
    exact bigEndian_of_lt status.cellId.isLt
  · rw [behind_cells]
    exact index_behind (j := 0) (by rw [thirty])
  · rw [behind_cells]
    exact index_behind (j := 1) (by rw [thirty])
  · rw [behind_cells]
    exact index_behind (j := 2) (by rw [thirty])
  · rw [behind_cells]
    exact index_behind (j := 3) (by rw [thirty])

theorem parseAlarmPacket_block (status : Status) :
    parseAlarmPacket (a :: b :: c :: d :: (block.bytes ++ (status.bytes ++ back))) =
      .ok (alarmOf block status) := by
  have reads := reads_block a b c d block (status.bytes ++ back)
  have adds : Adds status ((a :: b :: c :: d :: block.bytes) ++ (status.bytes ++ back)) :=
    adds_status back (by simp [Block.bytes, Block.head]) status
  have whole : (a :: b :: c :: d :: block.bytes) ++ (status.bytes ++ back) =
      a :: b :: c :: d :: (block.bytes ++ (status.bytes ++ back)) := rfl
  rw [whole] at adds
  obtain ⟨heading, -, -, fixed⟩ := course_fields block
  obtain ⟨high, low⟩ := counts_fields block
  obtain ⟨small, info⟩ := terminalInfo_status status
  have alarm := status.alarmType.isLt
  have language := status.language.isLt
  have last : (UInt8.ofNat (16 * status.alarmType + status.language)).toNat =
      16 * status.alarmType + status.language := toNat_ofNat_of_lt (by omega)
  have type_ : (16 * status.alarmType.val + status.language.val) / 16 = status.alarmType := by
    omega
  have english : (16 * status.alarmType.val + status.language.val).testBit 0 =
      decide (status.language.val % 2 = 1) := by
    rw [Nat.testBit_zero, decide_eq_decide]
    omega
  unfold parseAlarmPacket
  rw [reads.timestamp, reads.info, reads.speed, adds.mnc, adds.terminal, adds.batteryLevel,
    adds.gsmSignal, adds.language]
  simp only [bind, Except.bind, pure, Except.pure, reads.course, reads.latitude, reads.longitude,
    adds.mcc, adds.lac, adds.cellId, degrees_latitude, degrees_longitude, heading, fixed, high, low,
    info, toNat_ofNat_of_lt small, last, type_, english, decide_eq_true_eq]
  rfl

end Layout

/-- A frame with a block is framed as that one packet and decoded to the values of the block, and
so is an alarm with the same block, which adds its own fields. -/
theorem block_round_trip (block : Block) (serial : Nat) :
    (∀ protocol, protocol = 0x12 ∨ protocol = 0x22 → ∀ more : Bytes, more.length ≤ 232 →
      extractPackets (frame protocol (block.bytes ++ more) serial) =
          ([frame protocol (block.bytes ++ more) serial], []) ∧
        parseLocationPacket (frame protocol (block.bytes ++ more) serial) = .ok block.location) ∧
    ∀ (status : Status) (more : Bytes), more.length ≤ 220 →
      extractPackets (frame 0x26 (block.bytes ++ (status.bytes ++ more)) serial) =
          ([frame 0x26 (block.bytes ++ (status.bytes ++ more)) serial], []) ∧
        parseAlarmPacket (frame 0x26 (block.bytes ++ (status.bytes ++ more)) serial) =
          .ok (alarmOf block status) := by
  have eighteen : block.bytes.length = 18 := by simp [Block.bytes, Block.head]
  constructor
  · intro protocol _ more fits
    obtain ⟨length, back, whole⟩ := frame_eq protocol (block.bytes ++ more) serial
    have short : (block.bytes ++ more).length ≤ 250 := by
      rw [List.length_append]
      omega
    refine ⟨extractPackets_alone (wellFormed_frame protocol serial short), ?_⟩
    rw [whole, List.append_assoc]
    exact parseLocationPacket_of_reads (reads_block _ _ _ _ block (more ++ back))
  · intro status more fits
    obtain ⟨length, back, whole⟩ := frame_eq 0x26 (block.bytes ++ (status.bytes ++ more)) serial
    have twelve : status.bytes.length = 12 := by simp [Status.bytes]
    have short : (block.bytes ++ (status.bytes ++ more)).length ≤ 250 := by
      simp only [List.length_append]
      omega
    refine ⟨extractPackets_alone (wellFormed_frame 0x26 serial short), ?_⟩
    rw [whole, List.append_assoc, List.append_assoc]
    exact parseAlarmPacket_block _ _ _ _ block (more ++ back) status

def colombo : Block where
  date := ⟨2026, 10, 13, 9, 0, 12, by decide⟩
  since := by decide
  before := by decide
  gpsLength := 0
  satellites := 12
  latitude := 12468780
  longitude := 143750160
  speed := 42
  heading := 90
  north := true
  west := false
  fixed := true
  spare := 0

def sos : Status where
  mcc := 413
  mnc := 2
  lac := 6001
  cellId := 70000
  info := ⟨true, false, true, false, true⟩
  alarmBits := 0
  batteryLevel := 6
  gsmSignal := 4
  alarmType := 1
  language := 1

theorem block_round_trip_colombo :
    frame 0x12 colombo.bytes 2 = [0x78, 0x78, 0x17, 0x12, 26, 10, 13, 9, 0, 12, 0x0C, 0x00, 0xBE,
      0x42, 0x2C, 0x08, 0x91, 0x74, 0x10, 42, 0x14, 0x5A, 0x00, 0x02, 0xBF, 0xFB, 0x0D, 0x0A] ∧
    parseLocationPacket (frame 0x12 (colombo.bytes ++ []) 2) = .ok colombo.location ∧
    parseAlarmPacket (frame 0x26 (colombo.bytes ++ (sos.bytes ++ [])) 2) =
      .ok (alarmOf colombo sos) :=
  ⟨by decide +kernel, ((block_round_trip colombo 2).1 0x12 (.inl rfl) [] (by decide)).2,
    ((block_round_trip colombo 2).2 sos [] (by decide)).2⟩

end TrackerGateway.Packets.GpsBlock
