/- module: TrackerGateway/Packets/Records
   source: src/parsers/teltonika_parser.py, src/test/teltonika_fixtures.py
   digest: Decoding a record packet gives back the records it was built from. -/

import TrackerGateway.Fixtures.Teltonika
import TrackerGateway.Foundation.Stream.Reading
import TrackerGateway.Framing.Teltonika

set_option autoImplicit false
set_option relaxedAutoImplicit false

namespace TrackerGateway.Packets.Records

open Foundation.Stream (Reads reads_pure Rule)
open Foundation.Wire
open TrackerGateway.Runtime
open Parsers.Teltonika
open Fixtures.Teltonika

/-- A coordinate that is a signed four-byte number of ten-millionths of a degree. -/
def Coordinate (q : ℚ) : Prop :=
  ∃ raw : ℤ, -2 ^ 31 ≤ raw ∧ raw < 2 ^ 31 ∧ q = raw / 10000000

/-- The elements of a group fit the width of ids and the width of its values. -/
def Fits (extended : Bool) (size : Nat) (group : List (Nat × Nat)) : Prop :=
  ∀ element ∈ group, element.1 < 256 ^ idLen extended ∧ element.2 < 256 ^ size

def elements (a : Arguments) : List (Nat × IoValue) :=
  a.io1.map (Prod.map id .number) ++ a.io2.map (Prod.map id .number) ++
    a.io4.map (Prod.map id .number) ++ a.io8.map (Prod.map id .number) ++
    a.iox.map (Prod.map id .bytes)

structure InRange (extended : Bool) (a : Arguments) : Prop where
  timestamp : a.timestampMs ≤ maxMillis
  latitude : Coordinate a.lat
  longitude : Coordinate a.lon
  altitude : -2 ^ 15 ≤ a.altitude ∧ a.altitude < 2 ^ 15
  angle : a.angle < 256 ^ 2
  satellites : a.satellites < 256 ^ 1
  speed : a.speed < 256 ^ 2
  priority : a.priority < 256 ^ 1
  eventIo : a.eventIo < 256 ^ idLen extended
  one : Fits extended 1 a.io1
  two : Fits extended 2 a.io2
  four : Fits extended 4 a.io4
  eight : Fits extended 8 a.io8
  variable_ : ∀ element ∈ a.iox, element.1 < 256 ^ 2 ∧ element.2.length < 256 ^ 2
  only : extended = false → a.iox = []
  counts : (elements a).length < 256 ^ idLen extended
  distinct : ((elements a).map Prod.fst).Nodup

theorem reads_take (b : Bytes) : Reads (take b.length) b b := by
  intro rest
  change take b.length (b ++ rest) = _
  rw [take, if_neg (by simp), List.take_left, List.drop_left]

theorem reads_uint {size value : Nat} (fits : value < 256 ^ size) :
    Reads (uint size) (bigEndianBytes size value) value := by
  have taken := (reads_take (bigEndianBytes size value)).map bigEndian
  rwa [bigEndianBytes_length, bigEndian_bigEndianBytes, Nat.mod_eq_of_lt fits] at taken

theorem signedBigEndian_bigEndianBytes {size : Nat} {value : ℤ}
    (low : -(256 ^ size : ℤ) ≤ 2 * value) (high : 2 * value < 256 ^ size) :
    signedBigEndian (bigEndianBytes size (value % 256 ^ size).toNat) = value := by
  have positive : (0 : ℤ) < 256 ^ size := by positivity
  have nonnegative := Int.emod_nonneg value positive.ne'
  have below := Int.emod_lt_of_pos value positive
  have small : (value % 256 ^ size).toNat < 256 ^ size := by
    zify
    rwa [Int.toNat_of_nonneg nonnegative]
  rw [signedBigEndian, bigEndianBytes_length, bigEndian_bigEndianBytes, Nat.mod_eq_of_lt small,
    Int.toNat_of_nonneg nonnegative]
  have sides : 256 ^ size ≤ 2 * (value % 256 ^ size).toNat ↔
      (256 ^ size : ℤ) ≤ 2 * (value % 256 ^ size) := by
    zify
    rw [Int.toNat_of_nonneg nonnegative]
  rw [if_congr sides rfl rfl]
  push_cast
  rcases le_or_gt 0 value with up | down
  · rw [Int.emod_eq_of_lt up (by omega), if_neg (by omega)]
  · rw [Int.emod_eq_add_self_emod, Int.emod_eq_of_lt (by omega) (by omega), if_pos (by omega)]
    ring

theorem reads_sint {size : Nat} {value : ℤ} (low : -(256 ^ size : ℤ) ≤ 2 * value)
    (high : 2 * value < 256 ^ size) :
    Reads (sint size) (bigEndianBytes size (value % 256 ^ size).toNat) value := by
  have taken :=
    (reads_take (bigEndianBytes size (value % 256 ^ size).toNat)).map signedBigEndian
  rwa [bigEndianBytes_length, signedBigEndian_bigEndianBytes low high] at taken

theorem reads_repeatRead {α β : Type} {read : Reader β} {bytes : α → Bytes} {value : α → β}
    {l : List α} (each : ∀ a ∈ l, Reads read (bytes a) (value a)) :
    Reads (repeatRead read l.length) (l.map bytes).flatten (l.map value) := by
  induction l with
  | nil => exact reads_pure []
  | cons a l ih =>
      have later := ih fun b member => each b (List.mem_cons_of_mem a member)
      exact (each a List.mem_cons_self).bind (later.map (value a :: ·))

section Groups

variable {extended : Bool}

def groupBytes (extended : Bool) (size : Nat) (group : List (Nat × Nat)) : Bytes :=
  bigEndianBytes (idLen extended) group.length ++
    (group.map fun element => bigEndianBytes (idLen extended) element.1 ++
      bigEndianBytes size element.2).flatten

def variableBytes (group : List (Nat × Bytes)) : Bytes :=
  bigEndianBytes 2 group.length ++
    (group.map fun element => bigEndianBytes 2 element.1 ++
      (bigEndianBytes 2 element.2.length ++ element.2)).flatten

theorem encodeGroup_ok {size : Nat} {group : List (Nat × Nat)} (fits : Fits extended size group)
    (count : group.length < 256 ^ idLen extended) :
    encodeGroup extended size group = .ok (groupBytes extended size group) := by
  rw [encodeGroup, toBytes_ok count, mapM_ok (g := fun element =>
    bigEndianBytes (idLen extended) element.1 ++ bigEndianBytes size element.2)]
  · rfl
  · intro element member
    rw [toBytes_ok (fits element member).1, toBytes_ok (fits element member).2]
    rfl

theorem encodeVariableGroup_ok {group : List (Nat × Bytes)}
    (fits : ∀ element ∈ group, element.1 < 256 ^ 2 ∧ element.2.length < 256 ^ 2)
    (count : group.length < 256 ^ 2) :
    encodeVariableGroup true group = .ok (variableBytes group) := by
  rw [encodeVariableGroup, idLen, if_pos rfl, toBytes_ok count, mapM_ok (g := fun element =>
    bigEndianBytes 2 element.1 ++ (bigEndianBytes 2 element.2.length ++ element.2))]
  · rfl
  · intro element member
    obtain ⟨id_, length⟩ := fits element member
    rw [toBytes_ok id_, toBytes_ok length, ← List.append_assoc]
    rfl

theorem reads_readGroup {size : Nat} {group : List (Nat × Nat)} (fits : Fits extended size group)
    (count : group.length < 256 ^ idLen extended) :
    Reads (readGroup (idLen extended) size) (groupBytes extended size group)
      (group.map (Prod.map id .number)) := by
  refine (reads_uint count).bind (reads_repeatRead ?_)
  intro element member
  obtain ⟨id_, value⟩ := fits element member
  exact (reads_uint id_).bind ((reads_uint value).map fun n => (element.1, IoValue.number n))

theorem reads_readVariableGroup {group : List (Nat × Bytes)}
    (fits : ∀ element ∈ group, element.1 < 256 ^ 2 ∧ element.2.length < 256 ^ 2)
    (count : group.length < 256 ^ 2) :
    Reads readVariableGroup (variableBytes group) (group.map (Prod.map id .bytes)) := by
  refine (reads_uint count).bind (reads_repeatRead ?_)
  intro element member
  obtain ⟨id_, length⟩ := fits element member
  exact (reads_uint id_).bind ((reads_uint length).bind
    ((reads_take element.2).map fun b => (element.1, IoValue.bytes b)))

end Groups

theorem putIo_new {io : List (Nat × IoValue)} {element : Nat × IoValue}
    (new : element.1 ∉ io.map Prod.fst) : putIo io element = io ++ [element] := by
  induction io with
  | nil => rfl
  | cons first rest ih =>
      simp only [List.map_cons, List.mem_cons, not_or] at new
      rw [putIo, if_neg (Ne.symm new.1), ih new.2]
      rfl

theorem foldl_putIo {io later : List (Nat × IoValue)}
    (distinct : ((io ++ later).map Prod.fst).Nodup) : later.foldl putIo io = io ++ later := by
  induction later generalizing io with
  | nil => rw [List.foldl_nil, List.append_nil]
  | cons element later ih =>
      have new : element.1 ∉ io.map Prod.fst := by
        intro old
        rw [List.map_append, List.nodup_append] at distinct
        exact distinct.2.2 _ old _ (by simp) rfl
      have same : io ++ element :: later = (io ++ [element]) ++ later := by simp
      rw [List.foldl_cons, putIo_new new, ih (same ▸ distinct), same]

/-- A record as it is written: the numbers of its fields, and its elements in their groups. -/
structure Layout where
  millis : Nat
  priority : Nat
  longitude : ℤ
  latitude : ℤ
  altitude : ℤ
  angle : Nat
  satellites : Nat
  speed : Nat
  eventIo : Nat
  /-- The redundant count of all elements. -/
  total : Nat
  one : List (Nat × Nat)
  two : List (Nat × Nat)
  four : List (Nat × Nat)
  eight : List (Nat × Nat)
  variable_ : List (Nat × Bytes)

namespace Layout

/-- Every number fits its field, and every group its count. -/
structure WellFormed (extended : Bool) (l : Layout) : Prop where
  millis : l.millis ≤ maxMillis
  priority : l.priority < 256 ^ 1
  longitude : -(256 ^ 4 : ℤ) ≤ 2 * l.longitude ∧ 2 * l.longitude < 256 ^ 4
  latitude : -(256 ^ 4 : ℤ) ≤ 2 * l.latitude ∧ 2 * l.latitude < 256 ^ 4
  altitude : -(256 ^ 2 : ℤ) ≤ 2 * l.altitude ∧ 2 * l.altitude < 256 ^ 2
  angle : l.angle < 256 ^ 2
  satellites : l.satellites < 256 ^ 1
  speed : l.speed < 256 ^ 2
  eventIo : l.eventIo < 256 ^ idLen extended
  total : l.total < 256 ^ idLen extended
  one : l.one.length < 256 ^ idLen extended ∧ Fits extended 1 l.one
  two : l.two.length < 256 ^ idLen extended ∧ Fits extended 2 l.two
  four : l.four.length < 256 ^ idLen extended ∧ Fits extended 4 l.four
  eight : l.eight.length < 256 ^ idLen extended ∧ Fits extended 8 l.eight
  variable_ : l.variable_.length < 256 ^ 2 ∧
    ∀ element ∈ l.variable_, element.1 < 256 ^ 2 ∧ element.2.length < 256 ^ 2
  only : extended = false → l.variable_ = []

def elements (l : Layout) : List (Nat × IoValue) :=
  l.one.map (Prod.map id .number) ++ l.two.map (Prod.map id .number) ++
    l.four.map (Prod.map id .number) ++ l.eight.map (Prod.map id .number) ++
    l.variable_.map (Prod.map id .bytes)

def groups (extended : Bool) (l : Layout) : Bytes :=
  groupBytes extended 1 l.one ++ (groupBytes extended 2 l.two ++ (groupBytes extended 4 l.four ++
    (groupBytes extended 8 l.eight ++ if extended then variableBytes l.variable_ else [])))

def bytes (extended : Bool) (l : Layout) : Bytes :=
  bigEndianBytes 8 l.millis ++ (bigEndianBytes 1 l.priority ++
    (bigEndianBytes 4 (l.longitude % 256 ^ 4).toNat ++
    (bigEndianBytes 4 (l.latitude % 256 ^ 4).toNat ++
    (bigEndianBytes 2 (l.altitude % 256 ^ 2).toNat ++ (bigEndianBytes 2 l.angle ++
    (bigEndianBytes 1 l.satellites ++ (bigEndianBytes 2 l.speed ++
    (bigEndianBytes (idLen extended) l.eventIo ++
    (bigEndianBytes (idLen extended) l.total ++ l.groups extended)))))))))

/-- The record that is written so: of the elements with one id the last one counts. -/
def record (l : Layout) : AvlRecord where
  timestamp := fromTimestamp (binary64 (l.millis / 1000))
  priority := l.priority
  latitude := l.latitude / 10000000
  longitude := l.longitude / 10000000
  altitude := l.altitude
  angle := l.angle
  satellites := l.satellites
  speed := l.speed
  eventIoId := l.eventIo
  io := l.elements.foldl putIo []

variable {extended : Bool} {l : Layout}

theorem reads_readIo (formed : l.WellFormed extended) :
    Reads (readIo extended) (bigEndianBytes (idLen extended) l.eventIo ++
      (bigEndianBytes (idLen extended) l.total ++ l.groups extended))
      (l.eventIo, l.elements.foldl putIo []) := by
  obtain ⟨few1, fits1⟩ := formed.one
  obtain ⟨few2, fits2⟩ := formed.two
  obtain ⟨few4, fits4⟩ := formed.four
  obtain ⟨few8, fits8⟩ := formed.eight
  obtain ⟨few, fits⟩ := formed.variable_
  refine (reads_uint formed.eventIo).bind ((reads_uint formed.total).bind ?_)
  refine (reads_readGroup fits1 few1).bind ((reads_readGroup fits2 few2).bind ?_)
  refine (reads_readGroup fits4 few4).bind ((reads_readGroup fits8 few8).bind ?_)
  cases extended with
  | true =>
      exact (reads_readVariableGroup fits few).map fun found => (l.eventIo,
        (l.one.map (Prod.map id IoValue.number) ++ l.two.map (Prod.map id IoValue.number) ++
          l.four.map (Prod.map id IoValue.number) ++ l.eight.map (Prod.map id IoValue.number) ++
          found).foldl putIo [])
  | false =>
      have all : l.elements = l.one.map (Prod.map id .number) ++
          l.two.map (Prod.map id .number) ++ l.four.map (Prod.map id .number) ++
          l.eight.map (Prod.map id .number) ++ [] := by
        rw [elements, formed.only rfl]
        rfl
      rw [all]
      exact reads_pure _

theorem reads_readRecord (formed : l.WellFormed extended) :
    Reads (readRecord extended) (l.bytes extended) l.record := by
  have late : l.millis < 256 ^ 8 := formed.millis.trans_lt (by decide)
  apply (reads_uint late).bind
  rw [if_neg (not_lt.mpr formed.millis)]
  apply (reads_uint formed.priority).bind
  apply (reads_sint formed.longitude.1 formed.longitude.2).bind
  apply (reads_sint formed.latitude.1 formed.latitude.2).bind
  refine (reads_sint formed.altitude.1 formed.altitude.2).bind ((reads_uint formed.angle).bind ?_)
  refine (reads_uint formed.satellites).bind ((reads_uint formed.speed).bind ?_)
  exact (reads_readIo formed).map fun found : Nat × List (Nat × IoValue) => ({
    timestamp := fromTimestamp (binary64 (l.millis / 1000))
    priority := l.priority
    latitude := (l.latitude : ℚ) / 10000000
    longitude := (l.longitude : ℚ) / 10000000
    altitude := l.altitude, angle := l.angle, satellites := l.satellites, speed := l.speed
    eventIoId := found.1, io := found.2 } : AvlRecord)

end Layout

section Record

variable {extended : Bool} {a : Arguments}

/-- The bytes of the elements, behind the two numbers in front of them. -/
def elementBytes (extended : Bool) (a : Arguments) : Bytes :=
  groupBytes extended 1 a.io1 ++ (groupBytes extended 2 a.io2 ++ (groupBytes extended 4 a.io4 ++
    (groupBytes extended 8 a.io8 ++ if extended then variableBytes a.iox else [])))

def recordBytes (extended : Bool) (a : Arguments) : Bytes :=
  bigEndianBytes 8 a.timestampMs ++ (bigEndianBytes 1 a.priority ++
    (bigEndianBytes 4 (roundHalfEven (a.lon * 10000000) % 256 ^ 4).toNat ++
    (bigEndianBytes 4 (roundHalfEven (a.lat * 10000000) % 256 ^ 4).toNat ++
    (bigEndianBytes 2 (a.altitude % 256 ^ 2).toNat ++ (bigEndianBytes 2 a.angle ++
    (bigEndianBytes 1 a.satellites ++ (bigEndianBytes 2 a.speed ++
    (bigEndianBytes (idLen extended) a.eventIo ++
    (bigEndianBytes (idLen extended) (elements a).length ++ elementBytes extended a)))))))))

def recordOf (a : Arguments) : AvlRecord where
  timestamp := fromTimestamp (binary64 (a.timestampMs / 1000))
  priority := a.priority
  latitude := a.lat
  longitude := a.lon
  altitude := a.altitude
  angle := a.angle
  satellites := a.satellites
  speed := a.speed
  eventIoId := a.eventIo
  io := elements a

def layoutOf (a : Arguments) : Layout where
  millis := a.timestampMs
  priority := a.priority
  longitude := roundHalfEven (a.lon * 10000000)
  latitude := roundHalfEven (a.lat * 10000000)
  altitude := a.altitude
  angle := a.angle
  satellites := a.satellites
  speed := a.speed
  eventIo := a.eventIo
  total := (elements a).length
  one := a.io1
  two := a.io2
  four := a.io4
  eight := a.io8
  variable_ := a.iox

theorem Coordinate.encoded {q : ℚ} (coordinate : Coordinate q) :
    -(256 ^ 4 : ℤ) ≤ 2 * roundHalfEven (q * 10000000) ∧
      2 * roundHalfEven (q * 10000000) < 256 ^ 4 ∧
      (roundHalfEven (q * 10000000) : ℚ) / 10000000 = q := by
  obtain ⟨raw, low, high, rfl⟩ := coordinate
  have exact_ : roundHalfEven ((raw / 10000000 : ℚ) * 10000000) = raw := by
    rw [div_mul_cancel₀ _ (by norm_num)]
    exact roundHalfEven_intCast raw
  rw [exact_]
  exact ⟨by omega, by omega, rfl⟩

theorem InRange.count (range : InRange extended a) :
    a.io1.length < 256 ^ idLen extended ∧ a.io2.length < 256 ^ idLen extended ∧
      a.io4.length < 256 ^ idLen extended ∧ a.io8.length < 256 ^ idLen extended ∧
      a.iox.length < 256 ^ 2 := by
  have counts := range.counts
  simp only [elements, List.length_append, List.length_map] at counts
  have wide : 256 ^ idLen extended ≤ 256 ^ 2 := by cases extended <;> decide
  omega

theorem InRange.wellFormed (range : InRange extended a) :
    (layoutOf a).WellFormed extended := by
  obtain ⟨one, two, four, eight, variable_⟩ := range.count
  obtain ⟨lonLow, lonHigh, -⟩ := range.longitude.encoded
  obtain ⟨latLow, latHigh, -⟩ := range.latitude.encoded
  obtain ⟨deep, high⟩ := range.altitude
  have low : -(256 ^ 2 : ℤ) ≤ 2 * a.altitude := by omega
  have up : 2 * a.altitude < 256 ^ 2 := by omega
  exact {
    millis := range.timestamp
    priority := range.priority
    longitude := ⟨lonLow, lonHigh⟩
    latitude := ⟨latLow, latHigh⟩
    altitude := ⟨low, up⟩
    angle := range.angle
    satellites := range.satellites
    speed := range.speed
    eventIo := range.eventIo
    total := range.counts
    one := ⟨one, range.one⟩
    two := ⟨two, range.two⟩
    four := ⟨four, range.four⟩
    eight := ⟨eight, range.eight⟩
    variable_ := ⟨variable_, range.variable_⟩
    only := range.only }

theorem InRange.record (range : InRange extended a) : (layoutOf a).record = recordOf a := by
  have kept : (elements a).foldl putIo [] = elements a := foldl_putIo range.distinct
  obtain ⟨-, -, longitude⟩ := range.longitude.encoded
  obtain ⟨-, -, latitude⟩ := range.latitude.encoded
  have same : (layoutOf a).record = { recordOf a with
      latitude := (roundHalfEven (a.lat * 10000000) : ℚ) / 10000000
      longitude := (roundHalfEven (a.lon * 10000000) : ℚ) / 10000000
      io := (elements a).foldl putIo [] } := rfl
  rw [same, latitude, longitude, kept, recordOf]

theorem encodeRecord_ok (range : InRange extended a) :
    encodeRecord extended a = .ok (recordBytes extended a) := by
  have late : a.timestampMs < 256 ^ 8 := range.timestamp.trans_lt (by decide)
  obtain ⟨lonLow, lonHigh, -⟩ := range.longitude.encoded
  obtain ⟨latLow, latHigh, -⟩ := range.latitude.encoded
  obtain ⟨deep, high⟩ := range.altitude
  obtain ⟨one, two, four, eight, variable_⟩ := range.count
  have total : toBytes (idLen extended) (a.io1.length + a.io2.length + a.io4.length +
      a.io8.length + if extended then a.iox.length else 0) =
      .ok (bigEndianBytes (idLen extended) (elements a).length) := by
    rw [← toBytes_ok range.counts]
    cases extended with
    | true => simp [elements, Nat.add_assoc]
    | false => simp [elements, range.only rfl, Nat.add_assoc]
  have altitude : toBytesSigned 2 a.altitude =
      .ok (bigEndianBytes 2 (a.altitude % 256 ^ 2).toNat) :=
    toBytesSigned_ok (by omega) (by omega)
  have numbers := encodeRecord.eq_def extended a
  simp only [toBytes_ok late, oneByte_ok range.priority, total,
    toBytesSigned_ok lonLow lonHigh, toBytesSigned_ok latLow latHigh,
    altitude,
    toBytes_ok range.angle, oneByte_ok range.satellites, toBytes_ok range.speed,
    toBytes_ok range.eventIo, encodeGroup_ok range.one one, encodeGroup_ok range.two two,
    encodeGroup_ok range.four four, encodeGroup_ok range.eight eight, bind, Except.bind, pure,
    Except.pure] at numbers
  rw [numbers]
  simp only [recordBytes, elementBytes, List.append_assoc]
  cases extended with
  | true =>
      rw [if_pos rfl, encodeVariableGroup_ok range.variable_ variable_]
      rfl
  | false => rfl

end Record

section Packet

variable {codec : Nat} {records : List Arguments}

def dataField (codec : Nat) (encoded : List Bytes) : Bytes :=
  bigEndianBytes 1 codec ++ (bigEndianBytes 1 encoded.length ++
    (encoded.flatten ++ bigEndianBytes 1 encoded.length))

def packet (data : Bytes) : Bytes :=
  preamble ++ (bigEndianBytes 4 data.length ++ (data ++ bigEndianBytes 4 (crc16Ibm data).toNat))

theorem dataField_length (codec : Nat) (encoded : List Bytes) :
    (dataField codec encoded).length = 3 + encoded.flatten.length := by
  simp only [dataField, List.length_append, bigEndianBytes_length]
  omega

theorem buildAvlPacket_ok {encoded : List Bytes} (one : codec < 256) (few : encoded.length < 256)
    (fits : (dataField codec encoded).length < 256 ^ 4) :
    buildAvlPacket encoded codec none = .ok (packet (dataField codec encoded)) := by
  have whole := buildAvlPacket.eq_def encoded codec none
  have checksum : (crc16Ibm (dataField codec encoded)).toNat < 256 ^ 4 :=
    (crc16Ibm _).isLt.trans (by decide)
  have body : [UInt8.ofNat codec] ++ [UInt8.ofNat encoded.length] ++ encoded.flatten ++
      [UInt8.ofNat encoded.length] = dataField codec encoded := by
    simp only [dataField, bigEndianBytes, List.append_assoc, List.nil_append]
  simp only [oneByte_ok one, oneByte_ok few, Option.getD_none, bind, Except.bind, body,
    toBytes_ok fits, toBytes_ok checksum, pure, Except.pure] at whole
  rw [whole, packet]
  simp only [List.append_assoc, preamble]

theorem readRecords_run {extended : Bool} {layouts : List Layout}
    (few : layouts.length < 256 ^ 1) (formed : ∀ l ∈ layouts, l.WellFormed extended) :
    (readRecords extended).run (bigEndianBytes 1 layouts.length ++
      ((layouts.map (Layout.bytes extended)).flatten ++ bigEndianBytes 1 layouts.length)) =
      .ok (layouts.map Layout.record, []) := by
  have count := reads_uint few
  have each := reads_repeatRead fun l member => Layout.reads_readRecord (formed l member)
  have taken : ∀ {α β : Type} (a : α) (f : α → Except Exn β), (Except.ok a >>= f) = f a :=
    fun _ _ => rfl
  rw [readRecords, StateT.run_bind, count, taken, StateT.run_bind, each, taken, StateT.run_bind,
    count.whole, taken, if_neg (not_not.mpr rfl)]
  rfl

def framed (data checksum : Bytes) : Bytes :=
  preamble ++ (bigEndianBytes 4 data.length ++ (data ++ checksum))

def parseData (data : Bytes) : Except Exn AvlPacket := do
  let codec := (← index data 0).toNat
  if codec ≠ codec8 ∧ codec ≠ codec8E then
    throw (.unsupportedCodecError codec)
  let (records, _) ← (readRecords (codec = codec8E)).run (data.drop 1)
  return ⟨codec, records⟩

section Framed

variable {data checksum : Bytes}

theorem framed_length (data checksum : Bytes) :
    (framed data checksum).length = 8 + data.length + checksum.length := by
  simp only [framed, preamble, List.length_append, List.length_cons, List.length_nil,
    bigEndianBytes_length]
  omega

theorem framed_declares (checksum : Bytes) (fits : data.length < 256 ^ 4) :
    bigEndian (slice (framed data checksum) 4 8) = data.length := by
  have middle : slice (framed data checksum) 4 8 = bigEndianBytes 4 data.length :=
    slice_middle rfl (by simp [preamble])
  rw [middle, bigEndian_bigEndianBytes, Nat.mod_eq_of_lt fits]

theorem framed_begins (data checksum : Bytes) :
    preamble.isPrefixOf (framed data checksum) = true :=
  List.isPrefixOf_iff_prefix.mpr (List.prefix_append _ _)

/-- The checksum is looked at before anything in the data field is. -/
theorem parseAvlPacket_framed (long : 3 ≤ data.length) (fits : data.length < 256 ^ 4)
    (four : checksum.length = 4) :
    parseAvlPacket (framed data checksum) =
      if bigEndian checksum = (crc16Ibm data).toNat then parseData data
      else .error .teltonikaCrcError := by
  have length := framed_length data checksum
  have halves : framed data checksum = (preamble ++ bigEndianBytes 4 data.length) ++
      (data ++ checksum) := by
    rw [framed, List.append_assoc]
  have front : (preamble ++ bigEndianBytes 4 data.length).length = 8 := by
    rw [List.length_append, bigEndianBytes_length]
    rfl
  have field_ : slice (framed data checksum) 8 (8 + data.length) = data := by
    rw [halves]
    exact slice_middle front.symm (by rw [front])
  have rest : (framed data checksum).drop (8 + data.length) = checksum := by
    rw [halves, ← front, List.drop_length_add_append, List.drop_left]
  rw [parseAvlPacket, if_neg]
  · simp only [framed_declares checksum fits]
    rw [if_neg (by omega)]
    simp only [field_, rest]
    by_cases same : bigEndian checksum = (crc16Ibm data).toNat
    · rw [if_pos same, if_neg (not_not.mpr same)]
      rfl
    · rw [if_neg same, if_pos same]
      rfl
  · simp only [framed_begins, Bool.not_true, Bool.or_false, decide_eq_true_eq]
    omega

end Framed

theorem parseData_dataField {layouts : List Layout} (supported : codec = codec8 ∨ codec = codec8E)
    (few : layouts.length < 256 ^ 1) (formed : ∀ l ∈ layouts, l.WellFormed (codec = codec8E)) :
    parseData (dataField codec (layouts.map (Layout.bytes (codec = codec8E)))) =
      .ok ⟨codec, layouts.map Layout.record⟩ := by
  have read := readRecords_run few formed
  have small : codec < 256 := by rcases supported with rfl | rfl <;> decide
  generalize data_eq : dataField codec (layouts.map (Layout.bytes (codec = codec8E))) = data
  have first : index data 0 = .ok (UInt8.ofNat codec) := by
    rw [← data_eq]
    rfl
  have kind : (UInt8.ofNat codec).toNat = codec := by
    rw [UInt8.toNat_ofNat', Nat.mod_eq_of_lt small]
  have behind : data.drop 1 = bigEndianBytes 1 layouts.length ++
      ((layouts.map (Layout.bytes (codec = codec8E))).flatten ++
        bigEndianBytes 1 layouts.length) := by
    rw [← data_eq, dataField, List.length_map]
    rfl
  have known : ¬(codec ≠ codec8 ∧ codec ≠ codec8E) := by tauto
  rw [parseData]
  simp only [first, kind, bind, Except.bind, behind, read, known, if_false]
  rfl

theorem packet_length (data : Bytes) : (packet data).length = 8 + data.length + 4 := by
  have length := framed_length data (bigEndianBytes 4 (crc16Ibm data).toNat)
  rwa [bigEndianBytes_length] at length

theorem parseAvlPacket_packet {data : Bytes} (long : 3 ≤ data.length)
    (fits : data.length < 256 ^ 4) : parseAvlPacket (packet data) = parseData data := by
  have right : bigEndian (bigEndianBytes 4 (crc16Ibm data).toNat) = (crc16Ibm data).toNat := by
    rw [bigEndian_bigEndianBytes, Nat.mod_eq_of_lt ((crc16Ibm data).isLt.trans (by decide))]
  have parsed := parseAvlPacket_framed long fits
    (bigEndianBytes_length 4 (crc16Ibm data).toNat)
  rwa [if_pos right] at parsed

theorem parseAvlPacket_records (supported : codec = codec8 ∨ codec = codec8E)
    (few : records.length < 256 ^ 1) (range : ∀ a ∈ records, InRange (codec = codec8E) a)
    (fits : (dataField codec (records.map (recordBytes (codec = codec8E)))).length < 256 ^ 4) :
    parseAvlPacket (packet (dataField codec (records.map (recordBytes (codec = codec8E))))) =
      .ok ⟨codec, records.map recordOf⟩ := by
  have bytes : records.map (recordBytes (codec = codec8E)) =
      (records.map layoutOf).map (Layout.bytes (codec = codec8E)) := by
    rw [List.map_map]
    rfl
  have values : records.map recordOf = (records.map layoutOf).map Layout.record := by
    rw [List.map_map]
    exact List.map_congr_left fun a member => (range a member).record.symm
  rw [parseAvlPacket_packet (by rw [dataField_length]; omega) fits, bytes, values]
  apply parseData_dataField supported (by rwa [List.length_map])
  intro l member
  obtain ⟨a, known, rfl⟩ := List.mem_map.mp member
  exact (range a known).wellFormed

theorem extractFrames_packet {cfg : Config} {data : Bytes} (fits : data.length < 256 ^ 4)
    (some_ : 1 ≤ data.length) (within : (data.length : ℤ) ≤ cfg.teltonikaMaxPacketBytes) :
    extractFrames cfg (packet data) = .ok ([packet data], []) := by
  have declared : bigEndian (slice (packet data) 4 8) = data.length := framed_declares _ fits
  have is : Framing.Teltonika.IsFrame cfg (packet data) := by
    refine .inr ⟨framed_begins data _, ?_, ?_⟩
    · rw [packet_length, Framing.Teltonika.dataLength, declared]
      omega
    · rw [Framing.Teltonika.dataLength, declared]
      exact ⟨some_, within⟩
  have cut := Rule.scan_frame_append (is.cut [])
  have waits : (Framing.Teltonika.rule cfg).verdict [] = .wait := rfl
  rw [List.append_nil, Rule.scan_wait waits] at cut
  have scanned := Framing.Teltonika.implements cfg (packet data)
  rw [cut] at scanned
  exact Foundation.Stream.toOption_eq_some_iff.mp scanned

end Packet

/-! ### Timestamps -/

/-- How far the instant of a record can be from its milliseconds: the quotient is rounded to a
double, and doubles are `2 ^ (e - 53)` apart below `2 ^ e` seconds. -/
theorem timestamp_error {millis e : Nat} (below : millis < 2 ^ e * 1000) (near : e ≤ 38) :
    |((fromTimestamp (binary64 (millis / 1000)) - millis * 1000 : ℤ) : ℚ)| ≤
      1000000 * (2 ^ e / 2 ^ 54) + 1 / 2 + 1 / 2 ^ 34 := by
  have parts : millis / 1000 * 1000 + millis % 1000 = millis := Nat.div_add_mod' millis 1000
  have seconds : (millis / 1000 : ℚ) = (millis / 1000 : Nat) + (millis % 1000 : Nat) / 1000 := by
    have cast : ((millis / 1000 : Nat) : ℚ) * 1000 + (millis % 1000 : Nat) = millis := by
      exact_mod_cast parts
    linarith
  have wide : (2 : ℚ) ^ e ≤ 2 ^ 38 := pow_le_pow_right₀ (by norm_num) near
  have whole_small : millis / 1000 < 2 ^ 53 := by
    have : millis / 1000 < 2 ^ e := by omega
    exact this.trans_le (Nat.pow_le_pow_right (by norm_num) (by omega))
  have sharp : millis % 1000 = 0 → binary64 (millis / 1000) = (millis / 1000 : Nat) := by
    intro none_
    rw [seconds, none_, Nat.cast_zero, zero_div, add_zero]
    exact binary64_natCast whole_small
  have close : |binary64 (millis / 1000) - ((millis / 1000 : Nat) + (millis % 1000 : Nat) / 1000)| ≤
      2 ^ e / 2 ^ 54 := by
    rw [← seconds]
    rcases Nat.eq_zero_or_pos millis with rfl | positive
    · simp
      positivity
    · have more : (0 : ℚ) < millis := by exact_mod_cast positive
      have less : |(millis / 1000 : ℚ)| < 2 ^ (e : ℤ) := by
        rw [abs_of_pos (by positivity), div_lt_iff₀ (by norm_num)]
        exact_mod_cast below
      have unit := ulp_le (by omega) (by positivity) less
      rw [zpow_sub₀ (by norm_num), zpow_natCast] at unit
      have error := binary64_error (millis / 1000)
      have half : (2 : ℚ) ^ e / 2 ^ (53 : ℤ) / 2 = 2 ^ e / 2 ^ 54 := by norm_num [div_div]
      linarith
  have error := fromTimestamp_error (Nat.mod_lt millis (by norm_num)) close (by
    rw [div_lt_iff₀ (by norm_num)]
    linarith) sharp
  have same : ((millis / 1000 : Nat) * 1000000 + (millis % 1000 : Nat) * 1000 : ℤ) =
      millis * 1000 := by omega
  rwa [same] at error

theorem timestamp_exact {millis : Nat} (below : millis < 2 ^ 33 * 1000) :
    fromTimestamp (binary64 (millis / 1000)) = millis * 1000 := by
  have error := timestamp_error below (by norm_num)
  have apart : |((fromTimestamp (binary64 (millis / 1000)) - millis * 1000 : ℤ) : ℚ)| < 1 :=
    error.trans_lt (by norm_num)
  exact sub_eq_zero.mp (Int.abs_lt_one_iff.mp (by exact_mod_cast apart))

theorem timestamp_close {millis : Nat} (range : millis ≤ maxMillis) :
    |fromTimestamp (binary64 (millis / 1000)) - millis * 1000| ≤ 15 := by
  have error := timestamp_error (e := 38) (range.trans_lt (by decide)) le_rfl
  have apart : |((fromTimestamp (binary64 (millis / 1000)) - millis * 1000 : ℤ) : ℚ)| < 16 :=
    error.trans_lt (by norm_num)
  have few : |fromTimestamp (binary64 (millis / 1000)) - millis * 1000| < 16 := by
    exact_mod_cast apart
  exact Int.le_of_lt_add_one few

/-! ### The round trip -/

/-- What comes back for the arguments of a record. -/
structure Recovered (a : Arguments) (rec : AvlRecord) : Prop where
  /-- Up to the year 2242 the timestamp is exact. -/
  timestamp : a.timestampMs < 2 ^ 33 * 1000 → rec.timestamp = a.timestampMs * 1000
  /-- Later ones are off by a few microseconds. -/
  close : |rec.timestamp - a.timestampMs * 1000| ≤ 15
  priority : rec.priority = a.priority
  latitude : rec.latitude = a.lat
  longitude : rec.longitude = a.lon
  altitude : rec.altitude = a.altitude
  angle : rec.angle = a.angle
  satellites : rec.satellites = a.satellites
  speed : rec.speed = a.speed
  eventIoId : rec.eventIoId = a.eventIo
  io : rec.io = elements a

theorem recovered {extended : Bool} {a : Arguments} (range : InRange extended a) :
    Recovered a (recordOf a) where
  timestamp := timestamp_exact
  close := timestamp_close range.timestamp
  priority := rfl
  latitude := rfl
  longitude := rfl
  altitude := rfl
  angle := rfl
  satellites := rfl
  speed := rfl
  eventIoId := rfl
  io := rfl

/-- Records in range are encoded, and a packet that is built of them comes back whole. -/
theorem records_recovered (cfg : Config) {codec : Nat}
    (supported : codec = codec8 ∨ codec = codec8E) {records : List Arguments}
    (few : records.length ≤ 255) (range : ∀ a ∈ records, InRange (codec = codec8E) a) :
    ∃ encoded, records.mapM (encodeRecord (codec = codec8E)) = .ok encoded ∧
      (encoded.flatten.length + 3 < 2 ^ 32 → ∃ frame,
        buildAvlPacket encoded codec none = .ok frame ∧
        (∃ decoded, parseAvlPacket frame = .ok ⟨codec, decoded⟩ ∧
          List.Forall₂ Recovered records decoded) ∧
        ((encoded.flatten.length + 3 : ℕ) ≤ cfg.teltonikaMaxPacketBytes →
          extractFrames cfg frame = .ok ([frame], []))) := by
  have one : codec < 256 := by rcases supported with rfl | rfl <;> decide
  have byte : records.length < 256 ^ 1 := by omega
  refine ⟨records.map (recordBytes (codec = codec8E)),
    mapM_ok fun a member => encodeRecord_ok (range a member), ?_⟩
  intro small
  have length := dataField_length codec (records.map (recordBytes (codec = codec8E)))
  have fits : (dataField codec (records.map (recordBytes (codec = codec8E)))).length <
      256 ^ 4 := by omega
  refine ⟨_, buildAvlPacket_ok one (by rwa [List.length_map]) fits, ?_, ?_⟩
  · refine ⟨records.map recordOf, parseAvlPacket_records supported byte range fits, ?_⟩
    rw [List.forall₂_map_right_iff, List.forall₂_same]
    exact fun a member => recovered (range a member)
  · intro within
    apply extractFrames_packet fits
    · omega
    · rw [length, Nat.add_comm]
      exact within

def someRecord (timestampMs : Nat) : Arguments where
  timestampMs
  lat := 69271 / 10000
  lon := -798612 / 10000
  altitude := -5
  angle := 169
  satellites := 9
  speed := 42
  priority := 0
  eventIo := 239
  io1 := [(239, 1), (240, 1)]
  io2 := [(66, 12500)]
  io4 := [(16, 123456)]
  io8 := [(78, 99)]
  iox := []

theorem someRecord_inRange {timestampMs : Nat} (range : timestampMs ≤ maxMillis) :
    InRange (codec8 = codec8E) (someRecord timestampMs) where
  timestamp := range
  latitude := ⟨69271000, by decide, by decide, by norm_num [someRecord]⟩
  longitude := ⟨-798612000, by decide, by decide, by norm_num [someRecord]⟩
  altitude := by simp [someRecord]
  angle := by simp [someRecord]
  satellites := by simp [someRecord]
  speed := by simp [someRecord]
  priority := by simp [someRecord]
  eventIo := by simp [someRecord, idLen, codec8, codec8E]
  one := by simp [Fits, someRecord, idLen, codec8, codec8E]
  two := by simp [Fits, someRecord, idLen, codec8, codec8E]
  four := by simp [Fits, someRecord, idLen, codec8, codec8E]
  eight := by simp [Fits, someRecord, idLen, codec8, codec8E]
  variable_ := by simp [someRecord]
  only := fun _ => rfl
  counts := by simp [elements, someRecord, idLen, codec8, codec8E]
  distinct := by simp [elements, someRecord]

theorem records_recovered_one : ∃ encoded frame decoded,
    [someRecord 1560161086123].mapM (encodeRecord (codec8 = codec8E)) = .ok encoded ∧
    buildAvlPacket encoded codec8 none = .ok frame ∧
    parseAvlPacket frame = .ok ⟨codec8, decoded⟩ ∧
    List.Forall₂ Recovered [someRecord 1560161086123] decoded ∧
    extractFrames defaults frame = .ok ([frame], []) := by
  have range : ∀ a ∈ [someRecord 1560161086123], InRange (codec8 = codec8E) a := by
    intro a member
    rw [List.mem_singleton.mp member]
    exact someRecord_inRange (by decide)
  have bytes := mapM_ok fun a member => encodeRecord_ok (range a member)
  obtain ⟨encoded, built, later⟩ := records_recovered defaults (.inl rfl) (by decide) range
  rw [built] at bytes
  have length : encoded.flatten.length = 51 := by
    cases bytes
    simp [recordBytes, elementBytes, groupBytes, someRecord, idLen, codec8, codec8E]
  obtain ⟨frame, wrapped, ⟨decoded, parsed, same⟩, alone⟩ := later (by omega)
  exact ⟨encoded, frame, decoded, built, wrapped, parsed, same, alone (by rw [length]; decide)⟩

def longRecord (count size : Nat) : Arguments :=
  { someRecord 0 with
    io1 := [], io2 := [], io4 := [], io8 := []
    iox := (List.range count).map fun i => (i, List.replicate size 0) }

section LongRecord

variable {count size : Nat}

theorem longRecord_inRange (few : count < 256 ^ 2) (short : size < 256 ^ 2) :
    InRange (codec8E = codec8E) (longRecord count size) where
  timestamp := Nat.zero_le _
  latitude := (someRecord_inRange (Nat.zero_le _)).latitude
  longitude := (someRecord_inRange (Nat.zero_le _)).longitude
  altitude := (someRecord_inRange (Nat.zero_le _)).altitude
  angle := (someRecord_inRange (Nat.zero_le _)).angle
  satellites := (someRecord_inRange (Nat.zero_le _)).satellites
  speed := (someRecord_inRange (Nat.zero_le _)).speed
  priority := (someRecord_inRange (Nat.zero_le _)).priority
  eventIo := by simp [longRecord, someRecord, idLen]
  one := by simp [Fits, longRecord]
  two := by simp [Fits, longRecord]
  four := by simp [Fits, longRecord]
  eight := by simp [Fits, longRecord]
  variable_ := by
    intro element member
    obtain ⟨i, low, rfl⟩ := List.mem_map.mp member
    have small := List.mem_range.mp low
    exact ⟨by omega, by simpa using short⟩
  only := by simp
  counts := by simpa [elements, longRecord, idLen] using few
  distinct := by
    have keys : (elements (longRecord count size)).map Prod.fst = List.range count := by
      simp [elements, longRecord, Function.comp_def]
    rw [keys]
    exact List.nodup_range

theorem longRecord_length :
    count * (size + 4) ≤ (recordBytes true (longRecord count size)).length := by
  have values : (variableBytes (longRecord count size).iox).length = 2 + count * (size + 4) := by
    have sum : 2 + (2 + size) = size + 4 := by omega
    simp [variableBytes, longRecord, Function.comp_def, sum]
  simp only [recordBytes, elementBytes, if_true, List.length_append]
  omega

theorem longRecord_refused (long : 256 ^ 4 ≤ count * (size + 4)) :
    buildAvlPacket [recordBytes true (longRecord count size)] codec8E none = .error tooBig := by
  have length : count * (size + 4) ≤ _ := longRecord_length
  generalize recordBytes true (longRecord count size) = bytes at length
  have body : ¬([UInt8.ofNat codec8E] ++ [UInt8.ofNat 1] ++ [bytes].flatten ++
      [UInt8.ofNat 1]).length < 256 ^ 4 := by
    simp only [List.length_append, List.flatten_singleton]
    omega
  have whole := buildAvlPacket.eq_def [bytes] codec8E none
  have one : oneByte [bytes].length = .ok [UInt8.ofNat 1] := rfl
  have codec : oneByte codec8E = .ok [UInt8.ofNat codec8E] := rfl
  simp only [one, codec, Option.getD_none, bind, Except.bind, toBytes, if_neg body] at whole
  exact whole

end LongRecord

/-- Two kinds of records in range do not come back from a packet: late timestamps are rounded, and
too many long values do not fit into one. -/
theorem records_not_recovered :
    (∃ a encoded frame decoded, InRange (codec8 = codec8E) a ∧
      [a].mapM (encodeRecord (codec8 = codec8E)) = .ok encoded ∧
      buildAvlPacket encoded codec8 none = .ok frame ∧
      parseAvlPacket frame = .ok ⟨codec8, decoded⟩ ∧
      a.timestampMs = 8589934592001 ∧
      decoded.map AvlRecord.timestamp = [8589934592000999]) ∧
    (∃ a encoded, InRange (codec8E = codec8E) a ∧
      [a].mapM (encodeRecord (codec8E = codec8E)) = .ok encoded ∧
      buildAvlPacket encoded codec8E none = .error tooBig) := by
  constructor
  · have range : ∀ a ∈ [someRecord 8589934592001], InRange (codec8 = codec8E) a := by
      intro a member
      rw [List.mem_singleton.mp member]
      exact someRecord_inRange (by decide)
    have built := mapM_ok fun a member => encodeRecord_ok (range a member)
    have fits : (dataField codec8 ([someRecord 8589934592001].map
        (recordBytes (codec8 = codec8E)))).length < 256 ^ 4 := by
      rw [dataField_length]
      simp [recordBytes, elementBytes, groupBytes, someRecord, idLen, codec8, codec8E]
    exact ⟨_, _, _, _, range _ List.mem_cons_self, built,
      buildAvlPacket_ok (by decide) (by decide) fits,
      parseAvlPacket_records (.inl rfl) (by decide) range fits, rfl, by decide +kernel⟩
  · have range := longRecord_inRange (show 65535 < 256 ^ 2 by decide)
      (show 65535 < 256 ^ 2 by decide)
    refine ⟨_, _, range, mapM_ok (l := [_]) ?_, longRecord_refused (by decide)⟩
    intro a member
    rw [List.mem_singleton.mp member]
    exact encodeRecord_ok range

end TrackerGateway.Packets.Records
