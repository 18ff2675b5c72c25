/- module: TrackerGateway/Packets/Fields
   source: src/parsers/v5_parser.py
   digest: Which bytes the decoders of the V5 family read, and when they raise. -/

import TrackerGateway.Parsers.V5

set_option autoImplicit false
set_option relaxedAutoImplicit false

namespace TrackerGateway.Packets

open Foundation.Wire
open TrackerGateway.Runtime
open Parsers.V5

/-- The byte at a position, or zero past the end. -/
def byteAt (raw : Bytes) (i : Nat) : Nat := (raw.getD i 0).toNat

def dateAt (raw : Bytes) (base : Nat) : Option Civil :=
  civil? (byteAt raw (base + 1) + 2000) (byteAt raw (base + 2)) (byteAt raw (base + 3))
    (byteAt raw (base + 4)) (byteAt raw (base + 5)) (byteAt raw (base + 6))

def courseAt (raw : Bytes) (base : Nat) : Nat := bigEndian (slice raw (base + 17) (base + 19))

def positionAt (raw : Bytes) (base : Nat) : ℚ × ℚ :=
  (degrees (bigEndian (slice raw (base + 8) (base + 12))) ((courseAt raw base).testBit 10),
    degrees (bigEndian (slice raw (base + 12) (base + 16))) (!(courseAt raw base).testBit 11))

theorem byteAt_lt (raw : Bytes) (i : Nat) : byteAt raw i < 256 := (raw.getD i 0).toNat_lt

theorem index_of_lt {raw : Bytes} {i : Nat} (inside : i < raw.length) :
    index raw i = .ok (raw.getD i 0) := by
  rw [index_eq_ok_iff, List.getD_eq_getElem?_getD, List.getElem?_eq_getElem inside,
    Option.getD_some]

theorem index_of_le {raw : Bytes} {i : Nat} (outside : raw.length ≤ i) :
    index raw i = .error .indexError := by
  unfold index
  rw [List.getElem?_eq_none outside]

theorem index_behind {front rest : Bytes} {i j : Nat} (begins : i = front.length + j) :
    index (front ++ rest) i = index rest j := by
  unfold index
  rw [begins, List.getElem?_append_right (Nat.le_add_right _ _), Nat.add_sub_cancel_left]

theorem index_congr {a b : Bytes} {i : Nat} (same : a[i]? = b[i]?) : index a i = index b i := by
  unfold index
  rw [same]

theorem parseTimestamp_eq {raw : Bytes} (long : 10 ≤ raw.length) :
    parseTimestamp raw = match dateAt raw 3 with
      | some date => .ok date
      | none => .error (.valueError "date out of range".toList) := by
  have inside : ∀ i, i < 10 → index raw i = .ok (raw.getD i 0) :=
    fun i small => index_of_lt (by omega)
  unfold parseTimestamp
  rw [inside 4 (by omega), inside 5 (by omega), inside 6 (by omega), inside 7 (by omega),
    inside 8 (by omega), inside 9 (by omega)]
  unfold dateAt byteAt
  simp only [bind, Except.bind]
  generalize civil? _ _ _ _ _ _ = date
  cases date <;> rfl

theorem parseTimestamp_congr {a b : Bytes} (same : ∀ i < 10, a[i]? = b[i]?) :
    parseTimestamp a = parseTimestamp b := by
  unfold parseTimestamp
  rw [index_congr (same 4 (by omega)), index_congr (same 5 (by omega)),
    index_congr (same 6 (by omega)), index_congr (same 7 (by omega)),
    index_congr (same 8 (by omega)), index_congr (same 9 (by omega))]

theorem slice_congr {a b : Bytes} {start stop n : Nat} (same : ∀ i < n, a[i]? = b[i]?)
    (below : stop ≤ n) : slice a start stop = slice b start stop :=
  (slice_eq_iff a b start stop).mpr fun i _ high => same i (by omega)

theorem parseLocationPacket_of_date {raw : Bytes} (long : 20 ≤ raw.length) {date : Civil}
    (valid : dateAt raw 3 = some date) : ∃ location, parseLocationPacket raw = .ok location ∧
      location.timestamp = date ∧ location.speed = byteAt raw 19 ∧
      location.heading = bigEndian (slice raw 20 22) % 1024 := by
  unfold parseLocationPacket
  rw [parseTimestamp_eq (by omega), valid, index_of_lt (by omega), index_of_lt (by omega)]
  exact ⟨_, rfl, rfl, rfl, rfl⟩

theorem position_of_location {raw : Bytes} {location : Location}
    (parsed : parseLocationPacket raw = .ok location) :
    (location.latitude, location.longitude) = positionAt raw 3 := by
  unfold parseLocationPacket at parsed
  cases dated : parseTimestamp raw with
  | error e => simp [dated, bind, Except.bind] at parsed
  | ok date =>
      cases speed : index raw 19 with
      | error e => simp [dated, speed, bind, Except.bind] at parsed
      | ok speed' =>
          cases info : index raw 10 with
          | error e => simp [dated, speed, info, bind, Except.bind] at parsed
          | ok info' =>
              rw [dated, speed, info] at parsed
              cases parsed
              rfl

theorem parseLocationPacket_raises {raw : Bytes} (bad : raw.length < 20 ∨ dateAt raw 3 = none) :
    (parseLocationPacket raw).toOption = none := by
  unfold parseLocationPacket
  by_cases long : 20 ≤ raw.length
  · have invalid : dateAt raw 3 = none := bad.resolve_left (by omega)
    rw [parseTimestamp_eq (by omega), invalid]
    rfl
  · rw [index_of_le (by omega)]
    cases parseTimestamp raw <;> rfl

theorem parseLocationPacket_congr {a b : Bytes} (same : ∀ i < 22, a[i]? = b[i]?) :
    parseLocationPacket a = parseLocationPacket b := by
  unfold parseLocationPacket
  rw [parseTimestamp_congr fun i small => same i (by omega), index_congr (same 19 (by omega)),
    index_congr (same 10 (by omega)), slice_congr same (by omega), slice_congr same (by omega),
    slice_congr same (by omega)]

theorem parseTerminalStatus_of_length {raw : Bytes} (long : 7 ≤ raw.length) :
    parseTerminalStatus raw = .ok ⟨byteAt raw 5, byteAt raw 6, terminalInfo (raw.getD 4 0)⟩ := by
  unfold parseTerminalStatus
  rw [index_of_lt (by omega), index_of_lt (by omega), index_of_lt (by omega)]
  rfl

theorem parseTerminalStatus_raises {raw : Bytes} (short : raw.length < 7) :
    (parseTerminalStatus raw).toOption = none := by
  have last : index raw 6 = .error .indexError := index_of_le (by omega)
  unfold parseTerminalStatus
  rw [last]
  cases index raw 4 <;> cases index raw 5 <;> rfl

theorem parseTerminalStatus_congr {a b : Bytes} (same : ∀ i < 7, a[i]? = b[i]?) :
    parseTerminalStatus a = parseTerminalStatus b := by
  unfold parseTerminalStatus
  rw [index_congr (same 4 (by omega)), index_congr (same 5 (by omega)),
    index_congr (same 6 (by omega))]

/-- The two decoders of the block of a position agree. -/
theorem parseAlarmPacket_eq (packet : Bytes) : parseAlarmPacket packet = (do
    let location ← parseLocationPacket packet
    let mnc ← index packet 24
    let info ← index packet 30
    let batteryLevel ← index packet 31
    let gsmSignal ← index packet 32
    let alarmLanguage ← index packet 33
    return {
      location
      courseStatus := bigEndian (slice packet 20 22)
      mcc := bigEndian (slice packet 22 24)
      mnc := mnc.toNat
      lac := bigEndian (slice packet 25 27)
      cellId := bigEndian (slice packet 27 30)
      batteryLevel := batteryLevel.toNat
      gsmSignal := gsmSignal.toNat
      alarmType := alarmLanguage.toNat / 16
      language := if alarmLanguage.toNat.testBit 0 then "English".toList else "Chinese".toList
      terminalInfo := info.toNat
      info := terminalInfo info }) := by
  unfold parseAlarmPacket parseLocationPacket
  cases parseTimestamp packet with
  | error e => rfl
  | ok timestamp =>
      -- The two read the satellites and the speed in different orders, and raise the same.
      by_cases long : 20 ≤ packet.length
      · rw [index_of_lt (show 10 < packet.length by omega),
          index_of_lt (show 19 < packet.length by omega)]
        rfl
      · rw [index_of_le (show packet.length ≤ 19 by omega)]
        unfold index
        cases packet[10]? <;> rfl

theorem parseAlarmPacket_of_date {raw : Bytes} (long : 34 ≤ raw.length) {date : Civil}
    (valid : dateAt raw 3 = some date) : ∃ alarm, parseAlarmPacket raw = .ok alarm ∧
      alarm.location.timestamp = date ∧ alarm.alarmType = byteAt raw 33 / 16 ∧
      parseLocationPacket raw = .ok alarm.location := by
  obtain ⟨location, parsed, dated, -⟩ := parseLocationPacket_of_date (by omega) valid
  have inside : ∀ i, i < 34 → index raw i = .ok (raw.getD i 0) :=
    fun i small => index_of_lt (by omega)
  rw [parseAlarmPacket_eq, parsed, inside 24 (by omega), inside 30 (by omega), inside 31 (by omega),
    inside 32 (by omega), inside 33 (by omega)]
  exact ⟨_, rfl, dated, rfl, rfl⟩

theorem parseAlarmPacket_raises {raw : Bytes} (bad : raw.length < 34 ∨ dateAt raw 3 = none) :
    (parseAlarmPacket raw).toOption = none := by
  rw [parseAlarmPacket_eq]
  cases parsed : parseLocationPacket raw with
  | error e => rfl
  | ok location =>
      have short : raw.length < 34 := by
        by_contra long
        have raised := parseLocationPacket_raises (.inr (bad.resolve_left long))
        rw [parsed] at raised
        cases raised
      rw [index_of_le (show raw.length ≤ 33 by omega)]
      cases index raw 24 <;> cases index raw 30 <;> cases index raw 31 <;> cases index raw 32 <;>
        rfl

theorem parseAlarmPacket_congr {a b : Bytes} (same : ∀ i < 34, a[i]? = b[i]?) :
    parseAlarmPacket a = parseAlarmPacket b := by
  rw [parseAlarmPacket_eq, parseAlarmPacket_eq,
    parseLocationPacket_congr fun i small => same i (by omega), index_congr (same 24 (by omega)),
    index_congr (same 30 (by omega)), index_congr (same 31 (by omega)),
    index_congr (same 32 (by omega)), index_congr (same 33 (by omega)),
    slice_congr same (by omega), slice_congr same (by omega), slice_congr same (by omega),
    slice_congr same (by omega)]

end TrackerGateway.Packets
