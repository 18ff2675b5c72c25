/- module: TrackerGateway/Packets/Corruption
   source: src/parsers/teltonika_parser.py, src/services/teltonika_handler.py
   digest: A packet with one byte or two adjacent bytes of its data field changed is not taken. -/

import TrackerGateway.Foundation.Coroutine.Discipline
import TrackerGateway.Foundation.Wire.Checksum
import TrackerGateway.Packets.Grammar
import TrackerGateway.Services.TeltonikaHandler

set_option autoImplicit false
set_option relaxedAutoImplicit false

namespace TrackerGateway.Packets.Corruption

open Foundation.Coroutine
open Foundation.Wire
open TrackerGateway.Runtime
open Parsers.Teltonika
open Services.TeltonikaHandler
open Packets.Records (framed parseAvlPacket_framed dataField dataField_length packet)
open Packets.Grammar (parse_ok_iff)

/-- The frame with one byte changed, or two adjacent ones, all of them in the data field. -/
structure Corrupted (frame changed : Bytes) : Prop where
  same_length : changed.length = frame.length
  different : changed ≠ frame
  place : ∃ i, ∀ j, changed[j]? ≠ frame[j]? →
    (j = i ∨ j = i + 1) ∧ 8 ≤ j ∧ j + 4 < frame.length

theorem crc16Ibm_eq (data : Bytes) : crc16Ibm data = data.foldl (feedByte 0xA001) 0 := rfl

section Changed

variable {frame changed data checksum : Bytes}

theorem slice_unchanged {start stop : Nat}
    (outside : ∀ j, changed[j]? ≠ frame[j]? → start ≤ j → stop ≤ j) :
    slice changed start stop = slice frame start stop := by
  rw [slice_eq_iff]
  intro j low high
  by_contra apart
  have := outside j apart low
  omega

theorem framed_slices (data : Bytes) (four : checksum.length = 4) :
    slice (framed data checksum) 0 8 = preamble ++ bigEndianBytes 4 data.length ∧
      slice (framed data checksum) 8 (8 + data.length) = data ∧
      slice (framed data checksum) (8 + data.length) (8 + data.length + 4) = checksum := by
  have header : (preamble ++ bigEndianBytes 4 data.length).length = 8 := by
    rw [List.length_append, bigEndianBytes_length]
    rfl
  have halves : framed data checksum =
      (preamble ++ bigEndianBytes 4 data.length) ++ (data ++ checksum) := by
    rw [framed, List.append_assoc]
  refine ⟨?_, ?_, ?_⟩
  · rw [halves, slice, List.drop_zero, List.take_left' header]
  · rw [halves]
    exact slice_middle header.symm (by rw [header])
  · have front : (preamble ++ bigEndianBytes 4 data.length ++ data).length = 8 + data.length := by
      rw [List.length_append, header]
    have total : (framed data checksum).length ≤ 8 + data.length + 4 := by
      rw [Records.framed_length, four]
    rw [slice, List.take_of_length_le total, halves, ← List.append_assoc, ← front, List.drop_left]

theorem eq_of_slices {b : Bytes} {stop : Nat} (length : b.length = 8 + stop + 4) :
    b = slice b 0 8 ++ (slice b 8 (8 + stop) ++ slice b (8 + stop) (8 + stop + 4)) := by
  rw [slice_append_slice b (by omega) (by omega), slice_append_slice b (by omega) (by omega),
    slice, List.drop_zero, List.take_of_length_le length.le]

/-- What a corrupted frame is: another data field in the same frame, which differs from the first
in one byte or in two adjacent ones. -/
theorem Corrupted.framed (corrupted : Corrupted (framed data checksum) changed)
    (four : checksum.length = 4) :
    ∃ data' i, changed = Records.framed data' checksum ∧ data'.length = data.length ∧
      data' ≠ data ∧ ∀ j, data'[j]? ≠ data[j]? → i ≤ j ∧ j < i + 2 := by
  obtain ⟨same_length, different, i, place⟩ := corrupted
  obtain ⟨header, field_, last⟩ := framed_slices data four
  have total := Records.framed_length data checksum
  rw [four] at total
  have length : changed.length = 8 + data.length + 4 := same_length.trans total
  have same_header : slice changed 0 8 = slice (Records.framed data checksum) 0 8 := by
    apply slice_unchanged
    intro j apart _
    exact (place j apart).2.1
  have same_last : slice changed (8 + data.length) (8 + data.length + 4) =
      slice (Records.framed data checksum) (8 + data.length) (8 + data.length + 4) := by
    apply slice_unchanged
    intro j apart behind
    have := (place j apart).2.2
    omega
  have field_length : (slice changed 8 (8 + data.length)).length = data.length := by
    rw [slice_length]
    omega
  have whole : changed = Records.framed (slice changed 8 (8 + data.length)) checksum := by
    rw [Records.framed, field_length, ← List.append_assoc, ← header, ← same_header, ← last,
      ← same_last]
    exact eq_of_slices length
  refine ⟨slice changed 8 (8 + data.length), i - 8, whole, field_length, ?_, ?_⟩
  · intro same
    rw [same] at whole
    exact different whole
  · intro j apart
    have moved : changed[8 + j]? ≠ (Records.framed data checksum)[8 + j]? := by
      intro same
      apply apart
      rw [← field_, slice_getElem?, slice_getElem?, field_, same]
    have := place (8 + j) moved
    omega

end Changed

def Quiet : Op → Prop
  | .execute _ | .write _ => False
  | _ => True

/-- A frame whose checksum is wrong is dropped. -/
theorem keeps_wrong_checksum (cfg : Config) (ip : Text) {raw : Bytes}
    (notLogin : isLoginFrame raw = false) (wrong : parseAvlPacket raw = .error .teltonikaCrcError) :
    Keeps (fun _ o => Quiet o) (fun _ => True) (processTeltonikaFrame cfg ip raw) := by
  have quiet : ∀ o, Quiet o →
      Keeps (fun _ o => Quiet o) (fun _ => True) (request o : Handler (Res o)) :=
    fun o quiet => keeps_request (fun _ _ _ => trivial) fun _ _ => quiet
  rw [processTeltonikaFrame, notLogin]
  refine Keeps.rescue ?_ fun _ => quiet .getImeiBySocket trivial
  rw [if_neg (by decide), handleAvl]
  apply (quiet .getImeiBySocket trivial).bind
  intro found
  cases truthy found with
  | none => exact (quiet .close trivial).bind fun _ => keeps_pure _
  | some imei =>
      apply (quiet (.getDevice imei) trivial).bind
      intro device
      cases device with
      | none => exact keeps_throw _
      | some device =>
          rw [wrong]
          exact keeps_pure _

section Changed

variable {frame changed : Bytes}

/-- A packet that is taken is not taken any more when one byte or two adjacent bytes of its data
field are changed: its checksum tells, and nothing of it is stored or answered. -/
theorem corruption_detected {p : AvlPacket} (accepted : parseAvlPacket frame = .ok p)
    (corrupted : Corrupted frame changed) :
    parseAvlPacket changed = .error .teltonikaCrcError ∧
      ∀ cfg ip trace outcome, Executes (processTeltonikaFrame cfg ip changed) trace outcome →
        ∀ a ∈ trace, (∀ statement, a.1 ≠ .execute statement) ∧ ∀ payload, a.1 ≠ .write payload := by
  obtain ⟨layouts, formed, -⟩ := parse_ok_iff.mp accepted
  have long : 3 ≤ _ := Grammar.WellFormed.data_long p.codec layouts
  have fits := formed.fits
  have is := formed.is
  generalize dataField p.codec (layouts.map _) = data at long fits is
  have four := bigEndianBytes_length 4 (crc16Ibm data).toNat
  have right : bigEndian (bigEndianBytes 4 (crc16Ibm data).toNat) = (crc16Ibm data).toNat := by
    rw [bigEndian_bigEndianBytes, Nat.mod_eq_of_lt ((crc16Ibm data).isLt.trans (by decide))]
  rw [is] at corrupted
  obtain ⟨data', i, rfl, same_length, different, place⟩ := Corrupted.framed corrupted four
  have other : crc16Ibm data' ≠ crc16Ibm data := by
    rw [crc16Ibm_eq, crc16Ibm_eq]
    exact window_detected (by decide) 0 (by decide) same_length different place
  have wrong : parseAvlPacket (framed data' (bigEndianBytes 4 (crc16Ibm data).toNat)) =
      .error .teltonikaCrcError := by
    rw [parseAvlPacket_framed (by omega) (by omega) four, if_neg]
    rw [right]
    intro same
    exact other (BitVec.eq_of_toNat_eq same).symm
  refine ⟨wrong, ?_⟩
  intro cfg ip trace outcome ran a member
  have notLogin : isLoginFrame (framed data' (bigEndianBytes 4 (crc16Ibm data).toNat)) = false := by
    rw [isLoginFrame, Bool.and_eq_false_iff]
    exact .inr rfl
  have guarded := keeps_wrong_checksum cfg ip notLogin wrong [] trivial
  obtain ⟨allows, -⟩ := guarded.executes ran
  obtain ⟨front, back, whole⟩ := List.append_of_mem member
  have quiet := allows front a back whole
  generalize a.1 = o at quiet
  constructor
  · rintro statement rfl
    exact quiet
  · rintro payload rfl
    exact quiet

end Changed

def recordPacket : Bytes :=
  [0, 0, 0, 0, 0, 0, 0, 33, 8, 1, 0, 0, 1, 140, 194, 81, 244, 0, 0, 47, 153, 218, 32, 4, 32, 253,
    216, 0, 12, 0, 90, 9, 0, 30, 0, 0, 0, 0, 0, 0, 1, 0, 0, 79, 188]

/-- The packet with two adjacent bytes of its longitude changed. -/
def movedPacket : Bytes := (recordPacket.set 20 152).set 21 90

theorem corruption_detected_count : ∃ p, parseAvlPacket recordPacket = .ok p ∧
    p.records.length = 1 ∧ parseAvlPacket movedPacket = .error .teltonikaCrcError ∧
    ∀ cfg ip trace outcome, Executes (processTeltonikaFrame cfg ip movedPacket) trace outcome →
      ∀ a ∈ trace, (∀ statement, a.1 ≠ .execute statement) ∧ ∀ payload, a.1 ≠ .write payload := by
  have seen : (parseAvlPacket recordPacket).toOption.map (fun p => p.records.length) = some 1 := by
    decide +kernel
  obtain ⟨p, some_, one⟩ := Option.map_eq_some_iff.mp seen
  have accepted : parseAvlPacket recordPacket = .ok p := by
    cases parsed : parseAvlPacket recordPacket with
    | error e =>
        rw [parsed] at some_
        cases some_
    | ok p' =>
        rw [parsed] at some_
        exact congrArg _ (Option.some.inj some_)
  have corrupted : Corrupted recordPacket movedPacket := by
    refine ⟨rfl, by decide, 20, ?_⟩
    intro j apart
    have there : j = 20 ∨ j = 21 := by
      by_contra elsewhere
      obtain ⟨before, behind⟩ := not_or.mp elsewhere
      apply apart
      rw [movedPacket, List.getElem?_set_ne (Ne.symm behind), List.getElem?_set_ne (Ne.symm before)]
    refine ⟨there, ?_⟩
    rcases there with rfl | rfl
    · decide
    · decide
  exact ⟨p, accepted, one, corruption_detected accepted corrupted⟩

end TrackerGateway.Packets.Corruption
