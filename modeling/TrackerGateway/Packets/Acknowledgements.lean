/- module: TrackerGateway/Packets/Acknowledgements
   source: src/parsers/v5_parser.py (build_ack), src/utils/packet_buffer.py,
     src/services/packet_handler.py (process_packet)
   digest: Every packet is acknowledged once, and which acknowledgements echo their packet. -/

import TrackerGateway.Foundation.Coroutine.Plans
import TrackerGateway.Framing.V5
import TrackerGateway.Packets.Trailer
import TrackerGateway.Services.Language

set_option autoImplicit false
set_option relaxedAutoImplicit false

namespace TrackerGateway.Packets.Acknowledgements

open Foundation.Coroutine
open Foundation.Wire
open TrackerGateway.Runtime
open Framing.V5
open Packets.Trailer (Emitted)
open Parsers.V5
open Services.PacketHandler

theorem wellFormed_of_mem {b packet rest : Bytes} {packets : List Bytes}
    (accounted : Accounted b packets rest) (member : packet ∈ packets) : WellFormed packet := by
  induction accounted with
  | rest unfinished => cases member
  | packet formed later ih =>
      rcases List.mem_cons.mp member with rfl | after
      · exact formed
      · exact ih after
  | skip unmarked later ih => exact ih member

theorem emitted_iff {packet : Bytes} : Emitted packet ↔ WellFormed packet := by
  constructor
  · rintro ⟨buffer, member⟩
    exact wellFormed_of_mem (accounted buffer) member
  · intro formed
    refine ⟨packet, ?_⟩
    rw [extractPackets_alone formed]
    exact List.mem_cons_self

def declared (packet : Bytes) : Nat :=
  if packet.take 2 = longMarker then bigEndian (slice packet 2 4) else byteAt packet 2

theorem take_two_of_prefix {marker packet : Bytes} (two : marker.length = 2)
    (begins : marker.isPrefixOf packet = true) : packet.take 2 = marker := by
  obtain ⟨tail, rfl⟩ := List.isPrefixOf_iff_prefix.mp begins
  rw [← two, List.take_left]

theorem shape_of_wellFormed {packet : Bytes} (formed : WellFormed packet) :
    packet.take 2 = shortMarker ∧ protocolIndex packet = 3 ∧
      packet.length = declared packet + 5 ∨
    packet.take 2 = longMarker ∧ protocolIndex packet = 4 ∧
      packet.length = declared packet + 6 := by
  rw [WellFormed, declaredLength] at formed
  split at formed
  · next short =>
      have marked := take_two_of_prefix rfl short
      have other : packet.take 2 ≠ longMarker := by
        rw [marked]
        decide
      refine .inl ⟨marked, if_neg other, ?_⟩
      rw [declared, if_neg other]
      exact (Option.some.inj formed).symm
  · split at formed
    · next long =>
        have marked := take_two_of_prefix rfl long
        refine .inr ⟨marked, if_pos marked, ?_⟩
        rw [declared, if_pos marked]
        exact (Option.some.inj formed).symm
    · cases formed

theorem protocol_of_wellFormed {packet : Bytes} (formed : WellFormed packet) :
    ∃ protocol, packet[protocolIndex packet]? = some protocol := by
  have inside : protocolIndex packet < packet.length := by
    rcases shape_of_wellFormed formed with ⟨-, place, size⟩ | ⟨-, place, size⟩ <;> omega
  exact ⟨_, List.getElem?_eq_getElem inside⟩

def handling (cfg : Config) (ip : Text) (packet : Bytes) (protocol : UInt8) :
    Handler (Option Text) :=
  (request Op.getImeiBySocket).bind fun connectionImei =>
    ((dispatch cfg ip packet protocol connectionImei).rescue fun _ => .pure none).bind
      fun currentImei => (acknowledge packet).bind fun _ => .pure currentImei

def ackFrame (protocol : UInt8) (serial : Bytes) : Bytes :=
  shortMarker ++ (0x05 :: protocol :: serial) ++
    bigEndianBytes 2 (crc16X25 (0x05 :: protocol :: serial)).toNat ++ [0x0D, 0x0A]

/-- An acknowledgement is one frame of ten bytes with the protocol byte that the packet is handled
by, and with the serial number of the packet, which stands behind that byte and in front of the
checksum and the stop bytes. -/
def Echoed (packet ack : Bytes) : Prop :=
  ack.length = 10 ∧ extractPackets ack = ([ack], []) ∧
    ∃ protocol serial, ack = ackFrame protocol serial ∧ serial.length = 2 ∧
      (∀ cfg ip, processPacket cfg ip packet = handling cfg ip packet protocol) ∧
      ∃ front trailer, packet = front ++ (serial ++ trailer) ∧ trailer.length = 4 ∧
        packet[protocolIndex packet]? = some protocol ∧ protocolIndex packet < front.length

section Built

variable {packet : Bytes} {protocol : UInt8}

theorem buildAck_eq (found : packet[protocolIndex packet]? = some protocol) :
    buildAck packet = .ok (ackFrame protocol (serialBytes packet)) := by
  rw [buildAck, index_eq_ok_iff.mpr found]
  rfl

theorem processPacket_eq (formed : WellFormed packet)
    (found : packet[protocolIndex packet]? = some protocol) (cfg : Config) (ip : Text) :
    processPacket cfg ip packet = handling cfg ip packet protocol := by
  have marked : packet.take 2 = shortMarker ∨ packet.take 2 = longMarker := by
    rcases shape_of_wellFormed formed with ⟨short, -⟩ | ⟨long, -⟩
    · exact .inl short
    · exact .inr long
  rw [processPacket, if_pos marked, index_eq_ok_iff.mpr found]
  rfl

theorem ackFrame_length (protocol : UInt8) (serial : Bytes) :
    (ackFrame protocol serial).length = serial.length + 8 := by
  simp only [ackFrame, shortMarker, List.length_append, List.length_cons, List.length_nil,
    bigEndianBytes_length]
  omega

theorem ackFrame_packet {serial : Bytes} (two : serial.length = 2) :
    extractPackets (ackFrame protocol serial) = ([ackFrame protocol serial], []) := by
  have formed : WellFormed (ackFrame protocol serial) := by
    rw [WellFormed, ackFrame_length, two]
    rfl
  exact extractPackets_alone formed

theorem serial_behind (formed : WellFormed packet) (room : 5 ≤ declared packet) :
    (serialBytes packet).length = 2 ∧ ∃ front trailer,
      packet = front ++ (serialBytes packet ++ trailer) ∧ trailer.length = 4 ∧
        protocolIndex packet < front.length := by
  have enough : 6 ≤ packet.length := by
    rcases shape_of_wellFormed formed with ⟨-, -, size⟩ | ⟨-, -, size⟩ <;> omega
  have two : (serialBytes packet).length = 2 := by
    rw [serialBytes, slice_length]
    omega
  refine ⟨two, packet.take (packet.length - 6), packet.drop (packet.length - 4), ?_, ?_, ?_⟩
  · have kept : packet.take (packet.length - 6) ++ serialBytes packet =
        packet.take (packet.length - 4) := by
      have joined := slice_append_slice packet (Nat.zero_le (packet.length - 6))
        (show packet.length - 6 ≤ packet.length - 4 by omega)
      simpa only [slice, List.drop_zero, serialBytes] using joined
    rw [← List.append_assoc, kept, List.take_append_drop]
  · rw [List.length_drop]
    omega
  · rw [List.length_take]
    rcases shape_of_wellFormed formed with ⟨-, place, size⟩ | ⟨-, place, size⟩ <;> omega

/-- The acknowledgement of a packet that the framer emits echoes it exactly if the packet declares
room for a protocol byte, a serial number and a checksum. -/
theorem ack_echoed_iff (packet : Bytes) (emitted : Emitted packet) :
    (∃ ack, buildAck packet = .ok ack ∧ Echoed packet ack) ↔ 5 ≤ declared packet := by
  have formed := emitted_iff.mp emitted
  constructor
  · rintro ⟨ack, -, -, -, protocol, serial, -, two, -, front, trailer, whole, four, -, behind⟩
    have size := congrArg List.length whole
    rw [List.length_append, List.length_append, two, four] at size
    rcases shape_of_wellFormed formed with ⟨-, place, length⟩ | ⟨-, place, length⟩ <;> omega
  · intro room
    obtain ⟨protocol, found⟩ := protocol_of_wellFormed formed
    obtain ⟨two, front, trailer, whole, four, behind⟩ := serial_behind formed room
    refine ⟨_, buildAck_eq found, ?_, ackFrame_packet two, protocol, serialBytes packet, rfl, two,
      processPacket_eq formed found, front, trailer, whole, four, found, behind⟩
    rw [ackFrame_length, two]

end Built

def bareStatus : Bytes := [0x78, 0x78, 0x05, 0x13, 0x00, 0x01, 0xE9, 0xF1, 0x0D, 0x0A]

theorem bareStatus_echoed : ∃ ack, buildAck bareStatus = .ok ack ∧ Echoed bareStatus ack :=
  (ack_echoed_iff bareStatus (emitted_iff.mpr rfl)).mpr (by decide)

def shortest : Bytes := [0x78, 0x78, 0x00, 0x0D, 0x0A]

/-- The shortest packet is acknowledged by nine bytes, of which the framer cuts none, and of its
serial number one byte is sent, which is its first byte. -/
theorem shortest_unechoed : Emitted shortest ∧
    (∃ ack, buildAck shortest = .ok ack ∧ ack = ackFrame 0x0D [0x78] ∧ ack.length = 9 ∧
      extractPackets ack = ([], ack)) ∧
    ¬ ∃ ack, buildAck shortest = .ok ack ∧ Echoed shortest ack := by
  have built : buildAck shortest = .ok (ackFrame 0x0D [0x78]) := rfl
  refine ⟨emitted_iff.mpr rfl, ⟨_, built, rfl, rfl, ?_⟩, ?_⟩
  · exact extractPackets_unfinished (.inr ⟨10, by decide, by decide⟩)
  · rintro ⟨ack, same, ten, -⟩
    rw [built] at same
    cases same
    cases ten

def sent : Op → Option Bytes
  | .write payload => some payload
  | _ => none

section Once

variable {packet ack : Bytes}

theorem acknowledge_plans (built : buildAck packet = .ok ack) :
    Plans (fun _ => True) sent (acknowledge packet) [ack] fun _ => True := by
  have drained : Attempts (fun _ => True) sent drainSocket [] :=
    (plans_request Op.drain).andThen fun answer _ => attempts_demand answer
  have written : Attempts (fun _ => True) sent
      ((writeSocket ack).bind fun _ => drainSocket) [ack] := by
    refine Attempts.andQuiet ?_ fun _ => drained
    exact (plans_request (Op.write ack)).andThen fun answer _ => attempts_demand answer
  rw [acknowledge]
  rw [built]
  exact written.rescue fun _ => plans_pure trivial

theorem dispatch_silent (cfg : Config) (ip : Text) (protocol : UInt8)
    (connectionImei : Option Text) :
    Attempts (fun _ => True) sent (dispatch cfg ip packet protocol connectionImei) [] := by
  refine (Services.Language.inward_dispatchV5 cfg ip protocol).attempts ?_
  intro o inward
  cases o with
  | write payload => exact inward.elim
  | _ => rfl

/-- Whatever the state of the gateway, and whatever raises, a packet that the framer emits is
handled without an exception, and exactly one write is attempted, of its acknowledgement. -/
theorem acknowledged_once (cfg : Config) (ip : Text) (packet : Bytes) (emitted : Emitted packet) :
    ∃ ack, buildAck packet = .ok ack ∧
      ∀ trace outcome, Executes (processPacket cfg ip packet) trace outcome →
        (∃ imei?, outcome = .ok imei?) ∧ attempted sent trace = [ack] := by
  have formed := emitted_iff.mp emitted
  obtain ⟨protocol, found⟩ := protocol_of_wellFormed formed
  have built := buildAck_eq found
  refine ⟨_, built, ?_⟩
  intro trace outcome runs
  rw [processPacket_eq formed found] at runs
  have looked : Plans (fun _ => True) sent
      (request Op.getImeiBySocket : Handler (Option Text)) [] fun _ => True :=
    (plans_request Op.getImeiBySocket).mono fun _ _ => trivial
  have planned : Plans (fun _ => True) sent (handling cfg ip packet protocol)
      ([] ++ ([] ++ ([ackFrame protocol (serialBytes packet)] ++ []))) fun _ => True := by
    refine looked.bind fun connectionImei _ => ?_
    refine ((dispatch_silent cfg ip protocol connectionImei).rescue fun _ =>
      plans_pure trivial).bind fun currentImei _ => ?_
    exact (acknowledge_plans built).bind fun _ _ => plans_pure trivial
  obtain ⟨seen, imei?, returned, -⟩ := planned trace outcome runs fun _ _ => trivial
  exact ⟨⟨imei?, returned⟩, seen⟩

end Once

/-- Surroundings in which the connection is unknown and everything that can raise does. -/
def failing : (o : Op) → Res o
  | .getImeiBySocket | .getDevice _ | .lastAlive _ | .lastIgnition _ => none
  | .utcNow => (0 : ℤ)
  | .monotonic | .random => (0 : ℚ)
  | .write _ | .drain | .getDeviceByImei .. | .getVehicleByDevice _ | .execute _ =>
      .error .timeoutError
  | .registerDevice .. | .notePosition .. | .setLastAlive .. | .setLastIgnition ..
  | .forgetStatus _ | .close | .log _ => ()

/-- A login whose lookup raises, and whose acknowledgement cannot be written. -/
theorem acknowledged_once_failing : ∃ ack, buildAck (Server.loginFrame 7) = .ok ack ∧
    attempted sent (play failing (processPacket defaults [] (Server.loginFrame 7))).1 = [ack] := by
  obtain ⟨ack, built, once⟩ := acknowledged_once defaults [] (Server.loginFrame 7)
    (emitted_iff.mpr rfl)
  exact ⟨ack, built, (once _ _ (executes_play failing _)).2⟩

end TrackerGateway.Packets.Acknowledgements
