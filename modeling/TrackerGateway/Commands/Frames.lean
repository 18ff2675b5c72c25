/- module: TrackerGateway/Commands/Frames
   source: src/utils/command_builder.py (build_command), src/parsers/v5_parser.py (crc16_x25),
     src/utils/packet_buffer.py
   digest: The frame of every command that fits is one packet that tells its text and its serial
     number. -/

import TrackerGateway.Commands.Lifetime
import TrackerGateway.Framing.V5
import TrackerGateway.Packets.Fields

set_option autoImplicit false
set_option relaxedAutoImplicit false

namespace TrackerGateway.Commands.Frames

open Foundation.Wire
open TrackerGateway.Runtime
open Framing.V5 (WellFormed declaredLength extractPackets_alone extractPackets_flatten)
open Lifetime (asciiBytes_length maxCommand)
open Packets (byteAt)
open Parsers.V5
open Utils.CommandBuilder

/-- The text of a command, from the place that its inner length gives. -/
def textOf (frame : Bytes) : Option Text := asciiStrict (slice frame 9 (5 + byteAt frame 4))

def serialOf (frame : Bytes) : Nat := bigEndian (serialBytes frame)

/-- The frame of a command: one packet whose two lengths, checksum and stop bytes are right, and
from which text and serial number are read back. -/
structure Framed (command : Text) (value : Nat) (frame : Bytes) : Prop where
  packet : extractPackets frame = ([frame], [])
  declared : frame.length = byteAt frame 2 + 5
  inner : byteAt frame 4 + 8 = byteAt frame 2
  flagged : slice frame 5 (5 + byteAt frame 4) = serverFlag ++ asciiBytes command
  checksum : slice frame (frame.length - 4) (frame.length - 2) =
    bigEndianBytes 2 (crc16X25 (slice frame 2 (frame.length - 4))).toNat
  ends : slice frame (frame.length - 2) frame.length = [0x0D, 0x0A]
  text : textOf frame = some command
  serial : serialOf frame = value

/-- What stands between the length byte and the serial number. -/
def content (command : Text) : Bytes :=
  0x80 :: UInt8.ofNat (command.length + 4) :: (serverFlag ++ (asciiBytes command ++ language))

/-- What the checksum is taken of. -/
def checked (command : Text) (value : Nat) : Bytes :=
  UInt8.ofNat (command.length + 12) :: (content command ++ bigEndianBytes 2 value)

def frameOf (command : Text) (value : Nat) : Bytes :=
  shortMarker ++ (checked command value ++
    (bigEndianBytes 2 (crc16X25 (checked command value)).toNat ++ [0x0D, 0x0A]))

section Layout

variable {command : Text} {value : Nat}

theorem content_length : (content command).length = command.length + 8 := by
  simp only [content, List.length_cons, List.length_append, asciiBytes_length]
  simp only [serverFlag, language, List.length_cons, List.length_nil]
  omega

theorem checked_length : (checked command value).length = command.length + 11 := by
  simp only [checked, List.length_cons, List.length_append, content_length, bigEndianBytes_length]

theorem frameOf_length : (frameOf command value).length = command.length + 17 := by
  simp only [frameOf, shortMarker, List.length_append, List.length_cons, List.length_nil,
    checked_length, bigEndianBytes_length]
  omega

theorem commandFrame_eq (ascii : isAscii command = true) (short : command.length ≤ maxCommand)
    (small : value < 256 ^ 2) : commandFrame command value = .ok (frameOf command value) := by
  have fits : command.length ≤ 243 := short
  have size := asciiBytes_length command
  have body : [0x80] ++ [UInt8.ofNat (serverFlag.length + (asciiBytes command).length)] ++
      serverFlag ++ asciiBytes command ++ language ++ bigEndianBytes 2 value =
      content command ++ bigEndianBytes 2 value := by
    rw [size, show serverFlag.length + command.length = command.length + 4 by
      rw [Lifetime.serverFlag_length, Nat.add_comm]]
    simp [content]
  have length : (content command ++ bigEndianBytes 2 value).length + 2 = command.length + 12 := by
    rw [List.length_append, content_length, bigEndianBytes_length]
  have inner : serverFlag.length + (asciiBytes command).length < 256 := by
    rw [Lifetime.serverFlag_length, size]
    omega
  have outer : command.length + 12 < 256 := by omega
  have whole := commandFrame.eq_def command value
  simp only [toBytes_ok small, encodeAscii_ok ascii, oneByte_ok inner, bind, Except.bind, pure,
    Except.pure, body, length, oneByte_ok outer] at whole
  rw [whole]
  simp only [frameOf, checked, List.append_assoc, List.cons_append, List.nil_append]

theorem frameOf_eq : frameOf command value = shortMarker ++ (UInt8.ofNat (command.length + 12) ::
    0x80 :: UInt8.ofNat (command.length + 4) :: (serverFlag ++ (asciiBytes command ++ (language ++
      (bigEndianBytes 2 value ++ (bigEndianBytes 2 (crc16X25 (checked command value)).toNat ++
        [0x0D, 0x0A])))))) := by
  simp only [frameOf, checked, content, List.append_assoc, List.cons_append]

theorem declared_eq (short : command.length ≤ maxCommand) :
    byteAt (frameOf command value) 2 = command.length + 12 := by
  have fits : command.length ≤ 243 := short
  rw [frameOf_eq]
  change (UInt8.ofNat (command.length + 12)).toNat = command.length + 12
  rw [UInt8.toNat_ofNat']
  omega

theorem inner_eq (short : command.length ≤ maxCommand) :
    byteAt (frameOf command value) 4 = command.length + 4 := by
  have fits : command.length ≤ 243 := short
  rw [frameOf_eq]
  change (UInt8.ofNat (command.length + 4)).toNat = command.length + 4
  rw [UInt8.toNat_ofNat']
  omega

theorem wellFormed_frameOf (short : command.length ≤ maxCommand) :
    WellFormed (frameOf command value) := by
  have marked : shortMarker.isPrefixOf (frameOf command value) = true := by
    rw [List.isPrefixOf_iff_prefix]
    exact List.prefix_append _ _
  have declared : ((frameOf command value).getD 2 0).toNat = command.length + 12 :=
    declared_eq short
  rw [WellFormed, declaredLength, if_pos marked, declared, frameOf_length]

theorem flagged_eq (short : command.length ≤ maxCommand) :
    slice (frameOf command value) 5 (5 + byteAt (frameOf command value) 4) =
      serverFlag ++ asciiBytes command := by
  have size := asciiBytes_length command
  have header : ([0x78, 0x78, UInt8.ofNat (command.length + 12), 0x80,
      UInt8.ofNat (command.length + 4)] : Bytes).length = 5 := rfl
  have parts : frameOf command value = [0x78, 0x78, UInt8.ofNat (command.length + 12), 0x80,
      UInt8.ofNat (command.length + 4)] ++ ((serverFlag ++ asciiBytes command) ++ (language ++
        (bigEndianBytes 2 value ++ (bigEndianBytes 2 (crc16X25 (checked command value)).toNat ++
          [0x0D, 0x0A])))) := by
    rw [frameOf_eq]
    simp [shortMarker]
  rw [inner_eq short, parts]
  refine slice_middle header.symm ?_
  rw [header, List.length_append, size, Lifetime.serverFlag_length]
  omega

theorem textOf_eq (ascii : isAscii command = true) (short : command.length ≤ maxCommand) :
    textOf (frameOf command value) = some command := by
  have behind : slice (frameOf command value) 9 (5 + byteAt (frameOf command value) 4) =
      (slice (frameOf command value) 5 (5 + byteAt (frameOf command value) 4)).drop 4 := by
    rw [slice, slice, List.drop_drop]
  rw [textOf, behind, flagged_eq short]
  exact asciiStrict_asciiBytes fun c member => by simpa using List.all_eq_true.mp ascii c member

theorem checksum_eq : slice (frameOf command value) ((frameOf command value).length - 4)
      ((frameOf command value).length - 2) =
        bigEndianBytes 2 (crc16X25 (checked command value)).toNat ∧
    slice (frameOf command value) 2 ((frameOf command value).length - 4) =
      checked command value := by
  have size : (checked command value).length = command.length + 11 := checked_length
  have front : (shortMarker ++ checked command value).length = command.length + 13 := by
    rw [List.length_append, size]
    exact Nat.add_comm 2 _
  rw [frameOf_length]
  constructor
  · have parts : frameOf command value = (shortMarker ++ checked command value) ++
        (bigEndianBytes 2 (crc16X25 (checked command value)).toNat ++ [0x0D, 0x0A]) := by
      rw [frameOf, List.append_assoc]
    rw [parts]
    refine slice_middle ?_ ?_
    · omega
    · rw [front, bigEndianBytes_length]
      omega
  · rw [frameOf]
    refine slice_middle rfl ?_
    rw [size]
    change command.length + 17 - 4 = 2 + (command.length + 11)
    omega

theorem ends_eq : slice (frameOf command value) ((frameOf command value).length - 2)
    (frameOf command value).length = [0x0D, 0x0A] := by
  have front : (shortMarker ++ (checked command value ++
      bigEndianBytes 2 (crc16X25 (checked command value)).toNat)).length =
      command.length + 15 := by
    rw [List.length_append, List.length_append, checked_length, bigEndianBytes_length]
    exact Nat.add_comm 2 _
  have parts : frameOf command value = (shortMarker ++ (checked command value ++
      bigEndianBytes 2 (crc16X25 (checked command value)).toNat)) ++ ([0x0D, 0x0A] ++ []) := by
    rw [frameOf, List.append_nil, List.append_assoc, List.append_assoc]
  rw [frameOf_length, parts]
  refine slice_middle ?_ ?_
  · omega
  · rw [front]
    rfl

theorem serialOf_eq (small : value < 256 ^ 2) : serialOf (frameOf command value) = value := by
  have front : (shortMarker ++ UInt8.ofNat (command.length + 12) :: content command).length =
      command.length + 11 := by
    rw [List.length_append, List.length_cons, content_length]
    exact Nat.add_comm 2 _
  have parts : frameOf command value = (shortMarker ++ UInt8.ofNat (command.length + 12) ::
      content command) ++ (bigEndianBytes 2 value ++
        (bigEndianBytes 2 (crc16X25 (checked command value)).toNat ++ [0x0D, 0x0A])) := by
    simp only [frameOf, checked, List.append_assoc, List.cons_append]
  have read : serialBytes (frameOf command value) = bigEndianBytes 2 value := by
    rw [serialBytes, frameOf_length, parts]
    refine slice_middle ?_ ?_
    · omega
    · rw [front, bigEndianBytes_length]
      omega
  rw [serialOf, read, bigEndian_bigEndianBytes, Nat.mod_eq_of_lt small]

theorem framed (ascii : isAscii command = true) (short : command.length ≤ maxCommand)
    (small : value < 256 ^ 2) : Framed command value (frameOf command value) where
  packet := extractPackets_alone (wellFormed_frameOf short)
  declared := by rw [declared_eq short, frameOf_length]
  inner := by rw [inner_eq short, declared_eq short]
  flagged := flagged_eq short
  checksum := by rw [checksum_eq.1, checksum_eq.2]
  ends := ends_eq
  text := textOf_eq ascii short
  serial := serialOf_eq small

end Layout

theorem length_of_oneByte {value : Nat} {b : Bytes} (one : oneByte value = .ok b) :
    b.length = 1 ∧ value < 256 := by
  unfold oneByte at one
  split at one
  · next small =>
      cases one
      exact ⟨rfl, small⟩
  · cases one

theorem length_of_toBytes {size value : Nat} {b : Bytes} (converted : toBytes size value = .ok b) :
    b.length = size := by
  unfold toBytes at converted
  split at converted
  · cases converted
    exact bigEndianBytes_length size value
  · cases converted

theorem length_of_encodeAscii {text : Text} {b : Bytes} (encoded : encodeAscii text = .ok b) :
    b.length = text.length := by
  unfold encodeAscii at encoded
  split at encoded
  · cases encoded
    exact asciiBytes_length text
  · cases encoded

theorem commandFrame_long {command : Text} {value : Nat} (long : maxCommand < command.length) :
    ∃ e, commandFrame command value = .error e := by
  have exceeds : 243 < command.length := long
  cases built : commandFrame command value with
  | error e => exact ⟨e, rfl⟩
  | ok frame =>
      simp only [commandFrame, bind_eq_ok_iff] at built
      obtain ⟨serial, numbered, bytes, encoded, inner, counted, outer, fits, -⟩ := built
      have two := length_of_toBytes numbered
      have whole := length_of_encodeAscii encoded
      have one := (length_of_oneByte counted).1
      have bound := (length_of_oneByte fits).2
      simp only [List.length_append, List.length_singleton, two, whole, one,
        Lifetime.serverFlag_length, Lifetime.language_length] at bound
      omega

theorem textOf_of_commandFrame {command : Text} {value : Nat} {frame : Bytes}
    (built : commandFrame command value = .ok frame) : textOf frame = some command := by
  have ascii : isAscii command = true := by
    simp only [commandFrame, bind_eq_ok_iff] at built
    obtain ⟨_, _, _, encoded, _⟩ := built
    unfold encodeAscii at encoded
    split at encoded
    · next ascii => exact ascii
    · cases encoded
  have short : command.length ≤ maxCommand := by
    by_contra long
    obtain ⟨e, failed⟩ : ∃ e, commandFrame command value = .error e :=
      commandFrame_long (not_le.mp long)
    rw [built] at failed
    cases failed
  have small : value < 256 ^ 2 := (Lifetime.commandFrame_ok_iff ascii short).mp ⟨frame, built⟩
  rw [commandFrame_eq ascii short small] at built
  cases built
  exact textOf_eq ascii short

structure Sendable (command : Text) (value : Nat) : Prop where
  ascii : isAscii command = true
  short : command.length ≤ maxCommand
  numbered : 1 ≤ value ∧ value ≤ 65535

/-- A command with a text of at most 243 ASCII characters is built as one packet that tells its text
and its serial number, also between other commands; a longer text raises. -/
theorem command_frames_recovered :
    (∀ command value, Sendable command value →
      ∃ frame, (buildCommand command value).1 = .ok frame ∧ Framed command value frame) ∧
    (∀ (commands : List (Text × Nat)) frames, (∀ c ∈ commands, Sendable c.1 c.2) →
      List.Forall₂ (fun c frame => (buildCommand c.1 c.2).1 = .ok frame) commands frames →
        extractPackets frames.flatten = (frames, [])) ∧
    (∀ command value command' value', Sendable command value → Sendable command' value' →
      (buildCommand command value).1 = (buildCommand command' value').1 →
        command = command' ∧ value = value') ∧
    (∀ command value, maxCommand < command.length →
      ∃ e, (buildCommand command value).1 = .error e) := by
  have small : ∀ {command value}, Sendable command value → value < 256 ^ 2 := by
    intro command value sendable
    have := sendable.numbered.2
    omega
  have built : ∀ {command value}, Sendable command value →
      (buildCommand command value).1 = .ok (frameOf command value) := fun sendable =>
    commandFrame_eq sendable.ascii sendable.short (small sendable)
  refine ⟨?_, ?_, ?_, ?_⟩
  · intro command value sendable
    exact ⟨_, built sendable, framed sendable.ascii sendable.short (small sendable)⟩
  · intro commands frames each made
    apply extractPackets_flatten
    induction made with
    | nil => simp
    | @cons c frame commands frames first later ih =>
        have sendable := each c List.mem_cons_self
        have whole := ih fun other member => each other (List.mem_cons_of_mem c member)
        rw [built sendable] at first
        cases first
        exact List.forall_mem_cons.mpr ⟨wellFormed_frameOf sendable.short, whole⟩
  · intro command value command' value' one other same
    rw [built one, built other] at same
    have frame := Except.ok.inj same
    have text : textOf (frameOf command value) = some command := textOf_eq one.ascii one.short
    have serial : serialOf (frameOf command value) = value := serialOf_eq (small one)
    rw [frame, textOf_eq other.ascii other.short] at text
    rw [frame, serialOf_eq (small other)] at serial
    exact ⟨(Option.some.inj text).symm, serial.symm⟩
  · intro command value long
    exact commandFrame_long long

/-- Two commands in one stream. -/
theorem command_frames_recovered_where : ∃ one other,
    (buildCommand "WHERE#".toList 1).1 = .ok one ∧ Framed "WHERE#".toList 1 one ∧
    (buildCommand "RELAY,1#".toList 2).1 = .ok other ∧
    extractPackets (one ++ other) = ([one, other], []) := by
  have first : Sendable "WHERE#".toList 1 := ⟨by decide, by decide, by decide⟩
  have second : Sendable "RELAY,1#".toList 2 := ⟨by decide, by decide, by decide⟩
  obtain ⟨each, together, -, -⟩ := command_frames_recovered
  obtain ⟨one, built, framed⟩ := each _ _ first
  obtain ⟨other, built', -⟩ := each _ _ second
  refine ⟨one, other, built, framed, built', ?_⟩
  have stream := together [("WHERE#".toList, 1), ("RELAY,1#".toList, 2)] [one, other]
    (List.forall_mem_cons.mpr ⟨first, List.forall_mem_cons.mpr ⟨second, by simp⟩⟩)
    (.cons built (.cons built' .nil))
  simpa using stream

end TrackerGateway.Commands.Frames
