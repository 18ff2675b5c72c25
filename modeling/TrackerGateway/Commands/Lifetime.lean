/- module: TrackerGateway/Commands/Lifetime
   source: src/utils/command_builder.py
   digest: Which commands of a process can be built, after any history of commands. -/

import TrackerGateway.Utils.CommandBuilder

set_option autoImplicit false
set_option relaxedAutoImplicit false

namespace TrackerGateway.Commands.Lifetime

open Foundation.Wire
open TrackerGateway.Runtime
open Utils.CommandBuilder

/-- The longest command text whose frame has a one-byte length. -/
def maxCommand : Nat := 243

theorem serverFlag_length : serverFlag.length = 4 := rfl

theorem language_length : language.length = 2 := rfl

theorem asciiBytes_length (text : Text) : (asciiBytes text).length = text.length :=
  List.length_map ..

theorem commandFrame_ok {command : Text} {value : Nat} (ascii : isAscii command = true)
    (short : command.length ≤ maxCommand) (small : value < 256 ^ 2) :
    ∃ frame, commandFrame command value = .ok frame := by
  have length := asciiBytes_length command
  have inner : serverFlag.length + (asciiBytes command).length < 256 := by
    rw [serverFlag_length, length]
    exact Nat.lt_of_le_of_lt (Nat.add_le_add_left short 4) (by decide)
  have outer : ([0x80] ++ [UInt8.ofNat (serverFlag.length + (asciiBytes command).length)] ++
      serverFlag ++ asciiBytes command ++ language ++ bigEndianBytes 2 value).length + 2 <
      256 := by
    simp only [List.length_append, List.length_singleton, serverFlag_length, language_length,
      bigEndianBytes_length, length]
    have : command.length ≤ 243 := short
    omega
  have whole := commandFrame.eq_def command value
  simp only [toBytes_ok small, encodeAscii_ok ascii, oneByte_ok inner, oneByte_ok outer, bind,
    Except.bind, pure, Except.pure] at whole
  exact ⟨_, whole⟩

theorem commandFrame_late {command : Text} {value : Nat} (large : 256 ^ 2 ≤ value) :
    commandFrame command value = .error tooBig := by
  have whole := commandFrame.eq_def command value
  rwa [toBytes, if_neg (not_lt.mpr large)] at whole

theorem commandFrame_ok_iff {command : Text} {value : Nat} (ascii : isAscii command = true)
    (short : command.length ≤ maxCommand) :
    (∃ frame, commandFrame command value = .ok frame) ↔ value < 256 ^ 2 := by
  constructor
  · rintro ⟨frame, built⟩
    by_contra large
    rw [commandFrame_late (not_lt.mp large)] at built
    cases built
  · exact commandFrame_ok ascii short

/-- The serial number after the commands of a process so far, built or not. -/
def serialAfter (history : List Text) : Nat :=
  history.foldl (fun serial command => (buildCommand command serial).2) firstSerial

theorem serialAfter_eq (history : List Text) : serialAfter history = history.length + 1 := by
  have counts : ∀ serial, history.foldl (fun serial command => (buildCommand command serial).2)
      serial = serial + history.length := by
    induction history with
    | nil => exact fun serial => rfl
    | cons command history ih =>
        intro serial
        rw [List.foldl_cons, ih, List.length_cons]
        change serial + 1 + _ = _
        omega
  rw [serialAfter, counts, firstSerial, Nat.add_comm]

/-- The next command of a process is built exactly as long as fewer than 65535 were asked for. -/
theorem command_built_iff (history : List Text) {command : Text}
    (ascii : isAscii command = true) (short : command.length ≤ maxCommand) :
    (∃ frame, (buildCommand command (serialAfter history)).1 = .ok frame) ↔
      history.length < 65535 := by
  have next : (buildCommand command (serialAfter history)).1 =
      commandFrame command (history.length + 1) := by
    rw [serialAfter_eq]
    rfl
  rw [next, commandFrame_ok_iff ascii short]
  omega

/-- Two commands, the second of them too long to be built. -/
def earlier : List Text := ["STATUS#".toList, List.replicate 300 'A']

theorem command_built_third : serialAfter earlier = 3 ∧
    ∃ frame, (buildCommand "WHERE#".toList (serialAfter earlier)).1 = .ok frame :=
  ⟨serialAfter_eq earlier, (command_built_iff earlier (by decide) (by decide)).mpr (by decide)⟩

/-- After 65535 queries the relay can no longer be switched, nor the device reset. -/
theorem controls_lost :
    (buildRelayOn (serialAfter (List.replicate 65535 "WHERE#".toList))).1 = .error tooBig ∧
    (buildRelayOff (serialAfter (List.replicate 65535 "WHERE#".toList))).1 = .error tooBig ∧
    (buildReset (serialAfter (List.replicate 65535 "WHERE#".toList))).1 = .error tooBig := by
  have late : ∀ command, (buildCommand command
      (serialAfter (List.replicate 65535 "WHERE#".toList))).1 = .error tooBig := by
    intro command
    rw [serialAfter_eq, List.length_replicate]
    exact commandFrame_late (by decide)
  exact ⟨late _, late _, late _⟩

end TrackerGateway.Commands.Lifetime
