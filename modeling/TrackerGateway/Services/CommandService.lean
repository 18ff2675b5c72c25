/- module: TrackerGateway/Services/CommandService
   source: src/services/command_service.py, src/services/gps103_command_service.py
   digest: Sending a command to a connected device, up to the bytes handed to its writer. -/

import TrackerGateway.Services.DeviceRegistry
import TrackerGateway.Utils.CommandBuilder
import TrackerGateway.Utils.Gps103CommandBuilder

set_option autoImplicit false
set_option relaxedAutoImplicit false

namespace TrackerGateway.Services.CommandService

open Foundation.Wire
open TrackerGateway.Runtime
open Utils.CommandBuilder
open Utils.Gps103CommandBuilder

def deviceOffline : Exn := .foreign "Exception".toList "Device Offline".toList

def unsupported (message : Text) : Exn := .foreign "UnsupportedCommandError".toList message

/-- Where `send_command` writes a frame: only to a device of the V5 family. -/
def sendCommand (registry : Registry) (imei : Text) (command : Bytes) :
    Except Exn (Conn × Bytes) :=
  match registry.getDevice imei with
  | none => .error deviceOffline
  | some entry =>
      if entry.protocol ≠ .gt06 then
        .error (unsupported ("Commands are not supported yet for ".toList ++
          entry.protocol.name ++ " devices".toList))
      else .ok (entry.socket, command)

def supported : List (Text × (Text → Except Exn Bytes)) :=
  [("where".toList, buildSinglePosition), ("position".toList, buildSinglePosition),
    ("url".toList, buildSinglePosition), ("relay_on".toList, buildEngineResume)]

/-- What `send_gps103_command` writes, and where: only to a device of the TK103 family. -/
def sendGps103Command (registry : Registry) (imei command : Text) :
    Except Exn (Conn × Bytes) :=
  match registry.getDevice imei with
  | none => .error deviceOffline
  | some entry =>
      if entry.protocol ≠ .gps103 then .error (unsupported "Not a GPS103 device".toList)
      else
        match supported.lookup command with
        | none =>
            if command = "relay_off".toList then
              .error (unsupported
                "Engine cut (relay_off) is disabled for GPS103 devices for safety".toList)
            else
              .error (unsupported ("'".toList ++ command ++ ("' is not available over the data " ++
                "connection for GPS103 (TK103) devices; it has to be sent to the device by " ++
                "SMS").toList))
        | some builder => (builder imei).map fun payload => (entry.socket, payload)

inductive Call
  | sendCommand (imei : Text) (build : Builder)
  | sendGps103Command (imei command : Text)

def Call.imei : Call → Text
  | .sendCommand imei _ => imei
  | .sendGps103Command imei _ => imei

def Call.family : Call → Family
  | .sendCommand .. => .gt06
  | .sendGps103Command .. => .gps103

def Call.Builds : Call → Bytes → Prop
  | .sendCommand _ build, payload => ∃ serial, (build serial).1 = .ok payload
  | .sendGps103Command imei command, payload =>
      ∃ builder, supported.lookup command = some builder ∧ builder imei = .ok payload

/-- The stretch of a coroutine up to its write: the connection and the bytes, or an exception; and
the serial number that is next. -/
def Call.start (registry : Registry) (serial : Nat) : Call → Except Exn (Conn × Bytes) × Nat
  | .sendCommand imei build =>
      match build serial with
      | (.ok command, later) => (CommandService.sendCommand registry imei command, later)
      | (.error e, later) => (.error e, later)
  | .sendGps103Command imei command =>
      (CommandService.sendGps103Command registry imei command, serial)

section Sent

variable {registry : Registry} {imei : Text} {conn : Conn} {payload : Bytes}

theorem sendCommand_ok {command : Bytes}
    (sent : CommandService.sendCommand registry imei command = .ok (conn, payload)) :
    payload = command ∧ ∃ entry, registry.getDevice imei = some entry ∧ entry.socket = conn ∧
      entry.protocol = .gt06 := by
  rw [CommandService.sendCommand] at sent
  split at sent
  · cases sent
  · next entry found =>
      split at sent
      · cases sent
      · next family =>
          cases sent
          exact ⟨rfl, entry, found, rfl, not_not.mp family⟩

theorem sendGps103Command_ok {command : Text}
    (sent : CommandService.sendGps103Command registry imei command = .ok (conn, payload)) :
    (∃ builder, supported.lookup command = some builder ∧ builder imei = .ok payload) ∧
      ∃ entry, registry.getDevice imei = some entry ∧ entry.socket = conn ∧
        entry.protocol = .gps103 := by
  rw [CommandService.sendGps103Command] at sent
  split at sent
  · cases sent
  · next entry found =>
      split at sent
      · cases sent
      · next family =>
          split at sent
          · split at sent <;> cases sent
          · next builder known =>
              cases built : builder imei with
              | error e =>
                  rw [built] at sent
                  cases sent
              | ok bytes =>
                  rw [built] at sent
                  cases sent
                  exact ⟨⟨builder, known, built⟩, entry, found, rfl, not_not.mp family⟩

/-- A coroutine writes to the connection its identity is registered for, if that is of the right
family, and what it writes it has built. -/
theorem Call.start_ok {serial : Nat} {call : Call}
    (started : (call.start registry serial).1 = .ok (conn, payload)) :
    call.Builds payload ∧ ∃ entry, registry.getDevice call.imei = some entry ∧
      entry.socket = conn ∧ entry.protocol = call.family := by
  cases call with
  | sendCommand imei build =>
      simp only [Call.start] at started
      split at started
      · next command later built =>
          obtain ⟨rfl, target⟩ := sendCommand_ok started
          exact ⟨⟨serial, by rw [built]⟩, target⟩
      · cases started
  | sendGps103Command imei command => exact sendGps103Command_ok started

end Sent

end TrackerGateway.Services.CommandService
