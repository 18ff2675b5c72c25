/- module: TrackerGateway/Services/Statuses
   source: src/services/tracking_service.py
   digest: What the five statements on the status row of a device do to the table. -/

import TrackerGateway.Foundation.Table.Keyed
import TrackerGateway.Services.Storage

set_option autoImplicit false
set_option relaxedAutoImplicit false

namespace TrackerGateway.Services

open Foundation.Coroutine (Program Executes request)
open Foundation.Table
open Foundation.Wire (Text Instant)
open TrackerGateway.Runtime

structure StatusRow where
  deviceId : Text
  isOnline : Bool
  lastHeartbeat : Option Instant
  lastSeen : Instant
  gpsSignal : Nat
  batteryLevel : Nat
  ignitionStatus : Bool
  movementStatus : Bool
  powerStatus : Nat
  updatedAt : Instant
  deriving DecidableEq

namespace Statuses

/-- A call of one of the five functions that write the status of a device. -/
inductive Call
  | updateDeviceStatus (deviceId : Text) (batteryLevel gpsSignal : Nat)
      (ignitionStatus movementStatus : Bool) (powerStatus : Nat)
  | markDeviceAlive (deviceId : Text) (heartbeat : Bool)
  | setIgnition (deviceId : Text) (ignitionStatus : Bool)
  | updateHeartbeat (deviceId : Text)
  | setDeviceOffline (deviceId : Text)

def Call.deviceId : Call → Text
  | updateDeviceStatus deviceId .. | markDeviceAlive deviceId _ | setIgnition deviceId _
  | updateHeartbeat deviceId | setDeviceOffline deviceId => deviceId

/-- Every column of the row is overwritten. -/
def updateDeviceStatus (now : Instant) (deviceId : Text) (batteryLevel gpsSignal : Nat)
    (ignitionStatus movementStatus : Bool) (powerStatus : Nat) : List StatusRow → List StatusRow :=
  upsert StatusRow.deviceId
    (fun old new => { old with
      isOnline := new.isOnline
      lastHeartbeat := new.lastHeartbeat
      lastSeen := new.lastSeen
      gpsSignal := new.gpsSignal
      batteryLevel := new.batteryLevel
      ignitionStatus := new.ignitionStatus
      movementStatus := new.movementStatus
      powerStatus := new.powerStatus
      updatedAt := new.updatedAt })
    ⟨deviceId, true, some now, now, gpsSignal, batteryLevel, ignitionStatus, movementStatus,
      powerStatus, now⟩

/-- The device is online; a call without a heartbeat keeps the time of the last one. -/
def markDeviceAlive (now : Instant) (deviceId : Text) (heartbeat : Bool) :
    List StatusRow → List StatusRow :=
  upsert StatusRow.deviceId
    (fun old new => { old with
      isOnline := true
      lastHeartbeat := new.lastHeartbeat.or old.lastHeartbeat
      lastSeen := new.lastSeen
      updatedAt := new.updatedAt })
    ⟨deviceId, true, if heartbeat then some now else none, now, 0, 0, false, false, 0, now⟩

def setIgnition (now : Instant) (deviceId : Text) (ignitionStatus : Bool) :
    List StatusRow → List StatusRow :=
  upsert StatusRow.deviceId
    (fun old new => { old with
      ignitionStatus := new.ignitionStatus
      lastSeen := new.lastSeen
      updatedAt := new.updatedAt })
    ⟨deviceId, true, none, now, 0, 0, ignitionStatus, false, 0, now⟩

def updateHeartbeat (now : Instant) (deviceId : Text) : List StatusRow → List StatusRow :=
  updateAt StatusRow.deviceId deviceId fun row => { row with
    isOnline := true
    lastHeartbeat := some now
    lastSeen := now
    updatedAt := now }

def setDeviceOffline (now : Instant) (deviceId : Text) : List StatusRow → List StatusRow :=
  updateAt StatusRow.deviceId deviceId fun row => { row with isOnline := false, updatedAt := now }

def Call.apply (now : Instant) : Call → List StatusRow → List StatusRow
  | updateDeviceStatus deviceId batteryLevel gpsSignal ignitionStatus movementStatus powerStatus =>
      Statuses.updateDeviceStatus now deviceId batteryLevel gpsSignal ignitionStatus movementStatus
        powerStatus
  | markDeviceAlive deviceId heartbeat => Statuses.markDeviceAlive now deviceId heartbeat
  | setIgnition deviceId ignitionStatus => Statuses.setIgnition now deviceId ignitionStatus
  | updateHeartbeat deviceId => Statuses.updateHeartbeat now deviceId
  | setDeviceOffline deviceId => Statuses.setDeviceOffline now deviceId

abbrev rowOf (deviceId : Text) (rows : List StatusRow) : Option StatusRow :=
  lookup StatusRow.deviceId deviceId rows

/-- What a call makes of the row of its device, or of its absence. -/
def Call.effect (now : Instant) : Call → Option StatusRow → Option StatusRow
  | updateDeviceStatus deviceId batteryLevel gpsSignal ignitionStatus movementStatus
      powerStatus, _ =>
      some ⟨deviceId, true, some now, now, gpsSignal, batteryLevel, ignitionStatus, movementStatus,
        powerStatus, now⟩
  | markDeviceAlive deviceId heartbeat, none =>
      some ⟨deviceId, true, if heartbeat then some now else none, now, 0, 0, false, false, 0, now⟩
  | markDeviceAlive _ heartbeat, some row => some { row with
      isOnline := true
      lastHeartbeat := if heartbeat then some now else row.lastHeartbeat
      lastSeen := now
      updatedAt := now }
  | setIgnition deviceId ignitionStatus, none =>
      some ⟨deviceId, true, none, now, 0, 0, ignitionStatus, false, 0, now⟩
  | setIgnition _ ignitionStatus, some row =>
      some { row with ignitionStatus, lastSeen := now, updatedAt := now }
  | updateHeartbeat _, row? => row?.map fun row =>
      { row with isOnline := true, lastHeartbeat := some now, lastSeen := now, updatedAt := now }
  | setDeviceOffline _, row? => row?.map fun row => { row with isOnline := false, updatedAt := now }

section Laws

variable {rows : List StatusRow} {now : Instant} {call : Call} {deviceId : Text}

theorem unique_apply (unique : Unique StatusRow.deviceId rows) :
    Unique StatusRow.deviceId (call.apply now rows) := by
  cases call with
  | updateHeartbeat => exact unique.updateAt fun _ => rfl
  | setDeviceOffline => exact unique.updateAt fun _ => rfl
  | _ => exact unique.upsert fun _ same => same

theorem rowOf_apply_ne {other : Text} (distinct : other ≠ call.deviceId) :
    rowOf other (call.apply now rows) = rowOf other rows := by
  have changed : ∀ (change : StatusRow → StatusRow), (∀ row, (change row).deviceId = row.deviceId) →
      rowOf other (updateAt StatusRow.deviceId call.deviceId change rows) = rowOf other rows := by
    intro change keeps
    rw [rowOf, lookup_updateAt keeps, if_neg distinct]
  cases call with
  | updateHeartbeat => exact changed _ fun _ => rfl
  | setDeviceOffline => exact changed _ fun _ => rfl
  | _ => exact lookup_upsert_ne (fun _ same => same) distinct

theorem rowOf_upsert {merge : StatusRow → StatusRow → StatusRow} {row : StatusRow}
    (keeps : ∀ old, old.deviceId = row.deviceId → (merge old row).deviceId = row.deviceId)
    (own : row.deviceId = deviceId) :
    rowOf deviceId (upsert StatusRow.deviceId merge row rows) =
      some (match rowOf deviceId rows with
        | some old => merge old row
        | none => row) := by
  subst own
  unfold rowOf
  rw [lookup_upsert_self keeps]
  cases lookup StatusRow.deviceId row.deviceId rows <;> rfl

theorem rowOf_updateAt {change : StatusRow → StatusRow}
    (keeps : ∀ row, (change row).deviceId = row.deviceId) :
    rowOf deviceId (updateAt StatusRow.deviceId deviceId change rows) =
      (rowOf deviceId rows).map change :=
  (lookup_updateAt keeps deviceId).trans (if_pos rfl)

theorem rowOf_apply_self :
    rowOf call.deviceId (call.apply now rows) = call.effect now (rowOf call.deviceId rows) := by
  cases call with
  | updateDeviceStatus deviceId batteryLevel gpsSignal ignition movement power =>
      dsimp only [Call.deviceId]
      refine (rowOf_upsert ?_ ?_).trans ?_
      · exact fun _ same => same
      · rfl
      · cases found : rowOf deviceId rows with
        | none => rfl
        | some old =>
            have same : old.deviceId = deviceId := key_of_lookup found
            simp [Call.effect, same]
  | markDeviceAlive deviceId heartbeat =>
      dsimp only [Call.deviceId]
      refine (rowOf_upsert ?_ ?_).trans ?_
      · exact fun _ same => same
      · rfl
      · cases rowOf deviceId rows <;> cases heartbeat <;> rfl
  | setIgnition deviceId ignition =>
      dsimp only [Call.deviceId]
      refine (rowOf_upsert ?_ ?_).trans ?_
      · exact fun _ same => same
      · rfl
      · cases rowOf deviceId rows <;> rfl
  | updateHeartbeat deviceId =>
      apply rowOf_updateAt
      exact fun _ => rfl
  | setDeviceOffline deviceId =>
      apply rowOf_updateAt
      exact fun _ => rfl

end Laws

/-- The handler function of a call; the server itself marks a device as offline. -/
def Call.program : Call → Option (Handler Unit)
  | updateDeviceStatus deviceId batteryLevel gpsSignal ignitionStatus movementStatus powerStatus =>
      some (Services.updateDeviceStatus deviceId batteryLevel gpsSignal ignitionStatus
        movementStatus powerStatus)
  | markDeviceAlive deviceId heartbeat => some (Services.markDeviceAlive deviceId heartbeat)
  | setIgnition deviceId ignitionStatus => some (Services.setIgnition deviceId ignitionStatus)
  | updateHeartbeat deviceId => some (Services.updateHeartbeat deviceId)
  | setDeviceOffline _ => none

def Call.statement (now : Instant) : Call → Option DbWrite
  | updateDeviceStatus deviceId batteryLevel gpsSignal ignitionStatus movementStatus powerStatus =>
      some (.deviceStatus deviceId batteryLevel gpsSignal ignitionStatus movementStatus powerStatus
        now)
  | markDeviceAlive deviceId heartbeat => some (.deviceAlive deviceId heartbeat now)
  | setIgnition deviceId ignitionStatus => some (.ignition deviceId ignitionStatus now)
  | updateHeartbeat deviceId => some (.heartbeat deviceId now)
  | setDeviceOffline _ => none

private theorem executes_timed {call : Call} {trace : List Answered} {outcome : Except Exn Unit}
    (statement : Instant → DbWrite) (binds : ∀ now, call.statement now = some (statement now))
    (ran : Executes ((request Op.utcNow).bind fun now => (execute (statement now)).bind fun _ =>
      .pure ()) trace outcome) :
    ∃ now statement answer, call.statement now = some statement ∧
      trace = [⟨.utcNow, now⟩, ⟨.execute statement, answer⟩] ∧
      outcome = answer.map fun _ => () := by
  obtain ⟨now, rest, rfl, answer, last, rfl, ended⟩ := ran
  cases answer with
  | ok written =>
      obtain ⟨rfl, rfl⟩ := ended
      exact ⟨now, statement now, .ok written, binds now, rfl, rfl⟩
  | error e =>
      obtain ⟨rfl, rfl⟩ := ended
      exact ⟨now, statement now, .error e, binds now, rfl, rfl⟩

/-- A handler function reads the clock once, runs the statement of its call, and raises what the
statement raises. -/
theorem executes_program {call : Call} {program : Handler Unit} (is : call.program = some program)
    {trace : List Answered} {outcome : Except Exn Unit} (ran : Executes program trace outcome) :
    ∃ now statement answer, call.statement now = some statement ∧
      trace = [⟨.utcNow, now⟩, ⟨.execute statement, answer⟩] ∧
      outcome = answer.map fun _ => () := by
  cases call with
  | updateDeviceStatus deviceId batteryLevel gpsSignal ignition movement power =>
      obtain rfl := Option.some.inj is
      exact executes_timed (.deviceStatus deviceId batteryLevel gpsSignal ignition movement power)
        (fun _ => rfl) ran
  | markDeviceAlive deviceId heartbeat =>
      obtain rfl := Option.some.inj is
      exact executes_timed (.deviceAlive deviceId heartbeat) (fun _ => rfl) ran
  | setIgnition deviceId ignition =>
      obtain rfl := Option.some.inj is
      exact executes_timed (.ignition deviceId ignition) (fun _ => rfl) ran
  | updateHeartbeat deviceId =>
      obtain rfl := Option.some.inj is
      exact executes_timed (.heartbeat deviceId) (fun _ => rfl) ran
  | setDeviceOffline deviceId => cases is

end Statuses

end TrackerGateway.Services
