/- module: TrackerGateway/Invariants/Statuses
   source: src/services/tracking_service.py, src/test/test_location_write_sql.py
   digest: What the status row of a device shows after any sequence of calls. -/

import TrackerGateway.Services.Statuses

set_option autoImplicit false
set_option relaxedAutoImplicit false

namespace TrackerGateway.Invariants.Statuses

open Foundation.Table
open Foundation.Wire (Text Instant)
open Services (StatusRow)
open Services.Statuses (Call rowOf unique_apply rowOf_apply_ne rowOf_apply_self)

/-- The table after calls, of which the newest comes first. -/
def after : List (Instant × Call) → List StatusRow
  | [] => []
  | (now, call) :: earlier => call.apply now (after earlier)

/-- The columns that only a whole status sets. -/
structure Telemetry where
  batteryLevel : Nat
  gpsSignal : Nat
  movementStatus : Bool
  powerStatus : Nat
  deriving DecidableEq

/-- What a row shows before anything was reported. -/
def Telemetry.neutral : Telemetry := ⟨0, 0, false, 0⟩

def telemetry (row : StatusRow) : Telemetry :=
  ⟨row.batteryLevel, row.gpsSignal, row.movementStatus, row.powerStatus⟩

def lastTelemetry (deviceId : Text) : List (Instant × Call) → Telemetry
  | [] => .neutral
  | (_, .updateDeviceStatus d batteryLevel gpsSignal _ movementStatus powerStatus) :: earlier =>
      if d = deviceId then ⟨batteryLevel, gpsSignal, movementStatus, powerStatus⟩
      else lastTelemetry deviceId earlier
  | _ :: earlier => lastTelemetry deviceId earlier

def lastIgnition (deviceId : Text) : List (Instant × Call) → Bool
  | [] => false
  | (_, .updateDeviceStatus d _ _ ignitionStatus _ _) :: earlier
  | (_, .setIgnition d ignitionStatus) :: earlier =>
      if d = deviceId then ignitionStatus else lastIgnition deviceId earlier
  | _ :: earlier => lastIgnition deviceId earlier

/-- What holds of the table after calls. -/
structure Framed (calls : List (Instant × Call)) : Prop where
  unique : Unique StatusRow.deviceId (after calls)
  others : ∀ now (call : Call) row, row.deviceId ≠ call.deviceId →
    (row ∈ call.apply now (after calls) ↔ row ∈ after calls)
  telemetry : ∀ row ∈ after calls, telemetry row = lastTelemetry row.deviceId calls
  ignition : ∀ row ∈ after calls, row.ignitionStatus = lastIgnition row.deviceId calls
  heartbeat : ∀ later earlier, calls = later ++ earlier →
    ∀ before ∈ after earlier, ∀ beat ∈ before.lastHeartbeat,
      ∃ row ∈ after calls, row.deviceId = before.deviceId ∧
        ∃ newer ∈ row.lastHeartbeat, beat ≤ newer

def Shows (deviceId : Text) (calls : List (Instant × Call)) (row? : Option StatusRow) : Prop :=
  (row?.map telemetry).getD .neutral = lastTelemetry deviceId calls ∧
    (row?.map StatusRow.ignitionStatus).getD false = lastIgnition deviceId calls

section Steps

variable {calls : List (Instant × Call)} {rows : List StatusRow} {now : Instant} {call : Call}

theorem shows_ne {deviceId : Text} {row? : Option StatusRow} (distinct : deviceId ≠ call.deviceId)
    (shows_ : Shows deviceId calls row?) : Shows deviceId ((now, call) :: calls) row? := by
  obtain ⟨columns, ignition⟩ := shows_
  cases call with
  | updateDeviceStatus => exact ⟨columns.trans (if_neg distinct.symm).symm,
      ignition.trans (if_neg distinct.symm).symm⟩
  | setIgnition => exact ⟨columns, ignition.trans (if_neg distinct.symm).symm⟩
  | _ => exact ⟨columns, ignition⟩

theorem shows_self {row? : Option StatusRow} (shows_ : Shows call.deviceId calls row?) :
    Shows call.deviceId ((now, call) :: calls) (call.effect now row?) := by
  obtain ⟨columns, ignition⟩ := shows_
  cases call with
  | updateDeviceStatus => exact ⟨(if_pos rfl).symm, (if_pos rfl).symm⟩
  | setIgnition =>
      cases row? with
      | none => exact ⟨columns, (if_pos rfl).symm⟩
      | some row => exact ⟨columns, (if_pos rfl).symm⟩
  | _ => cases row? <;> exact ⟨columns, ignition⟩

theorem shows_after (deviceId : Text) :
    Shows deviceId calls (rowOf deviceId (after calls)) := by
  induction calls with
  | nil => exact ⟨rfl, rfl⟩
  | cons head earlier ih =>
      obtain ⟨now, call⟩ := head
      rw [after]
      by_cases same : deviceId = call.deviceId
      · subst same
        rw [rowOf_apply_self]
        exact shows_self ih
      · rw [rowOf_apply_ne same]
        exact shows_ne same ih

theorem unique_after : Unique StatusRow.deviceId (after calls) := by
  induction calls with
  | nil => exact List.nodup_nil
  | cons head earlier ih => exact unique_apply ih

def beatOf (deviceId : Text) (rows : List StatusRow) : Option Instant :=
  (rowOf deviceId rows).bind StatusRow.lastHeartbeat

theorem beatOf_apply (now : Instant) (call : Call) (rows : List StatusRow) (deviceId : Text) :
    beatOf deviceId (call.apply now rows) = some now ∨
      beatOf deviceId (call.apply now rows) = beatOf deviceId rows := by
  unfold beatOf
  by_cases same : deviceId = call.deviceId
  · subst same
    rw [rowOf_apply_self]
    cases call with
    | updateDeviceStatus => exact .inl rfl
    | markDeviceAlive d heartbeat =>
        cases rowOf (Call.markDeviceAlive d heartbeat).deviceId rows <;> cases heartbeat
        · exact .inr rfl
        · exact .inl rfl
        · exact .inr rfl
        · exact .inl rfl
    | setIgnition d ignition =>
        cases rowOf (Call.setIgnition d ignition).deviceId rows <;> exact .inr rfl
    | updateHeartbeat d =>
        cases rowOf (Call.updateHeartbeat d).deviceId rows
        · exact .inr rfl
        · exact .inl rfl
    | setDeviceOffline d =>
        cases rowOf (Call.setDeviceOffline d).deviceId rows <;> exact .inr rfl
  · rw [rowOf_apply_ne same]
    exact .inr rfl

theorem call_of_beat {deviceId : Text} {beat : Instant}
    (beats : beatOf deviceId (after calls) = some beat) : ∃ call, (beat, call) ∈ calls := by
  induction calls with
  | nil => cases beats
  | cons head earlier ih =>
      obtain ⟨now, call⟩ := head
      rw [after] at beats
      rcases beatOf_apply now call (after earlier) deviceId with new | kept
      · rw [new] at beats
        obtain rfl := Option.some.inj beats
        exact ⟨call, List.mem_cons_self⟩
      · rw [kept] at beats
        obtain ⟨call', member⟩ := ih beats
        exact ⟨call', List.mem_cons_of_mem _ member⟩

/-- With a clock that does not go back, a heartbeat is only replaced by a later one. -/
theorem beat_grows {deviceId : Text} {beat : Instant} {later earlier : List (Instant × Call)}
    (ordered : (later ++ earlier).Pairwise fun newer older => older.1 ≤ newer.1)
    (beats : beatOf deviceId (after earlier) = some beat) :
    ∃ newer, beatOf deviceId (after (later ++ earlier)) = some newer ∧ beat ≤ newer := by
  induction later with
  | nil => exact ⟨beat, beats, le_refl beat⟩
  | cons head later ih =>
      obtain ⟨now, call⟩ := head
      obtain ⟨behind, rest⟩ := List.pairwise_cons.mp ordered
      obtain ⟨newer, known, grows⟩ := ih rest
      rw [List.cons_append, after]
      rcases beatOf_apply now call (after (later ++ earlier)) deviceId with new | kept
      · obtain ⟨call', member⟩ := call_of_beat known
        exact ⟨now, new, grows.trans (behind _ member)⟩
      · exact ⟨newer, kept.trans known, grows⟩

end Steps

/-- Whatever calls are made on a clock that does not go back, a device has one row at most, a call
only changes the row of its device, the columns of a row show what was last given for them, and a
heartbeat is only replaced by a later one. -/
theorem statuses_framed (calls : List (Instant × Call))
    (ordered : calls.Pairwise fun newer older => older.1 ≤ newer.1) : Framed calls := by
  have unique : ∀ calls, Unique StatusRow.deviceId (after calls) := fun _ => unique_after
  have shows_ : ∀ row ∈ after calls, Shows row.deviceId calls (some row) := by
    intro row stored
    rw [← (unique calls).lookup_self_iff.mpr stored]
    exact shows_after row.deviceId
  refine ⟨unique calls, ?_, fun row stored => (shows_ row stored).1,
    fun row stored => (shows_ row stored).2, ?_⟩
  · intro now call row distinct
    have still : Unique StatusRow.deviceId (call.apply now (after calls)) :=
      unique_apply (unique calls)
    rw [← (unique calls).lookup_self_iff, ← still.lookup_self_iff]
    exact Eq.congr_left (rowOf_apply_ne distinct)
  · rintro later earlier rfl before stored beat beats
    have known : beatOf before.deviceId (after earlier) = some beat := by
      rw [beatOf, rowOf, (unique earlier).lookup_self_iff.mpr stored]
      exact beats
    obtain ⟨newer, found, grows⟩ := beat_grows ordered known
    obtain ⟨row, shown, beats'⟩ := Option.bind_eq_some_iff.mp found
    obtain ⟨member, same⟩ := (unique _).lookup_iff.mp shown
    exact ⟨row, member, same, newer, beats', grows⟩

/-- A device that is first heard of through its ignition, then reports a status and a heartbeat. -/
def contact : List (Instant × Call) :=
  [(40, .setDeviceOffline ['d']), (30, .markDeviceAlive ['d'] false),
    (20, .updateDeviceStatus ['d'] 5 3 true false 1), (10, .updateHeartbeat ['e']),
    (10, .setIgnition ['d'] true)]

theorem statuses_framed_contact : Framed contact ∧
    after contact = [⟨['d'], false, some 20, 30, 3, 5, true, false, 1, 40⟩] :=
  ⟨statuses_framed contact (by decide), by decide⟩

end TrackerGateway.Invariants.Statuses
