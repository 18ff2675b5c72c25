/- module: TrackerGateway/Packets/AlarmEvents
   source: src/services/packet_handler.py (0x26 branch), src/parsers/v5_parser.py
     (parse_alarm_packet), src/services/event_service.py
   digest: When the alarm of a packet reaches the event table. -/

import TrackerGateway.Packets.Fields
import TrackerGateway.Services.PacketHandler

set_option autoImplicit false
set_option relaxedAutoImplicit false

namespace TrackerGateway.Packets.AlarmEvents

open Foundation.Coroutine
open Foundation.Wire
open TrackerGateway.Runtime
open Parsers.V5
open Services
open Services.PacketHandler

def alarmTypeAt (raw : Bytes) (base : Nat) : Nat := byteAt raw (base + 30) / 16

def Usable (position : ℚ × ℚ) : Prop :=
  -90 ≤ position.1 ∧ position.1 ≤ 90 ∧ -180 ≤ position.2 ∧ position.2 ≤ 180

def eventRows (trace : List Answered) : List EventRow :=
  trace.filterMap fun a =>
    match a with
    | ⟨.execute (.event row), _⟩ => some row
    | _ => none

def raised : Answered → Bool
  | ⟨.execute (.rawPacket ..), .error _⟩ => true
  | ⟨.getVehicleByDevice _, .error _⟩ => true
  | _ => false

/-- No event is recorded, and the computation returns exactly if nothing raised. -/
def Preliminary {α : Type} (p : Handler α) : Prop :=
  ∀ trace outcome, Executes p trace outcome →
    eventRows trace = [] ∧ (outcome.isOk = !trace.any raised)

theorem Preliminary.bind {α β : Type} {p : Handler α} {next : α → Handler β}
    (first : Preliminary p) (later : ∀ a, Preliminary (next a)) : Preliminary (p.bind next) := by
  intro trace outcome runs
  obtain ⟨front, rest, middle, rfl, ran, continued⟩ := executes_bind.mp runs
  obtain ⟨silent, returned⟩ := first front middle ran
  cases middle with
  | ok a =>
      obtain ⟨silent', returned'⟩ := later a rest outcome continued
      have calm : front.any raised = false := (Bool.not_eq_true' _).mp returned.symm
      exact ⟨by simp_all [eventRows], by rw [List.any_append, calm, returned', Bool.false_or]⟩
  | error e =>
      obtain ⟨rfl, rfl⟩ := continued
      have stormy : front.any raised = true := (Bool.not_eq_false' _).mp returned.symm
      rw [List.append_nil, silent, stormy]
      exact ⟨rfl, rfl⟩

theorem preliminary_pure {α : Type} (a : α) : Preliminary (.pure a : Handler α) := by
  rintro trace outcome ⟨rfl, rfl⟩
  exact ⟨rfl, rfl⟩

theorem preliminary_saveRaw (cfg : Config) (deviceId protocol hexData : Text)
    (always parsed : Bool) : Preliminary (saveRaw cfg deviceId protocol hexData always parsed) := by
  have decided : Preliminary (shouldStoreRaw cfg always) := by
    rw [shouldStoreRaw]
    split
    · exact preliminary_pure _
    · exact preliminary_pure _
    · split
      · exact preliminary_pure _
      · rintro trace outcome ⟨sample, rest, rfl, rfl, rfl⟩
        exact ⟨rfl, rfl⟩
  apply decided.bind
  intro store
  split
  · rintro trace outcome ⟨now, rest, rfl, runs⟩
    obtain ⟨answer, rest', rfl, runs⟩ := runs
    cases answer with
    | ok row =>
        obtain ⟨rfl, rfl⟩ := runs
        exact ⟨rfl, rfl⟩
    | error e =>
        obtain ⟨rfl, rfl⟩ := runs
        exact ⟨rfl, rfl⟩
  · exact preliminary_pure _

theorem preliminary_getVehicle (deviceId : Text) : Preliminary (getVehicleByDevice deviceId) := by
  rintro trace outcome ⟨answer, rest, rfl, runs⟩
  cases answer with
  | ok vehicleId =>
      obtain ⟨rfl, rfl⟩ := runs
      exact ⟨rfl, rfl⟩
  | error e =>
      obtain ⟨rfl, rfl⟩ := runs
      exact ⟨rfl, rfl⟩

theorem createEvent_run {deviceId eventType description : Text} {vehicleId : Option Text}
    {severity : Severity} {latitude longitude : Option Number} {metadata : List (Text × Json)}
    {trace : List Answered} {outcome : Except Exn Unit}
    (runs : Executes (createEvent deviceId vehicleId eventType severity latitude longitude
      description metadata) trace outcome) :
    trace.any raised = false ∧ ∃ row, eventRows trace = [row] ∧ row.eventType = eventType ∧
      (row.latitude, row.longitude) = cleanCoordinates latitude longitude := by
  obtain ⟨createdAt, rest, rfl, answer, rest', rfl, runs⟩ := runs
  cases answer with
  | ok inserted =>
      obtain ⟨rfl, rfl⟩ := runs
      exact ⟨rfl, _, rfl, rfl, rfl⟩
  | error e =>
      obtain ⟨rfl, rfl⟩ := runs
      exact ⟨rfl, _, rfl, rfl, rfl⟩

theorem acknowledge_run {raw : Bytes} {trace : List Answered} {outcome : Except Exn Unit}
    (runs : Executes (acknowledge raw) trace outcome) :
    eventRows trace = [] ∧ trace.any raised = false := by
  obtain ⟨front, rest, middle, rfl, ran, recovered⟩ := executes_rescue.mp runs
  have quiet : eventRows front = [] ∧ front.any raised = false := by
    obtain ⟨built, rest, answer, rfl, run, continued⟩ := executes_bind.mp ran
    obtain ⟨rfl, rfl⟩ := executes_demand.mp run
    cases acked : buildAck raw with
    | error e =>
        rw [acked] at continued
        obtain ⟨rfl, -⟩ := continued
        exact ⟨rfl, rfl⟩
    | ok ack =>
        rw [acked] at continued
        obtain ⟨written, rest', rfl, continued⟩ := continued
        cases written with
        | error e =>
            obtain ⟨rfl, -⟩ := continued
            exact ⟨rfl, rfl⟩
        | ok _ =>
            obtain ⟨drained, rest'', rfl, continued⟩ := continued
            cases drained with
            | error e =>
                obtain ⟨rfl, -⟩ := continued
                exact ⟨rfl, rfl⟩
            | ok _ =>
                obtain ⟨rfl, -⟩ := continued
                exact ⟨rfl, rfl⟩
  have nothing : rest = [] := by
    cases middle with
    | ok _ => exact recovered.1
    | error e => exact recovered.1
  rw [nothing, List.append_nil]
  exact quiet

def alarmBranch (cfg : Config) (raw : Bytes) (protocol : Text) (device : Entry) : Handler Unit := do
  let alarm ← demand (parseAlarmPacket raw)
  saveRaw cfg device.deviceId protocol (hex raw) true true
  let vehicleId ← getVehicleByDevice device.deviceId
  createEvent device.deviceId vehicleId (getAlarmName alarm.alarmType)
    (alarmSeverity alarm.alarmType) (some (.finite alarm.location.latitude))
    (some (.finite alarm.location.longitude))
    ("Alarm: ".toList ++ getAlarmName alarm.alarmType ++ " at ".toList ++
      alarm.location.timestamp.text)
    (alarmMetadata alarm)

/-- A run of the branch records one event, unless the packet cannot be decoded or an operation
before the insertion raises; then it records none. -/
theorem alarmBranch_run {cfg : Config} {raw : Bytes} {protocol : Text} {device : Entry}
    {trace : List Answered} {outcome : Except Exn Unit}
    (runs : Executes (alarmBranch cfg raw protocol device) trace outcome) :
    (∃ alarm, parseAlarmPacket raw = .ok alarm ∧ trace.any raised = false ∧
      ∃ row, eventRows trace = [row] ∧ row.eventType = getAlarmName alarm.alarmType ∧
        (row.latitude, row.longitude) = cleanCoordinates (some (.finite alarm.location.latitude))
          (some (.finite alarm.location.longitude))) ∨
    eventRows trace = [] ∧
      ((∃ e, parseAlarmPacket raw = .error e) ∨ trace.any raised = true) := by
  obtain ⟨decoded, rest, answer, rfl, run, continued⟩ := executes_bind.mp runs
  obtain ⟨rfl, rfl⟩ := executes_demand.mp run
  cases parsed : parseAlarmPacket raw with
  | error e =>
      rw [parsed] at continued
      obtain ⟨rfl, -⟩ := continued
      exact .inr ⟨rfl, .inl ⟨e, rfl⟩⟩
  | ok alarm =>
      rw [parsed] at continued
      obtain ⟨saved, rest, answer, rfl, run, continued⟩ := executes_bind.mp continued
      obtain ⟨silent, returned⟩ := preliminary_saveRaw _ _ _ _ _ _ _ _ run
      cases answer with
      | error e =>
          obtain ⟨rfl, -⟩ := continued
          have stormy : saved.any raised = true := (Bool.not_eq_false' _).mp returned.symm
          exact .inr ⟨by simpa using silent, .inr (by simpa using stormy)⟩
      | ok _ =>
          obtain ⟨looked, rest, answer, rfl, run, continued⟩ := executes_bind.mp continued
          obtain ⟨silent', returned'⟩ := preliminary_getVehicle _ _ _ run
          have calm : saved.any raised = false := (Bool.not_eq_true' _).mp returned.symm
          cases answer with
          | error e =>
              obtain ⟨rfl, -⟩ := continued
              have stormy : looked.any raised = true := (Bool.not_eq_false' _).mp returned'.symm
              refine .inr ⟨?_, .inr ?_⟩
              · simp_all [eventRows]
              · simp only [List.nil_append, List.append_nil, List.any_append, stormy, Bool.or_true]
          | ok vehicleId =>
              obtain ⟨calm'', row, rows, kind, position⟩ := createEvent_run continued
              have calm' : looked.any raised = false := (Bool.not_eq_true' _).mp returned'.symm
              refine .inl ⟨alarm, rfl, ?_, row, ?_, kind, position⟩
              · simp only [List.nil_append, List.any_append, calm, calm', calm'', Bool.or_false]
              · unfold eventRows at *
                rw [List.nil_append, List.filterMap_append, List.filterMap_append, silent, silent',
                  rows]
                rfl

theorem processPacket_run {cfg : Config} {ip imei : Text} {raw : Bytes} {device : Entry}
    {rest : List Answered} {outcome : Except Exn (Option Text)}
    (marker : raw.take 2 = shortMarker ∨ raw.take 2 = longMarker)
    (kind : raw[protocolIndex raw]? = some 0x26) (real : imei ≠ [])
    (runs : Executes (processPacket cfg ip raw)
      (⟨.getImeiBySocket, some imei⟩ :: ⟨.getDevice imei, some device⟩ :: rest) outcome) :
    ∃ front back middle, rest = front ++ back ∧
      Executes (alarmBranch cfg raw (hex [0x26]) device) front middle ∧
      eventRows back = [] ∧ back.any raised = false := by
  have named : truthy (some imei) = some imei := truthy_eq_some_iff.mpr ⟨rfl, real⟩
  rw [processPacket] at runs
  rw [if_pos marker, index_eq_ok_iff.mpr kind] at runs
  obtain ⟨found, rest', same, runs⟩ := runs
  obtain ⟨first, rfl⟩ := List.cons.inj same
  cases first
  change Executes (((handleAlarm cfg raw (hex [0x26]) (some imei)).rescue fun _ =>
    .pure none).bind fun currentImei => (acknowledge raw).bind fun _ => .pure currentImei)
    _ outcome at runs
  rw [handleAlarm, withDevice, getConnectedDevice] at runs
  rw [named] at runs
  obtain ⟨found, rest', same, runs⟩ := runs
  obtain ⟨first, rfl⟩ := List.cons.inj same
  cases first
  change Executes ((((alarmBranch cfg raw (hex [0x26]) device).bind fun _ =>
    .pure (some imei)).rescue fun _ => .pure none).bind fun currentImei =>
      (acknowledge raw).bind fun _ => .pure currentImei) _ outcome at runs
  obtain ⟨handled, back, middle, rfl, ran, continued⟩ := executes_bind.mp runs
  obtain ⟨front, recovered, answer, rfl, run, rescued⟩ := executes_rescue.mp ran
  obtain ⟨worked, returned, answer', rfl, branch, finished⟩ := executes_bind.mp run
  have nothing : returned = [] ∧ recovered = [] := by
    cases answer' with
    | ok _ =>
        obtain ⟨rfl, rfl⟩ := finished
        exact ⟨rfl, rescued.1⟩
    | error e =>
        obtain ⟨rfl, rfl⟩ := finished
        exact ⟨rfl, rescued.1⟩
  obtain ⟨rfl, rfl⟩ := nothing
  have acknowledged : eventRows back = [] ∧ back.any raised = false := by
    cases middle with
    | error e =>
        obtain ⟨rfl, -⟩ := continued
        exact ⟨rfl, rfl⟩
    | ok currentImei =>
        obtain ⟨acked, ended, answer'', rfl, sent, finished⟩ := executes_bind.mp continued
        have quiet := acknowledge_run sent
        have nothing : ended = [] := by
          cases answer'' with
          | ok _ => exact finished.1
          | error e => exact finished.1
        rwa [nothing, List.append_nil]
  exact ⟨worked, back, answer', by simp, branch, acknowledged⟩

theorem cleanCoordinates_eq_none_iff (position : ℚ × ℚ) :
    cleanCoordinates (some (.finite position.1)) (some (.finite position.2)) = (none, none) ↔
      ¬ Usable position := by
  unfold cleanCoordinates Usable
  dsimp only
  split <;> simp_all

theorem alarmName_inj : ∀ a < 16, ∀ b < 16, getAlarmName a = getAlarmName b → a = b := by
  decide +kernel

theorem alarmTypeAt_lt (raw : Bytes) (base : Nat) : alarmTypeAt raw base < 16 := by
  have small := (raw.getD (base + 30) 0).toNat_lt
  rw [alarmTypeAt, byteAt]
  omega

/-- One event is attempted, for the alarm type the packet has behind its header, and without a
position if the one behind the header is unusable. -/
def Recorded (raw : Bytes) (trace : List Answered) : Prop :=
  ∃ row, eventRows trace = [row] ∧
    row.eventType = getAlarmName (alarmTypeAt raw (protocolIndex raw)) ∧
    (¬ Usable (positionAt raw (protocolIndex raw)) → row.latitude = none ∧ row.longitude = none)

/-- The date exists, neither the raw insertion nor the vehicle lookup raises, and what stands one
place further in a long frame does not differ. -/
def Recordable (raw : Bytes) (trace : List Answered) : Prop :=
  (dateAt raw 3).isSome = true ∧ trace.any raised = false ∧
    alarmTypeAt raw 3 = alarmTypeAt raw (protocolIndex raw) ∧
    (Usable (positionAt raw 3) → Usable (positionAt raw (protocolIndex raw)))

theorem alarm_recorded_iff (cfg : Config) (ip imei : Text) (raw : Bytes) (device : Entry)
    (rest : List Answered) (outcome : Except Exn (Option Text))
    (marker : raw.take 2 = shortMarker ∨ raw.take 2 = longMarker)
    (kind : raw[protocolIndex raw]? = some 0x26) (full : 34 + 6 ≤ raw.length) (real : imei ≠ [])
    (runs : Executes (processPacket cfg ip raw)
      (⟨.getImeiBySocket, some imei⟩ :: ⟨.getDevice imei, some device⟩ :: rest) outcome) :
    Recorded raw rest ↔ Recordable raw rest := by
  obtain ⟨front, back, middle, rfl, branch, silent, calm⟩ := processPacket_run marker kind real runs
  have rows : eventRows (front ++ back) = eventRows front := by
    unfold eventRows at silent ⊢
    rw [List.filterMap_append, silent, List.append_nil]
  have storms : (front ++ back).any raised = front.any raised := by
    rw [List.any_append, calm, Bool.or_false]
  rw [Recorded, Recordable]
  rw [rows, storms]
  rcases alarmBranch_run branch with
    ⟨alarm, parsed, quiet, row, one, name, position⟩ | ⟨none_, stopped⟩
  · cases date : dateAt raw 3 with
    | none =>
        have raises := parseAlarmPacket_raises (.inr date)
        rw [parsed] at raises
        cases raises
    | some date =>
        obtain ⟨alarm', parsed', -, type_, located⟩ := parseAlarmPacket_of_date (by omega) date
        rw [parsed] at parsed'
        cases parsed'
        have placed := position_of_location located
        have unplaced : row.latitude = none ∧ row.longitude = none ↔
            ¬ Usable (positionAt raw 3) := by
          rw [← cleanCoordinates_eq_none_iff, ← Prod.mk.injEq, position, ← placed]
        have named : row.eventType = getAlarmName (alarmTypeAt raw (protocolIndex raw)) ↔
            alarmTypeAt raw 3 = alarmTypeAt raw (protocolIndex raw) := by
          rw [name, show alarm.alarmType = alarmTypeAt raw 3 from type_]
          exact ⟨alarmName_inj _ (alarmTypeAt_lt _ _) _ (alarmTypeAt_lt _ _), congrArg _⟩
        constructor
        · rintro ⟨row', one', name', position'⟩
          rw [one] at one'
          cases one'
          refine ⟨rfl, quiet, named.mp name', ?_⟩
          intro usable
          by_contra unusable
          exact unplaced.mp (position' unusable) usable
        · rintro ⟨-, -, same, usable⟩
          exact ⟨row, one, named.mpr same, fun unusable =>
            unplaced.mpr fun usable' => unusable (usable usable')⟩
  · constructor
    · rintro ⟨row, one, -⟩
      rw [none_] at one
      cases one
    · rintro ⟨dated, quiet, -⟩
      rcases stopped with ⟨e, failed⟩ | stormy
      · obtain ⟨date, valid⟩ := Option.isSome_iff_exists.mp dated
        obtain ⟨alarm, parsed, -⟩ := parseAlarmPacket_of_date (by omega) valid
        rw [parsed] at failed
        cases failed
      · rw [stormy] at quiet
        cases quiet

def attached (device : Entry) : (o : Op) → Res o
  | .getImeiBySocket => some ['1']
  | .getDevice _ => some device
  | .lastAlive _ | .lastIgnition _ => none
  | .write _ | .drain => .ok ()
  | .utcNow => (0 : ℤ)
  | .monotonic | .random => (0 : ℚ)
  | .getDeviceByImei .. | .getVehicleByDevice _ => .ok none
  | .execute _ => .ok true
  | .registerDevice .. | .notePosition .. | .setLastAlive .. | .setLastIgnition ..
  | .forgetStatus _ | .close | .log _ => ()

def someDevice : Entry := ⟨['d'], [], .gt06, 0, 0, 0, none, none, none⟩

/-- An SOS packet with six date bytes; a unit without a fix sends zeros. -/
def sosPacket (date : Bytes) : Bytes :=
  [0x78, 0x78, 0x23, 0x26] ++ date ++ List.replicate 23 0 ++ [0x11, 0, 1, 0, 0, 0x0D, 0x0A]

def undated : Bytes := sosPacket (List.replicate 6 0)

def dated : Bytes := sosPacket [24, 2, 29, 12, 0, 0]

def wholeRun (raw : Bytes) : List Answered :=
  (play (attached someDevice) (processPacket defaults [] raw)).1

def afterDevice (raw : Bytes) : List Answered := (wholeRun raw).drop 2

theorem attached_runs (raw : Bytes) :
    ∃ outcome, Executes (processPacket defaults [] raw) (wholeRun raw) outcome :=
  ⟨_, executes_play _ _⟩

theorem wholeRun_undated : wholeRun undated =
    ⟨.getImeiBySocket, some ['1']⟩ :: ⟨.getDevice ['1'], some someDevice⟩ :: afterDevice undated :=
  rfl

theorem wholeRun_dated : wholeRun dated =
    ⟨.getImeiBySocket, some ['1']⟩ :: ⟨.getDevice ['1'], some someDevice⟩ :: afterDevice dated :=
  rfl

/-- An SOS without a date is acknowledged and dropped. -/
theorem undated_alarm_dropped :
    undated.take 2 = shortMarker ∧ undated[protocolIndex undated]? = some 0x26 ∧
    undated.length = 34 + 6 ∧ (∃ outcome, Executes (processPacket defaults [] undated)
      (⟨.getImeiBySocket, some ['1']⟩ :: ⟨.getDevice ['1'], some someDevice⟩ :: afterDevice undated)
      outcome) ∧ ¬ Recorded undated (afterDevice undated) := by
  refine ⟨by decide, by decide, by decide, wholeRun_undated ▸ attached_runs undated, ?_⟩
  rintro ⟨row, one, -⟩
  have none_ : (eventRows (afterDevice undated)).length = 0 := by decide +kernel
  rw [one] at none_
  cases none_

theorem dated_alarm_recorded : Recorded dated (afterDevice dated) := by
  obtain ⟨outcome, runs⟩ := attached_runs dated
  rw [wholeRun_dated] at runs
  refine (alarm_recorded_iff defaults [] ['1'] dated someDevice (afterDevice dated) outcome
    (.inl (by decide)) (by decide) (by decide) (by decide) runs).mpr ⟨?_, ?_, ?_, ?_⟩
  · decide +kernel
  · decide +kernel
  · decide +kernel
  · rw [show protocolIndex dated = 3 by decide]
    exact id

end TrackerGateway.Packets.AlarmEvents
