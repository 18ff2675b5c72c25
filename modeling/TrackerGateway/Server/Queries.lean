/- module: TrackerGateway/Server/Queries
   source: src/command_api.py, src/services/device_registry.py, src/services/health_service.py
   digest: What a GET request is answered, and what that says about the gateway. -/

import TrackerGateway.Server.Commands
import TrackerGateway.Server.Frames
import TrackerGateway.Services.HealthService

set_option autoImplicit false
set_option relaxedAutoImplicit false

namespace TrackerGateway.Server.Queries

open Foundation.Transition (Reachable run reachable_of_free_run)
open Foundation.Wire (Text Bytes Instant lowerText)
open TrackerGateway.Runtime
open Services (Registry)
open Services.HealthService
open CommandApi

structure Get where
  key : Text
  path : Text

/-- A connected device as it is shown; the times are written in ISO format. -/
structure DeviceRow where
  imei : Text
  deviceId : Text
  ip : Text
  protocol : Text
  connectedAt : Instant
  lastSeen : Instant

inductive Shown
  | error (message : Text)
  | health (report : Report)
  /-- the body also holds the number of the rows -/
  | devices (rows : List DeviceRow)
  | commands (names : List Text)

structure Answer where
  status : Nat
  shown : Shown

def deviceRow (device : Sigma fun _ : Text => Entry) : DeviceRow where
  imei := device.1
  deviceId := device.2.deviceId
  ip := device.2.ip
  protocol := device.2.protocol.name
  connectedAt := device.2.connectedAt
  lastSeen := device.2.lastSeen

def deviceRows (registry : Registry) : List DeviceRow := registry.byImei.entries.map deviceRow

/-- `do_GET`, with the report that `get_health` would build now. -/
def doGet (expectedKey : Text) (registry : Registry) (report : Report) (get : Get) :
    Except Exn Answer := do
  if !(← authorized expectedKey get.key) then return ⟨401, .error "Unauthorized".toList⟩
  else if get.path = "/health".toList then
    return ⟨if report.status = .down then 503 else 200, .health report⟩
  else if get.path = "/devices".toList then return ⟨200, .devices (deviceRows registry)⟩
  else if get.path = "/commands".toList then return ⟨200, .commands knownCommands⟩
  else return ⟨404, .error "Not found".toList⟩

section Requests

theorem authorized_true {expectedKey provided : Text}
    (admitted : authorized expectedKey provided = .ok true) :
    expectedKey ≠ [] ∧ provided = expectedKey := by
  rw [authorized] at admitted
  split at admitted
  · cases admitted
  · next some_ =>
      split at admitted
      · refine ⟨?_, by simpa using admitted⟩
        rintro rfl
        exact some_ rfl
      · cases admitted

variable {expectedKey : Text} {registry : Registry} {report : Report} {get : Get} {answer : Answer}

theorem doGet_cases (told : doGet expectedKey registry report get = .ok answer) :
    (∃ message, answer.shown = .error message ∧ answer.status ≠ 200) ∨
      get.key = expectedKey ∧ expectedKey ≠ [] ∧
        (get.path = "/health".toList ∧ answer.shown = .health report ∧
            answer.status = (if report.status = .down then 503 else 200) ∨
          get.path = "/devices".toList ∧ answer = ⟨200, .devices (deviceRows registry)⟩ ∨
          get.path = "/commands".toList ∧ answer = ⟨200, .commands knownCommands⟩) := by
  obtain ⟨admitted, key, told⟩ := bind_eq_ok_iff.mp told
  split at told
  · cases told
    exact .inl ⟨_, rfl, by decide⟩
  · next holder =>
      obtain rfl : admitted = true := by simpa using holder
      obtain ⟨some_, same⟩ := authorized_true key
      split at told
      · next path =>
          cases told
          exact .inr ⟨same, some_, .inl ⟨path, rfl, rfl⟩⟩
      · split at told
        · next path =>
            cases told
            exact .inr ⟨same, some_, .inr (.inl ⟨path, rfl⟩)⟩
        · split at told
          · next path =>
              cases told
              exact .inr ⟨same, some_, .inr (.inr ⟨path, rfl⟩)⟩
          · cases told
            exact .inl ⟨_, rfl, by decide⟩

end Requests

section Devices

variable {cfg : Config} {pipes : Family → Pipeline} {permitted : Gateway → Input → Prop}
  {g : Gateway}

theorem name_inj {one other : Family} (same : one.name = other.name) : one = other := by
  cases one <;> cases other <;> first | rfl | exact absurd same (by decide)

theorem mem_deviceRows {registry : Registry} {row : DeviceRow} :
    row ∈ deviceRows registry ↔
      ∃ entry, registry.getDevice row.imei = some entry ∧ row = deviceRow ⟨row.imei, entry⟩ := by
  constructor
  · intro member
    obtain ⟨⟨imei, entry⟩, listed, rfl⟩ := List.mem_map.mp member
    exact ⟨entry, AList.mem_lookup_iff.mpr listed, rfl⟩
  · rintro ⟨entry, found, same⟩
    rw [same]
    exact List.mem_map_of_mem (AList.mem_lookup_iff.mp found)

theorem nodup_deviceRows (registry : Registry) :
    ((deviceRows registry).map DeviceRow.imei).Nodup := by
  have keys : (deviceRows registry).map DeviceRow.imei = registry.byImei.keys := by
    rw [deviceRows, List.map_map]
    rfl
  rw [keys]
  exact registry.byImei.keys_nodup

/-- A device is in the registry exactly if the last change of its route was a registration. -/
theorem registered_iff (traced : Traced g) (routed : Routed g) {imei deviceId : Text}
    {protocol : Family} :
    (∃ entry, g.registry.getDevice imei = some entry ∧ entry.deviceId = deviceId ∧
        entry.protocol = protocol) ↔
      ∃ c, lastRoute imei g.history = some (some (c, protocol)) ∧
        registrant imei g.history = some (c, deviceId) := by
  constructor
  · rintro ⟨entry, found, rfl, rfl⟩
    refine ⟨entry.socket, ?_, traced.getDevice found⟩
    rw [← Option.join_eq_some_iff, ← routed imei, Registry.route, found, Option.map_some]
  · rintro ⟨c, last, owner⟩
    have route := (routed imei).trans (Option.join_eq_some_iff.mpr last)
    obtain ⟨entry, found, same⟩ := Option.map_eq_some_iff.mp route
    obtain ⟨rfl, rfl⟩ := Prod.mk.inj same
    have held := traced.getDevice found
    rw [owner] at held
    exact ⟨entry, found, (Prod.mk.inj (Option.some.inj held)).2.symm, rfl⟩

/-- In every run the list of devices is shown to the holder of the key, names no identity twice, and
names an identity with a device and a family exactly if the last thing that happened to it was its
registration for them. -/
theorem devices_listed (reached : Reachable (Gateway.step cfg pipes) permitted .start g)
    {expectedKey : Text} {report : Report} {get : Get} {status : Nat} {rows : List DeviceRow}
    (told : doGet expectedKey g.registry report get = .ok ⟨status, .devices rows⟩) :
    get.key = expectedKey ∧ expectedKey ≠ [] ∧ status = 200 ∧
      (rows.map DeviceRow.imei).Nodup ∧
      ∀ imei deviceId protocol,
        (∃ row ∈ rows, row.imei = imei ∧ row.deviceId = deviceId ∧
          row.protocol = Family.name protocol) ↔
        ∃ c, lastRoute imei g.history = some (some (c, protocol)) ∧
          registrant imei g.history = some (c, deviceId) := by
  obtain ⟨message, none_, -⟩ | ⟨key, some_, ⟨-, none_, -⟩ | ⟨-, same⟩ | ⟨-, none_⟩⟩ :=
    doGet_cases told
  · cases none_
  · cases none_
  · cases same
    refine ⟨key, some_, rfl, nodup_deviceRows g.registry, ?_⟩
    intro imei deviceId protocol
    rw [← registered_iff (traced reached) (routed reached)]
    constructor
    · rintro ⟨row, member, rfl, rfl, family⟩
      obtain ⟨entry, found, shown⟩ := mem_deviceRows.mp member
      refine ⟨entry, found, by rw [shown]; rfl, ?_⟩
      apply name_inj
      rw [← family, shown]
      rfl
    · rintro ⟨entry, found, rfl, rfl⟩
      exact ⟨deviceRow ⟨imei, entry⟩, mem_deviceRows.mpr ⟨entry, found, rfl⟩, rfl, rfl, rfl⟩
  · cases none_

def fresh : Report := ⟨.ok, [], ⟨true, none, none⟩, .skipped, 0, none, 0⟩

/-- The list behind a login names its device. -/
theorem login_listed : ∃ g,
    run (Gateway.step defaults (pipelines defaults)) .start (loginInputs 0 1 (calm ['d'])) =
      some g ∧ (deviceRows g.registry).length = 1 ∧
    ((deviceRows g.registry).map DeviceRow.imei).Nodup ∧
      ∀ imei deviceId protocol,
        (∃ row ∈ deviceRows g.registry, row.imei = imei ∧ row.deviceId = deviceId ∧
          row.protocol = Family.name protocol) ↔
        ∃ c, lastRoute imei g.history = some (some (c, protocol)) ∧
          registrant imei g.history = some (c, deviceId) := by
  have shown : (run (Gateway.step defaults (pipelines defaults)) .start
      (loginInputs 0 1 (calm ['d']))).map (fun g => (deviceRows g.registry).length) = some 1 := by
    decide +kernel
  obtain ⟨g, ran, one⟩ := Option.map_eq_some_iff.mp shown
  have told : doGet "key".toList g.registry fresh ⟨"key".toList, "/devices".toList⟩ =
      .ok ⟨200, .devices (deviceRows g.registry)⟩ := rfl
  obtain ⟨-, -, -, listed⟩ := devices_listed (reachable_of_free_run .start ran) told
  exact ⟨g, ran, one, listed⟩

end Devices

section Commands

variable {spell : Spelling} {protocolOf : Text → Option Family} {protocol : Option Family}
  {imei command : Text} {params : Value}

theorem lookup_isSome_of_mem {β : Type} {name : Text} {table : List (Text × β)}
    (member : name ∈ table.map Prod.fst) : (table.lookup name).isSome = true := by
  obtain ⟨entry, listed, rfl⟩ := List.mem_map.mp member
  exact List.lookup_isSome_iff.mpr ⟨entry, listed, beq_self_eq_true entry.1⟩

theorem callOf_isSome (known : command ∈ knownCommands) :
    (callOf spell protocol imei command params).isSome = true := by
  rw [callOf]
  split
  · rfl
  · split
    · rfl
    · next missing =>
        rcases List.mem_append.mp known with simple | parametrised
        · have found := lookup_isSome_of_mem simple
          rw [missing] at found
          cases found
        · rw [Option.isSome_map]
          exact lookup_isSome_of_mem parametrised

theorem respond_ne_unknown {ex : Exn} :
    respond imei command (.error ex) ≠ unknownCommand command := by
  have failed : ∀ message, respond.failed message ≠ unknownCommand command := by
    intro message same
    have status := congrArg Response.status same
    rw [respond.failed] at status
    split at status <;> cases status
  intro same
  unfold respond at same
  split at same
  · next ends => cases ends
  · split at same
    · cases congrArg Response.status same
    · split at same
      · have few := congrArg (List.length ∘ Response.body) same
        simp [unknownCommand, errorBody] at few
      · exact failed _ same
  · cases congrArg Response.status same
  · exact failed _ same

structure Names (body : Value) (imei command : Text) : Prop where
  device : (body.get "imei".toList (.text []) >>= Value.strip) = .ok imei
  order : (body.get "command".toList (.text []) >>= Value.strip) = .ok command
  filled : imei ≠ [] ∧ command ≠ []

/-- The list of commands is shown to the holder of the key, and it is the list of those that a POST
request does not answer as unknown, for every device and all parameters. -/
theorem commands_listed {expectedKey : Text} {registry : Registry} {report : Report} {get : Get}
    {status : Nat} {names : List Text}
    (told : doGet expectedKey registry report get = .ok ⟨status, .commands names⟩) :
    get.key = expectedKey ∧ expectedKey ≠ [] ∧ status = 200 ∧
      ∀ spell protocolOf body imei command, Names body imei command →
        (serveCommand spell protocolOf body = .ok (.answer (unknownCommand (lowerText command))) ↔
          lowerText command ∉ names) := by
  obtain ⟨message, none_, -⟩ | ⟨key, some_, ⟨-, none_, -⟩ | ⟨-, none_⟩ | ⟨-, same⟩⟩ :=
    doGet_cases told
  · cases none_
  · cases none_
  · cases none_
  · cases same
    refine ⟨key, some_, rfl, ?_⟩
    intro spell protocolOf body imei command named
    obtain ⟨device, order, someImei, someCommand⟩ := named
    obtain ⟨imeiValue, gotImei, strippedImei⟩ := bind_eq_ok_iff.mp device
    obtain ⟨commandValue, gotCommand, strippedCommand⟩ := bind_eq_ok_iff.mp order
    obtain ⟨params, gotParams⟩ : ∃ params, body.get "params".toList (.dict []) = .ok params := by
      cases body with
      | dict items => exact ⟨_, rfl⟩
      | _ => cases gotImei
    have lowered : (lowerText command).isEmpty = false := by
      simpa [lowerText] using someCommand
    have emptied : imei.isEmpty = false := by simpa using someImei
    constructor
    · intro answered listed
      have known : knownCommands.contains (lowerText command) = true := by simpa using listed
      simp only [serveCommand, gotImei, strippedImei, gotCommand, strippedCommand, gotParams,
        bind, Except.bind, emptied, lowered, known] at answered
      have leads : (callOf spell (protocolOf imei) imei (lowerText command) params).isSome = true :=
        callOf_isSome listed
      obtain ⟨chosen, called⟩ := Option.isSome_iff_exists.mp leads
      cases chosen with
      | ok call => simp [called, pure, Except.pure] at answered
      | error ex =>
          simp only [called] at answered
          exact respond_ne_unknown (Served.answer.inj (Except.ok.inj answered))
    · intro unlisted
      have unknown : knownCommands.contains (lowerText command) = false := by simpa using unlisted
      simp only [serveCommand, gotImei, strippedImei, gotCommand, strippedCommand, gotParams,
        bind, Except.bind, emptied, lowered, unknown]
      rfl

def naming (command : String) : Value :=
  .dict [("imei".toList, .text "359586015829802".toList), ("command".toList, .text command.toList)]

theorem commands_listed_idle : "key".toList ≠ [] ∧ ∀ spell protocolOf,
    serveCommand spell protocolOf (naming " Where ") ≠
        .ok (.answer (unknownCommand "where".toList)) ∧
      serveCommand spell protocolOf (naming "fly") =
        .ok (.answer (unknownCommand "fly".toList)) := by
  have told : doGet "key".toList .empty fresh ⟨"key".toList, "/commands".toList⟩ =
      .ok ⟨200, .commands knownCommands⟩ := rfl
  obtain ⟨-, some_, -, listed⟩ := commands_listed told
  have known : Names (naming " Where ") "359586015829802".toList "Where".toList :=
    ⟨by decide +kernel, by decide +kernel, by decide⟩
  have unknown : Names (naming "fly") "359586015829802".toList "fly".toList :=
    ⟨by decide +kernel, by decide +kernel, by decide⟩
  refine ⟨some_, fun spell protocolOf => ⟨?_, ?_⟩⟩
  · intro answered
    exact (listed spell protocolOf _ _ _ known).mp answered (by decide +kernel)
  · exact (listed spell protocolOf _ _ _ unknown).mpr (by decide +kernel)

end Commands

section Health

variable {maxConnections silenceSeconds : ℤ} {sight : Sight} {connected : Nat}
  {lastPacket : Option Instant}

theorem rank_le_ite_flag {p : Prop} [Decidable p] {f : Findings} {level : Level} {reason : Text} :
    f.state.rank ≤ (if p then f.flag level reason else f).state.rank := by
  split
  · rw [rank_flag]
    exact Nat.le_max_left _ _
  · exact Nat.le_refl _

theorem rank_le_checkPool {pool : Option Pool} {f : Findings} :
    f.state.rank ≤ (checkPool pool f).state.rank := by
  unfold checkPool
  split
  · exact rank_le_ite_flag
  · exact Nat.le_refl _

/-- A gateway is down exactly if its loop does not turn or its database does not answer. -/
theorem status_down_iff :
    (getHealth maxConnections silenceSeconds sight connected lastPacket).status = .down ↔
      sight.loop.ok = false ∨ sight.db.ok = false := by
  constructor
  · intro down
    by_contra answers
    simp only [not_or, Bool.not_eq_false] at answers
    obtain ⟨turns, stores⟩ := answers
    have before := rank_before_silence maxConnections connected turns stores
    have worst := congrArg Level.rank down
    simp only [getHealth, findings, turns, if_true, checkSilence] at worst
    split at worst
    · rw [rank_flag, Nat.max_eq_right before] at worst
      cases worst
    · rw [worst] at before
      exact absurd before (by decide)
  · intro fails
    have found : Level.down.rank ≤ (if sight.loop.ok then checkPool sight.pool (checkDatabase
        sight.db (checkLoop sight.loop ⟨.ok, []⟩))
        else checkLoop sight.loop ⟨.ok, []⟩).state.rank := by
      split
      · next turns =>
          have silent : sight.db.ok = false := by simpa [turns] using fails
          refine le_trans ?_ rank_le_checkPool
          rw [checkDatabase, silent, Bool.not_false, if_pos rfl, rank_flag]
          exact Nat.le_max_right _ _
      · next stuck =>
          rw [checkLoop, if_neg stuck, rank_flag]
          exact Nat.le_max_right _ _
    have kept : Level.down.rank ≤
        (getHealth maxConnections silenceSeconds sight connected lastPacket).status.rank :=
      (found.trans rank_le_ite_flag).trans rank_le_ite_flag
    cases status : (getHealth maxConnections silenceSeconds sight connected lastPacket).status with
    | down => rfl
    | ok => exact absurd (status ▸ kept) (by decide)
    | degraded => exact absurd (status ▸ kept) (by decide)

/-- The health is shown to the holder of the key, as an error exactly if the loop did not run what
it was given, or the database did not answer. -/
theorem health_status {expectedKey : Text} {registry : Registry} {get : Get} {status : Nat}
    {report : Report}
    (told : doGet expectedKey registry (getHealth maxConnections silenceSeconds sight connected
      lastPacket) get = .ok ⟨status, .health report⟩) :
    get.key = expectedKey ∧ expectedKey ≠ [] ∧
      (status = 503 ↔ sight.loop.ok = false ∨ sight.db.ok = false) ∧
      (status = 200 ↔ sight.loop.ok = true ∧ sight.db.ok = true) := by
  obtain ⟨message, none_, -⟩ | ⟨key, some_, ⟨-, -, same⟩ | ⟨-, none_⟩ | ⟨-, none_⟩⟩ :=
    doGet_cases told
  · cases none_
  · refine ⟨key, some_, ?_⟩
    change status = _ at same
    simp only [status_down_iff] at same
    cases turns : sight.loop.ok <;> cases answers : sight.db.ok <;>
      simp [same, turns, answers]
  · cases none_
  · cases none_

/-- A loop that does not turn, and a database that answers slowly. -/
def stuck : Sight := ⟨⟨false, none, none⟩, ⟨⟨false, none, none⟩, 0⟩, none, 0, 0, 0⟩

def slow : Sight := ⟨⟨true, some 1, none⟩, ⟨⟨true, some 2000, none⟩, 0⟩, none, 0, 0, 0⟩

theorem stuck_status :
    (503 = 503 ↔ stuck.loop.ok = false ∨ stuck.db.ok = false) ∧
      (getHealth 100 600 slow 0 none).status = .degraded ∧
      (200 = 200 ↔ slow.loop.ok = true ∧ slow.db.ok = true) := by
  have down : (getHealth 100 600 stuck 0 none).status = .down := status_down_iff.mpr (.inl rfl)
  have worse : (getHealth 100 600 slow 0 none).status = .degraded := by decide +kernel
  have shown : ∀ sight : Sight, doGet "key".toList .empty (getHealth 100 600 sight 0 none)
      ⟨"key".toList, "/health".toList⟩ =
        .ok ⟨if (getHealth 100 600 sight 0 none).status = .down then 503 else 200,
          .health (getHealth 100 600 sight 0 none)⟩ := fun _ => rfl
  have error := shown stuck
  have answer := shown slow
  rw [if_pos down] at error
  rw [if_neg (by rw [worse]; decide)] at answer
  exact ⟨(health_status error).2.2.1, worse, (health_status answer).2.2.2⟩

end Health

end TrackerGateway.Server.Queries
