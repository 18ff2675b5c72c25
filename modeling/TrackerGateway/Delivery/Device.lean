/- module: TrackerGateway/Delivery/Device
   source: src/services/teltonika_handler.py, src/services/tracking_service.py
   digest: A device that resends until its records are counted, against its packets' handler. -/

import TrackerGateway.Delivery.Counts
import TrackerGateway.Foundation.Transition.Run

set_option autoImplicit false
set_option relaxedAutoImplicit false

namespace TrackerGateway.Delivery

open Foundation.Coroutine
open Foundation.Table
open Foundation.Transition
open Foundation.Wire
open TrackerGateway.Runtime
open Parsers.Teltonika
open Services
open Services.TeltonikaHandler

/-- One packet of the device, on whichever connection it was sent, and how far its handling has
got. The operations done so far are listed newest first. -/
structure Round where
  sent : List AvlRecord
  handler : Handler (Option Text)
  past : List Answered

/-- The records the device has dropped at the count of a round. -/
structure Drop where
  round : Nat
  count : Nat
  records : List AvlRecord

/-- The device keeps a queue and waits for the count of at most one round. The handling of a round
the device no longer waits for goes on, and several rounds may be handled at a time. -/
structure State where
  queue : List AvlRecord
  waiting : Option Nat
  rounds : List Round
  tracked : List TrackingRow
  drops : List Drop

def State.start (tracked : List TrackingRow) : State := ⟨[], none, [], tracked, []⟩

inductive Input
  /-- The device records a position. -/
  | produce (rec : AvlRecord)
  /-- The device sends its first records, and these bytes arrive. -/
  | send (n : Nat) (raw : Bytes)
  /-- The handling of a round goes on. A statement that raises may have been committed before. -/
  | resume (round : Nat) (answers : (o : Op) → Res o) (commits : Bool)
  /-- A count reaches the device while it waits. -/
  | receive (payload : Bytes)
  /-- The device stops waiting: the packet, its answer or the connection is lost. -/
  | giveUp
  /-- A position is stored by a connection that is not modelled. -/
  | outside (row : TrackingRow)

/-- The bytes carry these records, or nothing that can be decoded. -/
def carries (raw : Bytes) (records : List AvlRecord) : Bool :=
  match parseAvlPacket raw with
  | .ok packet => packet.records = records
  | .error _ => true

/-- The registry knows the connection's identity as the device, if at all. -/
def ofDevice (deviceId : Text) : Answered → Bool
  | ⟨.getDevice _, some device⟩ => device.deviceId = deviceId
  | _ => true

def commit (idempotent commits : Bool) (rows : List TrackingRow) : Answered → List TrackingRow
  | ⟨.execute statement, outcome⟩ =>
      match trackingOf statement with
      | some row => if outcome.isOk || commits then insertTracking idempotent row rows else rows
      | none => rows
  | _ => rows

def written (past : List Answered) : List Bytes :=
  past.filterMap fun a =>
    match a with
    | ⟨.write payload, _⟩ => some payload
    | _ => none

section Steps

variable (cfg : Config) (ip deviceId : Text)

def State.send (s : State) (n : Nat) (raw : Bytes) : Option State :=
  if s.waiting = none ∧ n ≤ s.queue.length ∧ carries raw (s.queue.take n) then
    some { s with
      waiting := some s.rounds.length
      rounds := s.rounds ++ [⟨s.queue.take n, processTeltonikaFrame cfg ip raw, []⟩] }
  else none

def State.resume (s : State) (i : Nat) (answers : (o : Op) → Res o) (commits : Bool) :
    Option State :=
  match s.rounds[i]? with
  | some ⟨sent, .call o next, past⟩ =>
      if ofDevice deviceId ⟨o, answers o⟩ then
        some { s with
          rounds := s.rounds.set i ⟨sent, next (answers o), ⟨o, answers o⟩ :: past⟩
          tracked := commit cfg.gpsTrackingIdempotent commits s.tracked ⟨o, answers o⟩ }
      else none
  | _ => none

def State.receive (s : State) (payload : Bytes) : Option State := do
  let i ← s.waiting
  let round ← s.rounds[i]?
  if payload ∈ written round.past ∧ payload.length = 4 then
    let count := bigEndian payload
    some { s with
      queue := s.queue.drop count
      waiting := none
      drops := s.drops ++ [⟨i, count, s.queue.take count⟩] }
  else none

def State.step (s : State) : Input → Option State
  | .produce rec => some { s with queue := s.queue ++ [rec] }
  | .send n raw => s.send cfg ip n raw
  | .resume i answers commits => s.resume cfg deviceId i answers commits
  | .receive payload => s.receive payload
  | .giveUp => some { s with waiting := none }
  | .outside row =>
      some { s with tracked := insertTracking cfg.gpsTrackingIdempotent row s.tracked }

end Steps

/-- The handler will keep to the rule, the registry has answered with the device, and every count
written so far is confirmed. -/
structure Round.Sound (cfg : Config) (deviceId : Text) (round : Round) : Prop where
  rule : Guarded (Counting cfg deviceId round.sent) (fun _ _ => True) round.handler round.past
  lookups : OfDevice deviceId round.past
  replies : ∀ payload ∈ written round.past, payload.length = 4 →
    Confirmed cfg deviceId round.sent payload round.past

section Rounds

variable {cfg : Config} {ip deviceId : Text}

theorem ofDevice_cons {past : List Answered} {a : Answered} (known : OfDevice deviceId past)
    (device : ofDevice deviceId a = true) : OfDevice deviceId (a :: past) := by
  intro imei entry member
  rcases List.mem_cons.mp member with rfl | before
  · exact of_decide_eq_true device
  · exact known imei entry before

theorem Confirmed.cons {sent : List AvlRecord} {payload : Bytes} {past : List Answered}
    (confirmed : Confirmed cfg deviceId sent payload past) (a : Answered) :
    Confirmed cfg deviceId sent payload (a :: past) := by
  obtain ⟨few, settled⟩ := confirmed
  exact ⟨few, .later a settled⟩

theorem mem_written_cons {payload : Bytes} {a : Answered} {past : List Answered}
    (member : payload ∈ written (a :: past)) :
    (∃ outcome, a = ⟨.write payload, outcome⟩) ∨ payload ∈ written past := by
  rw [written] at member
  rw [List.filterMap_cons] at member
  split at member
  · exact .inr member
  · next p found =>
      rcases List.mem_cons.mp member with rfl | before
      · split at found
        · cases found
          exact .inl ⟨_, rfl⟩
        · cases found
      · exact .inr before

theorem Round.Sound.next {sent : List AvlRecord} {o : Op} {next : Res o → Handler (Option Text)}
    {past : List Answered} (sound : Round.Sound cfg deviceId ⟨sent, .call o next, past⟩) (x : Res o)
    (device : ofDevice deviceId ⟨o, x⟩ = true) :
    Round.Sound cfg deviceId ⟨sent, next x, ⟨o, x⟩ :: past⟩ := by
  obtain ⟨⟨allow, later⟩, lookups, replies⟩ := sound
  refine ⟨later x, ofDevice_cons lookups device, ?_⟩
  intro payload member size
  rcases mem_written_cons member with ⟨outcome, same⟩ | before
  · obtain ⟨rfl, -⟩ := Sigma.mk.inj same
    have confirmed := allow size lookups
    exact confirmed.cons _
  · have confirmed := replies payload before size
    exact confirmed.cons _

theorem Round.sound_start {raw : Bytes} {sent : List AvlRecord}
    (carried : carries raw sent = true) :
    Round.Sound cfg deviceId ⟨sent, processTeltonikaFrame cfg ip raw, []⟩ := by
  refine ⟨guarded_frame cfg deviceId sent ip raw ?_, ?_, ?_⟩
  · intro packet parsed
    rw [carries] at carried
    rw [parsed] at carried
    exact of_decide_eq_true carried
  · intro imei device member
    cases member
  · intro payload member
    cases member

end Rounds

/-- What has become of the records of a drop: the round says how many were sent and how each of them
was settled. -/
def Drop.Sound (cfg : Config) (deviceId : Text) (rounds : List Round) (drop : Drop) : Prop :=
  ∃ round, rounds[drop.round]? = some round ∧ drop.count ≤ round.sent.length ∧
    drop.records = round.sent.take drop.count ∧ Settled cfg deviceId drop.records round.past

structure State.Sound (cfg : Config) (deviceId : Text) (s : State) : Prop where
  rounds : ∀ round ∈ s.rounds, round.Sound cfg deviceId
  waiting : ∀ i round, s.waiting = some i → s.rounds[i]? = some round → round.sent <+: s.queue
  drops : ∀ drop ∈ s.drops, drop.Sound cfg deviceId s.rounds
  stored : ∀ round ∈ s.rounds, ∀ rec, Stored deviceId rec round.past →
    (deviceId, rec.timestamp) ∈ s.tracked.map TrackingRow.key
  unique : cfg.gpsTrackingIdempotent = true → Unique TrackingRow.key s.tracked

section Runs

variable {cfg : Config} {ip deviceId : Text}

/-- A later state of the rounds: none is missing, and each has done what it had done before. -/
def Extends (rounds rounds' : List Round) : Prop :=
  ∀ (i : Nat) (round : Round), rounds[i]? = some round → ∃ (round' : Round)
    (after : List Answered), rounds'[i]? = some round' ∧
    round'.sent = round.sent ∧ round'.past = after ++ round.past

theorem Drop.Sound.mono {rounds rounds' : List Round} (extends_ : Extends rounds rounds')
    {drop : Drop} (sound : drop.Sound cfg deviceId rounds) : drop.Sound cfg deviceId rounds' := by
  obtain ⟨round, at_, few, taken, settled⟩ := sound
  obtain ⟨round', after, at', sent, past⟩ := extends_ _ _ at_
  refine ⟨round', at', ?_, ?_, ?_⟩
  · rwa [sent]
  · rwa [sent]
  · rw [past]
    exact settled.append after

theorem extends_append (rounds more : List Round) : Extends rounds (rounds ++ more) := by
  intro i round at_
  have inside := (List.getElem?_eq_some_iff.mp at_).1
  refine ⟨round, [], ?_, rfl, rfl⟩
  rw [List.getElem?_append_left inside, at_]

theorem extends_set {rounds : List Round} {i : Nat} {sent : List AvlRecord}
    {handler : Handler (Option Text)} {past : List Answered}
    (at_ : rounds[i]? = some ⟨sent, handler, past⟩) (handler' : Handler (Option Text))
    (a : Answered) :
    Extends rounds (rounds.set i ⟨sent, handler', a :: past⟩) := by
  intro j round at'
  by_cases same : i = j
  · subst same
    have inside := (List.getElem?_eq_some_iff.mp at_).1
    rw [at_] at at'
    cases at'
    exact ⟨_, [a], List.getElem?_set_self inside, rfl, rfl⟩
  · exact ⟨round, [], by rw [List.getElem?_set_ne same, at'], rfl, rfl⟩

theorem keys_insertTracking {idempotent : Bool} {row : TrackingRow} {rows : List TrackingRow}
    {k : Text × Instant} (taken : k ∈ rows.map TrackingRow.key) :
    k ∈ (insertTracking idempotent row rows).map TrackingRow.key := by
  rw [insertTracking]
  split
  · exact keys_subset_insertNew taken
  · rw [List.map_append]
    exact List.mem_append_left _ taken

theorem key_insertTracking (idempotent : Bool) (row : TrackingRow) (rows : List TrackingRow) :
    row.key ∈ (insertTracking idempotent row rows).map TrackingRow.key := by
  rw [insertTracking]
  split
  · exact mem_keys_insertNew
  · rw [List.map_append]
    exact List.mem_append_right _ (by simp)

theorem unique_insertTracking {idempotent : Bool} (row : TrackingRow) {rows : List TrackingRow}
    (on : idempotent = true) (unique : Unique TrackingRow.key rows) :
    Unique TrackingRow.key (insertTracking idempotent row rows) := by
  rw [insertTracking]
  rw [if_pos on]
  exact unique.insertNew

theorem commit_cases (idempotent commits : Bool) (rows : List TrackingRow) (a : Answered) :
    commit idempotent commits rows a = rows ∨
      ∃ row, commit idempotent commits rows a = insertTracking idempotent row rows := by
  unfold commit
  split
  · split
    · next row _ =>
        split
        · exact .inr ⟨row, rfl⟩
        · exact .inl rfl
    · exact .inl rfl
  · exact .inl rfl

theorem keys_commit {idempotent commits : Bool} {rows : List TrackingRow} (a : Answered)
    {k : Text × Instant} (taken : k ∈ rows.map TrackingRow.key) :
    k ∈ (commit idempotent commits rows a).map TrackingRow.key := by
  rcases commit_cases idempotent commits rows a with same | ⟨row, inserted⟩
  · rwa [same]
  · rw [inserted]
    exact keys_insertTracking taken

theorem commit_stored (idempotent commits : Bool) (rows : List TrackingRow) (rec : AvlRecord)
    (b : Bool) : (deviceId, rec.timestamp) ∈ (commit idempotent commits rows
      ⟨.execute (statementOf deviceId rec), .ok b⟩).map TrackingRow.key := by
  let row : TrackingRow := ⟨deviceId, cleaned 6 rec.latitude, cleaned 6 rec.longitude,
    cleaned 2 rec.speed, cleaned 2 rec.angle, rec.satellites, rec.timestamp⟩
  have effect : commit idempotent commits rows ⟨.execute (statementOf deviceId rec), .ok b⟩ =
      insertTracking idempotent row rows := rfl
  rw [effect]
  exact key_insertTracking idempotent row rows

theorem stored_cons {rec : AvlRecord} {a : Answered} {past : List Answered}
    (stored : Stored deviceId rec (a :: past)) :
    (∃ b : Bool, a = ⟨.execute (statementOf deviceId rec), .ok b⟩) ∨ Stored deviceId rec past := by
  obtain ⟨b, member⟩ := stored
  rcases List.mem_cons.mp member with same | before
  · exact .inl ⟨b, same.symm⟩
  · exact .inr ⟨b, before⟩

variable {s s' : State}

theorem sound_send {n : Nat} {raw : Bytes} (sound : s.Sound cfg deviceId)
    (moves : s.send cfg ip n raw = some s') : s'.Sound cfg deviceId := by
  rw [State.send] at moves
  split at moves
  · next allowed =>
      obtain ⟨-, few, carried⟩ := allowed
      cases moves
      refine ⟨?_, ?_, ?_, ?_, sound.unique⟩
      · intro round member
        rcases List.mem_append.mp member with before | new
        · exact sound.rounds round before
        · obtain rfl := List.mem_singleton.mp new
          exact Round.sound_start carried
      · intro i round waits at_
        cases waits
        rw [List.getElem?_concat_length] at at_
        cases at_
        exact List.take_prefix n s.queue
      · intro drop member
        exact (sound.drops drop member).mono (extends_append _ _)
      · intro round member rec stored
        rcases List.mem_append.mp member with before | new
        · exact sound.stored round before rec stored
        · obtain rfl := List.mem_singleton.mp new
          obtain ⟨b, called⟩ := stored
          cases called
  · cases moves

theorem sound_resume {i : Nat} {answers : (o : Op) → Res o} {commits : Bool}
    (sound : s.Sound cfg deviceId) (moves : s.resume cfg deviceId i answers commits = some s') :
    s'.Sound cfg deviceId := by
  rw [State.resume] at moves
  split at moves
  · next sent o next past at_ =>
      split at moves
      · next device =>
          cases moves
          have old : Round.Sound cfg deviceId ⟨sent, .call o next, past⟩ :=
            sound.rounds _ (List.mem_of_getElem? at_)
          have longer := extends_set at_ (next (answers o)) ⟨o, answers o⟩
          refine ⟨?_, ?_, ?_, ?_, ?_⟩
          · intro round member
            rcases List.mem_or_eq_of_mem_set member with before | rfl
            · exact sound.rounds round before
            · exact old.next _ device
          · intro j round waits at'
            by_cases same : i = j
            · subst same
              have inside := (List.getElem?_eq_some_iff.mp at_).1
              rw [List.getElem?_set_self inside] at at'
              cases at'
              exact sound.waiting i ⟨sent, .call o next, past⟩ waits at_
            · rw [List.getElem?_set_ne same] at at'
              exact sound.waiting j round waits at'
          · intro drop member
            exact (sound.drops drop member).mono longer
          · intro round member rec stored
            rcases List.mem_or_eq_of_mem_set member with before | rfl
            · exact keys_commit _ (sound.stored round before rec stored)
            · rcases stored_cons stored with ⟨b, same⟩ | before
              · change _ ∈ (commit _ commits s.tracked ⟨o, answers o⟩).map TrackingRow.key
                rw [same]
                exact commit_stored _ commits s.tracked rec b
              · exact keys_commit _ (sound.stored _ (List.mem_of_getElem? at_) rec before)
          · intro on
            rcases commit_cases cfg.gpsTrackingIdempotent commits s.tracked ⟨o, answers o⟩ with
              same | ⟨row, inserted⟩
            · rw [same]
              exact sound.unique on
            · rw [inserted]
              exact unique_insertTracking row on (sound.unique on)
      · cases moves
  · cases moves

theorem sound_receive {payload : Bytes} (sound : s.Sound cfg deviceId)
    (moves : s.receive payload = some s') : s'.Sound cfg deviceId := by
  rw [State.receive] at moves
  obtain ⟨i, waits, moves⟩ := Option.bind_eq_some_iff.mp moves
  obtain ⟨round, at_, moves⟩ := Option.bind_eq_some_iff.mp moves
  split at moves
  · next replied =>
      obtain ⟨member, size⟩ := replied
      cases moves
      have confirmed := (sound.rounds round (List.mem_of_getElem? at_)).replies payload member size
      obtain ⟨few, settled⟩ := confirmed
      have front := sound.waiting i round waits at_
      have taken : s.queue.take (bigEndian payload) = round.sent.take (bigEndian payload) := by
        obtain ⟨rest, whole⟩ := front
        rw [← whole, List.take_append_of_le_length few]
      refine ⟨sound.rounds, ?_, ?_, sound.stored, sound.unique⟩
      · intro j other none_
        cases none_
      · intro drop dropped
        rcases List.mem_append.mp dropped with before | new
        · exact sound.drops drop before
        · obtain rfl := List.mem_singleton.mp new
          refine ⟨round, at_, few, taken, ?_⟩
          change Settled cfg deviceId (s.queue.take (bigEndian payload)) round.past
          rwa [taken]
  · cases moves

theorem sound_step {i : Input} (sound : s.Sound cfg deviceId)
    (moves : s.step cfg ip deviceId i = some s') : s'.Sound cfg deviceId := by
  cases i with
  | produce rec =>
      cases moves
      refine ⟨sound.rounds, ?_, sound.drops, sound.stored, sound.unique⟩
      intro i round waits at_
      exact (sound.waiting i round waits at_).trans (List.prefix_append _ _)
  | send n raw => exact sound_send sound moves
  | resume i answers commits => exact sound_resume sound moves
  | receive payload => exact sound_receive sound moves
  | giveUp =>
      cases moves
      refine ⟨sound.rounds, ?_, sound.drops, sound.stored, sound.unique⟩
      intro i round none_
      cases none_
  | outside row =>
      cases moves
      refine ⟨sound.rounds, sound.waiting, sound.drops, ?_, ?_⟩
      · intro round member rec stored
        exact keys_insertTracking (sound.stored round member rec stored)
      · intro on
        exact unique_insertTracking row on (sound.unique on)

theorem sound_start {tracked : List TrackingRow}
    (unique : cfg.gpsTrackingIdempotent = true → Unique TrackingRow.key tracked) :
    (State.start tracked).Sound cfg deviceId := by
  refine ⟨?_, ?_, ?_, ?_, unique⟩
  · intro round member
    cases member
  · intro i round waits
    cases waits
  · intro drop member
    cases member
  · intro round member
    cases member

end Runs

/-- What is promised for the records the device has dropped. -/
structure Delivered (cfg : Config) (deviceId : Text) (s : State) (drop : Drop) (round : Round) :
    Prop where
  which : s.rounds[drop.round]? = some round
  /-- No more are dropped than were sent. -/
  few : drop.count ≤ round.sent.length
  first : drop.records = round.sent.take drop.count
  /-- Each one, in order, was stored by a successful call of its own or skipped on purpose. -/
  settled : Settled cfg deviceId drop.records round.past
  each : ∀ rec ∈ drop.records, Stored deviceId rec round.past ∨ Skipped cfg rec round.past
  /-- In the idempotent mode the history has one row for each that was stored. -/
  single : cfg.gpsTrackingIdempotent = true → ∀ rec ∈ drop.records, Stored deviceId rec round.past →
    (s.tracked.filter fun row => row.key = (deviceId, rec.timestamp)).length = 1

/-- Nothing the device drops is lost, in any run. -/
theorem dropped_delivered (cfg : Config) (ip deviceId : Text) (tracked : List TrackingRow)
    (unique : cfg.gpsTrackingIdempotent = true → Unique TrackingRow.key tracked) {s : State}
    (reached : Reachable (State.step cfg ip deviceId) (fun _ _ => True) (.start tracked) s) :
    ∀ drop ∈ s.drops, ∃ round, Delivered cfg deviceId s drop round := by
  have sound : s.Sound cfg deviceId :=
    reached.invariant (sound_start unique) fun _ _ _ sound _ moves => sound_step sound moves
  intro drop member
  obtain ⟨round, which, few, first, settled⟩ := sound.drops drop member
  refine ⟨round, which, few, first, settled, ?_, ?_⟩
  · intro rec counted
    exact settled.stored_or_skipped counted
  · intro on rec _ stored
    have taken := sound.stored round (List.mem_of_getElem? which) rec stored
    exact (sound.unique on).exactly_one taken

def someRecord (millis : Nat) : AvlRecord :=
  ⟨millis * 1000, 0, 7, 80, 0, 90, 9, 30, 0, []⟩

def someRecordBytes (millis : Nat) : Bytes :=
  bigEndianBytes 8 millis ++ [0] ++ bigEndianBytes 4 800000000 ++ bigEndianBytes 4 70000000 ++
    [0, 0, 0, 90, 9, 0, 30] ++ [0, 0, 0, 0, 0, 0]

def somePacket : Bytes :=
  let data := [8, 2] ++ someRecordBytes 1000 ++ someRecordBytes 2000 ++ [2]
  preamble ++ bigEndianBytes 4 data.length ++ data ++ bigEndianBytes 4 (crc16Ibm data).toNat

/-- The gateway's surroundings; statements of positions have the given outcome. -/
def surroundings (saved : Except Exn Bool) : (o : Op) → Res o
  | .getImeiBySocket => some ['1']
  | .getDevice _ => some ⟨['d'], [], .teltonika, 0, 0, 0, none, none, none⟩
  | .lastAlive _ => some (0 : ℚ)
  | .lastIgnition _ => none
  | .write _ | .drain => .ok ()
  | .utcNow => (10000000 : ℤ)
  | .monotonic => (0 : ℚ)
  | .random => (1 : ℚ)
  | .getDeviceByImei .. | .getVehicleByDevice _ => .ok none
  | .execute _ => saved
  | .registerDevice .. | .notePosition .. | .setLastAlive .. | .setLastIgnition ..
  | .forgetStatus _ | .close | .log _ => ()

/-- The answer to the first packet is lost; at the second the statement of the last record is
committed, but raises. -/
def resentInputs : List Input :=
  [.produce (someRecord 1000), .produce (someRecord 2000), .send 2 somePacket] ++
    List.replicate 11 (.resume 0 (surroundings (.ok true)) false) ++
    [.giveUp, .send 2 somePacket] ++
    List.replicate 8 (.resume 1 (surroundings (.ok true)) false) ++
    List.replicate 3 (.resume 1 (surroundings (.error .timeoutError)) true) ++
    [.receive [0, 0, 0, 1]]

theorem dropped_delivered_resent : ∃ s,
    run (State.step { defaults with gpsTrackingIdempotent := true } [] ['d']) (.start [])
      resentInputs = some s ∧ s.queue = [someRecord 2000] ∧ s.tracked.length = 2 ∧
    s.drops.map Drop.records = [[someRecord 1000]] ∧
    ∀ drop ∈ s.drops, ∃ round,
      Delivered { defaults with gpsTrackingIdempotent := true } ['d'] s drop round := by
  have seen : (run (State.step { defaults with gpsTrackingIdempotent := true } [] ['d']) (.start [])
      resentInputs).map (fun s => (s.queue, s.tracked.length, s.drops.map Drop.records)) =
      some ([someRecord 2000], 2, [[someRecord 1000]]) := by decide +kernel
  obtain ⟨s, ran, shown⟩ := Option.map_eq_some_iff.mp seen
  obtain ⟨queue, rest⟩ := Prod.mk.inj shown
  obtain ⟨length, drops⟩ := Prod.mk.inj rest
  have reached : Reachable (State.step { defaults with gpsTrackingIdempotent := true } [] ['d'])
      (fun _ _ => (true : Bool) = true) (.start []) s :=
    reachable_of_run .start (by decide +kernel) ran
  exact ⟨s, ran, queue, length, drops, dropped_delivered _ [] ['d'] [] (fun _ => List.nodup_nil)
    (reached.mono fun _ _ _ => trivial)⟩

end TrackerGateway.Delivery
