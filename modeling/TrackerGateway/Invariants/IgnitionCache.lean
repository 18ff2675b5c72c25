/- module: TrackerGateway/Invariants/IgnitionCache
   source: src/services/teltonika_handler.py, src/services/tracking_service.py
   digest: When the remembered ignition of a device is the one that was stored. -/

import TrackerGateway.Foundation.Coroutine.Stateful
import TrackerGateway.Services.TeltonikaHandler
import TrackerGateway.Services.Upkeep

set_option autoImplicit false
set_option relaxedAutoImplicit false

namespace TrackerGateway.Invariants.IgnitionCache

open Foundation.Coroutine
open Foundation.Wire (Text Bytes Number Instant)
open TrackerGateway.Runtime
open Parsers.Teltonika (AvlRecord isLoginFrame parseAvlPacket)
open Services Services.TeltonikaHandler

/-- The two caches, the ignition column of the rows, and for each device what its ignition was last
set to since its last login. -/
structure World where
  lastAlive : Text → Option ℚ
  lastIgnition : Text → Option Bool
  ignitionStatus : Text → Option Bool
  written : Text → Option Bool

def World.start (rows : Text → Option Bool) : World :=
  ⟨fun _ => none, fun _ => none, rows, fun _ => none⟩

/-- The caches answer what they hold; every other answer is possible. -/
def World.admits (w : World) : Answered → Prop
  | ⟨.lastAlive deviceId, found⟩ => found = w.lastAlive deviceId
  | ⟨.lastIgnition deviceId, found⟩ => found = w.lastIgnition deviceId
  | _ => True

/-- What an operation changes. A statement that raised changes nothing; the row that marks a device
alive is inserted without ignition. -/
def World.after (w : World) : Answered → World
  | ⟨.setLastAlive deviceId seconds, _⟩ =>
      { w with lastAlive := Function.update w.lastAlive deviceId (some seconds) }
  | ⟨.setLastIgnition deviceId ignition, _⟩ =>
      { w with lastIgnition := Function.update w.lastIgnition deviceId (some ignition) }
  | ⟨.forgetStatus deviceId, _⟩ => { w with
      lastAlive := Function.update w.lastAlive deviceId none
      lastIgnition := Function.update w.lastIgnition deviceId none
      written := Function.update w.written deviceId none }
  | ⟨.execute (.ignition deviceId ignition _), .ok _⟩ => { w with
      ignitionStatus := Function.update w.ignitionStatus deviceId (some ignition)
      written := Function.update w.written deviceId (some ignition) }
  | ⟨.execute (.deviceStatus deviceId _ _ ignition ..), .ok _⟩ => { w with
      ignitionStatus := Function.update w.ignitionStatus deviceId (some ignition) }
  | ⟨.execute (.deviceAlive deviceId ..), .ok _⟩ => { w with
      ignitionStatus := Function.update w.ignitionStatus deviceId
        (some ((w.ignitionStatus deviceId).getD false)) }
  | _ => w

def world : Surroundings Op Res World := ⟨World.admits, World.after⟩

structure Visit where
  ip : Text
  raw : Bytes
  trace : List Answered
  outcome : Except Exn (Option Text)
  before : World
  after : World

/-- Frames that are handled one after the other, beginning in this state. -/
def Session (cfg : Config) : World → List Visit → Prop
  | _, [] => True
  | w, v :: rest => v.before = w ∧
      Runs world (processTeltonikaFrame cfg v.ip v.raw) w v.trace v.outcome v.after ∧
      Session cfg v.after rest

structure Visit.Reports (v : Visit) (deviceId : Text) (records : List AvlRecord) : Prop where
  data : isLoginFrame v.raw = false
  packet : ∃ packet, parseAvlPacket v.raw = .ok packet ∧ packet.records = records
  device : ∃ imei device rest, v.trace = ⟨.getImeiBySocket, some imei⟩ ::
    ⟨.getDevice imei, some device⟩ :: rest ∧ device.deviceId = deviceId

def Available (trace : List Answered) : Prop :=
  ∀ statement e, (⟨.execute statement, .error e⟩ : Answered) ∉ trace

def Lost (deviceId : Text) (trace : List Answered) : Prop :=
  ∃ ignition now e, (⟨.execute (.ignition deviceId ignition now), .error e⟩ : Answered) ∈ trace

/-- The ignition of a newest record among those that report it. -/
def Newest (records : List AvlRecord) (ignition : Bool) : Prop :=
  ∃ rec ∈ records, rec.ignition = some ignition ∧
    ∀ other ∈ records, other.ignition ≠ none → other.timestamp ≤ rec.timestamp

/-- A remembered value is the one that was written last. -/
def Coherent (w : World) (deviceId : Text) : Prop :=
  ∀ ignition, w.lastIgnition deviceId = some ignition → w.written deviceId = some ignition

structure Kept (deviceId : Text) (v : Visit) : Prop where
  coherent : Coherent v.after deviceId
  again : ∀ records ignition, v.Reports deviceId records →
    newestIgnition records = some ignition → v.before.written deviceId ≠ some ignition →
    ∃ now answer, (⟨.execute (.ignition deviceId ignition now), answer⟩ : Answered) ∈ v.trace
  status : ∀ records, v.Reports deviceId records → Available v.trace →
    (∃ rec ∈ records, rec.ignition ≠ none) →
    ∃ ignition, Newest records ignition ∧ v.after.ignitionStatus deviceId = some ignition

def Calm : Op → Prop
  | .execute (.deviceStatus ..) | .execute (.ignition ..) => False
  | .setLastIgnition .. | .forgetStatus _ => False
  | _ => True

/-- The ignition of a device is as it was, but for a row that was not there. -/
structure Same (deviceId : Text) (w w' : World) : Prop where
  remembered : w'.lastIgnition deviceId = w.lastIgnition deviceId
  written : w'.written deviceId = w.written deviceId
  stored : ∀ ignition, w.ignitionStatus deviceId = some ignition →
    w'.ignitionStatus deviceId = some ignition

theorem Same.refl (deviceId : Text) (w : World) : Same deviceId w w :=
  ⟨rfl, rfl, fun _ stored => stored⟩

theorem Same.trans {deviceId : Text} {w w' w'' : World} (one : Same deviceId w w')
    (two : Same deviceId w' w'') : Same deviceId w w'' :=
  ⟨two.remembered.trans one.remembered, two.written.trans one.written, fun ignition stored =>
    two.stored ignition (one.stored ignition stored)⟩

theorem same_after (deviceId : Text) (w : World) (a : Answered) (calm : Calm a.1) :
    Same deviceId w (w.after a) := by
  obtain ⟨o, answer⟩ := a
  cases o with
  | execute statement =>
      cases statement with
      | ignition => exact calm.elim
      | deviceStatus => exact calm.elim
      | deviceAlive d heartbeat now =>
          cases answer with
          | error e => exact Same.refl deviceId w
          | ok row =>
              refine ⟨rfl, rfl, ?_⟩
              intro ignition stored
              by_cases here : deviceId = d
              · subst here
                simp [World.after, stored]
              · simpa [World.after, here] using stored
      | _ => exact Same.refl deviceId w
  | setLastIgnition => exact calm.elim
  | forgetStatus => exact calm.elim
  | _ => exact ⟨rfl, rfl, fun _ stored => stored⟩

theorem same_of_calm (deviceId : Text) {w w' : World} {trace : List Answered}
    (follows : Follows world w trace w') (calm : ∀ a ∈ trace, Calm a.1) : Same deviceId w w' :=
  follows.invariant (fun s a is same => same.trans (same_after deviceId s a is)) calm
    (Same.refl deviceId w)

theorem same_forget {deviceId d : Text} (apart : deviceId ≠ d) (w : World) :
    Same deviceId w (w.after ⟨.forgetStatus d, ()⟩) :=
  ⟨Function.update_of_ne apart .., Function.update_of_ne apart .., fun _ stored => stored⟩

theorem same_ignition {deviceId d : Text} (apart : deviceId ≠ d) (w : World) (ignition : Bool)
    (now : Instant) (answer : Except Exn Bool) :
    Same deviceId w (w.after ⟨.execute (.ignition d ignition now), answer⟩) := by
  cases answer with
  | error e => exact Same.refl deviceId w
  | ok row =>
      refine ⟨rfl, Function.update_of_ne apart .., ?_⟩
      intro ignition' stored
      exact (Function.update_of_ne apart ..).trans stored

theorem same_setLastIgnition {deviceId d : Text} (apart : deviceId ≠ d) (w : World)
    (ignition : Bool) : Same deviceId w (w.after ⟨.setLastIgnition d ignition, ()⟩) :=
  ⟨Function.update_of_ne apart .., rfl, fun _ stored => stored⟩

section Parts

variable {deviceId : Text}

theorem calmly {α : Type} {p : Handler α} (parts : Confined Plain p) : Confined Calm p := by
  apply parts.mono
  intro o plain
  cases o with
  | execute statement =>
      cases statement with
      | ignition => exact plain.elim
      | deviceStatus => exact plain.elim
      | _ => trivial
  | setLastIgnition => exact plain.elim
  | forgetStatus => exact plain.elim
  | _ => trivial

theorem calm_safely {write : Handler Unit} (calm : Confined Calm write) :
    Confined Calm (safely write) :=
  calm.rescue fun _ => keeps_pure _

theorem calm_send (payload : Bytes) : Confined Calm (send payload) :=
  calmly (Keeps.rescue ((plain_write payload).bind fun _ => plain_drain) fun _ => keeps_pure _)

theorem calm_createEvent (vehicleId : Option Text) (eventType : Text) (severity : Severity)
    (latitude longitude : Option Number) (description : Text) (metadata : List (Text × Json)) :
    Confined Calm (createEvent deviceId vehicleId eventType severity latitude longitude
      description metadata) :=
  confined_stamped trivial fun _ => trivial

theorem calm_storeRecord (cfg : Config) (rec : AvlRecord) :
    Confined Calm (storeRecord cfg deviceId rec) := by
  refine keeps_ite (keeps_pure _) ((calmly plain_clock).bind ?_)
  intro now
  refine keeps_ite (keeps_pure _) (keeps_ite (keeps_pure _) ?_)
  refine Keeps.rescue (Keeps.bind ?_ fun _ => keeps_pure _) fun _ => keeps_pure _
  exact (keeps_demand _).bind fun _ => (keeps_demand _).bind fun _ => (keeps_demand _).bind
    fun _ => (keeps_demand _).bind fun _ => (confined_request trivial).bind keeps_demand

theorem calm_storeRecords (cfg : Config) (records : List AvlRecord) :
    Confined Calm (storeRecords cfg deviceId records) := by
  induction records with
  | nil => exact keeps_pure _
  | cons rec rest ih =>
      apply (calm_storeRecord cfg rec).bind
      intro settled
      exact keeps_ite (ih.bind fun _ => keeps_pure _) (keeps_pure _)

theorem calm_refreshAlive (now : ℚ) :
    Confined Calm (refreshStatus.refreshAlive deviceId now) := by
  apply (confined_request (o := Op.lastAlive deviceId) trivial).bind
  intro last
  refine keeps_ite ?_ (keeps_pure _)
  exact (calm_safely (calmly (plain_markDeviceAlive true))).bind fun _ =>
    confined_request (o := Op.setLastAlive deviceId now) trivial

end Parts

section Runs

variable {cfg : Config} {deviceId ip : Text} {raw : Bytes} {records : List AvlRecord}
  {trace : List Answered}

theorem executes_safely {write : Handler Unit} {outcome : Except Exn Unit}
    (ran : Executes (safely write) trace outcome) : outcome = .ok () := by
  obtain ⟨front, back, middle, -, -, continued⟩ := executes_rescue.mp ran
  cases middle with
  | ok a => exact continued.2
  | error e => exact continued.2

theorem executes_refreshAlive {now : ℚ} {outcome : Except Exn Unit}
    (ran : Executes (refreshStatus.refreshAlive deviceId now) trace outcome) :
    outcome = .ok () := by
  obtain ⟨last, rest, rfl, later⟩ := ran
  change Executes (if _ then _ else _) rest outcome at later
  split at later
  · obtain ⟨front, back, middle, -, marked, set_⟩ := executes_bind.mp later
    rw [executes_safely marked] at set_
    obtain ⟨_, _, _, _, returned⟩ := set_
    exact returned
  · exact later.2

theorem executes_safely_setIgnition {ignition : Bool} {outcome : Except Exn Unit}
    (ran : Executes (safely (setIgnition deviceId ignition)) trace outcome) :
    ∃ at_ answer,
      trace = [⟨.utcNow, at_⟩, ⟨.execute (.ignition deviceId ignition at_), answer⟩] := by
  obtain ⟨at_, rest, rfl, answer, rest, rfl, ended⟩ := ran
  refine ⟨at_, answer, ?_⟩
  cases answer with
  | ok row => rw [ended.1]
  | error e => rw [ended.1]

/-- The ignition is set where the packet reports another one than is remembered. -/
theorem executes_refreshStatus {outcome : Except Exn Unit}
    (ran : Executes (refreshStatus deviceId records) trace outcome) : outcome = .ok () ∧
      ((newestIgnition records = none ∧ ∀ a ∈ trace, Calm a.1) ∨
      (∃ ignition now rest, newestIgnition records = some ignition ∧
        trace = ⟨.monotonic, now⟩ :: ⟨.lastIgnition deviceId, some ignition⟩ :: rest ∧
        ∀ a ∈ rest, Calm a.1) ∨
      ∃ ignition now cached at_ answer, newestIgnition records = some ignition ∧
        cached ≠ some ignition ∧
        trace = [⟨.monotonic, now⟩, ⟨.lastIgnition deviceId, cached⟩, ⟨.utcNow, at_⟩,
          ⟨.execute (.ignition deviceId ignition at_), answer⟩,
          ⟨.setLastIgnition deviceId ignition, ()⟩, ⟨.setLastAlive deviceId now, ()⟩]) := by
  obtain ⟨now, rest, rfl, later⟩ := ran
  cases newest : newestIgnition records with
  | none =>
      rw [newest] at later
      have quiet : ∀ a ∈ rest, Calm a.1 := (calm_refreshAlive now).executes later
      exact ⟨executes_refreshAlive later, .inl ⟨rfl, List.forall_mem_cons.mpr ⟨trivial, quiet⟩⟩⟩
  | some ignition =>
      rw [newest] at later
      obtain ⟨cached, rest, rfl, later⟩ := later
      change Executes (if _ then _ else _) rest outcome at later
      split at later
      case isFalse same =>
        rw [not_not] at same
        subst same
        exact ⟨executes_refreshAlive later, .inr (.inl ⟨ignition, now, rest, rfl, rfl,
          (calm_refreshAlive now).executes later⟩)⟩
      case isTrue other =>
        obtain ⟨front, back, middle, rfl, wrote, ended⟩ := executes_bind.mp later
        obtain ⟨at_, answer, rfl⟩ := executes_safely_setIgnition wrote
        rw [executes_safely wrote] at ended
        obtain ⟨_, _, rfl, _, _, rfl, rfl, returned⟩ := ended
        exact ⟨returned, .inr (.inr ⟨ignition, now, cached, at_, answer, rfl, other, rfl⟩)⟩

/-- How a frame is handled: a login forgets the remembered ignition, a packet of a device refreshes
it once, and nothing else touches an ignition. -/
inductive Course (raw : Bytes) (trace : List Answered) : Prop
  | calm (unseen : ∀ imei device rest, isLoginFrame raw = false →
      trace = ⟨.getImeiBySocket, some imei⟩ :: ⟨.getDevice imei, some device⟩ :: rest →
      ∀ packet, parseAvlPacket raw ≠ .ok packet)
      (quiet : ∀ a ∈ trace, Calm a.1)
  | login (deviceId : Text) (front back : List Answered) (frame : isLoginFrame raw = true)
      (whole : trace = front ++ ⟨.forgetStatus deviceId, ()⟩ :: back)
      (before : ∀ a ∈ front, Calm a.1) (behind : ∀ a ∈ back, Calm a.1)
  | packet (imei : Text) (device : Entry) (packet : Parsers.Teltonika.AvlPacket)
      (front middle back : List Answered) (decoded : parseAvlPacket raw = .ok packet)
      (whole : trace = ⟨.getImeiBySocket, some imei⟩ :: ⟨.getDevice imei, some device⟩ ::
        (front ++ middle ++ back))
      (before : ∀ a ∈ front, Calm a.1) (behind : ∀ a ∈ back, Calm a.1)
      (refreshed : Executes (refreshStatus device.deviceId packet.records) middle (.ok ()))

theorem calm_cons {α : Type} {p : Handler α} {a : Answered} {rest : List Answered}
    {outcome : Except Exn α} (first : Calm a.1) (calm : Confined Calm p)
    (ran : Executes p rest outcome) : ∀ x ∈ a :: rest, Calm x.1 :=
  List.forall_mem_cons.mpr ⟨first, calm.executes ran⟩

theorem login_course {outcome : Except Exn (Option Text)} (frame : isLoginFrame raw = true)
    (ran : Executes (handleLogin cfg ip raw) trace outcome) : Course raw trace := by
  have calm : (∀ a ∈ trace, Calm a.1) → Course raw trace := by
    refine .calm ?_
    rintro _ _ _ data
    rw [frame] at data
    cases data
  have refused : Confined Calm
      ((request Op.close).bind fun _ => .pure none : Handler (Option Text)) :=
    calmly (plain_close.bind fun _ => keeps_pure _)
  rw [handleLogin] at ran
  split at ran
  · exact calm (refused.executes ran)
  · exact calm (by simp [ran.1])
  · obtain ⟨front, rest, middle, rfl, looked, later⟩ := executes_bind.mp ran
    have quiet := (calmly (plain_getDeviceByImei _ _ _)).executes looked
    have ended : ∀ back, (∀ a ∈ back, Calm a.1) → ∀ a ∈ front ++ back, Calm a.1 := by
      intro back behind
      exact List.forall_mem_append.mpr ⟨quiet, behind⟩
    cases middle with
    | error e =>
        obtain ⟨rfl, -⟩ := later
        exact calm (ended [] (by simp))
    | ok deviceId? =>
        dsimp only at later
        split at later
        · exact calm (ended _ (refused.executes later))
        case h_2 deviceId _ =>
          obtain ⟨registered, rest, middle, rfl, entered, accepted⟩ := executes_bind.mp later
          have listed := (calmly (plain_registerDevice _ _ _)).executes entered
          cases middle with
          | error e =>
              obtain ⟨rfl, -⟩ := accepted
              refine calm (ended _ ?_)
              rwa [List.append_nil]
          | ok entry =>
              obtain ⟨answer, rest, rfl, greeted⟩ := accepted
              refine .login deviceId (front ++ registered) rest frame ?_ (ended _ listed) ?_
              · rw [List.append_assoc]
              · refine Confined.executes ?_ greeted
                exact (calm_send _).bind fun _ =>
                  (calm_safely (calmly (plain_saveRaw cfg _ _ _ _))).bind fun _ =>
                  (calm_safely (calmly (plain_markDeviceAlive _))).bind fun _ =>
                  ((calmly plain_getVehicle).rescue fun _ => keeps_pure _).bind fun _ =>
                  (calm_safely (calm_createEvent _ _ _ _ _ _ _)).bind fun _ => keeps_pure _

theorem avl_course {outcome : Except Exn (Option Text)}
    (ran : Executes (handleAvl cfg raw) trace outcome) : Course raw trace := by
  obtain ⟨found, rest, rfl, later⟩ := ran
  dsimp only [Program.bind_eq, Program.bind_pure] at later
  cases real : truthy found with
  | none =>
      rw [real] at later
      refine .calm ?_ (calm_cons trivial (calmly (plain_close.bind fun _ => keeps_pure _)) later)
      rintro imei device rest' - whole
      obtain ⟨answer, rest, rfl, -⟩ := later
      cases whole
  | some imei =>
      obtain ⟨rfl, -⟩ := truthy_eq_some_iff.mp real
      rw [real] at later
      obtain ⟨device?, rest, rfl, later⟩ := later
      dsimp only [Program.bind_eq, Program.bind_pure] at later
      cases device? with
      | none =>
          obtain ⟨rfl, -⟩ := later
          refine .calm ?_ (by simp [Calm])
          rintro imei device rest' - whole
          cases whole
      | some device =>
          dsimp only at later
          cases decoded : parseAvlPacket raw with
          | error e =>
              rw [decoded] at later
              have quiet : ∀ a ∈ rest, Calm a.1 := by
                have kept : Confined Calm ((safely (saveRawFrame cfg device.deviceId raw true
                    false)).bind fun _ => .pure (some imei)) :=
                  (calm_safely (calmly (plain_saveRaw cfg _ _ _ _))).bind fun _ => keeps_pure _
                cases e with
                | teltonikaCrcError => simp [later.1]
                | teltonikaParseError _ => exact kept.executes later
                | unsupportedCodecError _ => exact kept.executes later
                | _ => simp [later.1]
              refine .calm ?_ ?_
              · rintro - - - - - packet decoded'
                rw [decoded] at decoded'
                cases decoded'
              · refine List.forall_mem_cons.mpr ⟨trivial, ?_⟩
                exact List.forall_mem_cons.mpr ⟨trivial, quiet⟩
          | ok packet =>
              rw [decoded] at later
              obtain ⟨front, rest, middle, rfl, saved, later⟩ := executes_bind.mp later
              rw [executes_safely saved] at later
              obtain ⟨middle, back, answer, rfl, refreshed, later⟩ := executes_bind.mp later
              obtain ⟨rfl, -⟩ := executes_refreshStatus refreshed
              have stored : Confined Calm ((storeRecords cfg device.deviceId packet.records).bind
                  fun accepted => (send (Parsers.Teltonika.ack accepted)).bind fun _ =>
                    .pure (some imei)) :=
                (calm_storeRecords cfg _).bind fun _ => (calm_send _).bind fun _ => keeps_pure _
              refine .packet imei device packet front middle back decoded ?_ ?_ ?_ refreshed
              · rw [List.append_assoc]
              · exact (calm_safely (calmly (plain_saveRaw cfg _ _ _ _))).executes saved
              · exact stored.executes later

theorem Course.resolve (course : Course raw trace) (found : Option Text) :
    Course raw (trace ++ [⟨.getImeiBySocket, found⟩]) := by
  have quiet : ∀ back : List Answered, (∀ a ∈ back, Calm a.1) →
      ∀ a ∈ back ++ [⟨.getImeiBySocket, found⟩], Calm a.1 := by
    intro back behind
    exact List.forall_mem_append.mpr ⟨behind, by simp [Calm]⟩
  cases course with
  | calm unseen behind =>
      refine .calm ?_ (quiet trace behind)
      intro imei device rest data whole
      cases trace with
      | nil => cases whole
      | cons first trace =>
          cases trace with
          | nil => cases whole
          | cons second trace =>
              obtain ⟨rfl, tail⟩ := List.cons.inj whole
              obtain ⟨rfl, -⟩ := List.cons.inj tail
              exact unseen imei device trace data rfl
  | login deviceId front back frame whole before behind =>
      refine .login deviceId front (back ++ [⟨.getImeiBySocket, found⟩]) frame ?_ before
        (quiet back behind)
      rw [whole, List.append_assoc, List.cons_append]
  | packet imei device packet front middle back decoded whole before behind refreshed =>
      refine .packet imei device packet front middle (back ++ [⟨.getImeiBySocket, found⟩]) decoded
        ?_ before (quiet back behind) refreshed
      rw [whole]
      simp only [List.cons_append, List.append_assoc]

/-- Every frame takes one of these courses. -/
theorem frame_course {outcome : Except Exn (Option Text)}
    (ran : Executes (processTeltonikaFrame cfg ip raw) trace outcome) : Course raw trace := by
  obtain ⟨front, back, middle, rfl, handled, continued⟩ := executes_rescue.mp ran
  have course : Course raw front := by
    split at handled
    case isTrue frame => exact login_course frame handled
    case isFalse => exact avl_course handled
  cases middle with
  | ok imei? =>
      rw [continued.1, List.append_nil]
      exact course
  | error e =>
      obtain ⟨found, rest, rfl, rfl, -⟩ := continued
      exact course.resolve found

end Runs

/-! ### What becomes of the ignition of a device -/

inductive Effect (deviceId : Text) (v : Visit) : Prop
  | untouched (same : Same deviceId v.before v.after) (silent : ¬Lost deviceId v.trace)
      (known : ∀ records ignition, v.Reports deviceId records →
        newestIgnition records = some ignition → v.before.lastIgnition deviceId = some ignition)
  | forgotten (remembered : v.after.lastIgnition deviceId = none)
      (written : v.after.written deviceId = none) (silent : ¬Lost deviceId v.trace)
      (login : ∀ records, ¬v.Reports deviceId records)
  | refreshed (ignition : Bool) (now : Instant) (answer : Except Exn Bool)
      (stale : v.before.lastIgnition deviceId ≠ some ignition)
      (tried : (⟨.execute (.ignition deviceId ignition now), answer⟩ : Answered) ∈ v.trace)
      (remembered : v.after.lastIgnition deviceId = some ignition)
      (reported : ∀ records, v.Reports deviceId records → newestIgnition records = some ignition)
      (outcome : ((∃ row, answer = .ok row) ∧ ¬Lost deviceId v.trace ∧
          v.after.written deviceId = some ignition ∧
          v.after.ignitionStatus deviceId = some ignition) ∨
        (∃ e, answer = .error e) ∧ v.after.written deviceId = v.before.written deviceId ∧
          ∀ stored, v.before.ignitionStatus deviceId = some stored →
            v.after.ignitionStatus deviceId = some stored)

section Effects

variable {cfg : Config} {deviceId : Text} {v : Visit}

theorem calm_not_lost {trace : List Answered} (calm : ∀ a ∈ trace, Calm a.1) :
    ¬Lost deviceId trace := by
  rintro ⟨ignition, now, e, member⟩
  exact calm _ member

theorem lost_append {front back : List Answered} :
    Lost deviceId (front ++ back) ↔ Lost deviceId front ∨ Lost deviceId back := by
  simp only [Lost, List.mem_append, exists_or]

theorem not_lost_cons {a : Answered} {trace : List Answered} (calm : Calm a.1) :
    Lost deviceId (a :: trace) ↔ Lost deviceId trace := by
  rw [← List.singleton_append, lost_append, or_iff_right]
  apply calm_not_lost
  intro x member
  rw [List.mem_singleton.mp member]
  exact calm

theorem lost_refresh {d : Text} {ignition : Bool} (now : ℚ) (cached : Option Bool) (at_ : Instant)
    (answer : Except Exn Bool) :
    Lost deviceId [⟨.monotonic, now⟩, ⟨.lastIgnition d, cached⟩, ⟨.utcNow, at_⟩,
      ⟨.execute (.ignition d ignition at_), answer⟩, ⟨.setLastIgnition d ignition, ()⟩,
      ⟨.setLastAlive d now, ()⟩] ↔ deviceId = d ∧ ∃ e, answer = .error e := by
  constructor
  · rintro ⟨ignition', now', e, member⟩
    simp only [List.mem_cons, Sigma.mk.injEq, reduceCtorEq, false_and, Op.execute.injEq,
      DbWrite.ignition.injEq, List.not_mem_nil, or_false, false_or] at member
    obtain ⟨⟨rfl, rfl, rfl⟩, same⟩ := member
    exact ⟨rfl, e, (eq_of_heq same).symm⟩
  · rintro ⟨rfl, e, rfl⟩
    exact ⟨ignition, at_, e, by simp⟩

section Packet

variable {imei : Text} {device : Entry} {packet : Parsers.Teltonika.AvlPacket}
  {front middle back : List Answered}

theorem Visit.Reports.packet_eq {records : List AvlRecord} (reports : v.Reports deviceId records)
    (decoded : parseAvlPacket v.raw = .ok packet)
    (whole : v.trace = ⟨.getImeiBySocket, some imei⟩ :: ⟨.getDevice imei, some device⟩ :: front) :
    deviceId = device.deviceId ∧ records = packet.records := by
  obtain ⟨-, ⟨packet', decoded', rfl⟩, imei', device', rest, whole', rfl⟩ := reports
  rw [decoded] at decoded'
  cases decoded'
  rw [whole] at whole'
  obtain ⟨-, tail⟩ := List.cons.inj whole'
  obtain ⟨same, -⟩ := List.cons.inj tail
  cases same
  exact ⟨rfl, rfl⟩

/-- An ignition is lost in the refresh or not at all. -/
theorem packet_lost_iff
    (whole : v.trace = ⟨.getImeiBySocket, some imei⟩ :: ⟨.getDevice imei, some device⟩ ::
      (front ++ middle ++ back))
    (before : ∀ a ∈ front, Calm a.1) (behind : ∀ a ∈ back, Calm a.1) :
    Lost deviceId v.trace ↔ Lost deviceId middle := by
  rw [whole, not_lost_cons (a := ⟨.getImeiBySocket, some imei⟩) trivial,
    not_lost_cons (a := ⟨.getDevice imei, some device⟩) trivial, lost_append, lost_append,
    or_iff_left (calm_not_lost behind), or_iff_right (calm_not_lost before)]

theorem packet_effect (decoded : parseAvlPacket v.raw = .ok packet)
    (whole : v.trace = ⟨.getImeiBySocket, some imei⟩ :: ⟨.getDevice imei, some device⟩ ::
      (front ++ middle ++ back))
    (before : ∀ a ∈ front, Calm a.1) (behind : ∀ a ∈ back, Calm a.1)
    (refreshed : Executes (refreshStatus device.deviceId packet.records) middle (.ok ()))
    (follows : Follows world v.before v.trace v.after) : Effect deviceId v := by
  have mine : ∀ records, v.Reports deviceId records →
      deviceId = device.deviceId ∧ records = packet.records :=
    fun records reports => reports.packet_eq decoded whole
  have lost : Lost deviceId v.trace ↔ Lost deviceId middle := packet_lost_iff whole before behind
  rw [whole] at follows
  obtain ⟨-, -, follows⟩ := follows
  obtain ⟨m₂, follows, two⟩ := follows_append.mp follows
  obtain ⟨m₁, one, refresh⟩ := follows_append.mp follows
  have first : Same deviceId v.before m₁ := same_of_calm deviceId one before
  have last : Same deviceId m₂ v.after := same_of_calm deviceId two behind
  obtain ⟨-, ⟨silent, calm⟩ | ⟨ignition, now, rest, newest, rfl, calm⟩ |
    ⟨ignition, now, cached, at_, answer, newest, other, rfl⟩⟩ := executes_refreshStatus refreshed
  · refine .untouched (first.trans ((same_of_calm deviceId refresh calm).trans last))
      (lost.not.mpr (calm_not_lost calm)) ?_
    intro records ignition reports newest
    rw [(mine records reports).2, silent] at newest
    cases newest
  · have quiet : ∀ a ∈ (⟨.monotonic, now⟩ :: ⟨.lastIgnition device.deviceId, some ignition⟩ ::
        rest : List Answered), Calm a.1 := by
      refine List.forall_mem_cons.mpr ⟨trivial, ?_⟩
      exact List.forall_mem_cons.mpr ⟨trivial, calm⟩
    refine .untouched (first.trans ((same_of_calm deviceId refresh quiet).trans last))
      (lost.not.mpr (calm_not_lost quiet)) ?_
    intro records ignition' reports newest'
    obtain ⟨rfl, rfl⟩ := mine records reports
    obtain ⟨-, admitted, -⟩ := refresh
    rw [newest] at newest'
    rw [← first.remembered, ← newest']
    exact Eq.symm admitted
  · obtain ⟨-, admitted, -, -, -, -, ended⟩ := refresh
    have lost := lost.trans (lost_refresh now cached at_ answer)
    by_cases here : deviceId = device.deviceId
    · subst here
      refine .refreshed ignition at_ answer ?_ ?_ ?_ ?_ ?_
      · rw [← first.remembered]
        intro same
        exact other (Eq.trans admitted same)
      · rw [whole]
        simp
      · rw [last.remembered, ended]
        exact Function.update_self ..
      · intro records reports
        rw [(mine records reports).2, newest]
      · cases answer with
        | ok row =>
            refine .inl ⟨⟨row, rfl⟩, by simp [lost], ?_, last.stored ignition ?_⟩
            · rw [last.written, ended]
              exact Function.update_self ..
            · rw [ended]
              exact Function.update_self ..
        | error e =>
            refine .inr ⟨⟨e, rfl⟩, ?_, ?_⟩
            · rw [last.written, ended]
              exact first.written
            · intro stored held
              apply last.stored
              rw [ended]
              exact first.stored stored held
    · have apart : Same deviceId m₁ m₂ := by
        rw [ended]
        exact (same_ignition here m₁ ignition at_ answer).trans
          ((same_setLastIgnition here _ ignition).trans ⟨rfl, rfl, fun _ stored => stored⟩)
      refine .untouched (first.trans (apart.trans last)) (by simp [lost, here]) ?_
      intro records ignition' reports
      exact absurd (mine records reports).1 here

end Packet

theorem login_effect {d : Text} {front back : List Answered} (frame : isLoginFrame v.raw = true)
    (whole : v.trace = front ++ ⟨.forgetStatus d, ()⟩ :: back)
    (before : ∀ a ∈ front, Calm a.1) (behind : ∀ a ∈ back, Calm a.1)
    (follows : Follows world v.before v.trace v.after) : Effect deviceId v := by
  have unread : ∀ records, ¬v.Reports deviceId records := by
    intro records reports
    rw [reports.data] at frame
    cases frame
  have silent : ¬Lost deviceId v.trace := by
    rw [whole, lost_append, not_or, ← List.singleton_append, lost_append, not_or]
    refine ⟨calm_not_lost before, ?_, calm_not_lost behind⟩
    rintro ⟨ignition, now, e, member⟩
    cases List.mem_singleton.mp member
  rw [whole] at follows
  obtain ⟨m, one, -, two⟩ := follows_append.mp follows
  have first : Same deviceId v.before m := same_of_calm deviceId one before
  have last := same_of_calm deviceId two behind
  by_cases here : deviceId = d
  · subst here
    refine .forgotten ?_ ?_ silent unread
    · rw [last.remembered]
      exact Function.update_self ..
    · rw [last.written]
      exact Function.update_self ..
  · refine .untouched (first.trans ((same_forget here m).trans last)) silent ?_
    intro records ignition reports
    exact absurd reports (unread records)

theorem frame_effect (ran : Runs world (processTeltonikaFrame cfg v.ip v.raw) v.before v.trace
    v.outcome v.after) : Effect deviceId v := by
  obtain ⟨executed, follows⟩ := ran
  cases frame_course executed with
  | calm unseen quiet =>
      refine .untouched (same_of_calm deviceId follows quiet) (calm_not_lost quiet) ?_
      rintro records ignition ⟨data, ⟨packet, decoded, -⟩, imei, device, rest, whole, -⟩ -
      exact absurd decoded (unseen imei device rest data whole packet)
  | login d front back frame whole before behind =>
      exact login_effect frame whole before behind follows
  | packet imei device packet front middle back decoded whole before behind refreshed =>
      exact packet_effect decoded whole before behind refreshed follows

end Effects

theorem newestIgnition_newest {records : List AvlRecord} {ignition : Bool}
    (newest : newestIgnition records = some ignition) : Newest records ignition := by
  obtain ⟨front, rec, back, sorted, reports, silent⟩ := List.findSome?_eq_some_iff.mp newest
  have ordered := List.pairwise_insertionSort
    (fun a b : AvlRecord => b.timestamp ≤ a.timestamp) records
  have same : ∀ r : AvlRecord, r ∈ records ↔ r ∈ front ++ rec :: back := by
    intro r
    rw [← sorted, List.mem_insertionSort]
  rw [sorted] at ordered
  refine ⟨rec, (same rec).mpr (by simp), reports, ?_⟩
  intro other member some_
  rcases List.mem_append.mp ((same other).mp member) with before | at_
  · exact absurd (silent other before) some_
  rcases List.mem_cons.mp at_ with rfl | behind
  · exact le_rfl
  · exact List.rel_of_pairwise_cons (List.pairwise_append.mp ordered).2.1 behind

theorem newestIgnition_isSome {records : List AvlRecord} {rec : AvlRecord} (member : rec ∈ records)
    (reports : rec.ignition ≠ none) : ∃ ignition, newestIgnition records = some ignition := by
  rw [← Option.isSome_iff_exists, newestIgnition, List.findSome?_isSome_iff]
  exact ⟨rec, (List.mem_insertionSort _).mpr member, Option.isSome_iff_ne_none.mpr reports⟩

/-- What holds of the ignition of a device whether its writes succeed or not. -/
structure Sound (deviceId : Text) (w : World) : Prop where
  unknown : w.lastIgnition deviceId = none → w.written deviceId = none
  stored : ∀ ignition, w.written deviceId = some ignition →
    w.ignitionStatus deviceId = some ignition

section Coherence

variable {deviceId : Text} {v : Visit}

theorem Effect.sound (effect : Effect deviceId v) (sound : Sound deviceId v.before) :
    Sound deviceId v.after := by
  cases effect with
  | untouched same silent known =>
      constructor
      · rw [same.remembered, same.written]
        exact sound.unknown
      · intro ignition written
        rw [same.written] at written
        exact same.stored ignition (sound.stored ignition written)
  | forgotten remembered written silent login =>
      constructor
      · intro _
        exact written
      · intro ignition is
        rw [written] at is
        cases is
  | refreshed ignition now answer stale tried remembered reported outcome =>
      constructor
      · rw [remembered]
        intro none_
        cases none_
      · intro ignition' is
        rcases outcome with ⟨-, -, written, stored⟩ | ⟨-, written, stored⟩
        · rw [written] at is
          cases is
          exact stored
        · rw [written] at is
          exact stored ignition' (sound.stored ignition' is)

/-- Coherence is lost exactly where an ignition cannot be written. -/
theorem Effect.coherent_iff (effect : Effect deviceId v) (sound : Sound deviceId v.before)
    (coherent : Coherent v.before deviceId) :
    Coherent v.after deviceId ↔ ¬Lost deviceId v.trace := by
  cases effect with
  | untouched same silent known =>
      refine iff_of_true ?_ silent
      intro ignition remembered
      rw [same.remembered] at remembered
      rw [same.written]
      exact coherent ignition remembered
  | forgotten remembered written silent login =>
      refine iff_of_true ?_ silent
      intro ignition is
      rw [remembered] at is
      cases is
  | refreshed ignition now answer stale tried remembered reported outcome =>
      rcases outcome with ⟨-, silent, written, -⟩ | ⟨⟨e, rfl⟩, written, -⟩
      · refine iff_of_true ?_ silent
        intro ignition' is
        rw [written, ← is, remembered]
      · refine iff_of_false ?_ (not_not.mpr ⟨ignition, now, e, tried⟩)
        intro after
        have held := after ignition remembered
        rw [written] at held
        -- What was written last was remembered then, so it is not what is written now.
        cases known : v.before.lastIgnition deviceId with
        | none =>
            rw [sound.unknown known] at held
            cases held
        | some old =>
            rw [coherent old known] at held
            rw [known] at stale
            exact stale held

theorem Effect.kept (effect : Effect deviceId v) (sound : Sound deviceId v.before)
    (coherent : Coherent v.before deviceId) (silent : ¬Lost deviceId v.trace) :
    Kept deviceId v := by
  refine ⟨(effect.coherent_iff sound coherent).mpr silent, ?_, ?_⟩
  · intro records ignition reports newest unwritten
    cases effect with
    | untouched same _ known =>
        exact absurd (coherent ignition (known records ignition reports newest)) unwritten
    | forgotten remembered written _ login => exact absurd reports (login records)
    | refreshed ignition' now answer stale tried remembered reported outcome =>
        rw [reported records reports] at newest
        cases newest
        exact ⟨now, answer, tried⟩
  · rintro records reports available ⟨rec, member, some_⟩
    obtain ⟨ignition, newest⟩ := newestIgnition_isSome member some_
    refine ⟨ignition, newestIgnition_newest newest, ?_⟩
    cases effect with
    | untouched same _ known =>
        exact same.stored ignition (sound.stored ignition (coherent ignition
          (known records ignition reports newest)))
    | forgotten remembered written _ login => exact absurd reports (login records)
    | refreshed ignition' now answer stale tried remembered reported outcome =>
        rw [reported records reports] at newest
        cases newest
        rcases outcome with ⟨-, -, -, stored⟩ | ⟨⟨e, rfl⟩, -⟩
        · exact stored
        · exact absurd tried (available _ e)

theorem session_kept_iff {cfg : Config} {w : World} {visits : List Visit}
    (session : Session cfg w visits) (sound : Sound deviceId w) (coherent : Coherent w deviceId) :
    (∀ v ∈ visits, Kept deviceId v) ↔ ∀ v ∈ visits, ¬Lost deviceId v.trace := by
  induction visits generalizing w with
  | nil => simp
  | cons v rest ih =>
      obtain ⟨rfl, ran, later⟩ := session
      have effect : Effect deviceId v := frame_effect ran
      rw [List.forall_mem_cons, List.forall_mem_cons]
      constructor
      · rintro ⟨kept, all⟩
        have silent := (effect.coherent_iff sound coherent).mp kept.coherent
        exact ⟨silent, (ih later (effect.sound sound) kept.coherent).mp all⟩
      · rintro ⟨silent, all⟩
        have kept := effect.kept sound coherent silent
        exact ⟨kept, (ih later (effect.sound sound) kept.coherent).mpr all⟩

end Coherence

/-- In every sequence of logins and packets the remembered ignition of a device is the one written
last, a packet that reports another one writes it, and the column shows what a packet reported,
exactly when no write of an ignition of the device fails. -/
theorem ignition_kept_iff (cfg : Config) (rows : Text → Option Bool) {visits : List Visit}
    (session : Session cfg (World.start rows) visits) (deviceId : Text) :
    (∀ v ∈ visits, Kept deviceId v) ↔ ∀ v ∈ visits, ¬Lost deviceId v.trace := by
  refine session_kept_iff session ⟨fun _ => rfl, ?_⟩ ?_
  · intro ignition written
    cases written
  · intro ignition remembered
    cases remembered

/-! ### A device on one connection -/

/-- The surroundings of a device whose statements succeed, except perhaps those of ignitions. -/
def attending (imei : Text) (device : Entry) (stores : Bool) (w : World) : (o : Op) → Res o
  | .getImeiBySocket => some imei
  | .getDevice _ => some device
  | .lastAlive deviceId => w.lastAlive deviceId
  | .lastIgnition deviceId => w.lastIgnition deviceId
  | .write _ | .drain => .ok ()
  | .utcNow => (0 : ℤ)
  | .monotonic | .random => (0 : ℚ)
  | .getDeviceByImei .. => .ok (some device.deviceId)
  | .getVehicleByDevice _ => .ok none
  | .execute (.ignition ..) => if stores then .ok true else .error .timeoutError
  | .execute _ => .ok true
  | .registerDevice .. | .notePosition .. | .setLastAlive .. | .setLastIgnition ..
  | .forgetStatus _ | .close | .log _ => ()

def someImei : Text := "356307042441013".toList

def someDevice : Entry := ⟨['d'], [], .teltonika, 0, 0, 0, none, none, none⟩

def ignitionPacket : Bytes :=
  let body := [0x08, 0x01] ++ List.replicate 23 0 ++ [0x00, 0x00, 0x01, 0x01, 0xEF, 0x01, 0x00,
    0x00, 0x00, 0x01]
  [0, 0, 0, 0] ++ Foundation.Wire.bigEndianBytes 4 body.length ++ body ++
    Foundation.Wire.bigEndianBytes 4 (Parsers.Teltonika.crc16Ibm body).toNat

def loginFrame : Bytes := [0x00, 0x0F] ++ Foundation.Wire.asciiBytes someImei

def visit (stores : Bool) (raw : Bytes) (w : World) : Visit :=
  let ended := enact world (attending someImei someDevice stores)
    (processTeltonikaFrame defaults [] raw) w
  ⟨[], raw, ended.1, ended.2.1, w, ended.2.2⟩

def loggedIn : Visit := visit true loginFrame (World.start fun _ => none)

def stored : Visit := visit true ignitionPacket loggedIn.after

def failed : Visit := visit false ignitionPacket loggedIn.after

def repeated : Visit := visit true ignitionPacket failed.after

def tries (trace : List Answered) : List (Text × Bool × Bool) :=
  trace.filterMap fun a =>
    match a with
    | ⟨.execute (.ignition deviceId ignition _), .ok _⟩ => some (deviceId, ignition, true)
    | ⟨.execute (.ignition deviceId ignition _), .error _⟩ => some (deviceId, ignition, false)
    | _ => none

theorem tries_of_lost {deviceId : Text} {trace : List Answered} (lost : Lost deviceId trace) :
    ∃ ignition, (deviceId, ignition, false) ∈ tries trace := by
  obtain ⟨ignition, now, e, member⟩ := lost
  exact ⟨ignition, List.mem_filterMap.mpr ⟨_, member, rfl⟩⟩

theorem runs_visit (stores : Bool) (raw : Bytes) (w : World) :
    Runs world (processTeltonikaFrame defaults [] raw) w (visit stores raw w).trace
      (visit stores raw w).outcome (visit stores raw w).after := by
  refine runs_enact ?_ _ w
  intro w o
  cases o <;> trivial

theorem visit_before (stores : Bool) (raw : Bytes) (w : World) : (visit stores raw w).before = w :=
  rfl

theorem ignition_kept_stored : Kept ['d'] loggedIn ∧ Kept ['d'] stored := by
  have session : Session defaults (World.start fun _ => none) [loggedIn, stored] :=
    ⟨visit_before .., runs_visit .., visit_before .., runs_visit .., trivial⟩
  have written : ∀ v ∈ [loggedIn, stored], ¬Lost ['d'] v.trace := by
    intro v member lost
    obtain ⟨ignition, tried⟩ := tries_of_lost lost
    have calm : ∀ v ∈ [loggedIn.trace, stored.trace], ∀ t ∈ tries v, t.2.2 = true := by
      decide +kernel
    have worked := calm v.trace (List.mem_map_of_mem (f := Visit.trace) member) _ tried
    cases worked
  have kept := (ignition_kept_iff defaults (fun _ => none) session ['d']).mpr written
  exact ⟨kept loggedIn (by simp), kept stored (by simp)⟩

/-- A write that failed is remembered as if it had not, and no later packet repeats it. -/
theorem failed_ignition_remembered :
    Session defaults (World.start fun _ => none) [loggedIn, failed, repeated] ∧
      tries failed.trace = [(['d'], true, false)] ∧ failed.after.lastIgnition ['d'] = some true ∧
      failed.after.written ['d'] = none ∧ ¬Kept ['d'] failed ∧
      tries repeated.trace = [] ∧ repeated.after.ignitionStatus ['d'] = some false ∧
      ¬Kept ['d'] repeated := by
  have remembered : failed.after.lastIgnition ['d'] = some true := by decide +kernel
  have unwritten : failed.after.written ['d'] = none := by decide +kernel
  have remembered' : repeated.after.lastIgnition ['d'] = some true := by decide +kernel
  have unwritten' : repeated.after.written ['d'] = none := by decide +kernel
  refine ⟨⟨visit_before .., runs_visit .., visit_before .., runs_visit .., visit_before ..,
    runs_visit .., trivial⟩, by decide +kernel, remembered, unwritten, ?_, by decide +kernel,
    by decide +kernel, ?_⟩
  · intro kept
    have written := kept.coherent true remembered
    rw [unwritten] at written
    cases written
  · intro kept
    have written := kept.coherent true remembered'
    rw [unwritten'] at written
    cases written

end TrackerGateway.Invariants.IgnitionCache
