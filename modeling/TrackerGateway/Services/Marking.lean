/- module: TrackerGateway/Services/Marking
   source: src/services/gps103_handler.py (_handle_tracker, _safely),
     src/services/packet_handler.py, src/services/teltonika_handler.py,
     src/services/device_registry.py (note_position)
   digest: When a handler remembers a position: right after it tried to store it. -/

import TrackerGateway.Services.Language

set_option autoImplicit false
set_option relaxedAutoImplicit false

namespace TrackerGateway.Services.Marking

open Foundation.Coroutine
open Foundation.Wire (Text Bytes Number Instant between_iff roundTo)
open TrackerGateway.Runtime

def tells (imei deviceId : Text) : Answered → Bool
  | ⟨.getDevice i, some device⟩ => i = imei && device.deviceId = deviceId
  | _ => false

/-- Whether the last statement of a handler has stored a position with this speed for the device of
an identity, and the time was read after it. -/
def stored (imei : Text) (speed : Number) (now : Instant) : List Answered → Bool
  | ⟨.utcNow, t⟩ :: ⟨.execute (.saveLocation deviceId _ _ fast _ _ _), .ok _⟩ :: earlier =>
      t = now && cleanDecimal speed 2 = .ok fast && earlier.any (tells imei deviceId)
  | _ => false

def Unstored (past : List Answered) : Prop :=
  ∃ deviceId latitude longitude speed heading satellites eventTime e,
    (⟨.execute (.saveLocation deviceId latitude longitude speed heading satellites eventTime),
      .error e⟩ : Answered) ∈ past

/-- Only the TK103 family remembers positions, and only those it has tried to store. -/
def Noting (family : Family) (past : List Answered) : Op → Prop
  | .notePosition imei speed now =>
      family = .gps103 ∧ (stored imei speed now past = true ∨ Unstored past)
  | _ => True

theorem noting_of_unmarked {family : Family} (past : List Answered) (o : Op)
    (unmarked : Unmarked o) : Noting family past o := by
  cases o with
  | notePosition => exact unmarked.elim
  | _ => trivial

/-- What remembers nothing is allowed at any time, whatever is to be kept. -/
theorem noting_of_confined {α : Type} {family : Family} {fact : List Answered → Prop}
    (persists : ∀ past a, fact past → fact (a :: past)) {p : Handler α}
    (confined : Confined Unmarked p) : Keeps (Noting family) fact p :=
  confined.keeps persists fun past o _ unmarked => noting_of_unmarked past o unmarked

section Parts

variable {deviceId : Text} (cfg : Config)

theorem permits (_ : List Answered) (o : Op) (_ : True) (_ : Routine deviceId o)
    (unmarked : Unmarked o) : Unmarked o := unmarked

theorem unmarked_log (line : List LogPart) : Confined Unmarked (log line) :=
  confined_request (o := Op.log line) trivial

theorem unmarked_write (payload : Bytes) : Confined Unmarked (writeSocket payload) :=
  (confined_request (o := Op.write payload) trivial).bind keeps_demand

theorem unmarked_drain : Confined Unmarked drainSocket :=
  (confined_request (o := Op.drain) trivial).bind keeps_demand

theorem unmarked_lookup (imei : Text) (family : Family) (model : Text) :
    Confined Unmarked (getDeviceByImei imei family model) :=
  (confined_request (o := Op.getDeviceByImei imei family model) trivial).bind keeps_demand

theorem unmarked_register (imei ip : Text) (family : Family) :
    Confined Unmarked (registerDevice imei ip deviceId family) :=
  (confined_request (o := Op.utcNow) trivial).bind fun _ =>
    (confined_request (o := Op.utcNow) trivial).bind fun _ => confined_request trivial

theorem unmarked_saveRaw (protocol hexData : Text) (always parsed : Bool) :
    Confined Unmarked (saveRaw cfg deviceId protocol hexData always parsed) :=
  keeps_saveRaw cfg Language.always_cons permits _ _ _ _

theorem unmarked_vehicle : Confined Unmarked (getVehicleByDevice deviceId) :=
  keeps_getVehicle Language.always_cons (@permits deviceId) deviceId

theorem unmarked_createEvent (vehicleId : Option Text) (eventType : Text) (severity : Severity)
    (latitude longitude : Option Number) (description : Text) (metadata : List (Text × Json)) :
    Confined Unmarked
      (createEvent deviceId vehicleId eventType severity latitude longitude description metadata) :=
  keeps_createEvent Language.always_cons permits _ _ _ _ _ _ _

end Parts

section V5

open PacketHandler

variable (cfg : Config)

theorem unmarked_acknowledge (raw : Bytes) : Confined Unmarked (acknowledge raw) :=
  Keeps.rescue ((keeps_demand _).bind fun _ => (unmarked_write _).bind fun _ => unmarked_drain)
    fun _ => keeps_pure _

theorem unmarked_of_inward (o : Op) (inward : Language.Inward o) : Unmarked o := by
  cases o with
  | notePosition => exact inward.elim
  | _ => trivial

theorem unmarked_processPacket (ip : Text) (raw : Bytes) :
    Confined Unmarked (processPacket cfg ip raw) := by
  refine keeps_ite ((keeps_demand _).bind ?_) (keeps_pure _)
  intro protocol
  refine (confined_request (o := Op.getImeiBySocket) trivial).bind ?_
  intro connectionImei
  have inward : Confined Language.Inward (dispatch cfg ip raw protocol connectionImei) :=
    Language.inward_dispatchV5 cfg ip protocol
  have handled := inward.mono unmarked_of_inward
  exact (handled.rescue fun _ => keeps_pure _).bind fun _ =>
    (unmarked_acknowledge raw).bind fun _ => keeps_pure _

end V5

section Teltonika

open TeltonikaHandler

variable (cfg : Config)

theorem unmarked_sendTeltonika (payload : Bytes) : Confined Unmarked (send payload) :=
  Keeps.rescue ((unmarked_write payload).bind fun _ => unmarked_drain) fun _ => keeps_pure _

theorem unmarked_handleLoginTeltonika (ip : Text) (raw : Bytes) :
    Confined Unmarked (handleLogin cfg ip raw) := by
  rw [handleLogin]
  split
  · exact (confined_request (o := Op.close) trivial).bind fun _ => keeps_pure _
  · exact keeps_throw _
  · apply (unmarked_lookup _ _ _).bind
    intro deviceId?
    cases truthy deviceId? with
    | none => exact (confined_request (o := Op.close) trivial).bind fun _ => keeps_pure _
    | some deviceId =>
        apply (unmarked_register _ ip _).bind
        intro _
        refine (confined_request (o := Op.forgetStatus deviceId) trivial).bind ?_
        intro _
        apply (unmarked_sendTeltonika _).bind
        intro _
        apply (keeps_safely (unmarked_saveRaw cfg _ _ _ _)).bind
        intro _
        apply (keeps_safely (keeps_markDeviceAlive Language.always_cons permits _)).bind
        intro _
        refine (unmarked_vehicle.rescue fun _ => keeps_pure _).bind ?_
        intro _
        exact (keeps_safely (unmarked_createEvent _ _ _ _ _ _ _)).bind fun _ => keeps_pure _

theorem unmarked_handleAvl (raw : Bytes) : Confined Unmarked (handleAvl cfg raw) := by
  refine (confined_request (o := Op.getImeiBySocket) trivial).bind ?_
  intro imei?
  cases truthy imei? with
  | none => exact (confined_request (o := Op.close) trivial).bind fun _ => keeps_pure _
  | some imei =>
      refine (confined_request (o := Op.getDevice imei) trivial).bind ?_
      intro device?
      cases device? with
      | none => exact keeps_throw _
      | some device =>
          have saved : ∀ always parsed, Confined Unmarked
              (safely (saveRawFrame cfg device.deviceId raw always parsed)) := fun _ _ =>
            keeps_safely (unmarked_saveRaw cfg _ _ _ _)
          dsimp only
          split
          · exact keeps_pure _
          · exact (saved _ _).bind fun _ => keeps_pure _
          · exact (saved _ _).bind fun _ => keeps_pure _
          · exact keeps_throw _
          · apply (saved _ _).bind
            intro _
            apply (keeps_refreshStatus Language.always_cons permits _).bind
            intro _
            apply (keeps_storeRecords cfg Language.always_cons permits _).bind
            intro accepted
            exact (unmarked_sendTeltonika _).bind fun _ => keeps_pure _

theorem unmarked_processTeltonikaFrame (ip : Text) (raw : Bytes) :
    Confined Unmarked (processTeltonikaFrame cfg ip raw) :=
  (keeps_ite (unmarked_handleLoginTeltonika cfg ip raw) (unmarked_handleAvl cfg raw)).rescue
    fun _ => confined_request (o := Op.getImeiBySocket) trivial

end Teltonika

section Gps103

open Gps103Handler
open Parsers.Gps103 (Fix Report)

variable (cfg : Config) {deviceId : Text}

theorem unmarked_safely (label : String) {write : Handler Unit}
    (kept : Confined Unmarked write) : Confined Unmarked (safely label write) :=
  kept.rescue fun _ => unmarked_log _

theorem unmarked_sendGps103 (payload : Bytes) : Confined Unmarked (send payload) :=
  Keeps.rescue ((unmarked_write payload).bind fun _ => unmarked_drain.bind fun _ => unmarked_log _)
    fun _ => unmarked_log _

theorem unmarked_authenticatedImei (imei : Text) : Confined Unmarked (authenticatedImei imei) := by
  have closed : Confined Unmarked ((request Op.close : Handler Unit).bind fun _ =>
      (.pure none : Handler (Option Text))) :=
    (confined_request (o := Op.close) trivial).bind fun _ => keeps_pure _
  refine (confined_request (o := Op.getImeiBySocket) trivial).bind ?_
  intro found
  split
  · exact (unmarked_log _).bind fun _ => closed
  · exact keeps_ite ((unmarked_log _).bind fun _ => closed) (keeps_pure _)

theorem unmarked_handleLoginGps103 (ip text : Text) (raw : Bytes) :
    Confined Unmarked (handleLogin cfg ip text raw) := by
  refine (keeps_demand _).bind fun imei => (unmarked_log _).bind ?_
  intro _
  apply (unmarked_lookup _ _ _).bind
  intro deviceId?
  split
  · exact (unmarked_log _).bind fun _ =>
      (confined_request (o := Op.close) trivial).bind fun _ => keeps_pure _
  · apply (unmarked_log _).bind
    intro _
    apply (unmarked_register _ ip _).bind
    intro _
    apply (unmarked_sendGps103 _).bind
    intro _
    apply (unmarked_safely _ (unmarked_saveRaw cfg _ _ _ _)).bind
    intro _
    apply (unmarked_safely _ (keeps_markDeviceAlive Language.always_cons permits _)).bind
    intro _
    refine (unmarked_vehicle.rescue fun _ => keeps_pure _).bind ?_
    intro vehicleId
    exact (unmarked_safely _ (unmarked_createEvent _ _ _ _ _ _ _)).bind fun _ => keeps_pure _

theorem unmarked_handleHeartbeatGps103 (text : Text) :
    Confined Unmarked (handleHeartbeat text) := by
  refine (keeps_demand _).bind fun imei => (unmarked_authenticatedImei imei).bind ?_
  intro found
  split
  · exact keeps_pure _
  · apply (unmarked_sendGps103 _).bind
    intro _
    refine (confined_request (o := Op.getDevice _) trivial).bind ?_
    intro device?
    cases device? with
    | none => exact keeps_throw _
    | some device =>
        have marked : Confined Unmarked (markDeviceAlive device.deviceId true) :=
          keeps_markDeviceAlive Language.always_cons permits _
        exact (unmarked_safely _ marked).bind fun _ => keeps_pure _

def Told (imei deviceId : Text) (past : List Answered) : Prop :=
  past.any (tells imei deviceId) = true

theorem Told.cons {imei : Text} (past : List Answered) (a : Answered)
    (told : Told imei deviceId past) : Told imei deviceId (a :: past) := by
  rw [Told, List.any_cons]
  exact Bool.or_eq_true_iff.mpr (.inr told)

theorem noting_storeFix {imei : Text} {fix? : Option Fix} (valid : ∀ fix ∈ fix?,
      locationIsValid fix.latitude fix.longitude fix.speed fix.heading = true) :
    Keeps (Noting .gps103) (Told imei deviceId) (storeFix imei deviceId fix?) := by
  cases fix? with
  | none => exact keeps_pure _
  | some fix =>
      have bounds := valid fix rfl
      simp only [locationIsValid, Bool.and_eq_true] at bounds
      obtain ⟨fast, speed, -⟩ := between_iff.mp bounds.1.2
      obtain ⟨course, heading, -⟩ := between_iff.mp bounds.2
      have timed : Confined Unmarked (eventTimeOf fix) := by
        rw [eventTimeOf]
        split
        · exact keeps_pure _
        · exact (confined_request (o := Op.utcNow) trivial).bind fun _ =>
            (unmarked_log _).bind fun _ => keeps_pure _
      refine (noting_of_confined Told.cons timed).bind ?_
      intro eventTime past told
      rw [speed, heading]
      -- What is left is one statement, a log line if it raised, the time, and the mark.
      refine ⟨trivial, ?_⟩
      intro answer
      cases answer with
      | ok inserted =>
          refine ⟨trivial, fun now => ⟨⟨rfl, .inl ?_⟩, fun _ => ?_⟩⟩
          · have same : cleanDecimal (.finite fast) 2 = .ok (cleaned 2 fast) := rfl
            simp only [stored, same, decide_true, Bool.true_and]
            exact told
          · exact Told.cons _ _ (Told.cons _ _ (Told.cons _ _ told))
      | error e =>
          refine ⟨trivial, fun _ => ⟨trivial, fun now => ⟨⟨rfl, .inr ?_⟩, fun _ => ?_⟩⟩⟩
          · exact ⟨_, _, _, _, _, _, _, e, List.mem_cons_of_mem _ (List.mem_cons_of_mem _
              List.mem_cons_self)⟩
          · exact Told.cons _ _ (Told.cons _ _ (Told.cons _ _ (Told.cons _ _ told)))

theorem noting_usableFix {α : Type} {imei : Text} {report : Report}
    {next : Option Fix → Handler α}
    (later : ∀ fix?, (∀ fix ∈ fix?,
        locationIsValid fix.latitude fix.longitude fix.speed fix.heading = true) →
      Keeps (Noting .gps103) (Told imei deviceId) (next fix?)) :
    Keeps (Noting .gps103) (Told imei deviceId) ((usableFix imei report).bind next) := by
  rw [usableFix]
  cases report.fix with
  | none => exact (noting_of_confined Told.cons (unmarked_log _)).bind fun _ => later none (by simp)
  | some fix =>
      dsimp only
      split
      · next valid =>
          apply later (some fix)
          rintro _ ⟨⟩
          exact valid
      · exact (noting_of_confined Told.cons (unmarked_log _)).bind fun _ => later none (by simp)

theorem noting_processReport (raw : Bytes) (imei : Text) (report : Report) :
    Keeps (Noting .gps103) (Told imei deviceId) (processReport cfg raw imei deviceId report) := by
  have noted : Confined Unmarked (noteKeyword imei report) :=
    keeps_ite (keeps_pure _) (unmarked_log _)
  have confirmed : Confined Unmarked (confirmSos imei report) :=
    keeps_ite (unmarked_sendGps103 _) (keeps_pure _)
  have saved : Confined Unmarked (safely "raw packet save" (saveRawMessage cfg deviceId raw
      (report.alarmName.isSome || !report.knownKeyword))) :=
    unmarked_safely _ (unmarked_saveRaw cfg _ _ _ _)
  have lit : Confined Unmarked (storeIgnition deviceId report.ignition) := by
    unfold storeIgnition
    split
    · exact keeps_pure _
    · exact unmarked_safely _ (keeps_setIgnition Language.always_cons permits _)
  have located : Confined Unmarked (alarmVehicle deviceId report.alarmName) := by
    unfold alarmVehicle
    split
    · exact keeps_pure _
    · exact unmarked_vehicle.rescue fun _ => (unmarked_log _).bind fun _ => keeps_pure _
  have recorded : ∀ vehicleId fix?, Confined Unmarked
      (recordAlarm deviceId vehicleId report fix? report.alarmName) := by
    intro vehicleId fix?
    unfold recordAlarm
    split
    · exact keeps_pure _
    · exact (unmarked_safely _ (unmarked_createEvent _ _ _ _ _ _ _)).bind fun _ => unmarked_log _
  refine (noting_of_confined Told.cons noted).bind fun _ => noting_usableFix ?_
  intro fix? valid
  refine (noting_of_confined Told.cons confirmed).bind fun _ =>
    (noting_of_confined Told.cons saved).bind fun _ =>
      (noting_of_confined Told.cons lit).bind fun _ =>
        (noting_of_confined Told.cons located).bind ?_
  intro vehicleId
  exact (noting_storeFix valid).bind fun _ => noting_of_confined Told.cons (recorded vehicleId fix?)

theorem noting_handleTracker (text : Text) (raw : Bytes) :
    Keeps (Noting .gps103) Language.always (handleTracker cfg text raw) := by
  refine (keeps_demand _).bind fun report =>
    (noting_of_confined Language.always_cons (unmarked_authenticatedImei report.imei)).bind ?_
  intro imei?
  cases truthy imei? with
  | none => exact keeps_pure _
  | some imei =>
      intro past _
      refine ⟨trivial, ?_⟩
      intro device?
      cases device? with
      | none => trivial
      | some device =>
          have told : Told imei device.deviceId (⟨.getDevice imei, some device⟩ :: past) := by
            simp [Told, tells]
          exact ((noting_processReport cfg raw imei report).bind fun _ => keeps_pure _).guarded told
            fun _ _ _ => trivial

theorem noting_processGps103Message (ip : Text) (raw : Bytes) :
    Keeps (Noting .gps103) Language.always (processGps103Message cfg ip raw) := by
  rw [processGps103Message]
  generalize Parsers.Gps103.classify raw = classified
  obtain ⟨kind, text⟩ := classified
  have handled : Keeps (Noting .gps103) Language.always (dispatch cfg ip raw kind text) := by
    cases kind with
    | login =>
        have confined := unmarked_handleLoginGps103 cfg ip text raw
        exact noting_of_confined Language.always_cons confined
    | heartbeat =>
        have confined := unmarked_handleHeartbeatGps103 text
        exact noting_of_confined Language.always_cons confined
    | tracker => exact noting_handleTracker cfg text raw
    | unknown =>
        have confined : Confined Unmarked (dispatch cfg ip raw .unknown text) :=
          (unmarked_log _).bind fun _ => keeps_pure _
        exact noting_of_confined Language.always_cons confined
  apply handled.rescue
  intro ex
  have logged : ∀ line, Confined Unmarked ((log line).bind fun _ => request Op.getImeiBySocket) :=
    fun line => (unmarked_log line).bind fun _ =>
      confined_request (o := Op.getImeiBySocket) trivial
  cases ex <;> exact noting_of_confined Language.always_cons (logged _)

end Gps103

end TrackerGateway.Services.Marking
