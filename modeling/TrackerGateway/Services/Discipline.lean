/- module: TrackerGateway/Services/Discipline
   source: src/services/packet_handler.py, src/services/gps103_handler.py,
     src/services/teltonika_handler.py
   digest: For whom a handler may write: the rule, and every handler keeps it. -/

import TrackerGateway.Foundation.Coroutine.Discipline
import TrackerGateway.Services.Gps103Handler
import TrackerGateway.Services.PacketHandler
import TrackerGateway.Services.Routine

set_option autoImplicit false
set_option relaxedAutoImplicit false

namespace TrackerGateway.Services.Discipline

open Foundation.Coroutine
open Foundation.Wire (Text Bytes Number Instant)
open TrackerGateway.Runtime

def isLogin : Op → Bool
  | .registerDevice .. => true
  | _ => false

/-- The connection was found under an identity before it registered one. -/
def Resolved (imei : Text) (past : List Answered) : Prop :=
  ∃ later earlier, past = later ++ ⟨.getImeiBySocket, some imei⟩ :: earlier ∧
    ∀ a ∈ earlier, isLogin a.1 = false

def Identified (imei : Text) (device : Entry) (past : List Answered) : Prop :=
  Resolved imei past ∧ (⟨.getDevice imei, some device⟩ : Answered) ∈ past

def Accepted (imei deviceId : Text) (past : List Answered) : Prop :=
  deviceId ≠ [] ∧ ∃ protocolType defaultModel,
    (⟨.getDeviceByImei imei protocolType defaultModel, .ok (some deviceId)⟩ : Answered) ∈ past

def Registered (imei deviceId : Text) (past : List Answered) : Prop :=
  ∃ ip protocol connectedAt lastSeen,
    (⟨.registerDevice imei ip deviceId protocol connectedAt lastSeen, ()⟩ : Answered) ∈ past

def Attributed (deviceId : Text) (past : List Answered) : Prop :=
  (∃ imei device, Identified imei device past ∧ device.deviceId = deviceId) ∨
    ∃ imei, Registered imei deviceId past

def Authentic (past : List Answered) : Prop :=
  (∃ imei, Resolved imei past) ∨ ∃ imei deviceId, Registered imei deviceId past

/-- A login registers what was looked up, once; a statement writes for the connection's device; and
only the V5 family answers a connection without an identity. -/
def Allowed (family : Family) (past : List Answered) : Op → Prop
  | .registerDevice imei _ deviceId .. =>
      Accepted imei deviceId past ∧ ∀ a ∈ past, isLogin a.1 = false
  | .execute statement => Attributed statement.device past
  | .write _ => family = .gt06 ∨ Authentic past
  | _ => True

def Named (past : List Answered) : Except Exn (Option Text) → Prop
  | .ok (some imei) =>
      (⟨.getImeiBySocket, some imei⟩ : Answered) ∈ past ∨ ∃ deviceId, Registered imei deviceId past
  | _ => True

section Facts

variable {imei deviceId : Text} {device : Entry} (past : List Answered) (a : Answered)

theorem Resolved.mem {past : List Answered} (resolved : Resolved imei past) :
    (⟨.getImeiBySocket, some imei⟩ : Answered) ∈ past := by
  obtain ⟨later, earlier, rfl, -⟩ := resolved
  simp

theorem Resolved.cons (resolved : Resolved imei past) : Resolved imei (a :: past) := by
  obtain ⟨later, earlier, rfl, quiet⟩ := resolved
  exact ⟨a :: later, earlier, rfl, quiet⟩

theorem Resolved.authentic (resolved : Resolved imei past) : Authentic past := .inl ⟨imei, resolved⟩

theorem Identified.cons (identified : Identified imei device past) :
    Identified imei device (a :: past) := by
  obtain ⟨resolved, member⟩ := identified
  exact ⟨resolved.cons past a, List.mem_cons_of_mem a member⟩

theorem identified_of_resolved {past : List Answered} (resolved : Resolved imei past)
    (device : Entry) : Identified imei device (⟨.getDevice imei, some device⟩ :: past) :=
  ⟨resolved.cons past _, List.mem_cons_self⟩

theorem Identified.attributed (identified : Identified imei device past) :
    Attributed device.deviceId past := .inl ⟨imei, device, identified, rfl⟩

theorem Registered.cons (registered : Registered imei deviceId past) :
    Registered imei deviceId (a :: past) := by
  obtain ⟨ip, protocol, connectedAt, lastSeen, member⟩ := registered
  exact ⟨ip, protocol, connectedAt, lastSeen, List.mem_cons_of_mem a member⟩

theorem Registered.attributed (registered : Registered imei deviceId past) :
    Attributed deviceId past := .inr ⟨imei, registered⟩

theorem Attributed.authentic (attributed : Attributed deviceId past) : Authentic past := by
  rcases attributed with ⟨imei, _, identified, -⟩ | ⟨imei, registered⟩
  · exact identified.1.authentic
  · exact .inr ⟨imei, deviceId, registered⟩

theorem Named.cons {imei? : Option Text} (named : Named past (.ok imei?)) :
    Named (a :: past) (.ok imei?) := by
  cases imei? with
  | none => trivial
  | some imei =>
      rcases named with found | ⟨deviceId, registered⟩
      · exact .inl (List.mem_cons_of_mem a found)
      · exact .inr ⟨deviceId, registered.cons past a⟩

end Facts

section Writes

variable {family : Family} {fact : List Answered → Prop} {deviceId : Text}

theorem permits (bound : ∀ past, fact past → Attributed deviceId past) :
    ∀ past o, fact past → Routine deviceId o → Unmarked o → Allowed family past o := by
  intro past o holds routine _
  cases o with
  | registerDevice imei ip d protocol connectedAt lastSeen => exact routine.elim
  | write payload => exact routine.elim
  | execute statement =>
      change Attributed statement.device past
      rw [show statement.device = deviceId from routine]
      exact bound past holds
  | _ => trivial

theorem keeps_log (persists : ∀ past a, fact past → fact (a :: past)) (line : List LogPart) :
    Keeps (Allowed family) fact (log line) :=
  keeps_request persists fun _ _ => trivial

end Writes

/-! ### The V5 family -/

section V5

open PacketHandler

variable (cfg : Config)

/-- A branch keeps to the rule once it works for the connection's device. -/
def Branch (body : Entry → Handler Unit) : Prop :=
  ∀ (fact : List Answered → Prop) (device : Entry),
    (∀ past a, fact past → fact (a :: past)) →
    (∀ past, fact past → Attributed device.deviceId past) →
    Keeps (Allowed .gt06) fact (body device)

theorem guarded_withDevice {body : Entry → Handler Unit} (branch : Branch body)
    {connectionImei : Option Text} {past : List Answered}
    (found : ∀ imei, connectionImei = some imei → Resolved imei past) :
    Guarded (Allowed .gt06) Named (withDevice connectionImei body) past := by
  rw [withDevice, getConnectedDevice]
  cases real : truthy connectionImei with
  | none => exact ⟨trivial, fun _ => trivial⟩
  | some imei =>
      obtain ⟨rfl, -⟩ := truthy_eq_some_iff.mp real
      have resolved := found imei rfl
      refine ⟨trivial, ?_⟩
      intro device?
      cases device? with
      | none => trivial
      | some device =>
          have kept := branch (Identified imei device) device Identified.cons Identified.attributed
          have now := identified_of_resolved resolved device
          refine kept.andThen now ?_ fun _ _ _ => trivial
          intro _ past' identified
          exact .inl identified.1.mem

section Branches

variable {raw : Bytes} {protocol : Text} {connectionImei : Option Text} {past : List Answered}
  (found : ∀ imei, connectionImei = some imei → Resolved imei past)

include found

theorem guarded_handleLocation :
    Guarded (Allowed .gt06) Named (handleLocation cfg raw protocol connectionImei) past := by
  rw [handleLocation]
  change Guarded _ _ ((demand (Parsers.V5.parseLocationPacket raw)).bind _) past
  cases Parsers.V5.parseLocationPacket raw with
  | error _ => trivial
  | ok location =>
      rw [demand_ok, Program.bind_pure]
      split
      · refine guarded_withDevice ?_ found
        intro _ _ persists bound
        exact (keeps_saveRaw cfg persists (permits bound) _ _ _ _).bind fun _ =>
          (keeps_saveLocation persists (permits bound) _ _ _ _ _ _).bind fun _ => keeps_pure _
      · cases connectionImei with
        | none => trivial
        | some imei => exact .inl (found imei rfl).mem

theorem guarded_handleStatus :
    Guarded (Allowed .gt06) Named (handleStatus cfg raw protocol connectionImei) past :=
  guarded_withDevice (fun _ _ persists bound => (keeps_demand _).bind fun _ =>
    (keeps_saveRaw cfg persists (permits bound) _ _ _ _).bind fun _ =>
      keeps_updateDeviceStatus persists (permits bound) _ _ _ _ _) found

theorem guarded_handleHeartbeat :
    Guarded (Allowed .gt06) Named (handleHeartbeat cfg raw protocol connectionImei) past :=
  guarded_withDevice (fun _ _ persists bound => (keeps_demand _).bind fun _ =>
    (keeps_saveRaw cfg persists (permits bound) _ _ _ _).bind fun _ =>
      (keeps_updateDeviceStatus persists (permits bound) _ _ _ _ _).bind fun _ =>
        keeps_updateHeartbeat persists (permits bound)) found

theorem guarded_handleAlarm :
    Guarded (Allowed .gt06) Named (handleAlarm cfg raw protocol connectionImei) past :=
  guarded_withDevice (fun _ _ persists bound => (keeps_demand _).bind fun _ =>
    (keeps_saveRaw cfg persists (permits bound) _ _ _ _).bind fun _ =>
      (keeps_getVehicle persists (permits bound) _).bind fun _ =>
        keeps_createEvent persists (permits bound) _ _ _ _ _ _ _) found

theorem guarded_handleInformation (eventType description : Text) :
    Guarded (Allowed .gt06) Named
      (handleInformation cfg raw protocol connectionImei eventType description) past := by
  refine guarded_withDevice ?_ found
  intro _ _ persists bound
  apply (keeps_saveRaw cfg persists (permits bound) _ _ _ _).bind
  intro _
  cases Parsers.V5.parseInformationPacket raw with
  | none => exact keeps_pure _
  | some info =>
      refine keeps_ite (keeps_pure _) ((keeps_demand _).bind ?_)
      intro _
      exact (keeps_getVehicle persists (permits bound) _).bind fun _ =>
        keeps_createEvent persists (permits bound) _ _ _ _ _ _ _

theorem guarded_handleCommandAck :
    Guarded (Allowed .gt06) Named (handleCommandAck cfg raw protocol connectionImei) past :=
  guarded_withDevice (fun _ _ persists bound =>
    (keeps_saveRaw cfg persists (permits bound) _ _ _ _).bind fun _ =>
      (keeps_demand _).bind fun _ => keeps_pure _) found

theorem guarded_handleCommandReply :
    Guarded (Allowed .gt06) Named (handleCommandReply cfg raw protocol connectionImei) past :=
  guarded_withDevice (fun _ _ persists bound =>
    (keeps_saveRaw cfg persists (permits bound) _ _ _ _).bind fun _ =>
      (keeps_demand _).bind fun _ =>
        keeps_handleCommandResponse persists (permits bound) _ _ _) found

theorem guarded_handleUnknown :
    Guarded (Allowed .gt06) Named (handleUnknown cfg raw protocol connectionImei) past := by
  rw [handleUnknown]
  cases real : truthy connectionImei with
  | none => trivial
  | some imei =>
      obtain ⟨rfl, -⟩ := truthy_eq_some_iff.mp real
      refine ⟨trivial, ?_⟩
      intro device?
      cases device? with
      | none => trivial
      | some device =>
          have kept : Keeps (Allowed .gt06) (Identified imei device)
              (saveRaw cfg device.deviceId protocol (Foundation.Wire.hex raw) true false) :=
            keeps_saveRaw cfg Identified.cons (permits Identified.attributed) _ _ _ _
          have now := identified_of_resolved (found imei rfl) device
          exact kept.andThen now (fun _ _ _ => trivial) fun _ _ _ => trivial

end Branches

theorem guarded_resolve {family : Family} (past : List Answered) :
    Guarded (Allowed family) Named (request Op.getImeiBySocket) past := by
  refine ⟨trivial, ?_⟩
  intro imei?
  cases imei? with
  | none => trivial
  | some imei => exact .inl List.mem_cons_self

/-- What an accepted login goes on with: everything is for the registered device. -/
theorem guarded_registered {family : Family} {imei ip deviceId : Text} {past : List Answered}
    {done : List Answered → Except Exn (Option Text) → Prop}
    {next : Handler (Option Text)} (accepted : Accepted imei deviceId past)
    (first : ∀ a ∈ past, isLogin a.1 = false)
    (rest : ∀ past', Registered imei deviceId past' → Guarded (Allowed family) done next past') :
    Guarded (Allowed family) done ((registerDevice imei ip deviceId family).bind fun _ => next)
      past := by
  obtain ⟨real, protocolType, defaultModel, member⟩ := accepted
  refine ⟨trivial, fun connectedAt => ⟨trivial, fun lastSeen => ⟨⟨?_, ?_⟩, ?_⟩⟩⟩
  · exact ⟨real, protocolType, defaultModel, by simp [member]⟩
  · simpa [isLogin] using first
  · intro _
    exact rest _ ⟨ip, family, connectedAt, lastSeen, by simp⟩

theorem guarded_handleLoginV5 {ip : Text} {raw : Bytes} {protocol : Text} {past : List Answered}
    (first : ∀ a ∈ past, isLogin a.1 = false) :
    Guarded (Allowed .gt06) Named (handleLogin cfg ip raw protocol) past := by
  refine ⟨trivial, ?_⟩
  intro answer
  cases answer with
  | error _ => trivial
  | ok deviceId? =>
      dsimp only [Program.bind_eq, Program.bind_pure, demand_ok]
      cases real : truthy deviceId? with
      | none => trivial
      | some deviceId =>
          obtain ⟨rfl, named⟩ := truthy_eq_some_iff.mp real
          refine guarded_registered ⟨named, _, _, List.mem_cons_self⟩
            (by simpa [isLogin] using first) ?_
          generalize (Parsers.V5.parseLoginPacket raw).imei = imei
          intro past' registered
          have saved : Keeps (Allowed .gt06) (Registered imei deviceId)
              (saveRaw cfg deviceId protocol (Foundation.Wire.hex raw) true true) :=
            keeps_saveRaw cfg Registered.cons (permits Registered.attributed) _ _ _ _
          refine saved.andThen registered ?_ fun _ _ _ => trivial
          intro _ past' registered
          have looked : Keeps (Allowed .gt06) (Registered imei deviceId)
              (getVehicleByDevice deviceId) :=
            keeps_getVehicle Registered.cons (permits Registered.attributed) deviceId
          refine looked.andThen registered ?_ fun _ _ _ => trivial
          intro vehicleId past' registered
          have recorded : Keeps (Allowed .gt06) (Registered imei deviceId)
              (createEvent deviceId vehicleId "DEVICE_ONLINE".toList Severity.low none none
                "Device connected to the gateway".toList []) :=
            keeps_createEvent Registered.cons (permits Registered.attributed) _ _ _ _ _ _ _
          refine recorded.andThen registered ?_ fun _ _ _ => trivial
          intro _ past' registered
          exact .inr ⟨deviceId, registered⟩

theorem guarded_dispatchV5 {ip : Text} {raw : Bytes} {protocol : UInt8}
    {connectionImei : Option Text} {past : List Answered}
    (first : ∀ a ∈ past, isLogin a.1 = false)
    (found : ∀ imei, connectionImei = some imei → Resolved imei past) :
    Guarded (Allowed .gt06) Named (dispatch cfg ip raw protocol connectionImei) past := by
  unfold dispatch
  dsimp only
  split
  · exact guarded_handleLoginV5 cfg first
  · exact guarded_handleLocation cfg found
  · exact guarded_handleLocation cfg found
  · exact guarded_handleStatus cfg found
  · exact guarded_handleHeartbeat cfg found
  · exact guarded_handleAlarm cfg found
  · exact guarded_handleInformation cfg found _ _
  · exact guarded_handleCommandAck cfg found
  · exact guarded_handleCommandReply cfg found
  · exact guarded_handleInformation cfg found _ _
  · exact guarded_handleUnknown cfg found

theorem keeps_acknowledge {fact : List Answered → Prop}
    (persists : ∀ past a, fact past → fact (a :: past)) (raw : Bytes) :
    Keeps (Allowed .gt06) fact (acknowledge raw) :=
  Keeps.rescue ((keeps_demand _).bind fun _ =>
    ((keeps_request persists fun _ _ => .inl rfl).bind keeps_demand).bind fun _ =>
      (keeps_request persists fun _ _ => trivial).bind keeps_demand) fun _ => keeps_pure _

theorem guarded_processPacket (ip : Text) (raw : Bytes) :
    Guarded (Allowed .gt06) Named (processPacket cfg ip raw) [] := by
  rw [processPacket]
  split
  · change Guarded _ _ ((demand (index raw _)).bind _) []
    cases index raw (Parsers.V5.protocolIndex raw) with
    | error _ => trivial
    | ok protocol =>
        refine ⟨trivial, ?_⟩
        intro connectionImei
        have found : ∀ imei, connectionImei = some imei →
            Resolved imei [⟨.getImeiBySocket, connectionImei⟩] := by
          rintro imei rfl
          exact ⟨[], [], rfl, by simp⟩
        change Guarded _ _ (Program.bind (Program.rescue _ _) _) _
        rw [guarded_bind, guarded_rescue]
        refine guarded_mono (fun _ _ allow => allow) ?_
          (guarded_dispatchV5 cfg (by simp [isLogin]) found)
        have acknowledged : ∀ past currentImei, Named past (.ok currentImei) →
            Guarded (Allowed .gt06) Named
              ((acknowledge raw).bind fun _ => Program.pure currentImei) past := by
          intro past currentImei named
          have kept : Keeps (Allowed .gt06) (fun past => Named past (.ok currentImei))
              (acknowledge raw) :=
            keeps_acknowledge (fun past a named => named.cons past a) raw
          exact kept.andThen named (fun _ _ named => named) fun _ _ _ => trivial
        intro past r named
        cases r with
        | ok currentImei => exact acknowledged past currentImei named
        | error _ => exact acknowledged past none trivial
  · trivial

end V5

/-! ### The TK103 family -/

section Gps103

open Gps103Handler

variable {fact : List Answered → Prop} {deviceId : Text} (cfg : Config)
  (persists : ∀ past a, fact past → fact (a :: past))

include persists

theorem keeps_safely (label : String) {body : Handler Unit}
    (kept : Keeps (Allowed .gps103) fact body) :
    Keeps (Allowed .gps103) fact (safely label body) :=
  kept.rescue fun _ => keeps_log persists _

theorem keeps_sendGps103 (authentic : ∀ past, fact past → Authentic past) (payload : Bytes) :
    Keeps (Allowed .gps103) fact (send payload) :=
  Keeps.rescue (((keeps_request persists fun past holds => .inr (authentic past holds)).bind
    keeps_demand).bind fun _ =>
      ((keeps_request persists fun _ _ => trivial).bind keeps_demand).bind fun _ =>
        keeps_log persists _) fun _ => keeps_log persists _

variable (bound : ∀ past, fact past → Attributed deviceId past)

include bound

theorem keeps_storeFix (imei : Text) (fix? : Option Parsers.Gps103.Fix) :
    Keeps (Allowed .gps103) fact (storeFix imei deviceId fix?) := by
  cases fix? with
  | none => exact keeps_pure _
  | some fix =>
      have timed : Keeps (Allowed .gps103) fact (eventTimeOf fix) := by
        rw [eventTimeOf]
        split
        · exact keeps_pure _
        · exact (keeps_clock persists (permits bound)).bind fun _ =>
            (keeps_log persists _).bind fun _ => keeps_pure _
      apply timed.bind
      intro eventTime
      refine (keeps_safely persists _ ?_).bind ?_
      · exact (keeps_saveLocation persists (permits bound) _ _ _ _ _ _).bind fun _ => keeps_pure _
      · intro _
        exact (keeps_clock persists (permits bound)).bind fun _ =>
          keeps_request persists fun _ _ => trivial

theorem keeps_recordAlarm (vehicleId : Option Text) (report : Parsers.Gps103.Report)
    (fix : Option Parsers.Gps103.Fix) (alarm? : Option Text) :
    Keeps (Allowed .gps103) fact (recordAlarm deviceId vehicleId report fix alarm?) := by
  cases alarm? with
  | none => exact keeps_pure _
  | some alarm =>
      refine (keeps_safely persists _ ?_).bind fun _ => keeps_log persists _
      exact keeps_createEvent persists (permits bound) _ _ _ _ _ _ _

theorem keeps_processReport (raw : Bytes) (imei : Text) (report : Parsers.Gps103.Report) :
    Keeps (Allowed .gps103) fact (processReport cfg raw imei deviceId report) := by
  have fixed : Keeps (Allowed .gps103) fact (usableFix imei report) := by
    rw [usableFix]
    split
    · exact keeps_ite (keeps_pure _) ((keeps_log persists _).bind fun _ => keeps_pure _)
    · exact (keeps_log persists _).bind fun _ => keeps_pure _
  have confirmed : Keeps (Allowed .gps103) fact (confirmSos imei report) :=
    keeps_ite (keeps_sendGps103 persists (fun past holds => (bound past holds).authentic) _)
      (keeps_pure _)
  have lit : Keeps (Allowed .gps103) fact (storeIgnition deviceId report.ignition) := by
    unfold storeIgnition
    split
    · exact keeps_pure _
    · exact keeps_safely persists _ (keeps_setIgnition persists (permits bound) _)
  have located : Keeps (Allowed .gps103) fact (alarmVehicle deviceId report.alarmName) := by
    unfold alarmVehicle
    split
    · exact keeps_pure _
    · exact (keeps_getVehicle persists (permits bound) _).rescue fun _ =>
        (keeps_log persists _).bind fun _ => keeps_pure _
  apply (keeps_ite (keeps_pure _) (keeps_log persists _)).bind
  intro _
  refine fixed.bind fun fix => confirmed.bind ?_
  intro _
  apply (keeps_safely persists _ (keeps_saveRaw cfg persists (permits bound) _ _ _ _)).bind
  intro _
  refine lit.bind fun _ => located.bind ?_
  intro vehicleId
  exact (keeps_storeFix persists bound imei fix).bind fun _ =>
    keeps_recordAlarm persists bound vehicleId report fix _

omit persists bound in
theorem guarded_authenticated {messageImei : Text} {past : List Answered}
    {done : List Answered → Except Exn (Option Text) → Prop}
    {next : Option Text → Handler (Option Text)} (first : ∀ a ∈ past, isLogin a.1 = false)
    (refused : ∀ past', Guarded (Allowed .gps103) done (next none) past')
    (accepted : ∀ imei past', Resolved imei past' →
      Guarded (Allowed .gps103) done (next (some imei)) past') :
    Guarded (Allowed .gps103) done ((authenticatedImei messageImei).bind next) past := by
  refine ⟨trivial, ?_⟩
  intro answer
  dsimp only [Program.bind_eq, Program.bind_pure]
  cases real : truthy answer with
  | none => exact ⟨trivial, fun _ => ⟨trivial, fun _ => refused _⟩⟩
  | some connectionImei =>
      obtain ⟨rfl, -⟩ := truthy_eq_some_iff.mp real
      dsimp only
      split
      · exact ⟨trivial, fun _ => ⟨trivial, fun _ => refused _⟩⟩
      · exact accepted _ _ ⟨[], past, rfl, first⟩

end Gps103

section Gps103

open Gps103Handler

variable (cfg : Config)

theorem guarded_handleHeartbeatGps103 (text : Text) :
    Guarded (Allowed .gps103) Named (handleHeartbeat text) [] := by
  change Guarded _ _ ((demand (Parsers.Gps103.parseHeartbeat text)).bind _) []
  cases Parsers.Gps103.parseHeartbeat text with
  | error _ => trivial
  | ok messageImei =>
      refine guarded_authenticated (by simp) (fun _ => trivial) ?_
      intro imei past resolved
      cases real : truthy (some imei) with
      | none =>
          dsimp only
          trivial
      | some connectionImei =>
          dsimp only
          obtain ⟨⟨⟩, -⟩ := truthy_eq_some_iff.mp real
          have sent : Keeps (Allowed .gps103) (Resolved imei)
              (send Parsers.Gps103.heartbeatReply) :=
            keeps_sendGps103 Resolved.cons Resolved.authentic _
          refine sent.andThen resolved ?_ fun _ _ _ => trivial
          intro _ past' resolved
          refine ⟨trivial, ?_⟩
          intro device?
          cases device? with
          | none => trivial
          | some device =>
              have marked : Keeps (Allowed .gps103) (Identified imei device)
                  (safely "heartbeat update" (markDeviceAlive device.deviceId true)) :=
                keeps_safely Identified.cons _
                  (keeps_markDeviceAlive Identified.cons (permits Identified.attributed) _)
              have now := identified_of_resolved resolved device
              refine marked.andThen now ?_ fun _ _ _ => trivial
              intro _ past' identified
              exact .inl identified.1.mem

theorem guarded_handleTracker (text : Text) (raw : Bytes) :
    Guarded (Allowed .gps103) Named (handleTracker cfg text raw) [] := by
  change Guarded _ _ ((demand (Parsers.Gps103.parseTracker cfg text)).bind _) []
  cases Parsers.Gps103.parseTracker cfg text with
  | error _ => trivial
  | ok report =>
      refine guarded_authenticated (by simp) (fun _ => trivial) ?_
      intro imei past resolved
      cases real : truthy (some imei) with
      | none =>
          dsimp only
          trivial
      | some connectionImei =>
          dsimp only
          obtain ⟨⟨⟩, -⟩ := truthy_eq_some_iff.mp real
          refine ⟨trivial, ?_⟩
          intro device?
          cases device? with
          | none => trivial
          | some device =>
              have kept : Keeps (Allowed .gps103) (Identified imei device)
                  (processReport cfg raw imei device.deviceId report) :=
                keeps_processReport cfg Identified.cons Identified.attributed raw imei report
              have now := identified_of_resolved resolved device
              refine kept.andThen now ?_ fun _ _ _ => trivial
              intro _ past' identified
              exact .inl identified.1.mem

theorem guarded_handleLoginGps103 (ip text : Text) (raw : Bytes) :
    Guarded (Allowed .gps103) Named (handleLogin cfg ip text raw) [] := by
  change Guarded _ _ ((demand (Parsers.Gps103.parseLogin text)).bind _) []
  cases Parsers.Gps103.parseLogin text with
  | error _ => trivial
  | ok imei =>
      refine ⟨trivial, fun _ => ⟨trivial, ?_⟩⟩
      intro answer
      cases answer with
      | error _ => trivial
      | ok deviceId? =>
          dsimp only [Program.bind_eq, Program.bind_pure, demand_ok]
          cases real : truthy deviceId? with
          | none => exact ⟨trivial, fun _ => ⟨trivial, fun _ => trivial⟩⟩
          | some deviceId =>
              obtain ⟨rfl, named⟩ := truthy_eq_some_iff.mp real
              refine ⟨trivial, ?_⟩
              intro _
              refine guarded_registered ⟨named, _, _, List.mem_cons_of_mem _ List.mem_cons_self⟩
                (by simp [isLogin]) ?_
              intro past registered
              have sent : Keeps (Allowed .gps103) (Registered imei deviceId)
                  (send Parsers.Gps103.loginReply) :=
                keeps_sendGps103 Registered.cons
                  (fun past registered => (registered.attributed past).authentic past) _
              refine sent.andThen registered ?_ fun _ _ _ => trivial
              intro _ past registered
              have saved : Keeps (Allowed .gps103) (Registered imei deviceId)
                  (saveRawMessage cfg deviceId raw true) :=
                keeps_saveRaw cfg Registered.cons (permits Registered.attributed) _ _ _ _
              refine (keeps_safely Registered.cons _ saved).andThen registered ?_
                fun _ _ _ => trivial
              intro _ past registered
              have marked : Keeps (Allowed .gps103) (Registered imei deviceId)
                  (markDeviceAlive deviceId false) :=
                keeps_markDeviceAlive Registered.cons (permits Registered.attributed) _
              refine (keeps_safely Registered.cons _ marked).andThen registered ?_
                fun _ _ _ => trivial
              intro _ past registered
              have vehicle : Keeps (Allowed .gps103) (Registered imei deviceId)
                  ((getVehicleByDevice deviceId).rescue fun _ => .pure none) :=
                (keeps_getVehicle Registered.cons (permits Registered.attributed) deviceId).rescue
                  fun _ => keeps_pure _
              refine vehicle.andThen registered ?_ fun _ _ _ => trivial
              intro _ past registered
              refine (keeps_safely Registered.cons _ (keeps_createEvent Registered.cons
                (permits Registered.attributed) _ _ _ _ _ _ _)).andThen registered
                ?_ fun _ _ _ => trivial
              intro _ past registered
              exact .inr ⟨deviceId, registered⟩

theorem guarded_processGps103Message (ip : Text) (raw : Bytes) :
    Guarded (Allowed .gps103) Named (processGps103Message cfg ip raw) [] := by
  rw [processGps103Message]
  generalize Parsers.Gps103.classify raw = classified
  obtain ⟨kind, text⟩ := classified
  dsimp only
  rw [guarded_rescue]
  have handled : Guarded (Allowed .gps103) Named (dispatch cfg ip raw kind text) [] := by
    cases kind with
    | login => exact guarded_handleLoginGps103 cfg ip text raw
    | heartbeat => exact guarded_handleHeartbeatGps103 text
    | tracker => exact guarded_handleTracker cfg text raw
    | unknown => exact ⟨trivial, fun _ => trivial⟩
  refine guarded_mono (fun _ _ allow => allow) ?_ handled
  intro past r named
  cases r with
  | ok imei? => exact named
  | error e =>
      cases e <;> exact ⟨trivial, fun _ => guarded_resolve _⟩

end Gps103

/-! ### The FMB family -/

section Teltonika

open TeltonikaHandler
open Parsers.Teltonika (isLoginFrame)

variable {fact : List Answered → Prop} (persists : ∀ past a, fact past → fact (a :: past))

include persists

theorem keeps_sendTeltonika (authentic : ∀ past, fact past → Authentic past) (payload : Bytes) :
    Keeps (Allowed .teltonika) fact (send payload) :=
  Keeps.rescue (((keeps_request persists fun past holds => .inr (authentic past holds)).bind
    keeps_demand).bind fun _ => (keeps_request persists fun _ _ => trivial).bind keeps_demand)
    fun _ => keeps_pure _

end Teltonika

section Teltonika

open TeltonikaHandler
open Parsers.Teltonika (isLoginFrame)

variable (cfg : Config)

theorem guarded_handleLoginTeltonika (ip : Text) (raw : Bytes) :
    Guarded (Allowed .teltonika) Named (handleLogin cfg ip raw) [] := by
  rw [handleLogin]
  cases Parsers.Teltonika.parseLogin raw with
  | error e => cases e <;> first | trivial | exact ⟨trivial, fun _ => trivial⟩
  | ok imei =>
      refine ⟨trivial, ?_⟩
      intro answer
      cases answer with
      | error _ => trivial
      | ok deviceId? =>
          dsimp only [Program.bind_eq, Program.bind_pure, demand_ok]
          cases real : truthy deviceId? with
          | none => exact ⟨trivial, fun _ => trivial⟩
          | some deviceId =>
              obtain ⟨rfl, named⟩ := truthy_eq_some_iff.mp real
              apply guarded_registered ⟨named, _, _, List.mem_cons_self⟩ (by simp [isLogin])
              intro past registered
              refine ⟨trivial, ?_⟩
              intro _
              have registered := registered.cons past ⟨.forgetStatus deviceId, ()⟩
              have sent : Keeps (Allowed .teltonika) (Registered imei deviceId)
                  (send Parsers.Teltonika.loginAccept) :=
                keeps_sendTeltonika Registered.cons
                  (fun past registered => (registered.attributed past).authentic past) _
              refine sent.andThen registered ?_ fun _ _ _ => trivial
              intro _ past registered
              have saved : Keeps (Allowed .teltonika) (Registered imei deviceId)
                  (safely (saveRawFrame cfg deviceId raw true true)) :=
                TeltonikaHandler.keeps_safely
                  (keeps_saveRaw cfg Registered.cons (permits Registered.attributed) _ _ _ _)
              refine saved.andThen registered ?_ fun _ _ _ => trivial
              intro _ past registered
              have marked : Keeps (Allowed .teltonika) (Registered imei deviceId)
                  (safely (markDeviceAlive deviceId false)) :=
                TeltonikaHandler.keeps_safely
                  (keeps_markDeviceAlive Registered.cons (permits Registered.attributed) _)
              refine marked.andThen registered ?_ fun _ _ _ => trivial
              intro _ past registered
              have vehicle : Keeps (Allowed .teltonika) (Registered imei deviceId)
                  ((getVehicleByDevice deviceId).rescue fun _ => .pure none) :=
                (keeps_getVehicle Registered.cons (permits Registered.attributed) deviceId).rescue
                  fun _ => keeps_pure _
              refine vehicle.andThen registered ?_ fun _ _ _ => trivial
              intro _ past registered
              refine (TeltonikaHandler.keeps_safely (keeps_createEvent Registered.cons
                (permits Registered.attributed) _ _ _ _ _ _ _)).andThen registered
                ?_ fun _ _ _ => trivial
              intro _ past registered
              exact .inr ⟨deviceId, registered⟩

theorem guarded_handleAvl (raw : Bytes) :
    Guarded (Allowed .teltonika) Named (handleAvl cfg raw) [] := by
  refine ⟨trivial, ?_⟩
  intro imei?
  dsimp only [Program.bind_eq, Program.bind_pure]
  cases real : truthy imei? with
  | none => exact ⟨trivial, fun _ => trivial⟩
  | some imei =>
      obtain ⟨rfl, -⟩ := truthy_eq_some_iff.mp real
      refine ⟨trivial, ?_⟩
      intro device?
      have resolved : Resolved imei [⟨.getImeiBySocket, some imei⟩] := ⟨[], [], rfl, by simp⟩
      cases device? with
      | none => trivial
      | some device =>
          have now := identified_of_resolved resolved device
          have saved : ∀ always parsed, Keeps (Allowed .teltonika) (Identified imei device)
              (safely (saveRawFrame cfg device.deviceId raw always parsed)) := fun always parsed =>
            TeltonikaHandler.keeps_safely
              (keeps_saveRaw cfg Identified.cons (permits Identified.attributed) _ _ _ _)
          have refused : Guarded (Allowed .teltonika) Named
              ((safely (saveRawFrame cfg device.deviceId raw true false)).bind fun _ =>
                .pure (some imei)) _ :=
            (saved true false).andThen now (fun _ _ identified => .inl identified.1.mem)
              fun _ _ _ => trivial
          dsimp only [Program.bind_eq, Program.bind_pure]
          cases Parsers.Teltonika.parseAvlPacket raw with
          | error e =>
              cases e with
              | teltonikaCrcError => exact .inl now.1.mem
              | teltonikaParseError _ => exact refused
              | unsupportedCodecError _ => exact refused
              | _ => trivial
          | ok packet =>
              refine (saved false true).andThen now ?_ fun _ _ _ => trivial
              intro _ past identified
              have refreshed : Keeps (Allowed .teltonika) (Identified imei device)
                  (refreshStatus device.deviceId packet.records) :=
                keeps_refreshStatus Identified.cons (permits Identified.attributed) _
              refine refreshed.andThen identified ?_ fun _ _ _ => trivial
              intro _ past identified
              have stored : Keeps (Allowed .teltonika) (Identified imei device)
                  (storeRecords cfg device.deviceId packet.records) :=
                keeps_storeRecords cfg Identified.cons (permits Identified.attributed) _
              refine stored.andThen identified ?_ fun _ _ _ => trivial
              intro accepted past identified
              have sent : Keeps (Allowed .teltonika) (Identified imei device)
                  (send (Parsers.Teltonika.ack accepted)) :=
                keeps_sendTeltonika Identified.cons
                  (fun past identified => (identified.attributed past).authentic past) _
              refine sent.andThen identified ?_ fun _ _ _ => trivial
              intro _ past identified
              exact .inl identified.1.mem

theorem guarded_processTeltonikaFrame (ip : Text) (raw : Bytes) :
    Guarded (Allowed .teltonika) Named (processTeltonikaFrame cfg ip raw) [] := by
  rw [processTeltonikaFrame]
  rw [guarded_rescue]
  have handled : Guarded (Allowed .teltonika) Named
      (if isLoginFrame raw then handleLogin cfg ip raw else handleAvl cfg raw) [] := by
    split
    · exact guarded_handleLoginTeltonika cfg ip raw
    · exact guarded_handleAvl cfg raw
  refine guarded_mono (fun _ _ allow => allow) ?_ handled
  intro past r named
  cases r with
  | ok imei? => exact named
  | error e => exact guarded_resolve past

end Teltonika

end TrackerGateway.Services.Discipline
