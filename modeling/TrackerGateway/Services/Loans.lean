/- module: TrackerGateway/Services/Loans
   source: src/services/packet_handler.py, src/services/gps103_handler.py,
     src/services/teltonika_handler.py
   digest: How often the handling of a frame borrows a database connection, against its length. -/

import TrackerGateway.Foundation.Coroutine.Cost
import TrackerGateway.Packets.Grammar
import TrackerGateway.Services.Gps103Handler
import TrackerGateway.Services.PacketHandler
import TrackerGateway.Services.TeltonikaHandler

set_option autoImplicit false
set_option relaxedAutoImplicit false

namespace TrackerGateway.Services.Loans

open Foundation.Coroutine
open Foundation.Wire
open TrackerGateway.Runtime

def loans : Op → Nat
  | .getDeviceByImei .. => 2
  | .getVehicleByDevice _ | .execute _ => 1
  | _ => 0

abbrev Borrows {α : Type} (n : Nat) (p : Handler α) : Prop := Costs loans n p

section Parts

variable {deviceId : Text}

theorem borrows_free {o : Op} (free : loans o = 0) :
    Borrows 0 (request o : Handler (Res o)) := costs_request free.le

theorem borrows_log (line : List LogPart) : Borrows 0 (log line) := borrows_free rfl

theorem borrows_writeSocket (payload : Bytes) : Borrows 0 (writeSocket payload) :=
  (borrows_free rfl).free fun _ => costs_demand _

theorem borrows_drainSocket : Borrows 0 drainSocket :=
  (borrows_free rfl).free fun _ => costs_demand _

theorem borrows_getDeviceByImei (imei : Text) (family : Family) (model : Text) :
    Borrows 2 (getDeviceByImei imei family model) :=
  (costs_request le_rfl).bind (m := 0) fun _ => costs_demand _

theorem borrows_getVehicle : Borrows 1 (getVehicleByDevice deviceId) :=
  (costs_request le_rfl).bind (m := 0) fun _ => costs_demand _

theorem borrows_execute (statement : DbWrite) : Borrows 1 (execute statement) :=
  (costs_request le_rfl).bind (m := 0) fun _ => costs_demand _

theorem borrows_registerDevice (imei ip : Text) (protocol : Family) :
    Borrows 0 (registerDevice imei ip deviceId protocol) :=
  (borrows_free rfl).free fun _ => (borrows_free rfl).free fun _ => borrows_free rfl

theorem borrows_stamped (write : Instant → DbWrite) :
    Borrows 1 ((request Op.utcNow : Handler Instant).bind fun now =>
      (execute (write now)).bind fun _ => .pure ()) :=
  (borrows_free rfl).free fun now => (borrows_execute (write now)).bind (m := 0) fun _ =>
    costs_pure ()

theorem borrows_saveRaw (cfg : Config) (protocol hexData : Text) (always parsed : Bool) :
    Borrows 1 (saveRaw cfg deviceId protocol hexData always parsed) := by
  have sampled : Borrows 0 (shouldStoreRaw cfg always) := by
    rw [shouldStoreRaw]
    split
    · exact costs_pure _
    · exact costs_pure _
    · exact costs_ite (costs_pure _) ((borrows_free rfl).free fun _ => costs_pure _)
  exact sampled.free fun _ => costs_ite (borrows_stamped _) (costs_pure _)

theorem borrows_saveLocation (latitude longitude speed heading : Number) (satellites : Nat)
    (eventTime : Instant) :
    Borrows 1 (saveLocation deviceId latitude longitude speed heading satellites eventTime) :=
  (costs_demand _).free fun _ => (costs_demand _).free fun _ => (costs_demand _).free fun _ =>
    (costs_demand _).free fun _ => borrows_execute _

theorem borrows_createEvent (vehicleId : Option Text) (eventType : Text) (severity : Severity)
    (latitude longitude : Option Number) (description : Text) (metadata : List (Text × Json)) :
    Borrows 1 (createEvent deviceId vehicleId eventType severity latitude longitude description
      metadata) := borrows_stamped _

theorem borrows_handleCommandResponse (command rawText : Text) (data : Json) :
    Borrows 1 (handleCommandResponse deviceId command rawText data) :=
  (borrows_execute _).bind (m := 0) fun _ => costs_pure _

end Parts

section V5

open PacketHandler

variable (cfg : Config) {raw : Bytes} {protocol : Text} {connectionImei : Option Text}

theorem borrows_withDevice {n : Nat} {body : Entry → Handler Unit}
    (branch : ∀ device, Borrows n (body device)) :
    Borrows n (withDevice connectionImei body) := by
  have connected : Borrows 0 (getConnectedDevice connectionImei) := by
    rw [getConnectedDevice]
    split
    · exact (borrows_free rfl).free fun _ => costs_pure _
    · exact borrows_free rfl
  apply connected.free
  intro device?
  cases device? with
  | none => exact costs_pure _
  | some device => exact (branch device).bind (m := 0) fun _ => costs_pure _

theorem borrows_handleLoginV5 (ip : Text) : Borrows 5 (handleLogin cfg ip raw protocol) := by
  refine (borrows_getDeviceByImei _ _ _).bind (m := 3) ?_
  intro deviceId?
  cases truthy deviceId? with
  | none => exact costs_pure _
  | some deviceId =>
      exact (borrows_registerDevice _ _ _).free fun _ =>
        (borrows_saveRaw cfg _ _ _ _).bind (m := 2) fun _ =>
          borrows_getVehicle.bind (m := 1) fun _ =>
            (borrows_createEvent _ _ _ _ _ _ _).bind (m := 0) fun _ => costs_pure _

theorem borrows_handleLocation :
    Borrows 2 (handleLocation cfg raw protocol connectionImei) :=
  (costs_demand _).free fun _ => costs_ite (borrows_withDevice fun _ =>
    (borrows_saveRaw cfg _ _ _ _).bind (m := 1) fun _ =>
      (borrows_saveLocation _ _ _ _ _ _).bind (m := 0) fun _ => costs_pure _) (costs_pure _)

theorem borrows_handleStatus : Borrows 2 (handleStatus cfg raw protocol connectionImei) :=
  borrows_withDevice fun _ => (costs_demand _).free fun _ =>
    (borrows_saveRaw cfg _ _ _ _).bind fun _ => borrows_stamped _

theorem borrows_handleHeartbeatV5 :
    Borrows 3 (handleHeartbeat cfg raw protocol connectionImei) :=
  borrows_withDevice fun _ => (costs_demand _).free fun _ =>
    (borrows_saveRaw cfg _ _ _ _).bind (m := 2) fun _ =>
      (borrows_stamped _).bind fun _ => borrows_stamped _

theorem borrows_handleAlarm : Borrows 3 (handleAlarm cfg raw protocol connectionImei) :=
  borrows_withDevice fun _ => (costs_demand _).free fun _ =>
    (borrows_saveRaw cfg _ _ _ _).bind (m := 2) fun _ =>
      borrows_getVehicle.bind fun _ => borrows_createEvent _ _ _ _ _ _ _

theorem borrows_handleInformation (eventType description : Text) :
    Borrows 3 (handleInformation cfg raw protocol connectionImei eventType description) := by
  apply borrows_withDevice
  intro device
  apply (borrows_saveRaw cfg _ _ _ _).bind (m := 2)
  intro _
  cases Parsers.V5.parseInformationPacket raw with
  | none => exact costs_pure _
  | some info =>
      exact costs_ite (costs_pure _) ((costs_demand _).free fun _ =>
        borrows_getVehicle.bind fun _ => borrows_createEvent _ _ _ _ _ _ _)

theorem borrows_handleCommandAck :
    Borrows 1 (handleCommandAck cfg raw protocol connectionImei) :=
  borrows_withDevice fun _ => (borrows_saveRaw cfg _ _ _ _).bind (m := 0) fun _ =>
    (costs_demand _).free fun _ => costs_pure _

theorem borrows_handleCommandReply :
    Borrows 2 (handleCommandReply cfg raw protocol connectionImei) := by
  rw [handleCommandReply]
  -- What the reply says does not matter, and is expensive to unfold.
  generalize Parsers.CommandResponse.parseCommandResponse raw = parsed
  exact borrows_withDevice fun _ => (borrows_saveRaw cfg _ _ _ _).bind (m := 1) fun _ =>
    (costs_demand parsed).free fun _ => borrows_handleCommandResponse _ _ _

theorem borrows_handleUnknown : Borrows 1 (handleUnknown cfg raw protocol connectionImei) := by
  rw [handleUnknown]
  cases truthy connectionImei with
  | none => exact costs_pure _
  | some imei =>
      refine (borrows_free rfl).free ?_
      intro device?
      cases device? with
      | none => exact costs_pure _
      | some device => exact (borrows_saveRaw cfg _ _ _ _).bind (m := 0) fun _ => costs_pure _

theorem borrows_dispatchV5 (ip : Text) (protocol : UInt8) :
    Borrows 5 (dispatch cfg ip raw protocol connectionImei) := by
  unfold dispatch
  dsimp only
  split
  · exact borrows_handleLoginV5 cfg ip
  · exact (borrows_handleLocation cfg).mono (by decide)
  · exact (borrows_handleLocation cfg).mono (by decide)
  · exact (borrows_handleStatus cfg).mono (by decide)
  · exact (borrows_handleHeartbeatV5 cfg).mono (by decide)
  · exact (borrows_handleAlarm cfg).mono (by decide)
  · exact (borrows_handleInformation cfg _ _).mono (by decide)
  · exact (borrows_handleCommandAck cfg).mono (by decide)
  · exact (borrows_handleCommandReply cfg).mono (by decide)
  · exact (borrows_handleInformation cfg _ _).mono (by decide)
  · exact (borrows_handleUnknown cfg).mono (by decide)

theorem borrows_processPacket (ip : Text) (raw : Bytes) :
    Borrows (raw.length + 1) (processPacket cfg ip raw) := by
  refine costs_ite ?_ (costs_pure _)
  cases code : index raw (Parsers.V5.protocolIndex raw) with
  | error e => exact costs_throw e
  | ok protocol =>
      have long : 4 ≤ raw.length := by
        have inside := (List.getElem?_eq_some_iff.mp (index_eq_ok_iff.mp code)).1
        rw [Parsers.V5.protocolIndex] at inside
        split at inside <;> omega
      have acknowledged : Borrows 0 (acknowledge raw) :=
        Costs.rescue (n := 0) (m := 0) ((costs_demand _).free fun _ => (borrows_writeSocket _).free
          fun _ => borrows_drainSocket) fun _ => costs_pure _
      refine ((costs_demand _).free fun _ => (borrows_free rfl).free fun _ =>
        Costs.bind (n := 5) (m := 0) ?_ fun _ => acknowledged.free fun _ => costs_pure _).mono
          (by omega)
      exact Costs.rescue (n := 5) (m := 0) (borrows_dispatchV5 cfg ip _) fun _ => costs_pure _

end V5

section Gps103

open Gps103Handler

variable (cfg : Config) {deviceId : Text}

theorem borrows_safely {n : Nat} (label : String) {write : Handler Unit} (once : Borrows n write) :
    Borrows n (safely label write) :=
  Costs.rescue (m := 0) once fun _ => borrows_log _

theorem borrows_sendGps103 (payload : Bytes) : Borrows 0 (send payload) :=
  Costs.rescue (n := 0) (m := 0) ((borrows_writeSocket _).free fun _ =>
    borrows_drainSocket.free fun _ => borrows_log _) fun _ => borrows_log _

theorem borrows_authenticatedImei (imei : Text) : Borrows 0 (authenticatedImei imei) := by
  refine (borrows_free rfl).free ?_
  intro connectionImei
  cases truthy connectionImei with
  | none => exact (borrows_log _).free fun _ => (borrows_free rfl).free fun _ => costs_pure _
  | some connectionImei =>
      exact costs_ite ((borrows_log _).free fun _ => (borrows_free rfl).free fun _ => costs_pure _)
        (costs_pure _)

theorem borrows_handleLoginGps103 (ip text : Text) (raw : Bytes) :
    Borrows 6 (handleLogin cfg ip text raw) := by
  refine (costs_demand _).free fun imei => (borrows_log _).free fun _ =>
    (borrows_getDeviceByImei _ _ _).bind (m := 4) ?_
  intro deviceId?
  cases truthy deviceId? with
  | none => exact (borrows_log _).free fun _ => (borrows_free rfl).free fun _ => costs_pure _
  | some deviceId =>
      have looked : Borrows 1 ((getVehicleByDevice deviceId).rescue fun _ => return none) :=
        Costs.rescue (m := 0) borrows_getVehicle fun _ => costs_pure _
      exact (borrows_log _).free fun _ => (borrows_registerDevice _ _ _).free fun _ =>
        (borrows_sendGps103 _).free fun _ =>
          (borrows_safely _ (borrows_saveRaw cfg _ _ _ _)).bind (m := 3) fun _ =>
            (borrows_safely _ (borrows_stamped _)).bind (m := 2) fun _ =>
              looked.bind (m := 1) fun _ =>
                (borrows_safely _ (borrows_createEvent _ _ _ _ _ _ _)).bind (m := 0) fun _ =>
                  costs_pure _

theorem borrows_handleHeartbeatGps103 (text : Text) : Borrows 1 (handleHeartbeat text) := by
  refine (costs_demand _).free fun imei => (borrows_authenticatedImei _).free ?_
  intro connectionImei
  cases truthy connectionImei with
  | none => exact costs_pure _
  | some connectionImei =>
      refine (borrows_sendGps103 _).free fun _ => (borrows_free rfl).free ?_
      intro device?
      cases device? with
      | none => exact costs_throw _
      | some device =>
          exact (borrows_safely _ (borrows_stamped _)).bind (m := 0) fun _ => costs_pure _

theorem borrows_storeFix (imei : Text) (fix? : Option Parsers.Gps103.Fix) :
    Borrows 1 (storeFix imei deviceId fix?) := by
  cases fix? with
  | none => exact costs_pure _
  | some fix =>
      have timed : Borrows 0 (eventTimeOf fix) := by
        rw [eventTimeOf]
        split
        · exact costs_pure _
        · exact (borrows_free rfl).free fun _ => (borrows_log _).free fun _ => costs_pure _
      exact timed.free fun _ =>
        (borrows_safely _ ((borrows_saveLocation _ _ _ _ _ _).bind (m := 0) fun _ =>
          costs_pure _)).bind (m := 0) fun _ => (borrows_free rfl).free fun _ => borrows_free rfl

theorem borrows_processReport (raw : Bytes) (imei : Text) (report : Parsers.Gps103.Report) :
    Borrows 5 (processReport cfg raw imei deviceId report) := by
  have noted : Borrows 0 (noteKeyword imei report) := costs_ite (costs_pure _) (borrows_log _)
  have usable : Borrows 0 (usableFix imei report) := by
    rw [usableFix]
    split
    · exact costs_ite (costs_pure _) ((borrows_log _).free fun _ => costs_pure _)
    · exact (borrows_log _).free fun _ => costs_pure _
  have confirmed : Borrows 0 (confirmSos imei report) :=
    costs_ite (borrows_sendGps103 _) (costs_pure _)
  have ignited : ∀ ignition, Borrows 1 (storeIgnition deviceId ignition) := by
    intro ignition
    cases ignition with
    | none => exact costs_pure _
    | some ignition => exact borrows_safely _ (borrows_stamped _)
  have looked : ∀ alarm, Borrows 1 (alarmVehicle deviceId alarm) := by
    intro alarm
    cases alarm with
    | none => exact costs_pure _
    | some alarm =>
        exact Costs.rescue (m := 0) borrows_getVehicle fun _ => (borrows_log _).free fun _ =>
          costs_pure _
  have recorded : ∀ vehicleId fix alarm,
      Borrows 1 (recordAlarm deviceId vehicleId report fix alarm) := by
    intro vehicleId fix alarm
    cases alarm with
    | none => exact costs_pure _
    | some alarm =>
        exact (borrows_safely _ (borrows_createEvent _ _ _ _ _ _ _)).bind (m := 0) fun _ =>
          borrows_log _
  exact noted.free fun _ => usable.free fun _ => confirmed.free fun _ =>
    (borrows_safely _ (borrows_saveRaw cfg _ _ _ _)).bind (m := 4) fun _ =>
      (ignited _).bind (m := 3) fun _ => (looked _).bind (m := 2) fun _ =>
        (borrows_storeFix _ _).bind (m := 1) fun _ => recorded _ _ _

theorem borrows_handleTracker (text : Text) (raw : Bytes) :
    Borrows 5 (handleTracker cfg text raw) := by
  refine (costs_demand _).free fun report => (borrows_authenticatedImei _).free ?_
  intro connectionImei
  cases truthy connectionImei with
  | none => exact costs_pure _
  | some connectionImei =>
      refine (borrows_free rfl).free ?_
      intro device?
      cases device? with
      | none => exact costs_throw _
      | some device => exact (borrows_processReport cfg _ _ _).bind (m := 0) fun _ => costs_pure _

theorem classify_long {raw : Bytes} {kind : Parsers.Gps103.Kind} {text : Text}
    (classified : Parsers.Gps103.classify raw = (kind, text))
    (needs : kind = .login ∨ kind = .tracker) : 5 ≤ raw.length := by
  rw [Parsers.Gps103.classify] at classified
  split at classified
  · cases classified
    simp at needs
  · next decoded ascii =>
      have shorter : (strip decoded).length ≤ raw.length :=
        length_of_asciiStrict ascii ▸ trim_length_le _ decoded
      dsimp only at classified
      split at classified
      · next login =>
          obtain ⟨a, found⟩ := Option.isSome_iff_exists.mp (Bool.and_eq_true_iff.mp login).2
          exact (length_of_searchAfter found).trans shorter
      · split at classified
        · cases classified
          simp at needs
        · split at classified
          · next begins =>
              exact (List.isPrefixOf_iff_prefix.mp begins).length_le.trans shorter
          · cases classified
            simp at needs

theorem borrows_processGps103Message (ip : Text) (raw : Bytes) :
    Borrows (raw.length + 1) (processGps103Message cfg ip raw) := by
  rw [processGps103Message]
  cases classified : Parsers.Gps103.classify raw with
  | mk kind text =>
  refine Costs.rescue (m := 0) ?_ ?_
  case refine_2 =>
    intro ex
    dsimp only
    split <;> exact (borrows_log _).free fun _ => borrows_free rfl
  cases kind with
  | login =>
      have long := classify_long classified (.inl rfl)
      exact (borrows_handleLoginGps103 cfg ip text raw).mono (by omega)
  | heartbeat => exact (borrows_handleHeartbeatGps103 text).mono (by omega)
  | tracker =>
      have long := classify_long classified (.inr rfl)
      exact (borrows_handleTracker cfg text raw).mono (by omega)
  | unknown => exact ((borrows_log _).free fun _ => costs_pure _)

end Gps103

section Teltonika

open TeltonikaHandler
open Parsers.Teltonika
open Packets.Records Packets.Grammar

variable (cfg : Config) {deviceId : Text}

theorem borrows_quietly {n : Nat} {write : Handler Unit} (once : Borrows n write) :
    Borrows n (TeltonikaHandler.safely write) :=
  Costs.rescue (m := 0) once fun _ => costs_pure _

theorem borrows_sendTeltonika (payload : Bytes) : Borrows 0 (TeltonikaHandler.send payload) :=
  Costs.rescue (n := 0) (m := 0) ((borrows_writeSocket _).free fun _ => borrows_drainSocket)
    fun _ => costs_pure _

theorem borrows_handleLoginTeltonika (ip : Text) (raw : Bytes) :
    Borrows (raw.length + 1) (TeltonikaHandler.handleLogin cfg ip raw) := by
  rw [TeltonikaHandler.handleLogin]
  split
  · exact (borrows_free rfl).free fun _ => costs_pure _
  · exact costs_throw _
  · next imei parsed =>
      have long : 17 ≤ raw.length := by
        rw [parseLogin] at parsed
        split at parsed
        · cases parsed
        · next login =>
            rw [Bool.not_eq_true', Bool.not_eq_false, isLoginFrame, Bool.and_eq_true_iff,
              decide_eq_true_eq] at login
            exact login.1.ge
      refine ((borrows_getDeviceByImei _ _ _).bind (m := 4) ?_).mono (by omega)
      intro deviceId?
      cases truthy deviceId? with
      | none => exact (borrows_free rfl).free fun _ => costs_pure _
      | some deviceId =>
          have looked : Borrows 1 ((getVehicleByDevice deviceId).rescue fun _ => return none) :=
            Costs.rescue (m := 0) borrows_getVehicle fun _ => costs_pure _
          exact (borrows_registerDevice _ _ _).free fun _ => (borrows_free rfl).free fun _ =>
            (borrows_sendTeltonika _).free fun _ =>
              (borrows_quietly (borrows_saveRaw cfg _ _ _ _)).bind (m := 3) fun _ =>
                (borrows_quietly (borrows_stamped _)).bind (m := 2) fun _ =>
                  looked.bind (m := 1) fun _ =>
                    (borrows_quietly (borrows_createEvent _ _ _ _ _ _ _)).bind (m := 0) fun _ =>
                      costs_pure _

theorem borrows_storeRecord (rec : AvlRecord) : Borrows 1 (storeRecord cfg deviceId rec) :=
  costs_ite (costs_pure _) ((borrows_free rfl).free fun _ => costs_ite (costs_pure _)
    (costs_ite (costs_pure _) (Costs.rescue (m := 0)
      ((borrows_saveLocation _ _ _ _ _ _).bind (m := 0) fun _ => costs_pure _) fun _ =>
        costs_pure _)))

theorem borrows_storeRecords (records : List AvlRecord) :
    Borrows records.length (storeRecords cfg deviceId records) := by
  induction records with
  | nil => exact costs_pure _
  | cons rec rest ih =>
      rw [List.length_cons, Nat.add_comm]
      refine (borrows_storeRecord cfg rec).bind ?_
      intro stored
      exact costs_ite (ih.bind (m := 0) fun _ => costs_pure _) (costs_pure _)

theorem borrows_refreshStatus (records : List AvlRecord) :
    Borrows 1 (refreshStatus deviceId records) := by
  have alive : ∀ now, Borrows 1 (refreshStatus.refreshAlive deviceId now) := by
    intro now
    refine (borrows_free rfl).free fun last => costs_ite ?_ (costs_pure _)
    exact (borrows_quietly (borrows_stamped _)).bind (m := 0) fun _ => borrows_free rfl
  refine (borrows_free rfl).free ?_
  intro now
  cases newestIgnition records with
  | none => exact alive now
  | some ignition =>
      refine (borrows_free rfl).free fun cached => costs_ite ?_ (alive now)
      exact (borrows_quietly (borrows_stamped _)).bind (m := 0) fun _ =>
        (borrows_free rfl).free fun _ => borrows_free rfl

theorem records_short {raw : Bytes} {p : AvlPacket} (parsed : parseAvlPacket raw = .ok p) :
    p.records.length + 15 ≤ raw.length := by
  obtain ⟨layouts, formed, records⟩ := parse_ok_iff.mp parsed
  have each : ∀ l : Layout, 1 ≤ (l.bytes (p.codec = codec8E)).length := by
    intro l
    rw [Layout.bytes, List.length_append, bigEndianBytes_length]
    omega
  have sum : layouts.length ≤
      (layouts.map (Layout.bytes (p.codec = codec8E))).flatten.length := by
    clear formed records
    induction layouts with
    | nil => exact Nat.le_refl 0
    | cons l layouts ih =>
        rw [List.map_cons, List.flatten_cons, List.length_append, List.length_cons]
        have one := each l
        omega
  rw [records, List.length_map, formed.is, packet_length, dataField_length]
  omega

theorem borrows_handleAvl (raw : Bytes) : Borrows (raw.length + 1) (handleAvl cfg raw) := by
  refine (borrows_free rfl).free ?_
  intro connectionImei
  cases truthy connectionImei with
  | none => exact (borrows_free rfl).free fun _ => costs_pure _
  | some imei =>
      refine (borrows_free rfl).free ?_
      intro device?
      cases device? with
      | none => exact costs_throw _
      | some device =>
          have undecoded : Borrows (raw.length + 1) (do
              TeltonikaHandler.safely (saveRawFrame cfg device.deviceId raw true false)
              return some imei) :=
            ((borrows_quietly (borrows_saveRaw cfg _ _ _ _)).bind (m := 0) fun _ =>
              costs_pure _).mono (by omega)
          dsimp only
          split
          · exact costs_pure _
          · exact undecoded
          · exact undecoded
          · exact costs_throw _
          · next packet parsed =>
              have short := records_short parsed
              refine Costs.mono (n := 1 + (1 + (packet.records.length + 0))) ?_ (by omega)
              exact (borrows_quietly (borrows_saveRaw cfg _ _ _ _)).bind fun _ =>
                (borrows_refreshStatus _).bind fun _ => (borrows_storeRecords cfg _).bind fun _ =>
                  (borrows_sendTeltonika _).free fun _ => costs_pure _

theorem borrows_processTeltonikaFrame (ip : Text) (raw : Bytes) :
    Borrows (raw.length + 1) (processTeltonikaFrame cfg ip raw) := by
  refine Costs.rescue (m := 0) (costs_ite ?_ ?_) fun _ => borrows_free rfl
  · exact borrows_handleLoginTeltonika cfg ip raw
  · exact borrows_handleAvl cfg raw

end Teltonika

end TrackerGateway.Services.Loans
