/- module: TrackerGateway/Services/Language
   source: src/services/packet_handler.py, src/services/gps103_handler.py,
     src/services/teltonika_handler.py
   digest: What a handler may write to its connection: the rule, and every handler keeps it. -/

import TrackerGateway.Services.Gps103Handler
import TrackerGateway.Services.PacketHandler
import TrackerGateway.Services.Routine
import TrackerGateway.Utils.Gps103CommandBuilder

set_option autoImplicit false
set_option relaxedAutoImplicit false

namespace TrackerGateway.Services.Language

open Foundation.Coroutine
open Foundation.Wire (Text Bytes bigEndianBytes isDigits exists_of_searchAfter)
open TrackerGateway.Runtime
open Utils.Gps103CommandBuilder (isCommandImei)

def Found (imei : Text) (past : List Answered) : Prop :=
  (⟨.getImeiBySocket, some imei⟩ : Answered) ∈ past

def Reply : Family → List Answered → Bytes → Prop
  | .gt06, _, payload => ∃ packet, Parsers.V5.buildAck packet = .ok payload
  | .gps103, past, payload => payload = Parsers.Gps103.loginReply ∨
      payload = Parsers.Gps103.heartbeatReply ∨
      ∃ imei, Found imei past ∧ payload = Parsers.Gps103.buildHelpMeAck imei
  | .teltonika, _, payload => payload = Parsers.Teltonika.loginAccept ∨
      ∃ count, payload = bigEndianBytes 4 count

/-- A handler registers its own family, the text protocol only well-formed identities, and writes
only replies. -/
def Speaks (family : Family) (past : List Answered) : Op → Prop
  | .registerDevice imei _ _ protocol .. =>
      protocol = family ∧ (family = .gps103 → isCommandImei imei = true)
  | .write payload => Reply family past payload
  | _ => True

section Bookkeeping

variable {family : Family} {fact : List Answered → Prop} {deviceId : Text}
  (persists : ∀ past a, fact past → fact (a :: past))

theorem permits (past : List Answered) (o : Op) (_ : fact past) (routine : Routine deviceId o)
    (_ : Unmarked o) : Speaks family past o := by
  cases o with
  | registerDevice => exact routine.elim
  | write payload => exact routine.elim
  | _ => trivial

include persists

theorem keeps_log (line : List LogPart) : Keeps (Speaks family) fact (log line) :=
  keeps_request persists fun _ _ => trivial

theorem keeps_getDeviceByImei (imei : Text) (protocolType : Family) (defaultModel : Text) :
    Keeps (Speaks family) fact (getDeviceByImei imei protocolType defaultModel) :=
  (keeps_request persists fun _ _ => trivial).bind keeps_demand

theorem keeps_lookup (deviceId : Text) :
    Keeps (Speaks family) fact (getVehicleByDevice deviceId) :=
  (keeps_request persists fun _ _ => trivial).bind keeps_demand

theorem keeps_registerDevice {imei ip deviceId : Text}
    (valid : family = .gps103 → isCommandImei imei = true) :
    Keeps (Speaks family) fact (registerDevice imei ip deviceId family) :=
  (keeps_request persists fun _ _ => trivial).bind fun _ =>
    (keeps_request persists fun _ _ => trivial).bind fun _ =>
      keeps_request persists fun _ _ => ⟨rfl, valid⟩

theorem keeps_writeSocket {payload : Bytes}
    (reply : ∀ past, fact past → Reply family past payload) :
    Keeps (Speaks family) fact (writeSocket payload) :=
  (keeps_request persists reply).bind keeps_demand

theorem keeps_drainSocket : Keeps (Speaks family) fact drainSocket :=
  (keeps_request persists fun _ _ => trivial).bind keeps_demand

end Bookkeeping

def always (_ : List Answered) : Prop := True

theorem always_cons (past : List Answered) (a : Answered) (_ : always past) : always (a :: past) :=
  trivial

section V5

open PacketHandler

variable (cfg : Config) {raw : Bytes} {protocol : Text} {connectionImei : Option Text}

/-- What the branch of a packet asks for: it registers its own family, writes nothing to the
connection and remembers no position. -/
def Inward : Op → Prop
  | .write _ | .notePosition .. => False
  | .registerDevice _ _ _ protocol .. => protocol = .gt06
  | _ => True

theorem inward_permits {deviceId : Text} (_ : List Answered) (o : Op) (_ : True)
    (routine : Routine deviceId o) (unmarked : Unmarked o) : Inward o := by
  cases o with
  | registerDevice => exact routine.elim
  | write payload => exact routine.elim
  | notePosition => exact unmarked.elim
  | _ => trivial

theorem inward_lookup (deviceId : Text) : Confined Inward (getVehicleByDevice deviceId) :=
  (confined_request (o := Op.getVehicleByDevice deviceId) trivial).bind keeps_demand

theorem inward_withDevice {body : Entry → Handler Unit}
    (branch : ∀ device, Confined Inward (body device)) :
    Confined Inward (withDevice connectionImei body) := by
  have connected : Confined Inward (getConnectedDevice connectionImei) := by
    rw [getConnectedDevice]
    split
    · exact (confined_request trivial).bind fun _ => keeps_pure _
    · exact confined_request trivial
  apply connected.bind
  intro device?
  cases device? with
  | none => exact keeps_pure _
  | some device => exact (branch device).bind fun _ => keeps_pure _

theorem inward_handleLoginV5 (ip : Text) :
    Confined Inward (handleLogin cfg ip raw protocol) := by
  have looked : Confined Inward
      (getDeviceByImei (Parsers.V5.parseLoginPacket raw).imei .gt06 "V5".toList) :=
    (confined_request (o := Op.getDeviceByImei _ _ _) trivial).bind keeps_demand
  apply looked.bind
  intro deviceId?
  cases truthy deviceId? with
  | none => exact keeps_pure _
  | some deviceId =>
      have registered : Confined Inward
          (registerDevice (Parsers.V5.parseLoginPacket raw).imei ip deviceId .gt06) :=
        (confined_request trivial).bind fun _ => (confined_request trivial).bind fun _ =>
          confined_request rfl
      apply registered.bind
      intro _
      apply (keeps_saveRaw cfg always_cons inward_permits _ _ _ _).bind
      intro _
      apply (inward_lookup _).bind
      intro vehicleId
      exact (keeps_createEvent always_cons inward_permits _ _ _ _ _ _ _).bind fun _ => keeps_pure _

theorem inward_handleLocation :
    Confined Inward (handleLocation cfg raw protocol connectionImei) := by
  refine (keeps_demand _).bind fun location => keeps_ite (inward_withDevice ?_)
    (keeps_pure _)
  intro device
  exact (keeps_saveRaw cfg always_cons inward_permits _ _ _ _).bind fun _ =>
    (keeps_saveLocation always_cons inward_permits _ _ _ _ _ _).bind fun _ => keeps_pure _

theorem inward_storeStatus (deviceId : Text) (status : Parsers.V5.TerminalStatus) :
    Confined Inward (storeStatus deviceId status) :=
  keeps_updateDeviceStatus always_cons inward_permits _ _ _ _ _

theorem inward_handleStatus :
    Confined Inward (handleStatus cfg raw protocol connectionImei) :=
  inward_withDevice fun _ => (keeps_demand _).bind fun _ =>
    (keeps_saveRaw cfg always_cons inward_permits _ _ _ _).bind fun _ => inward_storeStatus _ _

theorem inward_handleHeartbeatV5 :
    Confined Inward (handleHeartbeat cfg raw protocol connectionImei) :=
  inward_withDevice fun _ => (keeps_demand _).bind fun _ =>
    (keeps_saveRaw cfg always_cons inward_permits _ _ _ _).bind fun _ =>
      (inward_storeStatus _ _).bind fun _ => keeps_updateHeartbeat always_cons inward_permits

theorem inward_handleAlarm :
    Confined Inward (handleAlarm cfg raw protocol connectionImei) :=
  inward_withDevice fun _ => (keeps_demand _).bind fun _ =>
    (keeps_saveRaw cfg always_cons inward_permits _ _ _ _).bind fun _ =>
      (inward_lookup _).bind fun _ =>
        keeps_createEvent always_cons inward_permits _ _ _ _ _ _ _

theorem inward_handleInformation (eventType description : Text) :
    Confined Inward
      (handleInformation cfg raw protocol connectionImei eventType description) := by
  apply inward_withDevice
  intro device
  apply (keeps_saveRaw cfg always_cons inward_permits _ _ _ _).bind
  intro _
  cases Parsers.V5.parseInformationPacket raw with
  | none => exact keeps_pure _
  | some info =>
      refine keeps_ite (keeps_pure _) ((keeps_demand _).bind ?_)
      intro _
      exact (inward_lookup _).bind fun _ =>
        keeps_createEvent always_cons inward_permits _ _ _ _ _ _ _

theorem inward_handleCommandAck :
    Confined Inward (handleCommandAck cfg raw protocol connectionImei) :=
  inward_withDevice fun _ => (keeps_saveRaw cfg always_cons inward_permits _ _ _ _).bind fun _ =>
    (keeps_demand _).bind fun _ => keeps_pure _

theorem inward_handleCommandReply :
    Confined Inward (handleCommandReply cfg raw protocol connectionImei) := by
  rw [handleCommandReply]
  -- What the reply says does not matter, and is expensive to unfold.
  generalize Parsers.CommandResponse.parseCommandResponse raw = parsed
  apply inward_withDevice
  intro _
  exact (keeps_saveRaw cfg always_cons inward_permits _ _ _ _).bind fun _ =>
    (keeps_demand parsed).bind fun _ => keeps_handleCommandResponse always_cons inward_permits _ _ _

theorem inward_handleUnknown :
    Confined Inward (handleUnknown cfg raw protocol connectionImei) := by
  rw [handleUnknown]
  cases truthy connectionImei with
  | none => exact keeps_pure _
  | some imei =>
      refine (confined_request trivial).bind ?_
      intro device?
      cases device? with
      | none => exact keeps_pure _
      | some device =>
          exact (keeps_saveRaw cfg always_cons inward_permits _ _ _ _).bind fun _ => keeps_pure _

theorem inward_dispatchV5 (ip : Text) (protocol : UInt8) :
    Confined Inward (dispatch cfg ip raw protocol connectionImei) := by
  unfold dispatch
  dsimp only
  split
  · exact inward_handleLoginV5 cfg ip
  · exact inward_handleLocation cfg
  · exact inward_handleLocation cfg
  · exact inward_handleStatus cfg
  · exact inward_handleHeartbeatV5 cfg
  · exact inward_handleAlarm cfg
  · exact inward_handleInformation cfg _ _
  · exact inward_handleCommandAck cfg
  · exact inward_handleCommandReply cfg
  · exact inward_handleInformation cfg _ _
  · exact inward_handleUnknown cfg

theorem speaks_of_inward (past : List Answered) (o : Op) (inward : Inward o) :
    Speaks .gt06 past o := by
  cases o with
  | registerDevice => exact ⟨inward, fun other => nomatch other⟩
  | write payload => exact inward.elim
  | _ => trivial

theorem keeps_dispatchV5 (ip : Text) (protocol : UInt8) :
    Keeps (Speaks .gt06) always (dispatch cfg ip raw protocol connectionImei) := by
  intro past _
  exact guarded_mono speaks_of_inward (fun _ _ holds => holds)
    (inward_dispatchV5 cfg ip protocol past trivial)

theorem keeps_acknowledge : Keeps (Speaks .gt06) always (acknowledge raw) := by
  refine Keeps.rescue ?_ fun _ => keeps_pure _
  change Keeps _ _ ((demand (Parsers.V5.buildAck raw)).bind _)
  cases built : Parsers.V5.buildAck raw with
  | error e => exact keeps_throw e
  | ok ack =>
      have written : Keeps (Speaks .gt06) always (writeSocket ack) :=
        keeps_writeSocket always_cons fun _ _ => ⟨raw, built⟩
      exact written.bind fun _ => keeps_drainSocket always_cons

theorem keeps_processPacket (ip : Text) :
    Keeps (Speaks .gt06) always (processPacket cfg ip raw) := by
  refine keeps_ite ((keeps_demand _).bind ?_) (keeps_pure _)
  intro protocol
  refine (keeps_request always_cons fun _ _ => trivial).bind ?_
  intro connectionImei
  have handled : Keeps (Speaks .gt06) always
      ((dispatch cfg ip raw protocol connectionImei).rescue fun _ => .pure none) :=
    (keeps_dispatchV5 cfg ip protocol).rescue fun _ => keeps_pure _
  exact handled.bind fun _ => keeps_acknowledge.bind fun _ => keeps_pure _

end V5

section Gps103

open Gps103Handler

variable {fact : List Answered → Prop} {imei deviceId : Text} (cfg : Config)
  (persists : ∀ past a, fact past → fact (a :: past))

include persists

theorem keeps_safely103 (label : String) {body : Handler Unit}
    (kept : Keeps (Speaks .gps103) fact body) : Keeps (Speaks .gps103) fact (safely label body) :=
  kept.rescue fun _ => keeps_log persists _

theorem keeps_send103 {payload : Bytes}
    (reply : ∀ past, fact past → Reply .gps103 past payload) :
    Keeps (Speaks .gps103) fact (send payload) :=
  ((keeps_writeSocket persists reply).bind fun _ => (keeps_drainSocket persists).bind fun _ =>
    keeps_log persists _).rescue fun _ => keeps_log persists _

theorem keeps_storeFix (fix? : Option Parsers.Gps103.Fix) :
    Keeps (Speaks .gps103) fact (storeFix imei deviceId fix?) := by
  cases fix? with
  | none => exact keeps_pure _
  | some fix =>
      have timed : Keeps (Speaks .gps103) fact (eventTimeOf fix) := by
        rw [eventTimeOf]
        split
        · exact keeps_pure _
        · exact (keeps_request persists fun _ _ => trivial).bind fun _ =>
            (keeps_log persists _).bind fun _ => keeps_pure _
      apply timed.bind
      intro eventTime
      refine (keeps_safely103 persists _ ?_).bind ?_
      · exact (keeps_saveLocation persists permits _ _ _ _ _ _).bind fun _ => keeps_pure _
      · intro _
        exact (keeps_request persists fun _ _ => trivial).bind fun _ =>
          keeps_request persists fun _ _ => trivial

theorem keeps_recordAlarm (vehicleId : Option Text) (report : Parsers.Gps103.Report)
    (fix : Option Parsers.Gps103.Fix) (alarm? : Option Text) :
    Keeps (Speaks .gps103) fact (recordAlarm deviceId vehicleId report fix alarm?) := by
  cases alarm? with
  | none => exact keeps_pure _
  | some alarm =>
      exact (keeps_safely103 persists _ (keeps_createEvent persists permits _ _ _ _ _ _ _)).bind
        fun _ => keeps_log persists _

/-- The connection of a report has been found under the identity that is echoed to it. -/
theorem keeps_processReport (found : ∀ past, fact past → Found imei past) (raw : Bytes)
    (report : Parsers.Gps103.Report) :
    Keeps (Speaks .gps103) fact (processReport cfg raw imei deviceId report) := by
  have noted : Keeps (Speaks .gps103) fact (noteKeyword imei report) :=
    keeps_ite (keeps_pure _) (keeps_log persists _)
  have fixed : Keeps (Speaks .gps103) fact (usableFix imei report) := by
    rw [usableFix]
    split
    · exact keeps_ite (keeps_pure _) ((keeps_log persists _).bind fun _ => keeps_pure _)
    · exact (keeps_log persists _).bind fun _ => keeps_pure _
  have confirmed : Keeps (Speaks .gps103) fact (confirmSos imei report) :=
    keeps_ite (keeps_send103 persists fun past holds => .inr (.inr ⟨imei, found past holds, rfl⟩))
      (keeps_pure _)
  have lit : Keeps (Speaks .gps103) fact (storeIgnition deviceId report.ignition) := by
    unfold storeIgnition
    split
    · exact keeps_pure _
    · exact keeps_safely103 persists _ (keeps_setIgnition persists permits _)
  have located : Keeps (Speaks .gps103) fact (alarmVehicle deviceId report.alarmName) := by
    unfold alarmVehicle
    split
    · exact keeps_pure _
    · exact (keeps_lookup persists _).rescue fun _ =>
        (keeps_log persists _).bind fun _ => keeps_pure _
  refine noted.bind fun _ => fixed.bind fun fix => confirmed.bind ?_
  intro _
  apply (keeps_safely103 persists _ (keeps_saveRaw cfg persists permits _ _ _ _)).bind
  intro _
  refine lit.bind fun _ => located.bind ?_
  intro vehicleId
  exact (keeps_storeFix persists fix).bind fun _ =>
    keeps_recordAlarm persists vehicleId report fix _

end Gps103

section Gps103

open Gps103Handler

variable (cfg : Config)

theorem Found.cons (imei : Text) (past : List Answered) (a : Answered) (found : Found imei past) :
    Found imei (a :: past) := List.mem_cons_of_mem a found

theorem keeps_authenticated {messageImei : Text} {next : Option Text → Handler (Option Text)}
    (refused : Keeps (Speaks .gps103) always (next none))
    (accepted : ∀ imei, Keeps (Speaks .gps103) (Found imei) (next (some imei))) :
    Keeps (Speaks .gps103) always ((authenticatedImei messageImei).bind next) := by
  refine fun past _ => ⟨trivial, ?_⟩
  intro answer
  dsimp only [Program.bind_eq, Program.bind_pure]
  cases real : truthy answer with
  | none => exact ⟨trivial, fun _ => ⟨trivial, fun _ => refused _ trivial⟩⟩
  | some connectionImei =>
      obtain ⟨rfl, -⟩ := truthy_eq_some_iff.mp real
      dsimp only
      split
      · exact ⟨trivial, fun _ => ⟨trivial, fun _ => refused _ trivial⟩⟩
      · exact (accepted connectionImei).guarded List.mem_cons_self fun _ _ _ => trivial

theorem keeps_handleTracker (text : Text) (raw : Bytes) :
    Keeps (Speaks .gps103) always (handleTracker cfg text raw) := by
  refine (keeps_demand _).bind fun report => keeps_authenticated (keeps_pure _) ?_
  intro imei
  cases real : truthy (some imei) with
  | none =>
      dsimp only
      exact keeps_pure _
  | some connectionImei =>
      obtain ⟨⟨⟩, -⟩ := truthy_eq_some_iff.mp real
      refine (keeps_request (Found.cons imei) fun _ _ => trivial).bind ?_
      intro device?
      cases device? with
      | none => exact keeps_throw _
      | some device =>
          exact (keeps_processReport cfg (Found.cons imei) (fun _ found => found) raw report).bind
            fun _ => keeps_pure _

theorem keeps_handleHeartbeat103 (text : Text) :
    Keeps (Speaks .gps103) always (handleHeartbeat text) := by
  refine (keeps_demand _).bind fun _ => keeps_authenticated (keeps_pure _) ?_
  intro imei
  cases truthy (some imei) with
  | none => exact keeps_pure _
  | some connectionImei =>
      refine (keeps_send103 (Found.cons imei) fun _ _ => .inr (.inl rfl)).bind ?_
      intro _
      refine (keeps_request (Found.cons imei) fun _ _ => trivial).bind ?_
      intro device?
      cases device? with
      | none => exact keeps_throw _
      | some device =>
          exact (keeps_safely103 (Found.cons imei) _
            (keeps_markDeviceAlive (Found.cons imei) permits _)).bind fun _ => keeps_pure _

theorem isCommandImei_of_login {text imei : Text}
    (parsed : Parsers.Gps103.parseLogin text = .ok imei) : isCommandImei imei = true := by
  rw [Parsers.Gps103.parseLogin] at parsed
  split at parsed
  · next found =>
      cases parsed
      obtain ⟨rest, run⟩ := exists_of_searchAfter found
      simp only [Parsers.Gps103.imeiRun] at run
      split at run
      · next long =>
          cases run
          have digits : ∀ c ∈ (rest.takeWhile Char.isDigit).take 17, c.isDigit = true :=
            fun c member => List.mem_takeWhile_imp (List.mem_of_mem_take member)
          have length : ((rest.takeWhile Char.isDigit).take 17).length =
              min 17 (rest.takeWhile Char.isDigit).length := List.length_take
          have inhabited : ((rest.takeWhile Char.isDigit).take 17).isEmpty = false := by
            rw [List.isEmpty_eq_false_iff_exists_mem, ← List.length_pos_iff_exists_mem]
            omega
          simp only [isCommandImei, isDigits, inhabited, Bool.not_false, Bool.true_and,
            List.all_eq_true.mpr digits, Bool.and_eq_true, decide_eq_true_eq, length]
          omega
      · cases run
  · cases parsed

theorem keeps_handleLogin103 (ip text : Text) (raw : Bytes) :
    Keeps (Speaks .gps103) always (handleLogin cfg ip text raw) := by
  change Keeps _ _ ((demand (Parsers.Gps103.parseLogin text)).bind _)
  cases parsed : Parsers.Gps103.parseLogin text with
  | error e => exact keeps_throw e
  | ok imei =>
      apply (keeps_log always_cons _).bind
      intro _
      apply (keeps_getDeviceByImei always_cons _ _ _).bind
      intro deviceId?
      cases truthy deviceId? with
      | none =>
          exact (keeps_log always_cons _).bind fun _ =>
            (keeps_request always_cons fun _ _ => trivial).bind fun _ => keeps_pure _
      | some deviceId =>
          apply (keeps_log always_cons _).bind
          intro _
          refine (keeps_registerDevice always_cons fun _ =>
            isCommandImei_of_login parsed).bind ?_
          intro _
          refine (keeps_send103 always_cons fun _ _ => .inl rfl).bind ?_
          intro _
          refine (keeps_safely103 always_cons _
            (keeps_saveRaw cfg always_cons permits _ _ _ _)).bind ?_
          intro _
          refine (keeps_safely103 always_cons _
            (keeps_markDeviceAlive always_cons permits _)).bind ?_
          intro _
          refine ((keeps_lookup always_cons _).rescue fun _ => keeps_pure _).bind ?_
          intro _
          exact (keeps_safely103 always_cons _
            (keeps_createEvent always_cons permits _ _ _ _ _ _ _)).bind fun _ => keeps_pure _

theorem keeps_processGps103Message (ip : Text) (raw : Bytes) :
    Keeps (Speaks .gps103) always (processGps103Message cfg ip raw) := by
  rw [processGps103Message]
  generalize Parsers.Gps103.classify raw = classified
  obtain ⟨kind, text⟩ := classified
  have handled : Keeps (Speaks .gps103) always (dispatch cfg ip raw kind text) := by
    cases kind with
    | login => exact keeps_handleLogin103 cfg ip text raw
    | heartbeat => exact keeps_handleHeartbeat103 text
    | tracker => exact keeps_handleTracker cfg text raw
    | unknown => exact (keeps_log always_cons _).bind fun _ => keeps_pure _
  apply handled.rescue
  intro ex
  have logged : ∀ line, Keeps (Speaks .gps103) always
      ((log line).bind fun _ => request Op.getImeiBySocket) := fun line =>
    (keeps_log always_cons line).bind fun _ => keeps_request always_cons fun _ _ => trivial
  cases ex <;> exact logged _

end Gps103

section Teltonika

open TeltonikaHandler

variable (cfg : Config)

theorem keeps_sendTeltonika {payload : Bytes} (reply : Reply .teltonika [] payload) :
    Keeps (Speaks .teltonika) always (send payload) := by
  have written : Keeps (Speaks .teltonika) always (writeSocket payload) :=
    keeps_writeSocket always_cons fun _ _ => reply
  exact Keeps.rescue (written.bind fun _ => keeps_drainSocket always_cons) fun _ => keeps_pure _

theorem keeps_handleLoginTeltonika (ip : Text) (raw : Bytes) :
    Keeps (Speaks .teltonika) always (handleLogin cfg ip raw) := by
  rw [handleLogin]
  split
  · exact (keeps_request always_cons fun _ _ => trivial).bind fun _ => keeps_pure _
  · exact keeps_throw _
  · next imei _ =>
      apply (keeps_getDeviceByImei always_cons _ _ _).bind
      intro deviceId?
      cases truthy deviceId? with
      | none => exact (keeps_request always_cons fun _ _ => trivial).bind fun _ => keeps_pure _
      | some deviceId =>
          have registered : Keeps (Speaks .teltonika) always
              (registerDevice imei ip deviceId .teltonika) :=
            keeps_registerDevice always_cons fun other => nomatch other
          apply registered.bind
          intro _
          refine (keeps_request always_cons fun _ _ => trivial).bind ?_
          intro _
          apply (keeps_sendTeltonika (.inl rfl)).bind
          intro _
          apply (keeps_safely (keeps_saveRaw cfg always_cons permits _ _ _ _)).bind
          intro _
          apply (keeps_safely (keeps_markDeviceAlive always_cons permits _)).bind
          intro _
          refine ((keeps_lookup always_cons _).rescue fun _ => keeps_pure _).bind ?_
          intro _
          exact (keeps_safely (keeps_createEvent always_cons permits _ _ _ _ _ _ _)).bind
            fun _ => keeps_pure _

theorem keeps_handleAvl (raw : Bytes) :
    Keeps (Speaks .teltonika) always (handleAvl cfg raw) := by
  refine (keeps_request always_cons fun _ _ => trivial).bind ?_
  intro imei?
  cases truthy imei? with
  | none => exact (keeps_request always_cons fun _ _ => trivial).bind fun _ => keeps_pure _
  | some imei =>
      refine (keeps_request always_cons fun _ _ => trivial).bind ?_
      intro device?
      cases device? with
      | none => exact keeps_throw _
      | some device =>
          have saved : ∀ always_ parsed, Keeps (Speaks .teltonika) always
              (safely (saveRawFrame cfg device.deviceId raw always_ parsed)) := fun _ _ =>
            keeps_safely (keeps_saveRaw cfg always_cons permits _ _ _ _)
          dsimp only
          split
          · exact keeps_pure _
          · exact (saved _ _).bind fun _ => keeps_pure _
          · exact (saved _ _).bind fun _ => keeps_pure _
          · exact keeps_throw _
          · apply (saved _ _).bind
            intro _
            apply (keeps_refreshStatus always_cons permits _).bind
            intro _
            apply (keeps_storeRecords cfg always_cons permits _).bind
            intro accepted
            exact (keeps_sendTeltonika (.inr ⟨accepted, rfl⟩)).bind fun _ => keeps_pure _

theorem keeps_processTeltonikaFrame (ip : Text) (raw : Bytes) :
    Keeps (Speaks .teltonika) always (processTeltonikaFrame cfg ip raw) :=
  (keeps_ite (keeps_handleLoginTeltonika cfg ip raw) (keeps_handleAvl cfg raw)).rescue fun _ =>
    keeps_request always_cons fun _ _ => trivial

end Teltonika

end TrackerGateway.Services.Language
