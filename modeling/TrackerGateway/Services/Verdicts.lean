/- module: TrackerGateway/Services/Verdicts
   source: src/services/packet_handler.py, src/services/gps103_handler.py,
     src/services/teltonika_handler.py
   digest: Which frames the parser of their family takes, and what it means that a handler names the
     device of a frame. -/

import TrackerGateway.Foundation.Coroutine.Plans
import TrackerGateway.Services.Gps103Handler
import TrackerGateway.Services.PacketHandler
import TrackerGateway.Services.TeltonikaHandler

set_option autoImplicit false
set_option relaxedAutoImplicit false

namespace TrackerGateway.Services.Verdicts

open Foundation.Coroutine
open Foundation.Wire (Text Bytes Number Instant)
open TrackerGateway.Runtime

def takesV5 (raw : Bytes) (protocol : UInt8) : Bool :=
  match protocol.toNat with
  | 0x01 => true
  | 0x12 | 0x22 => (Parsers.V5.parseLocationPacket raw).isOk
  | 0x13 | 0x23 => (Parsers.V5.parseTerminalStatus raw).isOk
  | 0x26 => (Parsers.V5.parseAlarmPacket raw).isOk
  | 0x94 | 0x6e => (Parsers.V5.parseInformationPacket raw).all fun info =>
      info.values.isEmpty || (Decoders.decodeInformation info.values).isOk
  | 0x8a => (PacketHandler.parseCommandAck raw).isOk
  | 0x21 => (Parsers.CommandResponse.parseCommandResponse raw).isOk
  | _ => false

def takesGps103 (cfg : Config) (kind : Parsers.Gps103.Kind) (text : Text) : Bool :=
  match kind with
  | .login => (Parsers.Gps103.parseLogin text).isOk
  | .heartbeat => (Parsers.Gps103.parseHeartbeat text).isOk
  | .tracker => (Parsers.Gps103.parseTracker cfg text).isOk
  | .unknown => false

/-- Whether a login or a data packet can be decoded, its checksum and its codec included. -/
def takesTeltonika (raw : Bytes) : Bool :=
  if Parsers.Teltonika.isLoginFrame raw then (Parsers.Teltonika.parseLogin raw).isOk
  else (Parsers.Teltonika.parseAvlPacket raw).isOk

def decodes (cfg : Config) (family : Family) (raw : Bytes) : Bool :=
  match family with
  | .gt06 => (Runtime.index raw (Parsers.V5.protocolIndex raw)).toOption.any (takesV5 raw)
  | .gps103 => takesGps103 cfg (Parsers.Gps103.classify raw).1 (Parsers.Gps103.classify raw).2
  | .teltonika => takesTeltonika raw

def handler (cfg : Config) : Family → Text → Bytes → Handler (Option Text)
  | .gt06 => PacketHandler.processPacket cfg
  | .gps103 => Gps103Handler.processGps103Message cfg
  | .teltonika => TeltonikaHandler.processTeltonikaFrame cfg

/-- The branch of the frame, inside the `try` of its handler, ran to its end and returned the
identity. -/
def Completes (cfg : Config) (family : Family) (ip : Text) (raw : Bytes) (trace : List Answered)
    (imei : Text) : Prop :=
  match family with
  | .gt06 => ∃ protocol connectionImei branch rest,
      Runtime.index raw (Parsers.V5.protocolIndex raw) = .ok protocol ∧
      trace = ⟨.getImeiBySocket, connectionImei⟩ :: (branch ++ rest) ∧
      Executes (PacketHandler.dispatch cfg ip raw protocol connectionImei) branch (.ok (some imei))
  | .gps103 => Executes (Gps103Handler.dispatch cfg ip raw (Parsers.Gps103.classify raw).1
      (Parsers.Gps103.classify raw).2) trace (.ok (some imei))
  | .teltonika => Executes (if Parsers.Teltonika.isLoginFrame raw
      then TeltonikaHandler.handleLogin cfg ip raw else TeltonikaHandler.handleAvl cfg raw) trace
      (.ok (some imei))

/-- A lookup that makes a branch raise: the repository failed, or the identity has no entry. -/
def lost : Answered → Bool
  | ⟨.getDeviceByImei .., .error _⟩ => true
  | ⟨.getDevice _, none⟩ => true
  | _ => false

/-- The answers to a branch that raises nothing behind its parser. -/
abbrev Found (a : Answered) : Prop := lost a = false

/-! ### The V5 family -/

section V5

open PacketHandler

variable {cfg : Config} {ip imei protocol : Text} {raw : Bytes} {connectionImei : Option Text}
  {trace : List Answered}

theorem executes_withDevice {body : Entry → Handler Unit}
    (ran : Executes (withDevice connectionImei body) trace (.ok (some imei))) :
    ∃ device branch, Executes (body device) branch (.ok ()) := by
  rw [withDevice] at ran
  obtain ⟨found, front, back, rfl, -, rest⟩ := executes_bind_ok ran
  cases found with
  | none => cases rest.2
  | some device =>
      obtain ⟨_, branch, _, _, ended, _⟩ := executes_bind_ok rest
      exact ⟨device, branch, ended⟩

theorem isOk_behind {α β γ : Type} {first : Handler α} {r : Except Exn β}
    {next : β → Handler γ} {c : γ}
    (ran : Executes (first.bind fun _ => (demand r).bind next) trace (.ok c)) : r.isOk = true := by
  obtain ⟨_, _, _, _, _, rest⟩ := executes_bind_ok ran
  exact isOk_of_executes rest

theorem takes_location
    (ran : Executes (handleLocation cfg raw protocol connectionImei) trace (.ok (some imei))) :
    (Parsers.V5.parseLocationPacket raw).isOk = true := isOk_of_executes ran

theorem takes_status
    (ran : Executes (handleStatus cfg raw protocol connectionImei) trace (.ok (some imei))) :
    (Parsers.V5.parseTerminalStatus raw).isOk = true := by
  obtain ⟨device, branch, body⟩ := executes_withDevice ran
  exact isOk_of_executes body

theorem takes_heartbeat
    (ran : Executes (handleHeartbeat cfg raw protocol connectionImei) trace (.ok (some imei))) :
    (Parsers.V5.parseTerminalStatus raw).isOk = true := by
  obtain ⟨device, branch, body⟩ := executes_withDevice ran
  exact isOk_of_executes body

theorem takes_alarm
    (ran : Executes (handleAlarm cfg raw protocol connectionImei) trace (.ok (some imei))) :
    (Parsers.V5.parseAlarmPacket raw).isOk = true := by
  obtain ⟨device, branch, body⟩ := executes_withDevice ran
  exact isOk_of_executes body

theorem takes_information {eventType description : Text}
    (ran : Executes (handleInformation cfg raw protocol connectionImei eventType description) trace
      (.ok (some imei))) :
    ((Parsers.V5.parseInformationPacket raw).all fun info =>
      info.values.isEmpty || (Decoders.decodeInformation info.values).isOk) = true := by
  obtain ⟨device, branch, body⟩ := executes_withDevice ran
  obtain ⟨_, front, back, _, _, rest⟩ := executes_bind_ok body
  cases parsed : Parsers.V5.parseInformationPacket raw with
  | none => rfl
  | some info =>
      rw [Option.all_some]
      rw [parsed] at rest
      cases empty : info.values.isEmpty with
      | true => rfl
      | false =>
          simp only [empty, Bool.false_eq_true, if_false] at rest
          exact isOk_of_executes rest

theorem takes_commandAck
    (ran : Executes (handleCommandAck cfg raw protocol connectionImei) trace (.ok (some imei))) :
    (parseCommandAck raw).isOk = true := by
  obtain ⟨device, branch, body⟩ := executes_withDevice ran
  exact isOk_behind body

theorem takes_commandReply
    (ran : Executes (handleCommandReply cfg raw protocol connectionImei) trace (.ok (some imei))) :
    (Parsers.CommandResponse.parseCommandResponse raw).isOk = true := by
  obtain ⟨device, branch, body⟩ := executes_withDevice ran
  exact isOk_behind body

theorem unknown_nameless
    (ran : Executes (handleUnknown cfg raw protocol connectionImei) trace (.ok (some imei))) :
    False := by
  rw [handleUnknown] at ran
  cases real : truthy connectionImei with
  | none =>
      rw [real] at ran
      cases ran.2
  | some found =>
      rw [real] at ran
      obtain ⟨device?, front, back, _, _, rest⟩ := executes_bind_ok ran
      cases device? with
      | none => cases rest.2
      | some device =>
          obtain ⟨_, _, _, _, _, last⟩ := executes_bind_ok rest
          cases last.2

theorem takesV5_of_named {byte : UInt8}
    (ran : Executes (dispatch cfg ip raw byte connectionImei) trace (.ok (some imei))) :
    takesV5 raw byte = true := by
  unfold dispatch at ran
  unfold takesV5
  split at ran
  all_goals try rename_i is
  · simp only [is]
  · simp only [is]
    exact takes_location ran
  · simp only [is]
    exact takes_location ran
  · simp only [is]
    exact takes_status ran
  · simp only [is]
    exact takes_heartbeat ran
  · simp only [is]
    exact takes_alarm ran
  · simp only [is]
    exact takes_information ran
  · simp only [is]
    exact takes_commandAck ran
  · simp only [is]
    exact takes_commandReply ran
  · simp only [is]
    exact takes_information ran
  · exact absurd ran unknown_nameless

theorem completes_v5 (ran : Executes (processPacket cfg ip raw) trace (.ok (some imei))) :
    decodes cfg .gt06 raw = true ∧ Completes cfg .gt06 ip raw trace imei := by
  rw [processPacket] at ran
  split at ran
  · obtain ⟨byte, front, back, rfl, first, resolved⟩ := executes_bind_ok ran
    obtain ⟨rfl, found⟩ := executes_demand.mp first
    obtain ⟨connection, after, rfl, handled⟩ := executes_call.mp resolved
    rw [Program.bind_pure] at handled
    obtain ⟨named, branch, acknowledged, whole, second, replies⟩ := executes_bind_ok handled
    obtain ⟨_, replied, last, _, _, ended⟩ := executes_bind_ok replies
    cases ended.2
    obtain ⟨ran', recovered, middle, rfl, third, rest⟩ := executes_rescue.mp second
    cases middle with
    | error e => cases rest.2
    | ok inner =>
        obtain ⟨rfl, same⟩ := rest
        cases same
        have index : Runtime.index raw (Parsers.V5.protocolIndex raw) = .ok byte := found.symm
        refine ⟨?_, byte, connection, ran', acknowledged, index, ?_, third⟩
        · rw [decodes, index]
          exact takesV5_of_named third
        · rw [whole, List.append_nil, List.nil_append]
  · cases ran.2

end V5

section Bookkeeping

theorem returns_request (o : Op) :
    Returns Found (request o : Handler (Res o)) fun answer => Found ⟨o, answer⟩ := plans_request o

theorem returns_any (o : Op) : Returns Found (request o : Handler (Res o)) fun _ => True :=
  (returns_request o).mono fun _ _ => trivial

theorem returns_unit {value : Unit} : Returns Found (.pure value : Handler Unit) fun _ => True :=
  plans_pure trivial

theorem returns_log (line : List LogPart) : Returns Found (log line) fun _ => True := returns_any _

theorem returns_lookup (imei model : Text) (family : Family) :
    Returns Found (getDeviceByImei imei family model) fun _ => True := by
  apply (returns_request (.getDeviceByImei imei family model)).bind
  intro answer found
  cases answer with
  | error e => cases found
  | ok device? => exact plans_pure trivial

theorem returns_registerDevice (imei ip deviceId : Text) (family : Family) :
    Returns Found (registerDevice imei ip deviceId family) fun _ => True := by
  apply (returns_any .utcNow).bind
  intro connectedAt _
  apply (returns_any .utcNow).bind
  intro lastSeen _
  exact returns_any _

theorem returns_vehicle (deviceId : Text) :
    Returns Found ((getVehicleByDevice deviceId).rescue fun _ => .pure none) fun _ => True :=
  returns_rescue fun _ => plans_pure trivial

end Bookkeeping

/-! ### The TK103 family -/

section Gps103

open Gps103Handler
open Parsers.Gps103

variable {cfg : Config} {ip text : Text} {raw : Bytes}

theorem returns_safelyGps103 (label : String) (write : Handler Unit) :
    Returns Found (safely label write) fun _ => True := returns_rescue fun _ => returns_log _

theorem returns_sendGps103 (payload : Bytes) : Returns Found (send payload) fun _ => True :=
  returns_rescue fun _ => returns_log _

theorem returns_loginGps103 (parsed : (parseLogin text).isOk = true) :
    Returns Found (handleLogin cfg ip text raw) fun _ => True := by
  rw [handleLogin]
  cases parse : parseLogin text with
  | error e =>
      rw [parse] at parsed
      cases parsed
  | ok imei =>
      apply (returns_log _).bind
      intro _ _
      apply (returns_lookup imei "TK103".toList .gps103).bind
      intro device? _
      cases truthy device? with
      | none =>
          apply (returns_log _).bind
          intro _ _
          exact (returns_any .close).bind fun _ _ => plans_pure trivial
      | some deviceId =>
          apply (returns_log _).bind
          intro _ _
          apply (returns_registerDevice imei ip deviceId .gps103).bind
          intro _ _
          apply (returns_sendGps103 loginReply).bind
          intro _ _
          apply (returns_safelyGps103 _ _).bind
          intro _ _
          apply (returns_safelyGps103 _ _).bind
          intro _ _
          apply (returns_vehicle deviceId).bind
          intro vehicleId _
          exact (returns_safelyGps103 _ _).bind fun _ _ => plans_pure trivial

theorem returns_authenticated (messageImei : Text) :
    Returns Found (authenticatedImei messageImei) fun _ => True := by
  rw [authenticatedImei]
  apply (returns_any .getImeiBySocket).bind
  intro found _
  cases truthy found with
  | none =>
      apply (returns_log _).bind
      intro _ _
      exact (returns_any .close).bind fun _ _ => plans_pure trivial
  | some connectionImei =>
      by_cases foreign : messageImei ≠ connectionImei
      · simp only [if_pos foreign]
        apply (returns_log _).bind
        intro _ _
        exact (returns_any .close).bind fun _ _ => plans_pure trivial
      · simp only [if_neg foreign]
        exact plans_pure trivial

theorem returns_heartbeatGps103 (parsed : (parseHeartbeat text).isOk = true) :
    Returns Found (handleHeartbeat text) fun _ => True := by
  rw [handleHeartbeat]
  cases parse : parseHeartbeat text with
  | error e =>
      rw [parse] at parsed
      cases parsed
  | ok imei =>
      apply (returns_authenticated imei).bind
      intro found _
      cases truthy found with
      | none => exact plans_pure trivial
      | some connectionImei =>
          apply (returns_sendGps103 heartbeatReply).bind
          intro _ _
          apply (returns_request (.getDevice connectionImei)).bind
          intro device? known
          cases device? with
          | none => cases known
          | some device =>
              exact (returns_safelyGps103 _ _).bind fun _ _ => plans_pure trivial

theorem returns_usableFix (imei : Text) (report : Report) :
    Returns Found (usableFix imei report) fun _ => True := by
  rw [usableFix]
  split
  · split
    · exact plans_pure trivial
    · exact (returns_log _).bind fun _ _ => plans_pure trivial
  · exact (returns_log _).bind fun _ _ => plans_pure trivial

theorem returns_alarmVehicle (deviceId : Text) (alarm : Option Text) :
    Returns Found (alarmVehicle deviceId alarm) fun _ => True := by
  cases alarm with
  | none => exact plans_pure trivial
  | some alarm =>
      apply returns_rescue
      intro ex
      exact (returns_log _).bind fun _ _ => plans_pure trivial

theorem returns_storeFix (imei deviceId : Text) (fix? : Option Fix) :
    Returns Found (storeFix imei deviceId fix?) fun _ => True := by
  cases fix? with
  | none => exact returns_unit
  | some fix =>
      have dated : Returns Found (eventTimeOf fix) fun _ => True := by
        rw [eventTimeOf]
        split
        · exact plans_pure trivial
        · apply (returns_any .utcNow).bind
          intro now _
          exact (returns_log _).bind fun _ _ => plans_pure trivial
      apply dated.bind
      intro eventTime _
      apply (returns_safelyGps103 _ _).bind
      intro _ _
      apply (returns_any .utcNow).bind
      intro now _
      exact returns_any _

theorem returns_processReport (imei deviceId : Text) (report : Report) :
    Returns Found (processReport cfg raw imei deviceId report) fun _ => True := by
  have noted : Returns Found (noteKeyword imei report) fun _ => True := by
    rw [noteKeyword]
    split
    · exact returns_unit
    · exact returns_log _
  apply noted.bind
  intro _ _
  apply (returns_usableFix imei report).bind
  intro fix _
  have confirmed : Returns Found (confirmSos imei report) fun _ => True := by
    rw [confirmSos]
    split
    · exact returns_sendGps103 _
    · exact returns_unit
  apply confirmed.bind
  intro _ _
  apply (returns_safelyGps103 _ _).bind
  intro _ _
  have switched : Returns Found (storeIgnition deviceId report.ignition) fun _ => True := by
    cases report.ignition with
    | none => exact returns_unit
    | some ignition => exact returns_safelyGps103 _ _
  apply switched.bind
  intro _ _
  apply (returns_alarmVehicle deviceId report.alarmName).bind
  intro vehicleId _
  apply (returns_storeFix imei deviceId fix).bind
  intro _ _
  cases report.alarmName with
  | none => exact returns_unit
  | some alarm => exact (returns_safelyGps103 _ _).bind fun _ _ => returns_log _

theorem returns_tracker (parsed : (parseTracker cfg text).isOk = true) :
    Returns Found (handleTracker cfg text raw) fun _ => True := by
  rw [handleTracker]
  cases parse : parseTracker cfg text with
  | error e =>
      rw [parse] at parsed
      cases parsed
  | ok report =>
      apply (returns_authenticated report.imei).bind
      intro found _
      cases truthy found with
      | none => exact plans_pure trivial
      | some imei =>
          apply (returns_request (.getDevice imei)).bind
          intro device? known
          cases device? with
          | none => cases known
          | some device =>
              exact (returns_processReport imei device.deviceId report).bind
                fun _ _ => plans_pure trivial

theorem returns_dispatchGps103 {kind : Kind} (takes : takesGps103 cfg kind text = true) :
    Returns Found (dispatch cfg ip raw kind text) fun _ => True := by
  cases kind with
  | login => exact returns_loginGps103 takes
  | heartbeat => exact returns_heartbeatGps103 takes
  | tracker => exact returns_tracker takes
  | unknown => cases takes

/-- The connection's identity is only found while nothing is wrong with the frame. -/
def Clear (cfg : Config) (family : Family) (raw : Bytes) (trace : List Answered) : Prop :=
  ∀ front back found, trace = front ++ ⟨.getImeiBySocket, some found⟩ :: back → found ≠ [] →
    decodes cfg family raw = true ∧ ∀ a ∈ front, Found a

variable {trace : List Answered} {imei : Text}

theorem takesGps103_of_named {kind : Kind}
    (ran : Executes (dispatch cfg ip raw kind text) trace (.ok (some imei))) :
    takesGps103 cfg kind text = true := by
  cases kind with
  | login => exact isOk_of_executes ran
  | heartbeat => exact isOk_of_executes ran
  | tracker => exact isOk_of_executes ran
  | unknown =>
      obtain ⟨_, _, _, _, _, last⟩ := executes_bind_ok ran
      cases last.2

theorem recovered_gps103 {log : Handler Unit}
    (ran : Executes (log.bind fun _ => request Op.getImeiBySocket) trace (.ok (some imei))) :
    ∃ front, trace = front ++ [⟨.getImeiBySocket, some imei⟩] := by
  obtain ⟨_, front, back, rfl, _, last⟩ := executes_bind_ok ran
  obtain ⟨found, after, rfl, rfl, same⟩ := last
  cases same
  exact ⟨front, rfl⟩

theorem completes_gps103 (ran : Executes (processGps103Message cfg ip raw) trace (.ok (some imei)))
    (real : imei ≠ []) (clear : Clear cfg .gps103 raw trace) :
    decodes cfg .gps103 raw = true ∧ Completes cfg .gps103 ip raw trace imei := by
  obtain ⟨branch, recovery, middle, rfl, inner, rest⟩ := executes_rescue.mp ran
  cases middle with
  | ok outcome =>
      obtain ⟨rfl, same⟩ := rest
      cases same
      refine ⟨takesGps103_of_named inner, ?_⟩
      rw [List.append_nil]
      exact inner
  | error ex =>
      obtain ⟨front, whole⟩ : ∃ front, recovery = front ++ [⟨.getImeiBySocket, some imei⟩] := by
        cases ex <;> exact recovered_gps103 rest
      obtain ⟨takes, found⟩ := clear (branch ++ front) [] imei (by simp [whole]) real
      have returns : Returns Found (dispatch cfg ip raw (classify raw).1 (classify raw).2)
          fun _ => True := returns_dispatchGps103 takes
      refine (returns.not_error inner ?_).elim
      intro a member
      exact found a (List.mem_append_left _ member)

end Gps103

/-! ### The FMB family -/

section Teltonika

open TeltonikaHandler
open Parsers.Teltonika

variable {cfg : Config} {ip imei : Text} {raw : Bytes} {trace : List Answered}

theorem returns_safelyTeltonika (write : Handler Unit) :
    Returns Found (safely write) fun _ => True := returns_rescue fun _ => returns_unit

theorem returns_sendTeltonika (payload : Bytes) : Returns Found (send payload) fun _ => True :=
  returns_rescue fun _ => returns_unit

theorem returns_loginTeltonika (parsed : (parseLogin raw).isOk = true) :
    Returns Found (handleLogin cfg ip raw) fun _ => True := by
  unfold handleLogin
  cases parse : parseLogin raw with
  | error e =>
      rw [parse] at parsed
      cases parsed
  | ok imei =>
      apply (returns_lookup imei "FMB".toList .teltonika).bind
      intro device? _
      cases truthy device? with
      | none => exact (returns_any .close).bind fun _ _ => plans_pure trivial
      | some deviceId =>
          apply (returns_registerDevice imei ip deviceId .teltonika).bind
          intro _ _
          apply (returns_any (.forgetStatus deviceId)).bind
          intro _ _
          apply (returns_sendTeltonika loginAccept).bind
          intro _ _
          apply (returns_safelyTeltonika _).bind
          intro _ _
          apply (returns_safelyTeltonika _).bind
          intro _ _
          apply (returns_vehicle deviceId).bind
          intro vehicleId _
          exact (returns_safelyTeltonika _).bind fun _ _ => plans_pure trivial

theorem returns_storeRecord (deviceId : Text) (rec : AvlRecord) :
    Returns Found (storeRecord cfg deviceId rec) fun _ => True := by
  rw [storeRecord]
  split
  · exact plans_pure trivial
  · apply (returns_any .utcNow).bind
    intro now _
    split
    · exact plans_pure trivial
    · split
      · exact plans_pure trivial
      · exact returns_rescue fun _ => plans_pure trivial

theorem returns_storeRecords (deviceId : Text) (records : List AvlRecord) :
    Returns Found (storeRecords cfg deviceId records) fun _ => True := by
  induction records with
  | nil => exact plans_pure trivial
  | cons rec rest ih =>
      apply (returns_storeRecord deviceId rec).bind
      intro settled _
      cases settled with
      | false => exact plans_pure trivial
      | true => exact ih.bind fun _ _ => plans_pure trivial

theorem returns_refreshAlive (deviceId : Text) (now : ℚ) :
    Returns Found (refreshStatus.refreshAlive deviceId now) fun _ => True := by
  rw [refreshStatus.refreshAlive]
  apply (returns_any (.lastAlive deviceId)).bind
  intro last _
  split
  · exact (returns_safelyTeltonika _).bind fun _ _ => returns_any _
  · exact returns_unit

theorem returns_refreshStatus (deviceId : Text) (records : List AvlRecord) :
    Returns Found (refreshStatus deviceId records) fun _ => True := by
  rw [refreshStatus]
  apply (returns_any .monotonic).bind
  intro now _
  cases newestIgnition records with
  | none => exact returns_refreshAlive deviceId now
  | some ignition =>
      apply (returns_any (.lastIgnition deviceId)).bind
      intro cached _
      by_cases changed : cached ≠ some ignition
      · simp only [if_pos changed]
        apply (returns_safelyTeltonika _).bind
        intro _ _
        apply (returns_any (.setLastIgnition deviceId ignition)).bind
        intro _ _
        exact returns_any _
      · simp only [if_neg changed]
        exact returns_refreshAlive deviceId now

theorem returns_avl (parsed : (parseAvlPacket raw).isOk = true) :
    Returns Found (handleAvl cfg raw) fun _ => True := by
  rw [handleAvl]
  apply (returns_any .getImeiBySocket).bind
  intro found _
  cases truthy found with
  | none => exact (returns_any .close).bind fun _ _ => plans_pure trivial
  | some imei =>
      apply (returns_request (.getDevice imei)).bind
      intro device? known
      cases device? with
      | none => cases known
      | some device =>
          cases parse : parseAvlPacket raw with
          | error e =>
              rw [parse] at parsed
              cases parsed
          | ok packet =>
              apply (returns_safelyTeltonika _).bind
              intro _ _
              apply (returns_refreshStatus device.deviceId packet.records).bind
              intro _ _
              apply (returns_storeRecords device.deviceId packet.records).bind
              intro accepted _
              exact (returns_sendTeltonika _).bind fun _ _ => plans_pure trivial

theorem takes_loginTeltonika (ran : Executes (handleLogin cfg ip raw) trace (.ok (some imei))) :
    (parseLogin raw).isOk = true := by
  unfold handleLogin at ran
  split at ran
  · obtain ⟨_, _, _, _, _, last⟩ := executes_bind_ok ran
    cases last.2
  · cases ran.2
  · next parse => rw [parse]; rfl

/-- A data packet that names its device was found under an identity first. -/
theorem found_first (ran : Executes (handleAvl cfg raw) trace (.ok (some imei))) :
    ∃ found rest, trace = ⟨.getImeiBySocket, some found⟩ :: rest ∧ found ≠ [] := by
  rw [handleAvl] at ran
  obtain ⟨found, rest, rfl, continued⟩ := executes_call.mp ran
  rw [Program.bind_pure] at continued
  cases real : truthy found with
  | none =>
      rw [real] at continued
      obtain ⟨_, _, _, _, _, last⟩ := executes_bind_ok continued
      cases last.2
  | some text =>
      obtain ⟨rfl, nonempty⟩ := truthy_eq_some_iff.mp real
      exact ⟨text, rest, rfl, nonempty⟩

theorem completes_teltonika
    (ran : Executes (processTeltonikaFrame cfg ip raw) trace (.ok (some imei))) (real : imei ≠ [])
    (clear : Clear cfg .teltonika raw trace) :
    decodes cfg .teltonika raw = true ∧ Completes cfg .teltonika ip raw trace imei := by
  obtain ⟨branch, recovery, middle, rfl, inner, rest⟩ := executes_rescue.mp ran
  cases middle with
  | ok outcome =>
      obtain ⟨rfl, same⟩ := rest
      cases same
      rw [List.append_nil] at clear ⊢
      refine ⟨?_, inner⟩
      by_cases login : isLoginFrame raw = true
      · rw [if_pos login] at inner
        rw [decodes, takesTeltonika, if_pos login]
        exact takes_loginTeltonika inner
      · rw [if_neg login] at inner
        obtain ⟨found, rest, whole, nonempty⟩ := found_first inner
        exact (clear [] rest found whole nonempty).1
  | error ex =>
      obtain ⟨found, after, rfl, rfl, same⟩ := rest
      cases same
      obtain ⟨takes, found⟩ := clear branch [] imei rfl real
      rw [decodes, takesTeltonika] at takes
      by_cases login : isLoginFrame raw = true
      · rw [if_pos login] at inner takes
        exact ((returns_loginTeltonika takes).not_error inner found).elim
      · rw [if_neg login] at inner takes
        exact ((returns_avl takes).not_error inner found).elim

end Teltonika

/-- What it means that a handler names the device of a frame: the frame was decoded, and its branch
raised nothing. Outside the V5 family the connection's identity must not be found for a frame with
which something is wrong. -/
theorem completes_of_named {cfg : Config} {family : Family} {ip imei : Text} {raw : Bytes}
    {trace : List Answered} (ran : Executes (handler cfg family ip raw) trace (.ok (some imei)))
    (real : imei ≠ []) (clear : family ≠ .gt06 → Clear cfg family raw trace) :
    decodes cfg family raw = true ∧ Completes cfg family ip raw trace imei := by
  cases family with
  | gt06 => exact completes_v5 ran
  | gps103 => exact completes_gps103 ran real (clear (by simp))
  | teltonika => exact completes_teltonika ran real (clear (by simp))

end TrackerGateway.Services.Verdicts
