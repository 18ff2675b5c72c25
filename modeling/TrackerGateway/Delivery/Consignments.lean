/- module: TrackerGateway/Delivery/Consignments
   source: src/tcp_server.py, src/parsers/teltonika_parser.py, src/services/teltonika_handler.py,
     src/services/device_registry.py, src/test/teltonika_fixtures.py
   digest: From the records that a device of the FMB family ships to the rows they are stored as and
     the numbers they are answered with, in every run of the gateway. -/

import TrackerGateway.Delivery.Dialogue
import TrackerGateway.Packets.Records

set_option autoImplicit false
set_option relaxedAutoImplicit false

namespace TrackerGateway.Delivery.Consignments

open Foundation.Coroutine
open Foundation.Transition (run)
open Foundation.Wire
open TrackerGateway.Runtime
open Fixtures.Teltonika (Arguments)
open Framing (FrameOf LoginOf outcomes recordsEnabled)
open Invariants.Tenure (Registers)
open Messages (Deed deed Coarse Executed plans_ask plans_unseen plans_execute plans_timed
  plans_saveRaw)
open Packets.Identity (Imei)
open Packets.Records
open Parsers.Teltonika
open Server
open Services Services.TeltonikaHandler

/-- The deeds among the operations; the refreshes of the status, which depend on what was refreshed
last, are left out too. -/
def shipped : Op → Option Deed
  | .execute (.deviceAlive ..) | .execute (.ignition ..) => none
  | o => deed o

theorem coarse_shipped : Coarse shipped := ⟨rfl, rfl, fun _ _ _ _ _ _ => rfl⟩

section Said

variable (deviceId : Text) (vehicle : Option Text)

def welcomeRow : DbWrite :=
  .event {
    deviceId
    vehicleId := vehicle
    eventType := "DEVICE_ONLINE".toList
    severity := 1
    latitude := none
    longitude := none
    description := "Device connected to the gateway".toList
    metadata := some (.object [("protocol".toList, .text Family.teltonika.name)])
    createdAt := 0 }

def recordRow (rec : AvlRecord) : Option DbWrite :=
  if rec.hasFix && positionOk rec then
    some (.saveLocation deviceId (cleaned 6 rec.latitude) (cleaned 6 rec.longitude) rec.speed
      rec.angle rec.satellites rec.timestamp)
  else none

def packetDeeds (records : List AvlRecord) : List Deed :=
  (records.filterMap (recordRow deviceId)).map .stored ++ [.replied (ack records.length)]

def loginDeeds (imei : Text) : List Deed :=
  [.registered imei deviceId, .replied loginAccept, .stored (welcomeRow deviceId vehicle)]

/-- All deeds for a frame; a packet that is not decoded has none. -/
def leads (raw : Bytes) : List Deed :=
  if isLoginFrame raw then Messages.decoded (parseLogin raw) (loginDeeds deviceId vehicle)
  else Messages.decoded (parseAvlPacket raw) fun packet => packetDeeds deviceId packet.records

end Said

/-- The calls for a frame are answered: the database works and knows the device and its vehicle,
whoever has logged in is found, and no record is too far in the future. -/
def Answers (cfg : Config) (imei deviceId : Text) (vehicle : Option Text) (raw : Bytes) :
    Answered → Prop
  | ⟨.getImeiBySocket, found⟩ => isLoginFrame raw = false → found = some imei
  | ⟨.getDevice asked, found⟩ => asked = imei → isLoginFrame raw = false →
      ∃ device, found = some device ∧ device.deviceId = deviceId
  | ⟨.getDeviceByImei .., found⟩ => found = .ok (some deviceId)
  | ⟨.getVehicleByDevice _, found⟩ => found = .ok vehicle
  | ⟨.execute _, outcome⟩ => ∃ returned, outcome = .ok returned
  | ⟨.utcNow, now⟩ => isLoginFrame raw = false → ∀ packet, parseAvlPacket raw = .ok packet →
      ∀ rec ∈ packet.records, rec.timestamp ≤ now + cfg.teltonikaMaxFutureSeconds * 1000000
  | _ => True

section Handlers

variable {cfg : Config} {ip imei deviceId : Text} {vehicle : Option Text} {raw : Bytes}

theorem executed_answers : Executed (Answers cfg imei deviceId vehicle raw) :=
  fun _ _ answered => answered

/-- A program of which this is seen, and which returns, while the calls are answered. -/
abbrev Does (cfg : Config) (imei deviceId : Text) (vehicle : Option Text) (raw : Bytes) {α : Type}
    (p : Handler α) (deeds : List Deed) (post : α → Prop) : Prop :=
  Plans (Answers cfg imei deviceId vehicle raw) shipped p deeds post

theorem does_safely {write : Handler Unit} {deeds : List Deed}
    (does : Does cfg imei deviceId vehicle raw write deeds fun _ => True) :
    Does cfg imei deviceId vehicle raw (safely write) deeds fun _ => True :=
  does.rescue

theorem does_saveRawFrame (always parsed : Bool) :
    Does cfg imei deviceId vehicle raw
      (safely (saveRawFrame cfg deviceId raw always parsed)) [] fun _ => True :=
  does_safely (plans_saveRaw coarse_shipped executed_answers _ _ _ _ _ _)

theorem does_markDeviceAlive (heartbeat : Bool) :
    Does cfg imei deviceId vehicle raw (safely (markDeviceAlive deviceId heartbeat)) []
      fun _ => True :=
  does_safely (plans_timed coarse_shipped executed_answers fun _ => rfl)

theorem does_send (payload : Bytes) :
    Does cfg imei deviceId vehicle raw (send payload) [.replied payload] fun _ => True := by
  have drained : Attempts (Answers cfg imei deviceId vehicle raw) shipped drainSocket [] :=
    (plans_request Op.drain).andThen fun answer _ => attempts_demand answer
  have written : Attempts (Answers cfg imei deviceId vehicle raw) shipped
      ((writeSocket payload).bind fun _ => drainSocket) [.replied payload] := by
    refine Attempts.andQuiet ?_ fun _ => drained
    exact (plans_request (Op.write payload)).andThen fun answer _ => attempts_demand answer
  exact written.rescue fun _ => plans_pure trivial

theorem does_storeRecord {packet : AvlPacket} {rec : AvlRecord} (other : isLoginFrame raw = false)
    (parsed : parseAvlPacket raw = .ok packet) (member : rec ∈ packet.records) :
    Does cfg imei deviceId vehicle raw (storeRecord cfg deviceId rec)
      ((recordRow deviceId rec).toList.map .stored) fun dealt => dealt = true := by
  rw [storeRecord, recordRow]
  cases fix : rec.hasFix with
  | false => exact plans_pure rfl
  | true =>
      have asked : Does cfg imei deviceId vehicle raw (request Op.utcNow) [] fun now : Instant =>
          rec.timestamp ≤ now + cfg.teltonikaMaxFutureSeconds * 1000000 :=
        (plans_request Op.utcNow).mono fun now answered => answered other packet parsed rec member
      apply asked.bind
      intro now early
      rw [if_neg (not_lt.mpr early)]
      cases placed : positionOk rec with
      | false => exact plans_pure rfl
      | true =>
          have bounds := placed
          simp only [positionOk, Bool.and_eq_true, decide_eq_true_eq] at bounds
          obtain ⟨⟨-, fast⟩, course⟩ := bounds
          apply Plans.rescue
          have saved : Does cfg imei deviceId vehicle raw
              (saveLocation deviceId (.finite rec.latitude) (.finite rec.longitude)
                (.finite rec.speed) (.finite rec.angle) rec.satellites rec.timestamp) _ _ :=
            plans_execute executed_answers _
          rw [cleaned_natCast (by omega), cleaned_natCast (by omega)] at saved
          exact saved.bind fun _ _ => plans_pure rfl

theorem does_storeRecords {packet : AvlPacket} {records : List AvlRecord}
    (other : isLoginFrame raw = false) (parsed : parseAvlPacket raw = .ok packet)
    (among : records ⊆ packet.records) :
    Does cfg imei deviceId vehicle raw (storeRecords cfg deviceId records)
      ((records.filterMap (recordRow deviceId)).map .stored)
      fun accepted => accepted = records.length := by
  induction records with
  | nil => exact plans_pure rfl
  | cons rec records ih =>
      have split_ : ((rec :: records).filterMap (recordRow deviceId)).map Deed.stored =
          (recordRow deviceId rec).toList.map .stored ++
            ((records.filterMap (recordRow deviceId)).map .stored ++ []) := by
        rw [List.filterMap_cons, List.append_nil]
        cases recordRow deviceId rec <;> rfl
      rw [split_]
      apply (does_storeRecord other parsed (among List.mem_cons_self)).bind
      rintro _ rfl
      apply (ih fun other member => among (List.mem_cons_of_mem rec member)).bind
      rintro _ rfl
      exact plans_pure rfl

theorem does_refreshStatus (records : List AvlRecord) :
    Does cfg imei deviceId vehicle raw (refreshStatus deviceId records) [] fun _ => True := by
  have alive : ∀ now, Does cfg imei deviceId vehicle raw
      (refreshStatus.refreshAlive deviceId now) [] fun _ => True := by
    intro now
    apply (plans_unseen rfl).bind
    intro last _
    split
    · exact (does_markDeviceAlive true).bind fun _ _ => plans_unseen rfl
    · exact plans_pure trivial
  apply (plans_unseen rfl).bind
  intro now _
  cases newestIgnition records with
  | none => exact alive now
  | some ignition =>
      apply (plans_unseen rfl).bind
      intro cached _
      split
      · have set_ : Does cfg imei deviceId vehicle raw (safely (setIgnition deviceId ignition)) []
            fun _ => True :=
          does_safely (plans_timed coarse_shipped executed_answers fun _ => rfl)
        apply set_.bind
        intro _ _
        apply (plans_unseen rfl).bind
        intro _ _
        exact plans_unseen rfl
      · exact alive now

theorem attempts_handleLogin (real : deviceId ≠ []) (parsed : parseLogin raw = .ok imei) :
    Attempts (Answers cfg imei deviceId vehicle raw) shipped (handleLogin cfg ip raw)
      (loginDeeds deviceId vehicle imei) := by
  have looked : Does cfg imei deviceId vehicle raw
      (getDeviceByImei imei .teltonika "FMB".toList) [] fun found => found = some deviceId := by
    apply (plans_request (Op.getDeviceByImei _ _ _)).bind
    rintro _ rfl
    exact plans_pure rfl
  have registered : Does cfg imei deviceId vehicle raw (registerDevice imei ip deviceId .teltonika)
      [.registered imei deviceId] fun _ => True :=
    (plans_unseen rfl).bind fun _ _ => (plans_unseen rfl).bind fun _ _ =>
      plans_ask (Op.registerDevice _ _ _ _ _ _)
  have driven : Does cfg imei deviceId vehicle raw
      ((getVehicleByDevice deviceId).rescue fun _ => .pure none) []
      fun found => found = vehicle := by
    apply Plans.rescue
    apply (plans_request (Op.getVehicleByDevice deviceId)).bind
    rintro _ rfl
    exact plans_pure rfl
  have welcomed : Does cfg imei deviceId vehicle raw
      (safely (createEvent deviceId vehicle "DEVICE_ONLINE".toList .low none none
        "Device connected to the gateway".toList
        [("protocol".toList, .text Family.teltonika.name)]))
      [.stored (welcomeRow deviceId vehicle)] fun _ => True :=
    does_safely (plans_timed coarse_shipped executed_answers fun _ => rfl)
  have seen : Attempts (Answers cfg imei deviceId vehicle raw) shipped (handleLogin cfg ip raw)
      ([] ++ ([.registered imei deviceId] ++ ([] ++ ([.replied loginAccept] ++ ([] ++ ([] ++ ([] ++
        [.stored (welcomeRow deviceId vehicle)]))))))) := by
    rw [handleLogin, parsed]
    apply looked.andThen
    rintro _ rfl
    rw [truthy_eq_some_iff.mpr ⟨rfl, real⟩]
    apply registered.andThen
    intro _ _
    apply (plans_unseen rfl).andThen
    intro _ _
    apply (does_send loginAccept).andThen
    intro _ _
    apply (does_saveRawFrame true true).andThen
    intro _ _
    apply (does_markDeviceAlive false).andThen
    intro _ _
    apply driven.andThen
    rintro _ rfl
    exact welcomed.attempts.andQuiet fun _ => attempts_pure _
  simpa [loginDeeds] using seen

theorem attempts_handleAvl {packet : AvlPacket} (other : isLoginFrame raw = false)
    (named : imei ≠ []) (parsed : parseAvlPacket raw = .ok packet) :
    Attempts (Answers cfg imei deviceId vehicle raw) shipped (handleAvl cfg raw)
      (packetDeeds deviceId packet.records) := by
  have asked : Does cfg imei deviceId vehicle raw (request Op.getImeiBySocket) []
      fun found : Option Text => found = some imei :=
    (plans_request Op.getImeiBySocket).mono fun found answered => answered other
  have found : Does cfg imei deviceId vehicle raw (request (Op.getDevice imei)) []
      fun device? : Option Entry => ∃ device, device? = some device ∧ device.deviceId = deviceId :=
    (plans_request (Op.getDevice imei)).mono fun device? answered => answered rfl other
  have seen : Attempts (Answers cfg imei deviceId vehicle raw) shipped (handleAvl cfg raw)
      ([] ++ ([] ++ ([] ++ ([] ++ ((packet.records.filterMap (recordRow deviceId)).map .stored ++
        [.replied (ack packet.records.length)]))))) := by
    apply asked.andThen
    rintro _ rfl
    rw [truthy_eq_some_iff.mpr ⟨rfl, named⟩]
    apply found.andThen
    rintro _ ⟨device, rfl, rfl⟩
    dsimp only
    rw [parsed]
    apply (does_saveRawFrame false true).andThen
    intro _ _
    apply (does_refreshStatus packet.records).andThen
    intro _ _
    apply (does_storeRecords other parsed fun _ => id).andThen
    rintro _ rfl
    exact (does_send _).attempts.andQuiet fun _ => attempts_pure _
  simpa [packetDeeds] using seen

theorem attempts_login (real : deviceId ≠ []) (is : isLoginFrame raw = true)
    (parsed : parseLogin raw = .ok imei) :
    Attempts (Answers cfg imei deviceId vehicle raw) shipped (processTeltonikaFrame cfg ip raw)
      (loginDeeds deviceId vehicle imei) := by
  rw [processTeltonikaFrame, if_pos is]
  exact ((attempts_handleLogin real parsed).rescue fun _ => plans_unseen rfl).attempts

theorem attempts_packet {packet : AvlPacket} (other : isLoginFrame raw = false)
    (named : imei ≠ []) (parsed : parseAvlPacket raw = .ok packet) :
    Attempts (Answers cfg imei deviceId vehicle raw) shipped (processTeltonikaFrame cfg ip raw)
      (packetDeeds deviceId packet.records) := by
  rw [processTeltonikaFrame, if_neg (by rw [other]; decide)]
  exact ((attempts_handleAvl other named parsed).rescue fun _ => plans_unseen rfl).attempts

end Handlers

def dataOf (extended : Bool) (records : List Arguments) : Bytes :=
  dataField (if extended then codec8E else codec8) (records.map (recordBytes extended))

structure Shipment (cfg : Config) where
  extended : Bool
  records : List Arguments
  few : records.length ≤ 255
  range : ∀ a ∈ records, InRange extended a
  /-- Up to the year 2242 timestamps are exact. -/
  dated : ∀ a ∈ records, a.timestampMs < 2 ^ 33 * 1000
  small : (dataOf extended records).length < 256 ^ 4
  within : ((dataOf extended records).length : ℤ) ≤ cfg.teltonikaMaxPacketBytes

/-- A position with satellites in view, on earth, at a speed up to 300 and a course up to 360
degrees, and not the marker of a missing fix. -/
def Placed (a : Arguments) : Prop :=
  0 < a.satellites ∧ ¬(a.lat = 0 ∧ a.lon = 0) ∧ -90 ≤ a.lat ∧ a.lat ≤ 90 ∧ -180 ≤ a.lon ∧
    a.lon ≤ 180 ∧ a.speed ≤ 300 ∧ a.angle ≤ 360

instance (a : Arguments) : Decidable (Placed a) := by
  unfold Placed
  infer_instance

def rowOf (deviceId : Text) (a : Arguments) : Option DbWrite :=
  if decide (Placed a) then some (.saveLocation deviceId (cleaned 6 a.lat) (cleaned 6 a.lon)
    a.speed a.angle a.satellites (a.timestampMs * 1000)) else none

namespace Shipment

variable {cfg : Config} (shipment : Shipment cfg)

def frame : Bytes := packet (dataOf shipment.extended shipment.records)

/-- One row for each record with a possible position, and the number of all records. -/
def deeds (deviceId : Text) : List Deed :=
  (shipment.records.filterMap (rowOf deviceId)).map .stored ++
    [.replied (ack shipment.records.length)]

theorem parseAvlPacket_frame : parseAvlPacket shipment.frame =
    .ok ⟨if shipment.extended then codec8E else codec8, shipment.records.map recordOf⟩ := by
  obtain ⟨extended, records, few, range, dated, small, within⟩ := shipment
  have byte : records.length < 256 ^ 1 := by omega
  cases extended with
  | false => exact parseAvlPacket_records (.inl rfl) byte range small
  | true => exact parseAvlPacket_records (.inr rfl) byte range small

theorem isLoginFrame_frame : isLoginFrame shipment.frame = false := by
  have start : shipment.frame.take 2 = [0, 0] := rfl
  rw [isLoginFrame, start]
  exact Bool.and_false _

theorem frameOf_frame : FrameOf cfg .teltonika shipment.frame := by
  have declared : bigEndian (slice shipment.frame 4 8) =
      (dataOf shipment.extended shipment.records).length := framed_declares _ shipment.small
  refine .inr ⟨framed_begins _ _, ?_, ?_⟩
  · rw [Framing.Teltonika.dataLength, declared, frame, packet_length]
    omega
  · rw [Framing.Teltonika.dataLength, declared]
    refine ⟨?_, shipment.within⟩
    rw [dataOf, dataField_length]
    omega

end Shipment

section Shipments

variable {cfg : Config} {deviceId : Text} {vehicle : Option Text}

theorem placed_iff (a : Arguments) :
    ((recordOf a).hasFix && positionOk (recordOf a)) = decide (Placed a) := by
  rw [Bool.eq_iff_iff, decide_eq_true_iff, Placed, not_and]
  -- The fields of the record are read only when the conjunction is one of propositions.
  simp only [AvlRecord.hasFix, positionOk, Bool.and_eq_true, Bool.not_eq_true',
    Bool.and_eq_false_imp, decide_eq_true_eq, decide_eq_false_iff_not, and_assoc]
  exact Iff.rfl

theorem recordRow_recordOf {a : Arguments} (dated : a.timestampMs < 2 ^ 33 * 1000) :
    recordRow deviceId (recordOf a) = rowOf deviceId a := by
  rw [recordRow, placed_iff, rowOf]
  have exact_ : (recordOf a).timestamp = a.timestampMs * 1000 := timestamp_exact dated
  rw [exact_]
  rfl

theorem leads_frame (shipment : Shipment cfg) :
    leads deviceId vehicle shipment.frame = shipment.deeds deviceId := by
  have rows : (shipment.records.map recordOf).filterMap (recordRow deviceId) =
      shipment.records.filterMap (rowOf deviceId) := by
    rw [List.filterMap_map]
    exact List.filterMap_congr fun a member => recordRow_recordOf (shipment.dated a member)
  rw [leads, shipment.isLoginFrame_frame, shipment.parseAvlPacket_frame]
  change packetDeeds deviceId (shipment.records.map recordOf) = _
  rw [packetDeeds, rows, List.length_map, Shipment.deeds]

end Shipments

/-- What a device of the FMB family ships: its login, and packets of records. -/
structure Cargo (cfg : Config) where
  imei : Imei
  shipments : List (Shipment cfg)

namespace Cargo

variable {cfg : Config} (cargo : Cargo cfg) (deviceId : Text) (vehicle : Option Text)

def login : Bytes := Fixtures.Logins.loginFrame cargo.imei.digits

def later : List Bytes := cargo.shipments.map Shipment.frame

def frames : List Bytes := cargo.login :: cargo.later

def told : List Deed :=
  loginDeeds deviceId vehicle cargo.imei.digits ++
    cargo.shipments.flatMap fun shipment => shipment.deeds deviceId

theorem isLoginFrame_login : isLoginFrame cargo.login = true := by
  simp [isLoginFrame, login, Fixtures.Logins.loginFrame, loginFrameLen, loginPrefix, asciiBytes,
    cargo.imei.fifteen]

theorem parseLogin_login : parseLogin cargo.login = .ok cargo.imei.digits :=
  cargo.imei.recovered_teltonika 0

theorem loginOf_login : LoginOf cfg .teltonika cargo.login := by
  have length : cargo.login.length = loginFrameLen := by
    simp [login, Fixtures.Logins.loginFrame, asciiBytes, cargo.imei.fifteen, loginFrameLen]
  have digits : slice cargo.login 2 loginFrameLen = asciiBytes cargo.imei.digits := by
    rw [slice, ← length, List.take_length]
    rfl
  refine ⟨.inl ⟨length, rfl, ?_⟩, cargo.isLoginFrame_login⟩
  rw [Framing.Teltonika.hasDigits, digits, List.all_eq_true]
  intro b member
  obtain ⟨c, among, rfl⟩ := List.mem_map.mp member
  have bounds := isDigit_bounds (cargo.imei.isDigit among)
  simp only [isDigitByte, Bool.and_eq_true, decide_eq_true_eq, UInt8.le_iff_toNat_le,
    UInt8.toNat_ofNat']
  rw [Nat.mod_eq_of_lt (by omega)]
  exact bounds

theorem leads_login : leads deviceId vehicle cargo.login =
    loginDeeds deviceId vehicle cargo.imei.digits := by
  rw [leads, cargo.isLoginFrame_login, cargo.parseLogin_login]
  rfl

theorem flatMap_leads :
    cargo.frames.flatMap (leads deviceId vehicle) = cargo.told deviceId vehicle := by
  rw [frames, List.flatMap_cons, leads_login, told, later, List.flatMap_map]
  simp only [leads_frame]

theorem frameOf_later {raw : Bytes} (member : raw ∈ cargo.later) : FrameOf cfg .teltonika raw := by
  obtain ⟨shipment, -, rfl⟩ := List.mem_map.mp member
  exact shipment.frameOf_frame

theorem mem_frames {raw : Bytes} (member : raw ∈ cargo.frames) :
    raw = cargo.login ∨ ∃ shipment ∈ cargo.shipments, raw = shipment.frame := by
  rcases List.mem_cons.mp member with rfl | later
  · exact .inl rfl
  · obtain ⟨shipment, among, rfl⟩ := List.mem_map.mp later
    exact .inr ⟨shipment, among, rfl⟩

theorem attempts_frame {raw : Bytes} (ip : Text) (real : deviceId ≠ [])
    (member : raw ∈ cargo.frames) :
    Attempts (Answers cfg cargo.imei.digits deviceId vehicle raw) shipped
      (processTeltonikaFrame cfg ip raw) (leads deviceId vehicle raw) := by
  rcases cargo.mem_frames member with rfl | ⟨shipment, -, rfl⟩
  · rw [leads_login]
    exact attempts_login real cargo.isLoginFrame_login cargo.parseLogin_login
  · have parsed := shipment.parseAvlPacket_frame
    rw [leads, shipment.isLoginFrame_frame, parsed]
    exact attempts_packet shipment.isLoginFrame_frame (digits_ne_nil cargo.imei) parsed

def Early (now : Instant) : Prop :=
  ∀ shipment ∈ cargo.shipments, ∀ a ∈ shipment.records,
    (a.timestampMs * 1000 : ℤ) ≤ now + cfg.teltonikaMaxFutureSeconds * 1000000

variable {cargo deviceId vehicle}

theorem Early.answers {now : Instant} (early : cargo.Early now) {raw : Bytes}
    (member : raw ∈ cargo.frames) :
    Answers cfg cargo.imei.digits deviceId vehicle raw ⟨.utcNow, now⟩ := by
  intro other packet parsed rec among
  rcases cargo.mem_frames member with rfl | ⟨shipment, shipped_, rfl⟩
  · rw [cargo.isLoginFrame_login] at other
    cases other
  · rw [shipment.parseAvlPacket_frame] at parsed
    cases parsed
    obtain ⟨a, sent, rfl⟩ := List.mem_map.mp among
    have exact_ : (recordOf a).timestamp = a.timestampMs * 1000 :=
      timestamp_exact (shipment.dated a sent)
    rw [exact_]
    exact early shipment shipped_ a sent

theorem answers_of_recalls {raw : Bytes} {a : Answered} (member : raw ∈ cargo.frames)
    (works : Works deviceId vehicle a) (early : ∀ now, a = ⟨.utcNow, now⟩ → cargo.Early now)
    (recalls : Recalls cargo.imei.digits deviceId (raw ≠ cargo.login) a) :
    Answers cfg cargo.imei.digits deviceId vehicle raw a := by
  have later : isLoginFrame raw = false → raw ≠ cargo.login := by
    rintro other rfl
    rw [cargo.isLoginFrame_login] at other
    cases other
  obtain ⟨o, x⟩ := a
  cases o with
  | getImeiBySocket => exact fun other => recalls (later other)
  | getDevice asked => exact fun same other => recalls same (later other)
  | getDeviceByImei imei protocolType defaultModel => exact works
  | getVehicleByDevice asked => exact works
  | execute statement => exact works
  | utcNow => exact (early x rfl).answers member
  | _ => trivial

variable (cargo) in
def answeringLate (deviceId : Text) (vehicle : Option Text) : (o : Op) → Res o
  | .utcNow => (2 ^ 33 * 1000000 - cfg.teltonikaMaxFutureSeconds * 1000000 : ℤ)
  | o => answering cargo.imei.digits deviceId vehicle o

theorem answers_answeringLate {raw : Bytes} (member : raw ∈ cargo.frames) (o : Op) :
    Answers cfg cargo.imei.digits deviceId vehicle raw
      ⟨o, cargo.answeringLate deviceId vehicle o⟩ := by
  cases o with
  | utcNow =>
      apply Early.answers _ member
      intro shipment among a sent
      have dated := shipment.dated a sent
      change (a.timestampMs * 1000 : ℤ) ≤ 2 ^ 33 * 1000000 -
        cfg.teltonikaMaxFutureSeconds * 1000000 + cfg.teltonikaMaxFutureSeconds * 1000000
      rw [sub_add_cancel]
      omega
  | getImeiBySocket => exact fun _ => rfl
  | getDevice asked => exact fun _ _ => ⟨_, rfl, rfl⟩
  | getDeviceByImei imei protocolType defaultModel => exact rfl
  | getVehicleByDevice asked => exact rfl
  | execute statement => exact ⟨true, rfl⟩
  | _ => trivial

variable (cargo deviceId vehicle)

theorem told_registered {imei deviceId' : Text}
    (member : .registered imei deviceId' ∈ cargo.told deviceId vehicle) :
    imei = cargo.imei.digits ∧ deviceId' = deviceId := by
  simpa [told, loginDeeds, Shipment.deeds] using member

theorem told_open : Deed.closed ∉ cargo.told deviceId vehicle := by
  simp [told, loginDeeds, Shipment.deeds]

end Cargo

theorem deed_of_shipped {o : Op} {seen : Deed} (is : shipped o = some seen) :
    deed o = some seen := by
  cases o with
  | execute statement =>
      cases statement with
      | deviceAlive deviceId heartbeat now => cases is
      | ignition deviceId ignition now => cases is
      | _ => exact is
  | _ => exact is

theorem watches_shipped : Watches shipped where
  registers _ _ _ _ _ _ := rfl
  only o imei deviceId is := watches_deed.only o imei deviceId (deed_of_shipped is)
  closes := rfl

section Runs

variable {cfg : Config} {cargo : Cargo cfg} {deviceId : Text} {vehicle : Option Text} {c : Conn}

/-- In every run in which a connection reads what a device of the FMB family ships, in whatever
pieces, no other connection logs in as this device, the calls for the connection are answered and no
record is too far in the future: each record with a possible position is stored once, in order, and
each packet is answered with the number of its records, as far as the connection has got; and when
it waits for more and all has been read, this is complete. -/
theorem cargo_told {inputs : List Server.Input} {g : Gateway} {reads : List Bytes}
    (enabled : .teltonika ∈ cfg.enabledProtocols) (real : deviceId ≠ [])
    (ran : run (Gateway.step cfg (pipelines cfg)) .start inputs = some g)
    (read : outcomes c inputs = reads.map .data) (nonempty : ∀ read ∈ reads, read ≠ [])
    (part : reads.flatten <+: cargo.frames.flatten)
    (alone : ∀ c', Registers c' cargo.imei.digits g.history → c' = c)
    (works : ∀ a, .performed c a ∈ g.history → Works deviceId vehicle a)
    (early : ∀ now, .performed c ⟨.utcNow, now⟩ ∈ g.history → cargo.Early now) :
    deeds shipped c g.history <+: cargo.told deviceId vehicle ∧
      ∀ s, (g.tasks c).phase = .reading s → reads.flatten = cargo.frames.flatten →
        (g.tasks c).lost = false → deeds shipped c g.history = cargo.told deviceId vehicle := by
  have leads_ := cargo.flatMap_leads deviceId vehicle
  rw [← leads_]
  have logs : .registered cargo.imei.digits deviceId ∈ leads deviceId vehicle cargo.login := by
    rw [cargo.leads_login]
    exact List.mem_cons_self
  have only : ∀ imei' deviceId', .registered imei' deviceId' ∈
      cargo.frames.flatMap (leads deviceId vehicle) →
        imei' = cargo.imei.digits ∧ deviceId' = deviceId := fun _ _ member =>
    cargo.told_registered deviceId vehicle (leads_ ▸ member)
  have open_ : Deed.closed ∉ cargo.frames.flatMap (leads deviceId vehicle) := fun member =>
    cargo.told_open deviceId vehicle (leads_ ▸ member)
  have plans : ∀ ip raw, raw ∈ cargo.frames →
      Attempts (Answers cfg cargo.imei.digits deviceId vehicle raw) shipped
        ((pipelines cfg .teltonika).handler ip raw) (leads deviceId vehicle raw) :=
    fun ip raw member => cargo.attempts_frame deviceId vehicle ip real member
  have answers : ∀ a raw, .performed c a ∈ g.history → raw ∈ cargo.frames →
      Recalls cargo.imei.digits deviceId (raw ≠ cargo.login) a →
        Answers cfg cargo.imei.digits deviceId vehicle raw a := by
    intro a raw performed member recalls
    refine Cargo.answers_of_recalls member (works a performed) ?_ recalls
    rintro now rfl
    exact early now performed
  exact told_of_plans watches_shipped logs only open_ plans
    (cargo.answeringLate deviceId vehicle) (fun _ member => Cargo.answers_answeringLate member)
    enabled cargo.loginOf_login (fun _ => cargo.frameOf_later) rfl ran read nonempty part alone
    answers

def bareRecord (timestampMs satellites : Nat) : Arguments :=
  { Packets.Records.someRecord timestampMs with
    satellites, io1 := [], io2 := [], io4 := [], io8 := [] }

theorem bareRecord_inRange {timestampMs satellites : Nat} (range : timestampMs ≤ maxMillis)
    (few : satellites < 256 ^ 1) : InRange false (bareRecord timestampMs satellites) := by
  have base : InRange false (Packets.Records.someRecord timestampMs) := someRecord_inRange range
  exact { base with
    satellites := few
    one := by simp [Fits, bareRecord]
    two := by simp [Fits, bareRecord]
    four := by simp [Fits, bareRecord]
    eight := by simp [Fits, bareRecord]
    counts := by simp [elements, bareRecord, Packets.Records.someRecord]
    distinct := by simp [elements, bareRecord, Packets.Records.someRecord] }

/-- A record with satellites in view, and one without. -/
def someShipment : Shipment recordsEnabled where
  extended := false
  records := [bareRecord 123456 9, bareRecord 123457 0]
  few := by decide
  range := by
    intro a member
    simp only [List.mem_cons, List.not_mem_nil, or_false] at member
    rcases member with rfl | rfl <;> exact bareRecord_inRange (by decide) (by decide)
  dated := by decide
  small := by decide +kernel
  within := by decide +kernel

def someCargo : Cargo recordsEnabled where
  imei := ⟨"356307042441013".toList, by decide, by decide⟩
  shipments := [someShipment]

def cargoReads : List Bytes := [someCargo.frames.flatten.take 20, someCargo.frames.flatten.drop 20]

def cargoInputs : List Server.Input :=
  [.connect 0 [], .arrive 0 (.data (someCargo.frames.flatten.take 20))] ++
    List.replicate 17 (.resume 0 (calm ['d'])) ++
    [.arrive 0 (.data (someCargo.frames.flatten.drop 20))] ++
    List.replicate 17 (.resume 0 (calm ['d']))

def atEpoch : Event → Bool
  | .performed _ ⟨.utcNow, now⟩ => decide (now = (0 : ℤ))
  | _ => true

theorem early_of_atEpoch {now : Instant}
    (read : atEpoch (.performed c ⟨.utcNow, now⟩) = true) : someCargo.Early now := by
  obtain rfl : now = (0 : ℤ) := of_decide_eq_true read
  intro shipment among a sent
  obtain rfl := List.mem_singleton.mp among
  simp only [someShipment, List.mem_cons, List.not_mem_nil, or_false] at sent
  rcases sent with rfl | rfl <;> decide

theorem cargo_told_some : ∃ g,
    run (Gateway.step recordsEnabled (pipelines recordsEnabled)) .start cargoInputs = some g ∧
      deeds shipped 0 g.history = someCargo.told ['d'] none ∧
      (deeds shipped 0 g.history).length = 5 := by
  have seen : (run (Gateway.step recordsEnabled (pipelines recordsEnabled)) .start
      cargoInputs).map (fun g => (g.history.all calmly, g.history.all atEpoch, waits (g.tasks 0),
        decide (g.history.filterMap Event.registration =
          [(0, someCargo.imei.digits, ['d'])]))) = some (true, true, true, true) := by
    decide +kernel
  obtain ⟨g, ran, shown⟩ := Option.map_eq_some_iff.mp seen
  obtain ⟨calm_, shown⟩ := Prod.mk.inj shown
  obtain ⟨epoch, shown⟩ := Prod.mk.inj shown
  obtain ⟨waiting, only⟩ := Prod.mk.inj shown
  have registered := of_decide_eq_true only
  obtain ⟨⟨s, at_⟩, here⟩ := waits_iff.mp waiting
  have alone := alone_of_registration registered
  have complete : deeds shipped 0 g.history = someCargo.told ['d'] none :=
    (cargo_told (by decide) (by decide) ran
      (show outcomes 0 cargoInputs = cargoReads.map .data from rfl) (by decide +kernel)
      (by decide +kernel) alone
      (fun a member => works_of_calmly (List.all_eq_true.mp calm_ _ member))
      fun now member => early_of_atEpoch (List.all_eq_true.mp epoch _ member)).2 s at_
        (by decide +kernel) here
  refine ⟨g, ran, complete, ?_⟩
  rw [complete]
  decide +kernel

end Runs

end TrackerGateway.Delivery.Consignments
