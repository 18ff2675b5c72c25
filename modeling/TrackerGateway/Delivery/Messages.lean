/- module: TrackerGateway/Delivery/Messages
   source: src/services/packet_handler.py, src/services/tracking_service.py,
     src/services/event_service.py, src/parsers/v5_parser.py
   digest: What the packets of a logged-in device of the V5 family say, and that handling them
     writes exactly this while the calls are answered. -/

import TrackerGateway.Delivery.Accounts
import TrackerGateway.Fixtures.Logins
import TrackerGateway.Packets.Acknowledgements
import TrackerGateway.Packets.GpsBlock
import TrackerGateway.Packets.Identity

set_option autoImplicit false
set_option relaxedAutoImplicit false

namespace TrackerGateway.Delivery.Messages

open Foundation.Coroutine
open Foundation.Wire
open TrackerGateway.Runtime
open Framing.V5
open Packets.Acknowledgements (ackFrame buildAck_eq processPacket_eq handling)
open Packets.GpsBlock
open Parsers.V5
open Services Services.PacketHandler

def untimed : DbWrite → DbWrite
  | .rawPacket d p hex length _ parsed => .rawPacket d p hex length 0 parsed
  | .deviceStatus d battery signal ignition movement power _ =>
      .deviceStatus d battery signal ignition movement power 0
  | .deviceAlive d heartbeat _ => .deviceAlive d heartbeat 0
  | .ignition d ignition _ => .ignition d ignition 0
  | .heartbeat d _ => .heartbeat d 0
  | .event row => .event { row with createdAt := 0 }
  | statement => statement

/-- What a handler does for its device: a registration, a statement, a reply, a close. -/
inductive Deed
  | registered (imei deviceId : Text)
  | stored (statement : DbWrite)
  | replied (payload : Bytes)
  | closed

/-- The deeds among the operations; the copies of raw packets, which are sampled, are left out. -/
def deed : Op → Option Deed
  | .registerDevice imei _ deviceId .. => some (.registered imei deviceId)
  | .execute (.rawPacket ..) => none
  | .execute statement => some (.stored (untimed statement))
  | .write payload => some (.replied payload)
  | .close => some .closed
  | _ => none

abbrev Extra (most : Nat) := { more : Bytes // more.length ≤ most }

/-- What status packets and heartbeats say; three bits of the first byte are not decoded. -/
structure Terminal where
  info : TerminalInfo
  spare : Fin 8
  batteryLevel : UInt8
  gsmSignal : UInt8

/-- The same in an alarm that says nothing else. -/
def Terminal.cell (terminal : Terminal) : Status where
  mcc := ⟨0, by decide⟩
  mnc := 0
  lac := ⟨0, by decide⟩
  cellId := ⟨0, by decide⟩
  info := terminal.info
  alarmBits := terminal.spare
  batteryLevel := terminal.batteryLevel
  gsmSignal := terminal.gsmSignal
  alarmType := ⟨0, by decide⟩
  language := ⟨0, by decide⟩

/-- The byte of the terminal information is the one that alarms carry too. -/
def Terminal.byte (terminal : Terminal) : Nat := terminal.cell.terminal

def Terminal.bytes (terminal : Terminal) : Bytes :=
  [UInt8.ofNat terminal.byte, terminal.batteryLevel, terminal.gsmSignal]

inductive Message
  /-- `0x12`, or `0x22` of newer devices -/
  | position (newer : Bool) (block : Block) (more : Extra 232)
  | alarm (block : Block) (cells : Status) (more : Extra 220)
  | status (terminal : Terminal) (more : Extra 247)
  | heartbeat (terminal : Terminal) (more : Extra 247)

namespace Message

def protocol : Message → UInt8
  | .position newer .. => if newer then 0x22 else 0x12
  | .alarm .. => 0x26
  | .status .. => 0x13
  | .heartbeat .. => 0x23

def payload : Message → Bytes
  | .position _ block more => block.bytes ++ more.val
  | .alarm block cells more => block.bytes ++ (cells.bytes ++ more.val)
  | .status terminal more => terminal.bytes ++ more.val
  | .heartbeat terminal more => terminal.bytes ++ more.val

def frame (message : Message) (serial : Nat) : Bytes :=
  Packets.GpsBlock.frame message.protocol message.payload serial

end Message

/-- A place on earth, a speed up to 300 and a course up to 360 degrees. -/
def Possible (location : Location) : Prop :=
  -90 ≤ location.latitude ∧ location.latitude ≤ 90 ∧ -180 ≤ location.longitude ∧
    location.longitude ≤ 180 ∧ location.speed ≤ 300 ∧ location.heading ≤ 360

instance (location : Location) : Decidable (Possible location) := by
  unfold Possible
  infer_instance

section Said

variable (deviceId : Text) (vehicle : Option Text)

def positionRow (location : Location) : Option DbWrite :=
  if decide (Possible location) then some (.saveLocation deviceId (cleaned 6 location.latitude)
    (cleaned 6 location.longitude) location.speed location.heading location.satellites
    location.timestamp.instant) else none

/-- The row of a terminal; the ignition is the movement too. -/
def statusRow (info : TerminalInfo) (batteryLevel gsmSignal : Nat) : DbWrite :=
  .deviceStatus deviceId batteryLevel gsmSignal info.ignitionStatus info.ignitionStatus
    (if info.powerCut then 1 else 0) 0

/-- The event of an alarm, at its place on earth if there is one. -/
def alarmRow (alarm : Alarm) : DbWrite :=
  let place := cleanCoordinates (some (.finite alarm.location.latitude))
    (some (.finite alarm.location.longitude))
  .event {
    deviceId
    vehicleId := vehicle
    eventType := getAlarmName alarm.alarmType
    severity := (alarmSeverity alarm.alarmType).value
    latitude := place.1
    longitude := place.2
    description := "Alarm: ".toList ++ getAlarmName alarm.alarmType ++ " at ".toList ++
      alarm.location.timestamp.text
    metadata := some (.object (alarmMetadata alarm))
    createdAt := 0 }

def onlineRow : DbWrite :=
  .event {
    deviceId
    vehicleId := vehicle
    eventType := "DEVICE_ONLINE".toList
    severity := 1
    latitude := none
    longitude := none
    description := "Device connected to the gateway".toList
    metadata := none
    createdAt := 0 }

def Message.rows : Message → List DbWrite
  | .position _ block _ => (positionRow deviceId block.location).toList
  | .alarm block cells _ => [alarmRow deviceId vehicle (alarmOf block cells)]
  | .status terminal _ =>
      [statusRow deviceId terminal.info terminal.batteryLevel.toNat terminal.gsmSignal.toNat]
  | .heartbeat terminal _ =>
      [statusRow deviceId terminal.info terminal.batteryLevel.toNat terminal.gsmSignal.toNat,
        .heartbeat deviceId 0]

def reply (protocol : UInt8) (serial : Nat) : Deed :=
  .replied (ackFrame protocol (bigEndianBytes 2 serial))

/-- What a message comes to: its rows, and then its acknowledgement. -/
def Message.deeds (message : Message) (serial : Nat) : List Deed :=
  (message.rows deviceId vehicle).map .stored ++ [reply message.protocol serial]

def loginDeeds (imei : Text) (serial : Nat) : List Deed :=
  [.registered imei deviceId, .stored (onlineRow deviceId vehicle), reply 0x01 serial]

end Said

theorem locationValid_eq (location : Location) :
    locationValid location = decide (Possible location) := by
  rw [Bool.eq_iff_iff, decide_eq_true_iff]
  simp [locationValid, Possible, and_assoc]

def decoded {α β : Type} (result : Except Exn α) (made : α → List β) : List β :=
  match result with
  | .ok a => made a
  | .error _ => []

theorem map_decoded {α β γ : Type} (result : Except Exn α) (made : α → List β) (f : β → γ) :
    (decoded result made).map f = decoded result fun a => (made a).map f := by
  cases result <;> rfl

section Leads

variable (deviceId : Text) (vehicle : Option Text)

/-- The rows that the decoded packet is stored as; what is not decoded is not stored. -/
def stored (raw : Bytes) : List DbWrite :=
  match (raw.getD 3 0).toNat with
  | 0x12 | 0x22 => decoded (parseLocationPacket raw) fun location =>
      (positionRow deviceId location).toList
  | 0x26 => decoded (parseAlarmPacket raw) fun alarm => [alarmRow deviceId vehicle alarm]
  | 0x13 => decoded (parseTerminalStatus raw) fun status =>
      [statusRow deviceId status.info status.batteryLevel status.gsmSignal]
  | 0x23 => decoded (parseTerminalStatus raw) fun status =>
      [statusRow deviceId status.info status.batteryLevel status.gsmSignal, .heartbeat deviceId 0]
  | _ => []

def leads (raw : Bytes) : List Deed :=
  (if raw.getD 3 0 = 0x01 then [.registered (parseLoginPacket raw).imei deviceId,
    .stored (onlineRow deviceId vehicle)] else (stored deviceId vehicle raw).map .stored) ++
  [.replied (ackFrame (raw.getD 3 0) (serialBytes raw))]

end Leads

/-- The calls for a packet are answered: the database works and knows the device and its vehicle,
and whoever has logged in is found. -/
def Answers (imei deviceId : Text) (vehicle : Option Text) (raw : Bytes) : Answered → Prop
  | ⟨.getImeiBySocket, found⟩ => raw.getD 3 0 ≠ 0x01 → found = some imei
  | ⟨.getDevice asked, found⟩ => asked = imei → raw.getD 3 0 ≠ 0x01 →
      ∃ device, found = some device ∧ device.deviceId = deviceId
  | ⟨.getDeviceByImei .., found⟩ => found = .ok (some deviceId)
  | ⟨.getVehicleByDevice _, found⟩ => found = .ok vehicle
  | ⟨.execute _, outcome⟩ => ∃ returned, outcome = .ok returned
  | _ => True

/-- An observer who looks at no clock and at no copy of a raw packet. -/
structure Coarse {γ : Type} (visible : Op → Option γ) : Prop where
  clock : visible .utcNow = none
  chance : visible .random = none
  copies : ∀ deviceId protocol hexData length receivedAt parsed,
    visible (.execute (.rawPacket deviceId protocol hexData length receivedAt parsed)) = none

def Executed (assumed : Answered → Prop) : Prop :=
  ∀ statement outcome, assumed ⟨.execute statement, outcome⟩ → ∃ returned, outcome = .ok returned

theorem coarse_deed : Coarse deed := ⟨rfl, rfl, fun _ _ _ _ _ _ => rfl⟩

section Calls

variable {γ : Type} {assumed : Answered → Prop} {visible : Op → Option γ}

theorem plans_ask (o : Op) : Plans assumed visible (request o : Handler (Res o))
    (visible o).toList fun _ => True :=
  (plans_request o).mono fun _ _ => trivial

theorem plans_unseen {o : Op} (unseen : visible o = none) :
    Plans assumed visible (request o : Handler (Res o)) [] fun _ => True := by
  have asked : Plans assumed visible (request o : Handler (Res o)) _ _ := plans_ask o
  rwa [unseen] at asked

theorem plans_execute (works : Executed assumed) (statement : DbWrite) :
    Plans assumed visible (execute statement) (visible (.execute statement)).toList
      fun _ => True := by
  have seen : Plans assumed visible (execute statement)
      ((visible (.execute statement)).toList ++ []) fun _ => True := by
    apply (plans_request (Op.execute statement)).bind
    intro outcome answered
    obtain ⟨returned, rfl⟩ := works statement outcome answered
    exact plans_pure trivial
  rwa [List.append_nil] at seen

theorem plans_timed (coarse : Coarse visible) (works : Executed assumed)
    {statement : Instant → DbWrite} {deeds : List γ}
    (seen : ∀ now, (visible (.execute (statement now))).toList = deeds) :
    Plans assumed visible
      ((request Op.utcNow).bind fun now => (execute (statement now)).bind fun _ => .pure ())
      deeds fun _ => True := by
  apply (plans_unseen coarse.clock).bind
  intro now _
  have written : Plans assumed visible
      ((execute (statement now)).bind fun _ => .pure ()) (deeds ++ []) fun _ => True := by
    have executed : Plans assumed visible (execute (statement now)) _ _ :=
      plans_execute works (statement now)
    rw [seen now] at executed
    exact executed.bind fun _ _ => plans_pure trivial
  rwa [List.append_nil] at written

theorem plans_saveRaw (coarse : Coarse visible) (works : Executed assumed) (cfg : Config)
    (deviceId protocol hexData : Text) (always parsed : Bool) :
    Plans assumed visible (saveRaw cfg deviceId protocol hexData always parsed) []
      fun _ => True := by
  have decided : Plans assumed visible (shouldStoreRaw cfg always) [] fun _ => True := by
    rw [shouldStoreRaw]
    split
    · exact plans_pure trivial
    · exact plans_pure trivial
    · split
      · exact plans_pure trivial
      · exact (plans_unseen coarse.chance).bind fun _ _ => plans_pure trivial
  apply decided.bind
  intro kept _
  cases kept with
  | false => exact plans_pure trivial
  | true =>
      refine plans_timed coarse works fun now => ?_
      rw [coarse.copies]
      rfl

end Calls

section Handlers

variable {cfg : Config} {ip imei deviceId : Text} {vehicle : Option Text} {raw : Bytes}

abbrev Does (imei deviceId : Text) (vehicle : Option Text) (raw : Bytes) {α : Type}
    (p : Handler α) (deeds : List Deed) (post : α → Prop) : Prop :=
  Plans (Answers imei deviceId vehicle raw) deed p deeds post

theorem executed_answers : Executed (Answers imei deviceId vehicle raw) :=
  fun _ _ answered => answered

theorem does_timed {statement : Instant → DbWrite} {deeds : List Deed}
    (seen : ∀ now, (deed (.execute (statement now))).toList = deeds) :
    Does imei deviceId vehicle raw
      ((request Op.utcNow).bind fun now => (execute (statement now)).bind fun _ => .pure ())
      deeds fun _ => True :=
  plans_timed coarse_deed executed_answers seen

theorem does_saveRaw (protocol hexData : Text) (always parsed : Bool) :
    Does imei deviceId vehicle raw (saveRaw cfg deviceId protocol hexData always parsed) []
      fun _ => True :=
  plans_saveRaw coarse_deed executed_answers cfg deviceId protocol hexData always parsed

theorem does_saveLocation (latitude longitude speed heading : ℚ) (satellites : Nat)
    (eventTime : Instant) :
    Does imei deviceId vehicle raw
      (saveLocation deviceId (.finite latitude) (.finite longitude) (.finite speed)
        (.finite heading) satellites eventTime)
      [.stored (.saveLocation deviceId (cleaned 6 latitude) (cleaned 6 longitude)
        (cleaned 2 speed) (cleaned 2 heading) satellites eventTime)] fun _ => True :=
  plans_execute executed_answers _

theorem does_storeStatus (info : TerminalInfo) (batteryLevel gsmSignal : Nat) :
    Does imei deviceId vehicle raw (storeStatus deviceId ⟨batteryLevel, gsmSignal, info⟩)
      [.stored (statusRow deviceId info batteryLevel gsmSignal)] fun _ => True :=
  does_timed fun _ => rfl

theorem does_updateHeartbeat : Does imei deviceId vehicle raw (updateHeartbeat deviceId)
    [.stored (.heartbeat deviceId 0)] fun _ => True :=
  does_timed fun _ => rfl

theorem does_getVehicle : Does imei deviceId vehicle raw (getVehicleByDevice deviceId) []
    fun found => found = vehicle := by
  apply (plans_request (Op.getVehicleByDevice deviceId)).bind
  rintro _ rfl
  exact plans_pure rfl

theorem attempts_withDevice {body : Entry → Handler Unit} {deeds : List Deed}
    (later : raw.getD 3 0 ≠ 0x01) (real : imei ≠ [])
    (attempts : ∀ device : Entry, device.deviceId = deviceId →
      Attempts (Answers imei deviceId vehicle raw) deed (body device) deeds) :
    Attempts (Answers imei deviceId vehicle raw) deed (withDevice (some imei) body) deeds := by
  have found : Does imei deviceId vehicle raw (getConnectedDevice (some imei)) []
      fun device? => ∃ device, device? = some device ∧ device.deviceId = deviceId := by
    rw [getConnectedDevice, truthy_eq_some_iff.mpr ⟨rfl, real⟩]
    exact (plans_request (Op.getDevice imei)).mono fun _ answered => answered rfl later
  apply found.andThen
  rintro _ ⟨device, rfl, own⟩
  exact (attempts device own).andQuiet fun _ => attempts_pure _

theorem attempts_decoded {α β : Type} {result : Except Exn α} {next : α → Handler β}
    {deeds : α → List Deed}
    (rest : ∀ a, Attempts (Answers imei deviceId vehicle raw) deed (next a) (deeds a)) :
    Attempts (Answers imei deviceId vehicle raw) deed ((demand result).bind next)
      (decoded result deeds) := by
  cases result with
  | ok a => exact rest a
  | error e =>
      rintro trace outcome ⟨rfl, -⟩ -
      rfl

theorem attempts_handleLogin (protocol : Text) (real : deviceId ≠ []) :
    Attempts (Answers imei deviceId vehicle raw) deed (handleLogin cfg ip raw protocol)
      [.registered (parseLoginPacket raw).imei deviceId,
        .stored (onlineRow deviceId vehicle)] := by
  have looked : Does imei deviceId vehicle raw
      (getDeviceByImei (parseLoginPacket raw).imei .gt06 "V5".toList) []
      fun found => found = some deviceId := by
    apply (plans_request (Op.getDeviceByImei _ _ _)).bind
    rintro _ rfl
    exact plans_pure rfl
  have registered : Does imei deviceId vehicle raw
      (registerDevice (parseLoginPacket raw).imei ip deviceId .gt06)
      [.registered (parseLoginPacket raw).imei deviceId] fun _ => True :=
    (plans_ask Op.utcNow).bind fun _ _ => (plans_ask Op.utcNow).bind fun _ _ =>
      plans_ask (Op.registerDevice _ _ _ _ _ _)
  have welcomed : Does imei deviceId vehicle raw
      (createEvent deviceId vehicle "DEVICE_ONLINE".toList .low none none
        "Device connected to the gateway".toList []) [.stored (onlineRow deviceId vehicle)]
      fun _ => True := does_timed fun _ => rfl
  have seen : Attempts (Answers imei deviceId vehicle raw) deed
      (handleLogin cfg ip raw protocol)
      ([] ++ ([.registered (parseLoginPacket raw).imei deviceId] ++ ([] ++ ([] ++
        [.stored (onlineRow deviceId vehicle)])))) := by
    apply looked.andThen
    rintro _ rfl
    rw [truthy_eq_some_iff.mpr ⟨rfl, real⟩]
    apply registered.andThen
    intro _ _
    apply (does_saveRaw _ _ _ _).andThen
    intro _ _
    apply does_getVehicle.andThen
    rintro _ rfl
    exact welcomed.attempts.andQuiet fun _ => attempts_pure _
  simpa using seen

section Later

variable (later : raw.getD 3 0 ≠ 0x01) (real : imei ≠ [])

include later real

theorem attempts_handleLocation (protocol : Text) :
    Attempts (Answers imei deviceId vehicle raw) deed
      (handleLocation cfg raw protocol (some imei))
      (decoded (parseLocationPacket raw) fun location =>
        (positionRow deviceId location).toList.map .stored) := by
  apply attempts_decoded
  intro location
  rw [positionRow, ← locationValid_eq]
  cases valid : locationValid location with
  | false => exact attempts_pure _
  | true =>
      obtain ⟨-, -, -, -, fast, course⟩ := of_decide_eq_true ((locationValid_eq location) ▸ valid)
      apply attempts_withDevice later real
      rintro device rfl
      apply (does_saveRaw _ _ _ _).andThen
      intro _ _
      have saved : Does imei device.deviceId vehicle raw _ _ _ :=
        does_saveLocation location.latitude location.longitude location.speed location.heading
          location.satellites location.timestamp.instant
      rw [cleaned_natCast (by omega), cleaned_natCast (by omega)] at saved
      exact saved.attempts.andQuiet fun _ => attempts_pure _

theorem attempts_handleAlarm (protocol : Text) :
    Attempts (Answers imei deviceId vehicle raw) deed (handleAlarm cfg raw protocol (some imei))
      (decoded (parseAlarmPacket raw) fun alarm =>
        [.stored (alarmRow deviceId vehicle alarm)]) := by
  apply attempts_withDevice later real
  rintro device rfl
  apply attempts_decoded
  intro alarm
  apply (does_saveRaw _ _ _ _).andThen
  intro _ _
  apply does_getVehicle.andThen
  rintro vehicle rfl
  have recorded : Does imei device.deviceId vehicle raw
      (createEvent device.deviceId vehicle (getAlarmName alarm.alarmType)
        (alarmSeverity alarm.alarmType) (some (.finite alarm.location.latitude))
        (some (.finite alarm.location.longitude))
        ("Alarm: ".toList ++ getAlarmName alarm.alarmType ++ " at ".toList ++
          alarm.location.timestamp.text) (alarmMetadata alarm))
      [.stored (alarmRow device.deviceId vehicle alarm)] fun _ => True :=
    does_timed fun _ => rfl
  exact recorded.attempts

theorem attempts_handleStatus (protocol : Text) :
    Attempts (Answers imei deviceId vehicle raw) deed (handleStatus cfg raw protocol (some imei))
      (decoded (parseTerminalStatus raw) fun status =>
        [.stored (statusRow deviceId status.info status.batteryLevel status.gsmSignal)]) := by
  apply attempts_withDevice later real
  rintro device rfl
  apply attempts_decoded
  intro status
  apply (does_saveRaw _ _ _ _).andThen
  intro _ _
  exact (does_storeStatus status.info _ _).attempts

theorem attempts_handleHeartbeat (protocol : Text) :
    Attempts (Answers imei deviceId vehicle raw) deed
      (handleHeartbeat cfg raw protocol (some imei))
      (decoded (parseTerminalStatus raw) fun status =>
        [.stored (statusRow deviceId status.info status.batteryLevel status.gsmSignal),
          .stored (.heartbeat deviceId 0)]) := by
  apply attempts_withDevice later real
  rintro device rfl
  apply attempts_decoded
  intro status
  apply (does_saveRaw _ _ _ _).andThen
  intro _ _
  apply (does_storeStatus status.info _ _).andThen
  intro _ _
  exact does_updateHeartbeat.attempts

end Later

/-- The packets that are told of: logins, positions, alarms, status packets and heartbeats. -/
def Spoken (protocol : UInt8) : Prop :=
  protocol = 0x01 ∨ protocol = 0x12 ∨ protocol = 0x22 ∨ protocol = 0x26 ∨ protocol = 0x13 ∨
    protocol = 0x23

theorem attempts_dispatch {protocol : UInt8} {connectionImei : Option Text}
    (stands : raw.getD 3 0 = protocol) (spoken : Spoken protocol) (real : deviceId ≠ [])
    (named : imei ≠ []) (found : protocol ≠ 0x01 → connectionImei = some imei) :
    Attempts (Answers imei deviceId vehicle raw) deed
      (dispatch cfg ip raw protocol connectionImei)
      (if protocol = 0x01 then [.registered (parseLoginPacket raw).imei deviceId,
        .stored (onlineRow deviceId vehicle)]
      else (stored deviceId vehicle raw).map .stored) := by
  subst stands
  by_cases login : raw.getD 3 0 = 0x01
  · rw [if_pos login, login]
    exact attempts_handleLogin _ real
  · obtain rfl := found login
    rw [if_neg login, stored]
    rcases spoken with is | is | is | is | is | is
    · exact absurd is login
    · rw [is]
      exact (map_decoded _ _ _).symm ▸ attempts_handleLocation login named _
    · rw [is]
      exact (map_decoded _ _ _).symm ▸ attempts_handleLocation login named _
    · rw [is]
      exact (map_decoded _ _ _).symm ▸ attempts_handleAlarm login named _
    · rw [is]
      exact (map_decoded _ _ _).symm ▸ attempts_handleStatus login named _
    · rw [is]
      exact (map_decoded _ _ _).symm ▸ attempts_handleHeartbeat login named _

theorem attempts_acknowledge {ack : Bytes} (built : buildAck raw = .ok ack) :
    Does imei deviceId vehicle raw (acknowledge raw) [.replied ack] fun _ => True := by
  have drained : Attempts (Answers imei deviceId vehicle raw) deed drainSocket [] :=
    (plans_request Op.drain).andThen fun answer _ => attempts_demand answer
  have written : Attempts (Answers imei deviceId vehicle raw) deed
      ((writeSocket ack).bind fun _ => drainSocket) [.replied ack] := by
    refine Attempts.andQuiet ?_ fun _ => drained
    exact (plans_request (Op.write ack)).andThen fun answer _ => attempts_demand answer
  rw [acknowledge]
  rw [built]
  exact written.rescue fun _ => plans_pure trivial

/-- A packet comes to what its decoder made of it, and then to its acknowledgement. -/
theorem attempts_processPacket {protocol : UInt8} (formed : WellFormed raw)
    (at_ : protocolIndex raw = 3) (stands : raw[3]? = some protocol) (spoken : Spoken protocol)
    (real : deviceId ≠ []) (named : imei ≠ []) :
    Attempts (Answers imei deviceId vehicle raw) deed (processPacket cfg ip raw)
      (leads deviceId vehicle raw) := by
  have here : raw[protocolIndex raw]? = some protocol := by
    rw [at_, stands]
  have is : raw.getD 3 0 = protocol := by
    rw [List.getD_eq_getElem?_getD, stands, Option.getD_some]
  have seen : Attempts (Answers imei deviceId vehicle raw) deed (handling cfg ip raw protocol)
      ([] ++ ((if protocol = 0x01 then [.registered (parseLoginPacket raw).imei deviceId,
        .stored (onlineRow deviceId vehicle)] else (stored deviceId vehicle raw).map .stored) ++
          ([.replied (ackFrame protocol (serialBytes raw))] ++ []))) := by
    apply (plans_request Op.getImeiBySocket).andThen
    intro connectionImei answered
    have branch : Attempts (Answers imei deviceId vehicle raw) deed
        (dispatch cfg ip raw protocol connectionImei) _ :=
      attempts_dispatch is spoken real named fun later => answered (is ▸ later)
    apply (branch.rescue fun _ => plans_pure trivial).andThen
    intro currentImei _
    exact (attempts_acknowledge (buildAck_eq here)).andThen fun _ _ => attempts_pure currentImei
  rw [processPacket_eq formed here, leads, is]
  simpa using seen

end Handlers

section Frames

variable {deviceId : Text} {vehicle : Option Text}

theorem frame_parts (protocol : UInt8) (payload : Bytes) (serial : Nat) :
    ∃ length back, Packets.GpsBlock.frame protocol payload serial =
      0x78 :: 0x78 :: length :: protocol :: (payload ++ (bigEndianBytes 2 serial ++ back)) ∧
      back.length = 4 := by
  refine ⟨UInt8.ofNat ((protocol :: (payload ++ bigEndianBytes 2 serial)).length + 2),
    bigEndianBytes 2 (crc16X25 (UInt8.ofNat
      ((protocol :: (payload ++ bigEndianBytes 2 serial)).length + 2) ::
        protocol :: (payload ++ bigEndianBytes 2 serial))).toNat ++ [0x0D, 0x0A], ?_, by simp⟩
  simp [Packets.GpsBlock.frame, shortMarker]

theorem serialBytes_frame (protocol : UInt8) (payload : Bytes) (serial : Nat) :
    serialBytes (Packets.GpsBlock.frame protocol payload serial) = bigEndianBytes 2 serial := by
  obtain ⟨length, back, whole, four⟩ := frame_parts protocol payload serial
  have split_ : Packets.GpsBlock.frame protocol payload serial =
      (0x78 :: 0x78 :: length :: protocol :: payload) ++ (bigEndianBytes 2 serial ++ back) := whole
  rw [serialBytes, split_]
  exact slice_middle (by simp [four]) (by simp [four])

structure Carried (protocol : UInt8) (raw : Bytes) : Prop where
  formed : WellFormed raw
  at_ : protocolIndex raw = 3
  stands : raw[3]? = some protocol

theorem carried_frame (protocol : UInt8) {payload : Bytes} (serial : Nat)
    (fits : payload.length ≤ 250) :
    Carried protocol (Packets.GpsBlock.frame protocol payload serial) := by
  obtain ⟨length, back, whole, -⟩ := frame_parts protocol payload serial
  refine ⟨wellFormed_frame protocol serial fits, ?_, ?_⟩
  · rw [whole]
    rfl
  · rw [whole]
    rfl

theorem Carried.getD {protocol : UInt8} {raw : Bytes} (carried : Carried protocol raw) :
    raw.getD 3 0 = protocol := by
  rw [List.getD_eq_getElem?_getD, carried.stands, Option.getD_some]

theorem Block.bytes_length (block : Block) : block.bytes.length = 18 := by
  simp [Block.bytes, Block.head]

theorem Message.payload_length (message : Message) : message.payload.length ≤ 250 := by
  cases message with
  | position newer block more =>
      have most := more.property
      simp only [Message.payload, List.length_append, Block.bytes_length]
      omega
  | alarm block cells more =>
      have most := more.property
      simp only [Message.payload, List.length_append, Block.bytes_length, Status.bytes,
        List.length_cons, List.length_nil, bigEndianBytes_length]
      omega
  | status terminal more =>
      have most := more.property
      simp only [Message.payload, List.length_append, Terminal.bytes, List.length_cons,
        List.length_nil]
      omega
  | heartbeat terminal more =>
      have most := more.property
      simp only [Message.payload, List.length_append, Terminal.bytes, List.length_cons,
        List.length_nil]
      omega

theorem Message.carried (message : Message) (serial : Nat) :
    Carried message.protocol (message.frame serial) :=
  carried_frame message.protocol serial message.payload_length

theorem Message.spoken (message : Message) : Spoken message.protocol ∧ message.protocol ≠ 0x01 := by
  cases message with
  | position newer block more => cases newer <;> simp [protocol, Spoken]
  | _ => simp [protocol, Spoken]

theorem parseTerminalStatus_frame (protocol : UInt8) (terminal : Terminal) (more : Bytes)
    (serial : Nat) :
    parseTerminalStatus (Packets.GpsBlock.frame protocol (terminal.bytes ++ more) serial) =
      .ok ⟨terminal.batteryLevel.toNat, terminal.gsmSignal.toNat, terminal.info⟩ := by
  obtain ⟨length, back, whole, -⟩ := frame_parts protocol (terminal.bytes ++ more) serial
  have decoded_ := (terminalInfo_status terminal.cell).2
  rw [whole]
  change Except.ok (TerminalStatus.mk _ _ (terminalInfo (UInt8.ofNat terminal.byte))) = _
  rw [Terminal.byte, decoded_]
  rfl

/-- The rows that a message's frame is decoded to are those that the message says. -/
theorem stored_frame (message : Message) (serial : Nat) :
    stored deviceId vehicle (message.frame serial) = message.rows deviceId vehicle := by
  have is := (message.carried serial).getD
  rw [stored, is]
  cases message with
  | position newer block more =>
      have parsed := ((block_round_trip block serial).1 (Message.position newer block more).protocol
        (by cases newer <;> simp [Message.protocol]) more.val more.property).2
      cases newer with
      | true =>
          change decoded (parseLocationPacket (Packets.GpsBlock.frame 0x22 _ serial)) _ = _
          exact congrArg (fun result => decoded result _) parsed
      | false => exact congrArg (fun result => decoded result _) parsed
  | alarm block cells more =>
      have parsed := ((block_round_trip block serial).2 cells more.val more.property).2
      exact congrArg (fun result => decoded result _) parsed
  | status terminal more =>
      exact congrArg (fun result => decoded result _) (parseTerminalStatus_frame _ _ _ _)
  | heartbeat terminal more =>
      exact congrArg (fun result => decoded result _) (parseTerminalStatus_frame _ _ _ _)

theorem gt06Login_eq (imei : Text) (serial : Nat) : Fixtures.Logins.gt06Login imei serial =
    Packets.GpsBlock.frame 0x01 (unhex (Fixtures.Logins.zfill 16 imei)) serial := by
  simp [Fixtures.Logins.gt06Login, Packets.GpsBlock.frame, shortMarker]

theorem leads_message (message : Message) (serial : Nat) :
    leads deviceId vehicle (message.frame serial) = message.deeds deviceId vehicle serial := by
  rw [leads, (message.carried serial).getD, if_neg message.spoken.2, stored_frame, Message.deeds,
    reply, Message.frame, serialBytes_frame]

end Frames

end TrackerGateway.Delivery.Messages
