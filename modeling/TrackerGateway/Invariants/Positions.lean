/- module: TrackerGateway/Invariants/Positions
   source: src/services/packet_handler.py, src/services/gps103_handler.py,
     src/services/teltonika_handler.py, src/utils/numeric.py
   digest: Every position that is stored is possible, and is the one that the frame reports. -/

import TrackerGateway.Delivery.Reports
import TrackerGateway.Foundation.Wire.Binary64
import TrackerGateway.Server.Frames
import TrackerGateway.Services.Gps103Handler
import TrackerGateway.Services.PacketHandler
import TrackerGateway.Services.TeltonikaHandler
import TrackerGateway.Services.Upkeep

set_option autoImplicit false
set_option relaxedAutoImplicit false

namespace TrackerGateway.Invariants.Positions

open Foundation.Coroutine
open Foundation.Transition (Reachable Throughout)
open Foundation.Wire
open TrackerGateway.Runtime
open TrackerGateway.Server
open Services

def Decimals (places : Nat) (q : ℚ) : Prop := ∃ n : ℤ, q = n / 10 ^ places

structure OnEarth (latitude longitude : ℚ) : Prop where
  latitude : -90 ≤ latitude ∧ latitude ≤ 90 ∧ Decimals 6 latitude
  longitude : -180 ≤ longitude ∧ longitude ≤ 180 ∧ Decimals 6 longitude

structure Moving (speed heading : ℚ) : Prop where
  speed : 0 ≤ speed ∧ speed ≤ 300 ∧ Decimals 2 speed
  heading : 0 ≤ heading ∧ heading ≤ 360 ∧ Decimals 2 heading

structure Reading where
  latitude : Number
  longitude : Number
  speed : Number
  heading : Number

def Reported (cfg : Config) (family : Family) (raw : Bytes) (reading : Reading) : Prop :=
  match family with
  | .gt06 => ∃ location : Parsers.V5.Location,
      (Parsers.V5.parseLocationPacket raw = .ok location ∨
        ∃ alarm, Parsers.V5.parseAlarmPacket raw = .ok alarm ∧ alarm.location = location) ∧
      reading = ⟨.finite location.latitude, .finite location.longitude, .finite location.speed,
        .finite location.heading⟩
  | .gps103 => ∃ text report fix, Parsers.Gps103.classify raw = (.tracker, text) ∧
      Parsers.Gps103.parseTracker cfg text = .ok report ∧ report.fix = some fix ∧
      reading = ⟨.finite fix.latitude, .finite fix.longitude, fix.speed, fix.heading⟩
  | .teltonika => ∃ packet, Parsers.Teltonika.parseAvlPacket raw = .ok packet ∧
      ∃ rec ∈ packet.records, reading = ⟨.finite rec.latitude, .finite rec.longitude,
        .finite rec.speed, .finite rec.angle⟩

/-- A stored position is possible, and the rounding of one that is reported. -/
def Stored (reported : Reading → Prop) : DbWrite → Prop
  | .saveLocation _ latitude longitude speed heading _ _ =>
      OnEarth latitude longitude ∧ Moving speed heading ∧ ∃ reading, reported reading ∧
        cleanDecimal reading.latitude 6 = .ok latitude ∧
        cleanDecimal reading.longitude 6 = .ok longitude ∧
        cleanDecimal reading.speed 2 = .ok speed ∧ cleanDecimal reading.heading 2 = .ok heading
  | .event row =>
      row.latitude = none ∧ row.longitude = none ∨ ∃ latitude longitude,
        row.latitude = some latitude ∧ row.longitude = some longitude ∧
        OnEarth latitude longitude ∧ ∃ reading, reported reading ∧
          cleanDecimal reading.latitude 6 = .ok latitude ∧
          cleanDecimal reading.longitude 6 = .ok longitude
  | _ => True

def Rule (reported : Reading → Prop) : Op → Prop
  | .execute statement => Stored reported statement
  | _ => True

abbrev Honest (reported : Reading → Prop) {α : Type} (p : Handler α) : Prop :=
  Confined (Rule reported) p

section Storage

variable {reported : Reading → Prop} {deviceId : Text}

theorem plainly {α : Type} {p : Handler α} (parts : Confined Plain p) : Honest reported p := by
  refine parts.mono ?_
  intro o plain
  cases o with
  | execute statement =>
      cases statement with
      | saveLocation => exact plain.elim
      | event => exact plain.elim
      | _ => trivial
  | _ => trivial

theorem honest_updateDeviceStatus (battery signal : Nat) (ignition movement : Bool)
    (power : Nat) :
    Honest reported (updateDeviceStatus deviceId battery signal ignition movement power) :=
  confined_stamped trivial fun _ => trivial

theorem honest_setIgnition (ignition : Bool) :
    Honest reported (setIgnition deviceId ignition) :=
  confined_stamped trivial fun _ => trivial

theorem cleaned_between {q : ℚ} (low high : ℤ) (places : Nat) (above : low ≤ q) (below : q ≤ high)
    (small : |q| < 2 ^ 53) :
    low ≤ cleaned places q ∧ cleaned places q ≤ high ∧ Decimals places (cleaned places q) := by
  obtain ⟨near, far⟩ := binary64_between low high small above below
  obtain ⟨least, most⟩ := roundTo_between places near far
  exact ⟨least, most, _, rfl⟩

theorem onEarth_cleaned {lat lon : ℚ} (south : -90 ≤ lat) (north : lat ≤ 90) (west : -180 ≤ lon)
    (east : lon ≤ 180) : OnEarth (cleaned 6 lat) (cleaned 6 lon) := by
  constructor
  · exact_mod_cast cleaned_between (-90) 90 6 (by exact_mod_cast south) (by exact_mod_cast north)
      (abs_lt.mpr ⟨by linarith, by linarith⟩)
  · exact_mod_cast cleaned_between (-180) 180 6 (by exact_mod_cast west) (by exact_mod_cast east)
      (abs_lt.mpr ⟨by linarith, by linarith⟩)

theorem moving_cleaned {fast course : ℚ} (still : 0 ≤ fast) (limit : fast ≤ 300)
    (start : 0 ≤ course) (full : course ≤ 360) : Moving (cleaned 2 fast) (cleaned 2 course) := by
  constructor
  · exact_mod_cast cleaned_between 0 300 2 (by exact_mod_cast still) (by exact_mod_cast limit)
      (abs_lt.mpr ⟨by linarith, by linarith⟩)
  · exact_mod_cast cleaned_between 0 360 2 (by exact_mod_cast start) (by exact_mod_cast full)
      (abs_lt.mpr ⟨by linarith, by linarith⟩)

theorem honest_saveLocation (deviceId : Text) {latitude longitude speed heading : Number}
    (read : reported ⟨latitude, longitude, speed, heading⟩)
    (lat : latitude.between (-90) 90 = true) (lon : longitude.between (-180) 180 = true)
    (fast : speed.between 0 300 = true) (course : heading.between 0 360 = true)
    (satellites : Nat) (eventTime : Instant) :
    Honest reported
      (saveLocation deviceId latitude longitude speed heading satellites eventTime) := by
  obtain ⟨lat, rfl, south, north⟩ := between_iff.mp lat
  obtain ⟨lon, rfl, west, east⟩ := between_iff.mp lon
  obtain ⟨fast, rfl, still, limit⟩ := between_iff.mp fast
  obtain ⟨course, rfl, start, full⟩ := between_iff.mp course
  refine (confined_request ?_).bind keeps_demand
  exact ⟨onEarth_cleaned south north west east,
    moving_cleaned still limit start full, _, read, rfl, rfl, rfl, rfl⟩

theorem honest_createEvent (vehicleId : Option Text) (eventType : Text) (severity : Severity)
    {latitude longitude : Option Number} (description : Text) (metadata : List (Text × Json))
    (read : ∀ x y, latitude = some x → longitude = some y →
      ∃ reading, reported reading ∧ reading.latitude = x ∧ reading.longitude = y) :
    Honest reported
      (createEvent deviceId vehicleId eventType severity latitude longitude description
        metadata) := by
  refine confined_stamped trivial ?_
  intro _
  change (cleanCoordinates latitude longitude).1 = none ∧
    (cleanCoordinates latitude longitude).2 = none ∨ _
  cases latitude with
  | none => exact .inl ⟨rfl, rfl⟩
  | some x =>
      cases longitude with
      | none => cases x <;> exact .inl ⟨rfl, rfl⟩
      | some y =>
          cases x with
          | infinite negative => exact .inl ⟨rfl, rfl⟩
          | nan => exact .inl ⟨rfl, rfl⟩
          | finite lat =>
              cases y with
              | infinite negative => exact .inl ⟨rfl, rfl⟩
              | nan => exact .inl ⟨rfl, rfl⟩
              | finite lon =>
                  rw [cleanCoordinates]
                  split
                  case isFalse outside => exact .inl ⟨rfl, rfl⟩
                  case isTrue within =>
                    obtain ⟨south, north, west, east⟩ := within
                    obtain ⟨reading, reported, same, same'⟩ := read _ _ rfl rfl
                    refine .inr ⟨_, _, rfl, rfl, onEarth_cleaned south north west east, reading,
                      reported, ?_, ?_⟩
                    · rw [same]
                      rfl
                    · rw [same']
                      rfl

end Storage

/-! ### The V5 family -/

section V5

open PacketHandler

variable (cfg : Config) {raw : Bytes} {protocol : Text} {connectionImei : Option Text}

theorem honest_withDevice {reported : Reading → Prop} {body : Entry → Handler Unit}
    (kept : ∀ device, Honest reported (body device)) :
    Honest reported (withDevice connectionImei body) := by
  have connected : Honest reported (getConnectedDevice connectionImei) := by
    rw [getConnectedDevice]
    split
    · exact (plainly plain_close).bind fun _ => keeps_pure _
    · exact confined_request trivial
  refine connected.bind ?_
  intro device?
  cases device? with
  | none => exact keeps_pure _
  | some device => exact (kept device).bind fun _ => keeps_pure _

theorem honest_handleLoginV5 (ip : Text) :
    Honest (Reported cfg .gt06 raw) (handleLogin cfg ip raw protocol) := by
  refine (plainly (plain_getDeviceByImei _ _ _)).bind ?_
  intro deviceId?
  split
  · exact keeps_pure _
  · refine (plainly (plain_registerDevice _ _ _)).bind ?_
    intro _
    refine (plainly (plain_saveRaw cfg _ _ _ _)).bind ?_
    intro _
    refine (plainly plain_getVehicle).bind ?_
    intro vehicleId
    exact (honest_createEvent _ _ _ _ _ (by simp)).bind fun _ => keeps_pure _

theorem honest_saveWhole {reported : Reading → Prop} (deviceId : Text) {latitude longitude : ℚ}
    {speed heading : Nat} (read : reported ⟨.finite latitude, .finite longitude, .finite speed,
      .finite heading⟩)
    (within : (-90 ≤ latitude && latitude ≤ 90 && -180 ≤ longitude && longitude ≤ 180 &&
      speed ≤ 300 && heading ≤ 360) = true) (satellites : Nat) (eventTime : Instant) :
    Honest reported (saveLocation deviceId (.finite latitude) (.finite longitude) (.finite speed)
      (.finite heading) satellites eventTime) := by
  simp only [Bool.and_eq_true, decide_eq_true_eq] at within
  obtain ⟨⟨⟨⟨⟨south, north⟩, west⟩, east⟩, limit⟩, full⟩ := within
  refine honest_saveLocation deviceId read ?_ ?_ ?_ ?_ satellites eventTime
  · exact between_iff.mpr ⟨_, rfl, south, north⟩
  · exact between_iff.mpr ⟨_, rfl, west, east⟩
  · exact between_iff.mpr ⟨_, rfl, by positivity, by exact_mod_cast limit⟩
  · exact between_iff.mpr ⟨_, rfl, by positivity, by exact_mod_cast full⟩

theorem honest_handleLocation :
    Honest (Reported cfg .gt06 raw) (handleLocation cfg raw protocol connectionImei) := by
  rw [handleLocation]
  change Honest _ ((demand (Parsers.V5.parseLocationPacket raw)).bind _)
  cases parsed : Parsers.V5.parseLocationPacket raw with
  | error _ => exact keeps_throw _
  | ok location =>
      rw [demand_ok, Program.bind_pure]
      split
      case isFalse => exact keeps_pure _
      case isTrue valid =>
        refine honest_withDevice ?_
        intro device
        refine (plainly (plain_saveRaw cfg _ _ _ _)).bind ?_
        intro _
        have read : Reported cfg .gt06 raw ⟨.finite location.latitude, .finite location.longitude,
            .finite location.speed, .finite location.heading⟩ :=
          ⟨location, .inl parsed, rfl⟩
        exact (honest_saveWhole _ read valid _ _).bind fun _ => keeps_pure _

theorem honest_handleAlarm :
    Honest (Reported cfg .gt06 raw) (handleAlarm cfg raw protocol connectionImei) := by
  refine honest_withDevice ?_
  intro device
  change Honest _ ((demand (Parsers.V5.parseAlarmPacket raw)).bind _)
  cases parsed : Parsers.V5.parseAlarmPacket raw with
  | error _ => exact keeps_throw _
  | ok alarm =>
      rw [demand_ok, Program.bind_pure]
      refine (plainly (plain_saveRaw cfg _ _ _ _)).bind ?_
      intro _
      refine (plainly plain_getVehicle).bind ?_
      intro vehicleId
      refine honest_createEvent _ _ _ _ _ ?_
      rintro _ _ ⟨⟩ ⟨⟩
      exact ⟨_, ⟨alarm.location, .inr ⟨alarm, parsed, rfl⟩, rfl⟩, rfl, rfl⟩

theorem honest_handleInformation (eventType description : Text) :
    Honest (Reported cfg .gt06 raw)
      (handleInformation cfg raw protocol connectionImei eventType description) := by
  refine honest_withDevice fun device => (plainly (plain_saveRaw cfg _ _ _ _)).bind ?_
  intro _
  split
  · exact keeps_pure _
  · refine keeps_ite (keeps_pure _) ((keeps_demand _).bind ?_)
    intro _
    exact (plainly plain_getVehicle).bind fun _ => honest_createEvent _ _ _ _ _ (by simp)

theorem honest_handleStatus :
    Honest (Reported cfg .gt06 raw) (handleStatus cfg raw protocol connectionImei) := by
  refine honest_withDevice ?_
  intro device
  refine (keeps_demand _).bind ?_
  intro status
  refine (plainly (plain_saveRaw cfg _ _ _ _)).bind ?_
  intro _
  exact honest_updateDeviceStatus _ _ _ _ _

theorem honest_handleHeartbeatV5 :
    Honest (Reported cfg .gt06 raw) (handleHeartbeat cfg raw protocol connectionImei) := by
  refine honest_withDevice ?_
  intro device
  refine (keeps_demand _).bind ?_
  intro status
  refine (plainly (plain_saveRaw cfg _ _ _ _)).bind ?_
  intro _
  refine (honest_updateDeviceStatus _ _ _ _ _).bind ?_
  intro _
  exact plainly plain_updateHeartbeat

theorem honest_handleCommandAck :
    Honest (Reported cfg .gt06 raw) (handleCommandAck cfg raw protocol connectionImei) := by
  refine honest_withDevice ?_
  intro device
  refine (plainly (plain_saveRaw cfg _ _ _ _)).bind ?_
  intro _
  refine (keeps_demand _).bind ?_
  intro echoed
  exact keeps_pure _

theorem honest_handleCommandReply :
    Honest (Reported cfg .gt06 raw) (handleCommandReply cfg raw protocol connectionImei) := by
  refine honest_withDevice ?_
  intro device
  refine (plainly (plain_saveRaw cfg _ _ _ _)).bind ?_
  intro _
  refine (keeps_demand _).bind ?_
  intro response
  exact plainly (plain_handleCommandResponse _ _ _)

theorem honest_handleUnknown :
    Honest (Reported cfg .gt06 raw) (handleUnknown cfg raw protocol connectionImei) := by
  rw [handleUnknown]
  split
  · exact keeps_pure _
  · refine (plainly (plain_getDevice _)).bind ?_
    intro device?
    cases device? with
    | none => exact keeps_pure _
    | some device =>
        refine (plainly (plain_saveRaw cfg _ _ _ _)).bind ?_
        intro _
        exact keeps_pure _

theorem honest_dispatchV5 (ip : Text) (code : UInt8) :
    Honest (Reported cfg .gt06 raw) (PacketHandler.dispatch cfg ip raw code connectionImei) := by
  unfold PacketHandler.dispatch
  dsimp only
  split
  · exact honest_handleLoginV5 cfg ip
  · exact honest_handleLocation cfg
  · exact honest_handleLocation cfg
  · exact honest_handleStatus cfg
  · exact honest_handleHeartbeatV5 cfg
  · exact honest_handleAlarm cfg
  · exact honest_handleInformation cfg _ _
  · exact honest_handleCommandAck cfg
  · exact honest_handleCommandReply cfg
  · exact honest_handleInformation cfg _ _
  · exact honest_handleUnknown cfg

theorem honest_processPacket (ip : Text) :
    Honest (Reported cfg .gt06 raw) (processPacket cfg ip raw) := by
  refine keeps_ite ((keeps_demand _).bind ?_) (keeps_pure _)
  intro code
  refine (plainly plain_getImeiBySocket).bind ?_
  intro connectionImei
  refine ((honest_dispatchV5 cfg ip code).rescue fun _ => keeps_pure _).bind ?_
  intro imei?
  have acknowledged : Honest (Reported cfg .gt06 raw) (acknowledge raw) := by
    refine Keeps.rescue ((keeps_demand _).bind ?_) fun _ => keeps_pure _
    intro ack
    exact plainly ((plain_write ack).bind fun _ => plain_drain)
  exact acknowledged.bind fun _ => keeps_pure _

end V5

/-! ### The TK103 family -/

section Gps103

open Gps103Handler

variable (cfg : Config) {reported : Reading → Prop} {raw : Bytes} {text deviceId : Text}

theorem honest_safelyGps103 (label : String) {write : Handler Unit}
    (kept : Honest reported write) : Honest reported (safely label write) :=
  kept.rescue fun _ => plainly (plain_log _)

theorem honest_sendGps103 (payload : Bytes) : Honest reported (send payload) :=
  plainly (Keeps.rescue ((plain_write payload).bind fun _ => plain_drain.bind fun _ => plain_log _)
    fun _ => plain_log _)

theorem honest_authenticatedImei (imei : Text) : Honest reported (authenticatedImei imei) := by
  have closed : Honest reported (request Op.close : Handler Unit) :=
    plainly plain_close
  refine (plainly plain_getImeiBySocket).bind ?_
  intro found
  split
  · exact (plainly (plain_log _)).bind fun _ => closed.bind fun _ => keeps_pure _
  · exact keeps_ite ((plainly (plain_log _)).bind fun _ => closed.bind fun _ => keeps_pure _)
      (keeps_pure _)

theorem honest_handleLoginGps103 (ip : Text) :
    Honest reported (handleLogin cfg ip text raw) := by
  refine (keeps_demand _).bind fun imei => (plainly (plain_log _)).bind ?_
  intro _
  refine (plainly (plain_getDeviceByImei _ _ _)).bind ?_
  intro deviceId?
  split
  · exact (plainly (plain_log _)).bind fun _ =>
      (plainly plain_close).bind fun _ => keeps_pure _
  · refine (plainly (plain_log _)).bind ?_
    intro _
    refine (plainly (plain_registerDevice _ _ _)).bind ?_
    intro _
    refine (honest_sendGps103 _).bind ?_
    intro _
    refine (honest_safelyGps103 _ (plainly (plain_saveRaw cfg _ _ _ _))).bind ?_
    intro _
    refine (honest_safelyGps103 _ (plainly (plain_markDeviceAlive _))).bind ?_
    intro _
    refine ((plainly plain_getVehicle).rescue fun _ => keeps_pure _).bind ?_
    intro vehicleId
    exact (honest_safelyGps103 _ (honest_createEvent _ _ _ _ _ (by simp))).bind fun _ =>
      keeps_pure _

theorem honest_handleHeartbeatGps103 : Honest reported (handleHeartbeat text) := by
  refine (keeps_demand _).bind fun imei => (honest_authenticatedImei imei).bind ?_
  intro found
  split
  · exact keeps_pure _
  · refine (honest_sendGps103 _).bind ?_
    intro _
    refine (plainly (plain_getDevice _)).bind ?_
    intro device?
    cases device? with
    | none => exact keeps_throw _
    | some device =>
        exact (honest_safelyGps103 _ (plainly (plain_markDeviceAlive _))).bind fun _ => keeps_pure _

open Parsers.Gps103 (Fix Report)

/-- A fix that may be stored is the one of the report, and is valid. -/
def Usable (report : Report) (fix : Fix) : Prop :=
  report.fix = some fix ∧
    locationIsValid fix.latitude fix.longitude fix.speed fix.heading = true

theorem honest_usableFix {α : Type} {imei : Text} {report : Report}
    {next : Option Fix → Handler α}
    (later : ∀ fix?, (∀ fix ∈ fix?, Usable report fix) → Honest reported (next fix?)) :
    Honest reported ((usableFix imei report).bind next) := by
  rw [usableFix]
  cases found : report.fix with
  | none => exact ((plainly (plain_log _)).bind fun _ => later none (by simp))
  | some fix =>
      dsimp only
      split
      case isTrue valid =>
        refine later (some fix) ?_
        rintro _ ⟨⟩
        exact ⟨found, valid⟩
      case isFalse => exact (plainly (plain_log _)).bind fun _ => later none (by simp)

theorem honest_storeFix {imei : Text} {report : Report} {fix? : Option Fix}
    (read : ∀ fix, report.fix = some fix →
      reported ⟨.finite fix.latitude, .finite fix.longitude, fix.speed, fix.heading⟩)
    (usable : ∀ fix ∈ fix?, Usable report fix) :
    Honest reported (storeFix imei deviceId fix?) := by
  cases fix? with
  | none => exact keeps_pure _
  | some fix =>
      obtain ⟨found, valid⟩ := usable fix rfl
      simp only [locationIsValid, Bool.and_eq_true, decide_eq_true_eq] at valid
      obtain ⟨⟨⟨⟨⟨⟨-, south⟩, north⟩, west⟩, east⟩, fast⟩, course⟩ := valid
      have timed : Honest reported (eventTimeOf fix) := by
        rw [eventTimeOf]
        split
        · exact keeps_pure _
        · exact plainly (plain_clock.bind fun _ => (plain_log _).bind fun _ => keeps_pure _)
      refine timed.bind ?_
      intro eventTime
      have saved := honest_saveLocation deviceId (read fix found)
        (between_iff.mpr ⟨_, rfl, south, north⟩) (between_iff.mpr ⟨_, rfl, west, east⟩) fast course
        0 eventTime
      refine (honest_safelyGps103 _ (saved.bind fun _ => keeps_pure _)).bind ?_
      intro _
      exact plainly (plain_clock.bind fun now =>
        confined_request (o := Op.notePosition imei fix.speed now) trivial)

theorem honest_recordAlarm {report : Report} {fix? : Option Fix}
    (read : ∀ fix, report.fix = some fix →
      reported ⟨.finite fix.latitude, .finite fix.longitude, fix.speed, fix.heading⟩)
    (usable : ∀ fix ∈ fix?, Usable report fix) (vehicleId alarm? : Option Text) :
    Honest reported (recordAlarm deviceId vehicleId report fix? alarm?) := by
  cases alarm? with
  | none => exact keeps_pure _
  | some alarm =>
      refine (honest_safelyGps103 _ ?_).bind fun _ => plainly (plain_log _)
      refine honest_createEvent _ _ _ _ _ ?_
      intro x y lat lon
      cases fix? with
      | none => cases lat
      | some fix =>
          cases lat
          cases lon
          exact ⟨_, read fix (usable fix rfl).1, rfl, rfl⟩

theorem honest_processReport {imei : Text} {report : Report}
    (read : ∀ fix, report.fix = some fix →
      reported ⟨.finite fix.latitude, .finite fix.longitude, fix.speed, fix.heading⟩) :
    Honest reported (processReport cfg raw imei deviceId report) := by
  refine (keeps_ite (keeps_pure _) (plainly (plain_log _))).bind ?_
  intro _
  refine honest_usableFix ?_
  intro fix? usable
  refine (keeps_ite (honest_sendGps103 _) (keeps_pure _)).bind ?_
  intro _
  refine (honest_safelyGps103 _ (plainly (plain_saveRaw cfg _ _ _ _))).bind ?_
  intro _
  have lit : Honest reported (storeIgnition deviceId report.ignition) := by
    rw [storeIgnition.eq_def]
    split
    · exact keeps_pure _
    · exact honest_safelyGps103 _ (honest_setIgnition _)
  have located : Honest reported (alarmVehicle deviceId report.alarmName) := by
    rw [alarmVehicle.eq_def]
    split
    · exact keeps_pure _
    · exact plainly (plain_getVehicle.rescue fun _ => (plain_log _).bind fun _ => keeps_pure _)
  exact lit.bind fun _ => located.bind fun vehicleId =>
    (honest_storeFix read usable).bind fun _ => honest_recordAlarm read usable vehicleId _

theorem honest_handleTracker (tracker : Parsers.Gps103.classify raw = (.tracker, text)) :
    Honest (Reported cfg .gps103 raw) (handleTracker cfg text raw) := by
  change Honest _ ((demand (Parsers.Gps103.parseTracker cfg text)).bind _)
  cases parsed : Parsers.Gps103.parseTracker cfg text with
  | error _ => exact keeps_throw _
  | ok report =>
      rw [demand_ok, Program.bind_pure]
      refine (honest_authenticatedImei _).bind ?_
      intro found
      split
      · exact keeps_pure _
      · refine (plainly (plain_getDevice _)).bind ?_
        intro device?
        cases device? with
        | none => exact keeps_throw _
        | some device =>
            refine (honest_processReport cfg ?_).bind fun _ => keeps_pure _
            intro fix holds
            exact ⟨text, report, fix, tracker, parsed, holds, rfl⟩

theorem honest_processGps103Message (ip : Text) :
    Honest (Reported cfg .gps103 raw) (processGps103Message cfg ip raw) := by
  rw [processGps103Message]
  cases classified : Parsers.Gps103.classify raw with
  | mk kind text =>
      refine Keeps.rescue ?_ ?_
      · cases kind with
        | login => exact honest_handleLoginGps103 cfg ip
        | heartbeat => exact honest_handleHeartbeatGps103
        | tracker => exact honest_handleTracker cfg classified
        | unknown => exact (plainly (plain_log _)).bind fun _ => keeps_pure _
      · intro e
        have asked : Honest (Reported cfg .gps103 raw)
            (request Op.getImeiBySocket : Handler (Option Text)) :=
          plainly plain_getImeiBySocket
        cases e <;> exact (plainly (plain_log _)).bind fun _ => asked

end Gps103

/-! ### The FMB family -/

section Teltonika

open TeltonikaHandler
open Parsers.Teltonika (AvlRecord)

variable (cfg : Config) {reported : Reading → Prop} {raw : Bytes} {deviceId : Text}

theorem honest_safelyTeltonika {write : Handler Unit} (kept : Honest reported write) :
    Honest reported (safely write) :=
  kept.rescue fun _ => keeps_pure _

theorem honest_sendTeltonika (payload : Bytes) : Honest reported (send payload) :=
  plainly (Keeps.rescue ((plain_write payload).bind fun _ => plain_drain) fun _ => keeps_pure _)

theorem honest_handleLoginTeltonika (ip : Text) : Honest reported (handleLogin cfg ip raw) := by
  have closed : Honest reported (request Op.close : Handler Unit) :=
    plainly plain_close
  rw [handleLogin]
  split
  · exact closed.bind fun _ => keeps_pure _
  · exact keeps_throw _
  · refine (plainly (plain_getDeviceByImei _ _ _)).bind ?_
    intro deviceId?
    split
    · exact closed.bind fun _ => keeps_pure _
    · refine (plainly (plain_registerDevice _ _ _)).bind ?_
      intro _
      refine (confined_request (o := Op.forgetStatus _) trivial).bind ?_
      intro _
      refine (honest_sendTeltonika _).bind ?_
      intro _
      refine (honest_safelyTeltonika (plainly (plain_saveRaw cfg _ _ _ _))).bind ?_
      intro _
      refine (honest_safelyTeltonika (plainly (plain_markDeviceAlive _))).bind ?_
      intro _
      refine ((plainly plain_getVehicle).rescue fun _ => keeps_pure _).bind ?_
      intro vehicleId
      exact (honest_safelyTeltonika (honest_createEvent _ _ _ _ _ (by simp))).bind fun _ =>
        keeps_pure _

theorem honest_storeRecord {rec : AvlRecord}
    (read : reported ⟨.finite rec.latitude, .finite rec.longitude, .finite rec.speed,
      .finite rec.angle⟩) : Honest reported (storeRecord cfg deviceId rec) := by
  refine keeps_ite (keeps_pure _) ((plainly plain_clock).bind ?_)
  intro now
  refine keeps_ite (keeps_pure _) ?_
  split
  case isTrue => exact keeps_pure _
  case isFalse possible =>
    rw [Bool.not_eq_true', Bool.not_eq_false] at possible
    have saved := honest_saveWhole deviceId read possible rec.satellites rec.timestamp
    exact (saved.bind fun _ => keeps_pure _).rescue fun _ => keeps_pure _

theorem honest_storeRecords {records : List AvlRecord}
    (read : ∀ rec ∈ records, reported ⟨.finite rec.latitude, .finite rec.longitude,
      .finite rec.speed, .finite rec.angle⟩) :
    Honest reported (storeRecords cfg deviceId records) := by
  induction records with
  | nil => exact keeps_pure _
  | cons rec rest ih =>
      have later := ih fun other member => read other (List.mem_cons_of_mem rec member)
      refine (honest_storeRecord cfg (read rec List.mem_cons_self)).bind ?_
      intro settled
      exact keeps_ite (later.bind fun _ => keeps_pure _) (keeps_pure _)

theorem honest_refreshStatus (records : List AvlRecord) :
    Honest reported (refreshStatus deviceId records) := by
  have alive : ∀ now, Honest reported (refreshStatus.refreshAlive deviceId now) := by
    intro now
    refine (confined_request (o := Op.lastAlive deviceId) trivial).bind ?_
    intro last
    refine keeps_ite ?_ (keeps_pure _)
    exact (honest_safelyTeltonika (plainly (plain_markDeviceAlive true))).bind fun _ =>
      confined_request (o := Op.setLastAlive deviceId now) trivial
  refine (confined_request (o := Op.monotonic) trivial).bind ?_
  intro now
  cases newestIgnition records with
  | none => exact alive now
  | some ignition =>
      refine (confined_request (o := Op.lastIgnition deviceId) trivial).bind ?_
      intro cached
      refine keeps_ite ?_ (alive now)
      refine (honest_safelyTeltonika (honest_setIgnition ignition)).bind ?_
      intro _
      exact (confined_request (o := Op.setLastIgnition deviceId ignition) trivial).bind fun _ =>
        confined_request (o := Op.setLastAlive deviceId now) trivial

theorem honest_handleAvl : Honest (Reported cfg .teltonika raw) (handleAvl cfg raw) := by
  refine (plainly plain_getImeiBySocket).bind ?_
  intro found
  split
  · exact (plainly plain_close).bind fun _ => keeps_pure _
  · refine (plainly (plain_getDevice _)).bind ?_
    intro device?
    cases device? with
    | none => exact keeps_throw _
    | some device =>
        dsimp only
        cases parsed : Parsers.Teltonika.parseAvlPacket raw with
        | error e =>
            have refused : ∀ imei : Text, Honest (Reported cfg .teltonika raw)
                ((safely (saveRawFrame cfg device.deviceId raw true false)).bind fun _ =>
                  .pure (some imei)) := fun imei =>
              plainly ((Keeps.rescue (plain_saveRaw cfg _ _ _ _)
                fun _ => keeps_pure _).bind fun _ => keeps_pure _)
            cases e with
            | teltonikaCrcError => exact keeps_pure _
            | teltonikaParseError _ => exact refused _
            | unsupportedCodecError _ => exact refused _
            | _ => exact keeps_throw _
        | ok packet =>
            refine (honest_safelyTeltonika (plainly (plain_saveRaw cfg _ _ _ _))).bind ?_
            intro _
            refine (honest_refreshStatus packet.records).bind ?_
            intro _
            have stored : Honest (Reported cfg .teltonika raw)
                (storeRecords cfg device.deviceId packet.records) :=
              honest_storeRecords cfg fun rec member => ⟨packet, parsed, rec, member, rfl⟩
            exact stored.bind fun accepted => (honest_sendTeltonika _).bind fun _ => keeps_pure _

theorem honest_processTeltonikaFrame (ip : Text) :
    Honest (Reported cfg .teltonika raw) (processTeltonikaFrame cfg ip raw) :=
  Keeps.rescue (keeps_ite (honest_handleLoginTeltonika cfg ip) (honest_handleAvl cfg)) fun _ =>
    plainly plain_getImeiBySocket

end Teltonika

/-! ### All families -/

theorem honest_handler (cfg : Config) (family : Family) (ip : Text) (raw : Bytes) :
    Honest (Reported cfg family raw) ((pipelines cfg family).handler ip raw) := by
  cases family with
  | gt06 => exact honest_processPacket cfg ip
  | gps103 => exact honest_processGps103Message cfg ip
  | teltonika => exact honest_processTeltonikaFrame cfg ip

/-- Whatever a frame of any family holds and whatever fails, no impossible position is stored for
it, and none that it does not report. -/
theorem stored_positions_possible (cfg : Config) (family : Family) (ip : Text) (raw : Bytes)
    {trace : List Answered} {outcome : Except Exn (Option Text)}
    (ran : Executes ((pipelines cfg family).handler ip raw) trace outcome) {statement : DbWrite}
    {answer : Except Exn Bool} (executed : (⟨.execute statement, answer⟩ : Answered) ∈ trace) :
    Stored (Reported cfg family raw) statement := by
  obtain ⟨front, back, whole⟩ := List.append_of_mem executed
  have kept := honest_handler cfg family ip raw [] trivial
  exact (kept.executes ran).1 front _ back whole

/-- In every run of the gateway a statement stores a possible position of the frame at hand. -/
theorem positions_possible_in_runs (cfg : Config) {permitted : Gateway → Input → Prop}
    {g : Gateway} (reached : Reachable (Gateway.step cfg (pipelines cfg)) permitted .start g)
    {c : Conn} {statement : DbWrite} {answer : Except Exn Bool}
    (executed : .performed c ⟨.execute statement, answer⟩ ∈ g.history) :
    ∃ later earlier family raw,
      g.history = later ++ .performed c ⟨.execute statement, answer⟩ :: earlier ∧
      .detected c family ∈ earlier ∧ frame c earlier = some raw ∧
      Stored (Reported cfg family raw) statement := by
  have watched : Overseen (fun family raw _ => Rule (Reported cfg family raw))
      (fun _ _ _ _ => True) g := by
    refine overseen ?_ reached
    intro family ip raw
    exact honest_handler cfg family ip raw [] trivial
  obtain ⟨later, earlier, whole, family, raw, detected, begun, stored⟩ :=
    watched.obeys.exists_of_mem executed
  exact ⟨later, earlier, family, raw, whole, detected, begun, stored⟩

def boundPosition : Answered → Option (ℚ × ℚ × ℚ × ℚ)
  | ⟨.execute (.saveLocation _ latitude longitude speed heading _ _), _⟩ =>
      some (latitude, longitude, speed, heading)
  | _ => none

theorem executed_of_boundPosition {a : Answered} {lat lon fast course : ℚ}
    (bound : boundPosition a = some (lat, lon, fast, course)) :
    ∃ deviceId satellites eventTime answer,
      a = ⟨.execute (.saveLocation deviceId lat lon fast course satellites eventTime), answer⟩ := by
  obtain ⟨o, answer⟩ := a
  cases o with
  | execute statement =>
      cases statement with
      | saveLocation deviceId latitude longitude speed heading satellites eventTime =>
          cases bound
          exact ⟨deviceId, satellites, eventTime, answer, rfl⟩
      | _ => cases bound
  | _ => cases bound

theorem stored_positions_possible_sos : ∃ deviceId satellites eventTime,
    Stored (Reported defaults .gps103 (asciiBytes Delivery.Reports.sosReport))
      (.saveLocation deviceId (6936667 / 1000000) (79853333 / 1000000) 0 0 satellites
        eventTime) := by
  have bound : (Delivery.Reports.sosRun "359586015829802".toList true).1.filterMap boundPosition =
      [(6936667 / 1000000, 79853333 / 1000000, 0, 0)] := by decide +kernel
  obtain ⟨a, member, is⟩ := List.mem_filterMap.mp (bound ▸ List.mem_singleton_self _)
  obtain ⟨deviceId, satellites, eventTime, answer, rfl⟩ := executed_of_boundPosition is
  have ran : Executes ((pipelines defaults .gps103).handler []
      (asciiBytes Delivery.Reports.sosReport))
      (Delivery.Reports.sosRun "359586015829802".toList true).1
      (Delivery.Reports.sosRun "359586015829802".toList true).2 := executes_play _ _
  exact ⟨deviceId, satellites, eventTime,
    stored_positions_possible defaults .gps103 [] (asciiBytes Delivery.Reports.sosReport) ran
      member⟩

end TrackerGateway.Invariants.Positions
