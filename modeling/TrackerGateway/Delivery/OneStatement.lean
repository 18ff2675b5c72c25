/- module: TrackerGateway/Delivery/OneStatement
   source: src/services/tracking_service.py, src/repositories/device_repository.py
   digest: A position stored in one statement against the same position stored table by table. -/

import TrackerGateway.Delivery.LivePosition
import TrackerGateway.Foundation.Coroutine.Stateful
import TrackerGateway.Invariants.Positions
import TrackerGateway.Runtime.Conversions

set_option autoImplicit false
set_option relaxedAutoImplicit false

namespace TrackerGateway.Delivery.OneStatement

open Foundation.Coroutine
open Foundation.Table
open Foundation.Wire
open TrackerGateway.Runtime
open Invariants.Positions (Reading Reported)
open LivePosition (Call)
open Server (calm)
open Services

inductive Statement
  | insertTracking (row : TrackingRow)
  | selectVehicle (deviceId : Text)
  | selectIgnition (deviceId : Text)
  | upsertLive (row : LiveRow)

abbrev Reply : Statement → Type
  | .insertTracking _ | .upsertLive _ => Except Exn Unit
  | .selectVehicle _ => Except Exn (Option Text)
  | .selectIgnition _ => Except Exn (Option Bool)

abbrev Query (α : Type) : Type := Program Statement Reply Exn α

/-- Python's `x > 0`. -/
def isPositive : Number → Bool
  | .finite q => 0 < q
  | .infinite negative => !negative
  | .nan => false

def saveTracking (c : Call) : Query Unit := do
  let latitude ← demand (cleanDecimal c.latitude 6)
  let longitude ← demand (cleanDecimal c.longitude 6)
  let speed ← demand (cleanDecimal c.speed 2)
  let heading ← demand (cleanDecimal c.heading 2)
  demand (← request (Statement.insertTracking ⟨c.deviceId, latitude, longitude, speed, heading,
    c.satellites, c.eventTime⟩))

/-- The vehicle of the device; none after an exception. -/
def getVehicleByDevice (deviceId : Text) : Query (Option Text) :=
  ((request (Statement.selectVehicle deviceId)).bind demand).rescue fun _ => .pure none

def updateCurrentLocation (c : Call) (vehicleId : Text) : Query Unit := do
  let ignition ← demand (← request (Statement.selectIgnition c.deviceId))
  let latitude ← demand (cleanDecimal c.latitude 6)
  let longitude ← demand (cleanDecimal c.longitude 6)
  let speed ← demand (cleanDecimal c.speed 2)
  let heading ← demand (cleanDecimal c.heading 2)
  demand (← request (Statement.upsertLive ⟨c.deviceId, vehicleId, latitude, longitude, speed,
    heading, ignition.getD false, isPositive c.speed, c.eventTime⟩))

/-- What one statement has come to replace: the history, the vehicle, and for an assigned device the
live row. -/
def saveByTables (c : Call) : Query Bool := do
  saveTracking c
  match ← getVehicleByDevice c.deviceId with
  | none => return false
  | some vehicleId =>
      updateCurrentLocation c vehicleId
      return true

def reply (t : Tables) : (s : Statement) → Reply s
  | .insertTracking _ | .upsertLive _ => .ok ()
  | .selectVehicle deviceId => .ok (t.activeVehicle deviceId)
  | .selectIgnition deviceId => .ok (t.deviceStatuses.lookup deviceId)

def effect (t : Tables) : Statement → Tables
  | .insertTracking row => { t with gpsTrackings := t.gpsTrackings ++ [row] }
  | .upsertLive row =>
      { t with currentLocations :=
          upsert LiveRow.deviceId (fun _ new => new) row t.currentLocations }
  | .selectVehicle _ | .selectIgnition _ => t

/-- A database without a unique index on the history, in which no statement raises. -/
def byTables : Surroundings Statement Reply Tables where
  admits t a := a.2 = reply t a.1
  after t a := effect t a.1

def answerOne (idempotent : Bool) (t : Tables) : (o : Op) → Res o
  | .execute statement =>
      match trackingOf statement with
      | some row => .ok (saveLocationSql idempotent row t).1
      | none => .ok true
  | o => calm [] o

def effectOne (idempotent : Bool) (t : Tables) : Op → Tables
  | .execute statement =>
      match trackingOf statement with
      | some row => (saveLocationSql idempotent row t).2
      | none => t
  | _ => t

def byStatement (idempotent : Bool) : Surroundings Op Res Tables where
  admits t a := a.2 = answerOne idempotent t a.1
  after t a := effectOne idempotent t a.1

/-- The outcome of a call of `save_location`, and the tables behind it. -/
def saveOne (idempotent : Bool) (c : Call) (t : Tables) : Except Exn Bool × Tables :=
  (enact (byStatement idempotent) (answerOne idempotent) c.program t).2

def savePlain (c : Call) (t : Tables) : Except Exn Bool × Tables :=
  (enact byTables reply (saveByTables c) t).2

/-- Calls one after the other; a call that raises leaves its outcome and goes on. -/
def saveAll (save : Call → Tables → Except Exn Bool × Tables) :
    List Call → Tables → List (Except Exn Bool) × Tables
  | [], t => ([], t)
  | c :: calls, t =>
      ((save c t).1 :: (saveAll save calls (save c t).2).1, (saveAll save calls (save c t).2).2)

def rowOf (c : Call) : Except Exn TrackingRow := do
  let latitude ← cleanDecimal c.latitude 6
  let longitude ← cleanDecimal c.longitude 6
  let speed ← cleanDecimal c.speed 2
  let heading ← cleanDecimal c.heading 2
  return ⟨c.deviceId, latitude, longitude, speed, heading, c.satellites, c.eventTime⟩

section Calls

variable {idempotent : Bool} {c : Call} {t : Tables} {e : Exn} {row : TrackingRow}

theorem program_eq (c : Call) :
    c.program = (demand (rowOf c)).bind fun row => execute (LivePosition.statementOfRow row) := by
  rw [rowOf]
  simp only [demand_bind]
  rfl

theorem saveTracking_eq (c : Call) : saveTracking c = (demand (rowOf c)).bind fun row =>
    (request (Statement.insertTracking row)).bind demand := by
  rw [rowOf]
  simp only [demand_bind]
  rfl

def liveOf (c : Call) (row : TrackingRow) (vehicleId : Text) (ignition : Option Bool) : LiveRow :=
  { row.live vehicleId ignition with movementStatus := isPositive c.speed }

theorem updateCurrentLocation_eq (c : Call) (vehicleId : Text) :
    updateCurrentLocation c vehicleId =
      (request (Statement.selectIgnition c.deviceId)).bind fun answer =>
        (demand answer).bind fun ignition => (demand (rowOf c)).bind fun row =>
          (request (Statement.upsertLive (liveOf c row vehicleId ignition))).bind demand := by
  rw [rowOf]
  simp only [demand_bind]
  rfl

theorem rowOf_ok (is : rowOf c = .ok row) :
    row.deviceId = c.deviceId ∧ cleanDecimal c.speed 2 = .ok row.speed := by
  rw [rowOf] at is
  obtain ⟨latitude, -, is⟩ := bind_eq_ok_iff.mp is
  obtain ⟨longitude, -, is⟩ := bind_eq_ok_iff.mp is
  obtain ⟨speed, rounded, is⟩ := bind_eq_ok_iff.mp is
  obtain ⟨heading, -, is⟩ := bind_eq_ok_iff.mp is
  cases is
  exact ⟨rfl, rounded⟩

theorem saveOne_error (raises : rowOf c = .error e) : saveOne idempotent c t = (.error e, t) := by
  rw [saveOne, program_eq, raises]
  rfl

theorem saveOne_ok (is : rowOf c = .ok row) : saveOne idempotent c t =
    (.ok (saveLocationSql idempotent row t).1, (saveLocationSql idempotent row t).2) := by
  rw [saveOne, program_eq, is]
  rfl

theorem savePlain_error (raises : rowOf c = .error e) : savePlain c t = (.error e, t) := by
  rw [savePlain, saveByTables, saveTracking_eq, raises]
  rfl

theorem savePlain_ok (is : rowOf c = .ok row) : savePlain c t =
    match t.activeVehicle row.deviceId with
    | none => (.ok false, { t with gpsTrackings := t.gpsTrackings ++ [row] })
    | some vehicleId => (.ok true, { t with
        gpsTrackings := t.gpsTrackings ++ [row]
        currentLocations := upsert LiveRow.deviceId (fun _ new => new)
          (liveOf c row vehicleId (t.deviceStatuses.lookup row.deviceId))
          t.currentLocations }) := by
  rw [savePlain, saveByTables, saveTracking_eq, is, (rowOf_ok is).1]
  have same :
      Tables.activeVehicle { t with gpsTrackings := t.gpsTrackings ++ [row] } c.deviceId =
        t.activeVehicle c.deviceId := rfl
  cases vehicle : t.activeVehicle c.deviceId with
  | none =>
      simp [enact, byTables, reply, effect, getVehicleByDevice, same, vehicle]
  | some vehicleId =>
      simp [enact, byTables, reply, effect, getVehicleByDevice, same, vehicle,
        updateCurrentLocation_eq, is]

end Calls

/-- The history is the same; where stored positions are kept, it holds the first of each key only.
-/
def SameHistory (idempotent : Bool) (rows plain : List TrackingRow) : Prop :=
  if idempotent then
    Unique TrackingRow.key rows ∧
      ∀ key, lookup TrackingRow.key key rows = lookup TrackingRow.key key plain
  else rows = plain

/-- The tables of the one path show what those of the other do. -/
structure Agrees (idempotent : Bool) (t plain : Tables) : Prop where
  history : SameHistory idempotent t.gpsTrackings plain.gpsTrackings
  live : t.currentLocations = plain.currentLocations
  assignments : t.deviceAssignments = plain.deviceAssignments
  statuses : t.deviceStatuses = plain.deviceStatuses

theorem sameHistory_insert {idempotent : Bool} {rows plain : List TrackingRow}
    (same : SameHistory idempotent rows plain) (row : TrackingRow) :
    SameHistory idempotent (insertTracking idempotent row rows) (plain ++ [row]) := by
  cases idempotent with
  | false => exact congrArg (· ++ [row]) same
  | true =>
      obtain ⟨unique, same⟩ := same
      refine ⟨unique.insertNew, ?_⟩
      intro key
      rw [insertTracking, if_pos rfl, lookup_insertNew, lookup_append_singleton,
        lookup_append_singleton, same]

/-- Rounding a speed for its column does not stop the device. -/
def Steady (speed : Number) : Prop := ∀ q, speed = .finite q → (0 < q ↔ 0 < cleaned 2 q)

section Steps

variable {idempotent : Bool} {c : Call} {t plain : Tables}

theorem liveOf_steady {row : TrackingRow} (steady : Steady c.speed) (is : rowOf c = .ok row)
    (vehicleId : Text) (ignition : Option Bool) :
    liveOf c row vehicleId ignition = row.live vehicleId ignition := by
  have rounded := (rowOf_ok is).2
  cases speed : c.speed with
  | finite q =>
      rw [speed] at rounded
      have same := Except.ok.inj rounded
      have moves := steady q speed
      simp only [liveOf, TrackingRow.live, speed, isPositive, ← same, moves]
  | infinite negative =>
      rw [speed] at rounded
      cases rounded
  | nan =>
      rw [speed] at rounded
      cases rounded

/-- One call: both paths return or raise the same, and the tables go on agreeing. -/
theorem agrees_step (steady : Steady c.speed) (agrees : Agrees idempotent t plain) :
    (saveOne idempotent c t).1 = (savePlain c plain).1 ∧
      Agrees idempotent (saveOne idempotent c t).2 (savePlain c plain).2 := by
  obtain ⟨history, live, assignments, statuses⟩ := agrees
  cases is : rowOf c with
  | error e =>
      rw [saveOne_error is, savePlain_error is]
      exact ⟨rfl, history, live, assignments, statuses⟩
  | ok row =>
      have vehicles : t.activeVehicle row.deviceId = plain.activeVehicle row.deviceId := by
        rw [Tables.activeVehicle, assignments, Tables.activeVehicle]
      have grown := sameHistory_insert history row
      rw [saveOne_ok is, savePlain_ok is, saveLocationSql, vehicles]
      cases plain.activeVehicle row.deviceId with
      | none => exact ⟨rfl, grown, live, assignments, statuses⟩
      | some vehicleId =>
          refine ⟨rfl, grown, ?_, assignments, statuses⟩
          change upsert LiveRow.deviceId (fun _ new => new)
              (row.live vehicleId (t.deviceStatuses.lookup row.deviceId)) t.currentLocations =
            upsert LiveRow.deviceId (fun _ new => new)
              (liveOf c row vehicleId (plain.deviceStatuses.lookup row.deviceId))
              plain.currentLocations
          rw [liveOf_steady steady is, live, statuses]

theorem agrees_all {calls : List Call} (steady : ∀ c ∈ calls, Steady c.speed)
    (agrees : Agrees idempotent t plain) :
    (saveAll (saveOne idempotent) calls t).1 = (saveAll savePlain calls plain).1 ∧
      Agrees idempotent (saveAll (saveOne idempotent) calls t).2
        (saveAll savePlain calls plain).2 := by
  induction calls generalizing t plain with
  | nil => exact ⟨rfl, agrees⟩
  | cons c calls ih =>
      obtain ⟨same, agrees⟩ := agrees_step (steady c List.mem_cons_self) agrees
      obtain ⟨later, agrees⟩ := ih (fun c member => steady c (List.mem_cons_of_mem _ member)) agrees
      exact ⟨congrArg₂ List.cons same later, agrees⟩

end Steps

/-- The double of a number from about a hundredth on is hardly smaller. -/
theorem binary64_large {q : ℚ} (large : 9 / 1000 ≤ q) : q * (99 / 100) ≤ binary64 q := by
  have positive : 0 ≤ q := by linarith
  have tiny : (2 : ℚ) ^ (-1022 : ℤ) ≤ 2 ^ (-7 : ℤ) :=
    zpow_le_zpow_right₀ (by norm_num) (by norm_num)
  have normal : (2 : ℚ) ^ (-1022 : ℤ) ≤ |q| := by
    rw [abs_of_nonneg positive]
    refine tiny.trans (le_trans ?_ large)
    norm_num
  have error := (abs_le.mp (binary64_relative normal)).1
  rw [abs_of_nonneg positive] at error
  have few : q / 2 ^ 53 ≤ q / 100 := by
    gcongr
    norm_num
  linarith

theorem steady_of_apart {q : ℚ} (apart : q ≤ 0 ∨ 9 / 1000 ≤ q) : Steady (.finite q) := by
  intro q' is
  obtain rfl := Number.finite.inj is
  rw [cleaned, roundTo, div_pos_iff_of_pos_right (by norm_num), Int.cast_pos]
  rcases apart with still | moves
  · apply iff_of_false (not_lt.mpr still)
    rw [not_lt]
    apply roundHalfEven_le
    rw [Int.cast_zero]
    exact mul_nonpos_of_nonpos_of_nonneg (binary64_nonpos still) (by norm_num)
  · apply iff_of_true (by linarith)
    apply roundHalfEven_pos
    norm_num
    linarith [binary64_large moves]

theorem steady_natCast (n : Nat) : Steady (.finite n) := by
  apply steady_of_apart
  rcases Nat.eq_zero_or_pos n with rfl | positive
  · exact .inl (by simp)
  · have one : (1 : ℚ) ≤ n := by exact_mod_cast positive
    exact .inr (by linarith)

theorem steady_roundTo (speed : Number) : Steady (speed.roundTo 2) := by
  cases speed with
  | finite q =>
      apply steady_of_apart
      rcases le_or_gt (roundHalfEven (q * 10 ^ 2)) 0 with none_ | some_
      · apply Or.inl
        apply binary64_nonpos
        exact div_nonpos_of_nonpos_of_nonneg (by exact_mod_cast none_) (by norm_num)
      · have one : (1 : ℚ) ≤ roundHalfEven (q * 10 ^ 2) := by exact_mod_cast some_
        have large : 1 / 100 ≤ Foundation.Wire.roundTo 2 q := by
          rw [Foundation.Wire.roundTo]
          norm_num at one ⊢
          linarith
        have near := binary64_large (q := Foundation.Wire.roundTo 2 q) (by linarith)
        exact .inr (by linarith)
  | infinite negative => rintro q ⟨⟩
  | nan => rintro q ⟨⟩

theorem steady_fix {cfg : Config} {fields : List Text} {fix : Parsers.Gps103.Fix}
    (parsed : Parsers.Gps103.parseFix cfg fields = .ok (some fix)) : Steady fix.speed := by
  rw [Parsers.Gps103.parseFix] at parsed
  obtain ⟨latitude, -, parsed⟩ := bind_eq_ok_iff.mp parsed
  obtain ⟨longitude, -, parsed⟩ := bind_eq_ok_iff.mp parsed
  cases latitude with
  | none => cases parsed
  | some latitude =>
      cases longitude with
      | none => cases parsed
      | some longitude =>
          dsimp only at parsed
          split at parsed
          · cases parsed
          · cases parsed
            dsimp only
            cases parseFloat (Parsers.Gps103.field fields 11) with
            | none => exact steady_natCast 0
            | some speed => exact steady_roundTo _

theorem steady_report {cfg : Config} {text : Text} {report : Parsers.Gps103.Report}
    {fix : Parsers.Gps103.Fix} (parsed : Parsers.Gps103.parseTracker cfg text = .ok report)
    (has : report.fix = some fix) : Steady fix.speed := by
  rw [Parsers.Gps103.parseTracker] at parsed
  split at parsed
  · cases parsed
  · split at parsed
    · cases parsed
    · split at parsed
      · cases block : Parsers.Gps103.parseFix cfg (text.splitOn ',') with
        | error e =>
            rw [block] at parsed
            cases parsed
        | ok fix? =>
            rw [block] at parsed
            cases parsed
            obtain rfl : fix? = some fix := has
            exact steady_fix block
      · cases parsed
        cases has

theorem steady_reported {cfg : Config} {family : Family} {raw : Bytes} {reading : Reading}
    (reported : Reported cfg family raw reading) : Steady reading.speed := by
  cases family with
  | gt06 =>
      obtain ⟨location, -, rfl⟩ := reported
      exact steady_natCast location.speed
  | gps103 =>
      obtain ⟨text, report, fix, -, parsed, has, rfl⟩ := reported
      exact steady_report parsed has
  | teltonika =>
      obtain ⟨packet, -, rec, -, rfl⟩ := reported
      exact steady_natCast rec.speed

def readingOf (c : Call) : Reading := ⟨c.latitude, c.longitude, c.speed, c.heading⟩

def FromFrame (cfg : Config) (c : Call) : Prop :=
  ∃ family raw, Reported cfg family raw (readingOf c)

/-- For every sequence of positions that frames report, on any devices and in any order, the one
statement returns or raises call by call what the history, the look-up of the vehicle and the live
row did one after the other, and leaves the same tables; only the history holds the first of the
positions of a device and a time once, where it is asked to. -/
theorem one_statement_agrees (cfg : Config) (idempotent : Bool) {calls : List Call}
    (reported : ∀ c ∈ calls, FromFrame cfg c) {t plain : Tables}
    (agrees : Agrees idempotent t plain) :
    (saveAll (saveOne idempotent) calls t).1 = (saveAll savePlain calls plain).1 ∧
      Agrees idempotent (saveAll (saveOne idempotent) calls t).2
        (saveAll savePlain calls plain).2 := by
  refine agrees_all ?_ agrees
  intro c member
  obtain ⟨family, raw, reading⟩ := reported c member
  exact steady_reported reading

def fixed : Bytes := [0x78, 0x78, 0x15, 0x12, 26, 10, 11, 12, 0, 0, 0xC9, 0x00, 0xC0, 0x42, 0x20,
  0x08, 0x95, 0x44, 0x00, 30, 0x14, 90]

def callOf (location : Parsers.V5.Location) : Call :=
  ⟨['d'], .finite location.latitude, .finite location.longitude, .finite location.speed,
    .finite location.heading, location.satellites, location.timestamp.instant⟩

/-- A position that is resent is returned for like a new one on both paths, and kept once. -/
theorem resent_agrees : ∃ location, Parsers.V5.parseLocationPacket fixed = .ok location ∧
    (saveAll (saveOne true) [callOf location, callOf location] LivePosition.assigned).1 =
        (saveAll savePlain [callOf location, callOf location] LivePosition.assigned).1 ∧
      Agrees true
        (saveAll (saveOne true) [callOf location, callOf location] LivePosition.assigned).2
        (saveAll savePlain [callOf location, callOf location] LivePosition.assigned).2 := by
  have seen : (Parsers.V5.parseLocationPacket fixed).toOption.isSome = true := by decide +kernel
  cases parsed : Parsers.V5.parseLocationPacket fixed with
  | error e =>
      rw [parsed] at seen
      cases seen
  | ok location =>
      refine ⟨location, rfl, one_statement_agrees defaults true ?_
        ⟨⟨List.nodup_nil, fun _ => rfl⟩, rfl, rfl, rfl⟩⟩
      intro c member
      have one : c = callOf location := by simpa using member
      rw [one]
      exact ⟨.gt06, fixed, location, .inl parsed, rfl⟩

end TrackerGateway.Delivery.OneStatement
