/- module: TrackerGateway/Services/Tables
   source: src/services/tracking_service.py
   digest: What the statement of a position does to the history and to the live row. -/

import TrackerGateway.Foundation.Table.Keyed
import TrackerGateway.Services.Storage

set_option autoImplicit false
set_option relaxedAutoImplicit false

namespace TrackerGateway.Services

open Foundation.Table
open Foundation.Wire (Text Instant)
open TrackerGateway.Runtime

structure TrackingRow where
  deviceId : Text
  latitude : ℚ
  longitude : ℚ
  speed : ℚ
  heading : ℚ
  satellites : Nat
  eventTime : Instant
  deriving DecidableEq

/-- The columns of the unique index. -/
def TrackingRow.key (row : TrackingRow) : Text × Instant := (row.deviceId, row.eventTime)

structure LiveRow where
  deviceId : Text
  vehicleId : Text
  latitude : ℚ
  longitude : ℚ
  speed : ℚ
  heading : ℚ
  ignitionStatus : Bool
  movementStatus : Bool
  lastUpdate : Instant
  deriving DecidableEq

/-- A row of the `DeviceAssignments` table; status 1 is an active assignment. -/
structure Assignment where
  deviceId : Text
  vehicleId : Text
  status : ℤ

/-- The tables the statement of a position reads or writes; of `DeviceStatuses` the device and its
ignition. -/
structure Tables where
  gpsTrackings : List TrackingRow
  currentLocations : List LiveRow
  deviceAssignments : List Assignment
  deviceStatuses : List (Text × Bool)

/-- The vehicle of the device's active assignment. The statement orders nothing and is cut to one
row; of several active assignments the first is taken here. -/
def Tables.activeVehicle (t : Tables) (deviceId : Text) : Option Text :=
  (t.deviceAssignments.find? fun a => a.deviceId = deviceId ∧ a.status = 1).map (·.vehicleId)

/-- The insertion into the history; in the idempotent mode a stored position stays as it is. -/
def insertTracking (idempotent : Bool) (row : TrackingRow) (rows : List TrackingRow) :
    List TrackingRow :=
  if idempotent then insertNew TrackingRow.key row rows else rows ++ [row]

def TrackingRow.live (row : TrackingRow) (vehicleId : Text) (ignition : Option Bool) : LiveRow where
  deviceId := row.deviceId
  vehicleId := vehicleId
  latitude := row.latitude
  longitude := row.longitude
  speed := row.speed
  heading := row.heading
  ignitionStatus := ignition.getD false
  movementStatus := 0 < row.speed
  lastUpdate := row.eventTime

/-- The one statement of a position; `true` when it returned a row. -/
def saveLocationSql (idempotent : Bool) (row : TrackingRow) (t : Tables) : Bool × Tables :=
  let tracked := { t with gpsTrackings := insertTracking idempotent row t.gpsTrackings }
  match t.activeVehicle row.deviceId with
  | none => (false, tracked)
  | some vehicleId =>
      let live := row.live vehicleId (t.deviceStatuses.lookup row.deviceId)
      (true, { tracked with
        currentLocations := upsert LiveRow.deviceId (fun _ new => new) live t.currentLocations })

def trackingOf : DbWrite → Option TrackingRow
  | .saveLocation deviceId latitude longitude speed heading satellites eventTime =>
      some ⟨deviceId, latitude, longitude, speed, heading, satellites, eventTime⟩
  | _ => none

end TrackerGateway.Services
