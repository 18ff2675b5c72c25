/- module: TrackerGateway/Repositories/DeviceRepository
   source: src/repositories/device_repository.py, src/database.py, src/test/smoke_test_schema.sql
   digest: The lookup of an identity at login, its statements, and what they do to two tables. -/

import TrackerGateway.Foundation.Coroutine.Interleaving
import TrackerGateway.Foundation.Table.Keyed
import TrackerGateway.Runtime.Effects

set_option autoImplicit false
set_option relaxedAutoImplicit false

namespace TrackerGateway.Repositories

open Foundation.Coroutine
open Foundation.Table
open Foundation.Wire (Text)
open TrackerGateway.Runtime (Exn truthy)

/-- A row of the `GpsDevices` table; its id is the text `str` makes of it. -/
structure GpsDevice where
  deviceId : Text
  imeiNumber : Text
  simNumber : Option Text
  deviceModel : Option Text
  protocolType : Option Text
  activationStatus : Option ℤ
  deriving DecidableEq

structure SetupDevice where
  imeiNumber : Text
  deviceCategory : Option Text
  simNumber : Option Text
  status : Option Text
  deriving DecidableEq

structure Database where
  gpsDevices : List GpsDevice
  setupDevices : List SetupDevice
  deriving DecidableEq

def activated : Text := "Activated".toList

/-- What the lookup asks of the connection pool, of the two tables and of its surroundings. -/
inductive Op
  | acquire
  | release
  | fetchRegistered (imei : Text)
  | fetchSetup (imei : Text)
  | insertDevice (row : GpsDevice)
  | fetchDevice (imei : Text)
  | uuid4
  | log (line : Text)

@[reducible] def Res : Op → Type
  | .acquire | .release | .insertDevice _ => Except Exn Unit
  | .fetchRegistered _ => Except Exn (Option (Text × Option Text))
  | .fetchSetup _ => Except Exn (Option SetupDevice)
  | .fetchDevice _ => Except Exn (Option Text)
  | .uuid4 => Text
  | .log _ => Unit

abbrev Query := Program Op Res Exn

def getDbConnection : Query Unit := (request .acquire).bind demand

def releaseDbConnection : Query Unit := (request .release).bind demand

def log (line : Text) : Query Unit := request (Op.log line)

/-- The connection goes back to the pool behind the body, also when the body raised. -/
def managedConnection {α : Type} (body : Query α) : Query α := do
  getDbConnection
  let result ← body.rescue fun e => do
    releaseDbConnection
    .throw e
  releaseDbConnection
  return result

/-- What the statements on the first connection lead to: the function returns, or goes on. -/
inductive Lookup
  | returns (deviceId : Option Text)
  | goesOn (setup : SetupDevice)

/-- Steps 1 and 2: is the identity registered, is it set up and activated? -/
def lookup (imei : Text) : Query Lookup := do
  match ← (request (.fetchRegistered imei)).bind demand with
  | some (deviceId, status) =>
      -- A device without a setup row and one with an unset status both read as null here.
      if status ≠ none ∧ status ≠ some activated then
        log ("🚫 IMEI ".toList ++ imei ++ " Status = '".toList ++ status.getD [] ++
          "' — rejected (already registered)".toList)
        return .returns none
      else return .returns (some deviceId)
  | none =>
      match ← (request (.fetchSetup imei)).bind demand with
      | none =>
          log ("🚫 IMEI ".toList ++ imei ++
            " not found in SetupShalotrackDevices — unknown device".toList)
          return .returns none
      | some setup =>
          if setup.status ≠ some activated then
            log ("🚫 IMEI ".toList ++ imei ++ " Status = '".toList ++
              setup.status.getD "None".toList ++ "' — rejected".toList)
            return .returns none
          else return .goesOn setup

def registration (deviceId imei : Text) (setup : SetupDevice) (protocolType defaultModel : Text) :
    GpsDevice where
  deviceId := deviceId
  imeiNumber := imei
  simNumber := setup.simNumber
  deviceModel := some ((truthy setup.deviceCategory).getD defaultModel)
  protocolType := some protocolType
  activationStatus := some 1

/-- Insert or ignore, and read back the id that is stored. -/
def insertAndFetch (row : GpsDevice) : Query (Option Text) := do
  (request (.insertDevice row)).bind demand
  (request (.fetchDevice row.imeiNumber)).bind demand

def register (row : GpsDevice) : Query (Option Text) := do
  match ← managedConnection (insertAndFetch row) with
  | some deviceId =>
      log ("✅ GpsDevices record created — IMEI: ".toList ++ row.imeiNumber ++
        " → DeviceId: ".toList ++ deviceId)
      return some deviceId
  | none => return none

/-- Step 3: register an activated device under a new id, unless another call was faster. -/
def autoRegister (imei : Text) (setup : SetupDevice) (protocolType defaultModel : Text) :
    Query (Option Text) := do
  log ("📋 IMEI ".toList ++ imei ++ " is Activated — auto-registering into GpsDevices".toList)
  let deviceId ← request .uuid4
  (register (registration deviceId imei setup protocolType defaultModel)).rescue fun e => do
    log ("❌ GpsDevices auto-registration error for ".toList ++ imei ++ ": ".toList ++ e.text)
    return none

def getDeviceByImei (imei protocolType defaultModel : Text) : Query (Option Text) := do
  getDbConnection
  let looked ← (lookup imei).rescue fun e => do
    log ("❌ Device lookup error for ".toList ++ imei ++ ": ".toList ++ e.text)
    return .returns none
  releaseDbConnection
  match looked with
  | .returns deviceId => return deviceId
  | .goesOn setup => autoRegister imei setup protocolType defaultModel

structure Login where
  imei : Text
  protocolType : Text
  defaultModel : Text
  deriving DecidableEq

def Login.call (l : Login) : Query (Option Text) :=
  getDeviceByImei l.imei l.protocolType l.defaultModel

namespace Database

/-- The devices of an identity, each with the status of every setup row of that identity, or with
null where there is none. -/
def registered (db : Database) (imei : Text) : List (Text × Option Text) :=
  (db.gpsDevices.filter (·.imeiNumber = imei)).flatMap fun g =>
    match db.setupDevices.filter (·.imeiNumber = g.imeiNumber) with
    | [] => [(g.deviceId, none)]
    | s :: rest => (s :: rest).map fun s => (g.deviceId, s.status)

def setupOf (db : Database) (imei : Text) : List SetupDevice :=
  db.setupDevices.filter (·.imeiNumber = imei)

def devicesOf (db : Database) (imei : Text) : List Text :=
  (db.gpsDevices.filter (·.imeiNumber = imei)).map (·.deviceId)

/-- The insertion leaves a table that has the identity as it is. -/
def insert (db : Database) (row : GpsDevice) : Database :=
  { db with gpsDevices := insertNew GpsDevice.imeiNumber row db.gpsDevices }

/-- The primary key: a row that is not ignored has an id of its own. -/
def Accepts (db : Database) (row : GpsDevice) : Prop :=
  row.imeiNumber ∈ db.gpsDevices.map GpsDevice.imeiNumber ∨
    row.deviceId ∉ db.gpsDevices.map GpsDevice.deviceId

end Database

/-- One row of a query that orders nothing and is cut to one, or none if there is none. -/
def AnyOf {ρ : Type} (rows : List ρ) : Option ρ → Prop
  | none => rows = []
  | some row => row ∈ rows

/-- What a statement answers in a state of the tables and makes of it. Each may fail; a failed
insertion may have been carried out, with only its answer lost. -/
def Effect (db : Database) : Sigma Res → Database → Prop
  | ⟨.fetchRegistered imei, answer⟩, db' =>
      db' = db ∧ ∀ row, answer = .ok row → AnyOf (db.registered imei) row
  | ⟨.fetchSetup imei, answer⟩, db' =>
      db' = db ∧ ∀ row, answer = .ok row → AnyOf (db.setupOf imei) row
  | ⟨.fetchDevice imei, answer⟩, db' =>
      db' = db ∧ ∀ row, answer = .ok row → AnyOf (db.devicesOf imei) row
  | ⟨.insertDevice row, .ok _⟩, db' => db.Accepts row ∧ db' = db.insert row
  | ⟨.insertDevice row, .error _⟩, db' => db' = db ∨ db.Accepts row ∧ db' = db.insert row
  | ⟨.acquire, _⟩, db' | ⟨.release, _⟩, db' | ⟨.uuid4, _⟩, db' | ⟨.log _, _⟩, db' => db' = db

end TrackerGateway.Repositories
