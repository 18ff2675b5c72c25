/- module: TrackerGateway/Services/TeltonikaHandler
   source: src/services/teltonika_handler.py
   digest: The handling of one frame of the FMB family: login, or records up to the reply count. -/

import Mathlib.Data.List.Sort
import TrackerGateway.Parsers.Teltonika
import TrackerGateway.Services.Storage

set_option autoImplicit false
set_option relaxedAutoImplicit false

namespace TrackerGateway.Services.TeltonikaHandler

open Foundation.Coroutine (Program request demand)
open Foundation.Wire
open TrackerGateway.Runtime
open Parsers.Teltonika

/-- Seconds between two refreshes of a device that sends data. -/
def aliveRefreshSeconds : ℚ := 60

def send (payload : Bytes) : Handler Unit :=
  Program.rescue (do
    writeSocket payload
    drainSocket) fun _ => return ()

def safely (write : Handler Unit) : Handler Unit := write.rescue fun _ => return ()

def saveRawFrame (cfg : Config) (deviceId : Text) (raw : Bytes) (always parsed : Bool) :
    Handler Unit :=
  saveRaw cfg deviceId Family.teltonika.name (hex raw) always parsed

def positionOk (rec : AvlRecord) : Bool :=
  -90 ≤ rec.latitude && rec.latitude ≤ 90 && -180 ≤ rec.longitude && rec.longitude ≤ 180 &&
    rec.speed ≤ 300 && rec.angle ≤ 360

def handleLogin (cfg : Config) (ip : Text) (raw : Bytes) : Handler (Option Text) :=
  match parseLogin raw with
  | .error (.teltonikaParseError _) => do
      request Op.close
      return none
  | .error ex => .throw ex
  | .ok imei => do
      match truthy (← getDeviceByImei imei .teltonika "FMB".toList) with
      | none =>
          request Op.close
          return none
      | some deviceId =>
          registerDevice imei ip deviceId .teltonika
          -- The first packet of a fresh connection refreshes the cached state.
          request (Op.forgetStatus deviceId)
          send loginAccept
          safely (saveRawFrame cfg deviceId raw true true)
          safely (markDeviceAlive deviceId false)
          let vehicleId ← (getVehicleByDevice deviceId).rescue fun _ => return none
          safely (createEvent deviceId vehicleId "DEVICE_ONLINE".toList .low none none
            "Device connected to the gateway".toList
            [("protocol".toList, .text Family.teltonika.name)])
          return some imei

/-- `true` when the record is dealt with: stored, or skipped on purpose. -/
def storeRecord (cfg : Config) (deviceId : Text) (rec : AvlRecord) : Handler Bool :=
  if !rec.hasFix then return true
  else do
    let now ← request Op.utcNow
    if now + cfg.teltonikaMaxFutureSeconds * 1000000 < rec.timestamp then return true
    else if !positionOk rec then return true
    else
      Program.rescue (do
        let _ ← saveLocation deviceId (.finite rec.latitude) (.finite rec.longitude)
          (.finite rec.speed) (.finite rec.angle) rec.satellites rec.timestamp
        return true) fun _ => return false

/-- Store the records in order up to the first failure; the number dealt with. -/
def storeRecords (cfg : Config) (deviceId : Text) : List AvlRecord → Handler Nat
  | [] => return 0
  | rec :: rest => do
      if ← storeRecord cfg deviceId rec then
        let accepted ← storeRecords cfg deviceId rest
        return accepted + 1
      else return 0

def newestIgnition (records : List AvlRecord) : Option Bool :=
  (records.insertionSort fun a b => b.timestamp ≤ a.timestamp).findSome? AvlRecord.ignition

def refreshStatus (deviceId : Text) (records : List AvlRecord) : Handler Unit := do
  let now ← request Op.monotonic
  match newestIgnition records with
  | some ignition =>
      let cached ← request (Op.lastIgnition deviceId)
      if cached ≠ some ignition then
        safely (setIgnition deviceId ignition)
        request (Op.setLastIgnition deviceId ignition)
        request (Op.setLastAlive deviceId now)
      else refreshAlive now
  | none => refreshAlive now
where
  /-- Mark the device alive unless that was done a short while ago. -/
  refreshAlive (now : ℚ) : Handler Unit := do
    let last ← request (Op.lastAlive deviceId)
    if last.all fun last => aliveRefreshSeconds ≤ now - last then
      safely (markDeviceAlive deviceId true)
      request (Op.setLastAlive deviceId now)

def handleAvl (cfg : Config) (raw : Bytes) : Handler (Option Text) := do
  match truthy (← request Op.getImeiBySocket) with
  | none =>
      request Op.close
      return none
  | some imei =>
      match ← request (Op.getDevice imei) with
      | none => .throw .typeError
      | some device =>
          match parseAvlPacket raw with
          | .error .teltonikaCrcError => return some imei
          | .error (.teltonikaParseError _) | .error (.unsupportedCodecError _) =>
              safely (saveRawFrame cfg device.deviceId raw true false)
              return some imei
          | .error ex => .throw ex
          | .ok packet =>
              safely (saveRawFrame cfg device.deviceId raw false true)
              refreshStatus device.deviceId packet.records
              let accepted ← storeRecords cfg device.deviceId packet.records
              send (ack accepted)
              return some imei

/-- Handle one frame; after an exception the connection keeps its identity. -/
def processTeltonikaFrame (cfg : Config) (ip : Text) (raw : Bytes) : Handler (Option Text) :=
  Program.rescue (if isLoginFrame raw then handleLogin cfg ip raw else handleAvl cfg raw)
    fun _ => request Op.getImeiBySocket

end TrackerGateway.Services.TeltonikaHandler
