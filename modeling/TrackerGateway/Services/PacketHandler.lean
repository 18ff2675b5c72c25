/- module: TrackerGateway/Services/PacketHandler
   source: src/services/packet_handler.py
   digest: The handling of one binary packet of the V5 family, up to its acknowledgement. -/

import TrackerGateway.Decoders.Information
import TrackerGateway.Parsers.CommandResponse
import TrackerGateway.Services.Storage

set_option autoImplicit false
set_option relaxedAutoImplicit false

namespace TrackerGateway.Services.PacketHandler

open Foundation.Coroutine (Program request demand)
open Foundation.Wire
open TrackerGateway.Runtime
open Parsers.V5
open Parsers.CommandResponse (parseCommandResponse)
open Decoders (decodeInformation)

/-- The registered device of a connection. A connection without an identity is closed. -/
def getConnectedDevice (imei : Option Text) : Handler (Option Entry) :=
  match truthy imei with
  | none => do
      request Op.close
      return none
  | some imei => request (Op.getDevice imei)

/-- Run a branch for the connection's device; its identity is returned when the branch ran. -/
def withDevice (connectionImei : Option Text) (body : Entry → Handler Unit) :
    Handler (Option Text) := do
  match ← getConnectedDevice connectionImei with
  | none => return none
  | some device =>
      body device
      return connectionImei

def handleLogin (cfg : Config) (ip : Text) (raw : Bytes) (protocol : Text) :
    Handler (Option Text) := do
  let login := parseLoginPacket raw
  match truthy (← getDeviceByImei login.imei .gt06 "V5".toList) with
  | none => return none
  | some deviceId =>
      registerDevice login.imei ip deviceId .gt06
      saveRaw cfg deviceId protocol (hex raw) true true
      let vehicleId ← getVehicleByDevice deviceId
      createEvent deviceId vehicleId "DEVICE_ONLINE".toList .low none none
        "Device connected to the gateway".toList []
      return some login.imei

def locationValid (l : Location) : Bool :=
  -90 ≤ l.latitude && l.latitude ≤ 90 && -180 ≤ l.longitude && l.longitude ≤ 180 &&
    l.speed ≤ 300 && l.heading ≤ 360

def storeLocation (cfg : Config) (raw : Bytes) (protocol : Text) (location : Location)
    (device : Entry) : Handler Unit := do
  saveRaw cfg device.deviceId protocol (hex raw) false true
  let _ ← saveLocation device.deviceId (.finite location.latitude) (.finite location.longitude)
    (.finite location.speed) (.finite location.heading) location.satellites
    location.timestamp.instant

/-- An impossible position is dropped but still counts as a packet of the device. -/
def handleLocation (cfg : Config) (raw : Bytes) (protocol : Text) (connectionImei : Option Text) :
    Handler (Option Text) := do
  let location ← demand (parseLocationPacket raw)
  if locationValid location then
    withDevice connectionImei (storeLocation cfg raw protocol location)
  else return connectionImei

def storeStatus (deviceId : Text) (status : TerminalStatus) : Handler Unit :=
  updateDeviceStatus deviceId status.batteryLevel status.gsmSignal status.info.ignitionStatus
    status.info.ignitionStatus (if status.info.powerCut then 1 else 0)

def handleStatus (cfg : Config) (raw : Bytes) (protocol : Text) (connectionImei : Option Text) :
    Handler (Option Text) :=
  withDevice connectionImei fun device => do
    let status ← demand (parseTerminalStatus raw)
    saveRaw cfg device.deviceId protocol (hex raw) false true
    storeStatus device.deviceId status

def handleHeartbeat (cfg : Config) (raw : Bytes) (protocol : Text)
    (connectionImei : Option Text) : Handler (Option Text) :=
  withDevice connectionImei fun device => do
    let heartbeat ← demand (parseTerminalStatus raw)
    saveRaw cfg device.deviceId protocol (hex raw) false true
    storeStatus device.deviceId heartbeat
    updateHeartbeat device.deviceId

def highSeverityAlarms : List Nat := [1, 2, 12, 13]

def alarmMetadata (alarm : Alarm) : List (Text × Json) :=
  [("alarm_type".toList, .int alarm.alarmType), ("speed".toList, .int alarm.location.speed),
    ("battery_level".toList, .int alarm.batteryLevel), ("gsm_signal".toList, .int alarm.gsmSignal),
    ("ignition_status".toList, .bool alarm.info.ignitionStatus),
    ("power_cut".toList, .bool alarm.info.powerCut), ("charging".toList, .bool alarm.info.charging),
    ("mcc".toList, .int alarm.mcc), ("mnc".toList, .int alarm.mnc), ("lac".toList, .int alarm.lac),
    ("cell_id".toList, .int alarm.cellId)]

def alarmSeverity (alarmType : Nat) : Severity :=
  if highSeverityAlarms.contains alarmType then .high else .medium

def handleAlarm (cfg : Config) (raw : Bytes) (protocol : Text) (connectionImei : Option Text) :
    Handler (Option Text) :=
  withDevice connectionImei fun device => do
    let alarm ← demand (parseAlarmPacket raw)
    saveRaw cfg device.deviceId protocol (hex raw) true true
    let vehicleId ← getVehicleByDevice device.deviceId
    createEvent device.deviceId vehicleId (getAlarmName alarm.alarmType)
      (alarmSeverity alarm.alarmType) (some (.finite alarm.location.latitude))
      (some (.finite alarm.location.longitude))
      ("Alarm: ".toList ++ getAlarmName alarm.alarmType ++ " at ".toList ++
        alarm.location.timestamp.text)
      (alarmMetadata alarm)

/-- Information and configuration packets: their items become one event. -/
def handleInformation (cfg : Config) (raw : Bytes) (protocol : Text)
    (connectionImei : Option Text) (eventType description : Text) : Handler (Option Text) :=
  withDevice connectionImei fun device => do
    saveRaw cfg device.deviceId protocol (hex raw) true true
    match parseInformationPacket raw with
    | none => return ()
    | some info =>
        if info.values.isEmpty then return ()
        else
          let decoded ← demand (decodeInformation info.values)
          let vehicleId ← getVehicleByDevice device.deviceId
          createEvent device.deviceId vehicleId eventType .low none none description decoded

/-- What a command acknowledgement echoes: a protocol byte and a serial number. -/
def parseCommandAck (raw : Bytes) : Except Exn (Text × Text) := do
  let bodyStart := if raw.take 2 = longMarker then 5 else 4
  let echoedProtocol ← index raw bodyStart
  return (hex [echoedProtocol], hex (slice raw (bodyStart + 1) (bodyStart + 3)))

def handleCommandAck (cfg : Config) (raw : Bytes) (protocol : Text)
    (connectionImei : Option Text) : Handler (Option Text) :=
  withDevice connectionImei fun device => do
    saveRaw cfg device.deviceId protocol (hex raw) true true
    let _ ← demand (parseCommandAck raw)

def handleCommandReply (cfg : Config) (raw : Bytes) (protocol : Text)
    (connectionImei : Option Text) : Handler (Option Text) :=
  withDevice connectionImei fun device => do
    saveRaw cfg device.deviceId protocol (hex raw) true true
    let response ← demand (parseCommandResponse raw)
    handleCommandResponse device.deviceId response.command response.rawText (.object response.data)

/-- An unknown packet is kept for an identified device and names no one. -/
def handleUnknown (cfg : Config) (raw : Bytes) (protocol : Text) (connectionImei : Option Text) :
    Handler (Option Text) := do
  match truthy connectionImei with
  | none => return none
  | some imei =>
      match ← request (Op.getDevice imei) with
      | none => return none
      | some device =>
          saveRaw cfg device.deviceId protocol (hex raw) true false
          return none

def dispatch (cfg : Config) (ip : Text) (raw : Bytes) (protocol : UInt8)
    (connectionImei : Option Text) : Handler (Option Text) :=
  let name := hex [protocol]
  match protocol.toNat with
  | 0x01 => handleLogin cfg ip raw name
  | 0x12 | 0x22 => handleLocation cfg raw name connectionImei
  | 0x13 => handleStatus cfg raw name connectionImei
  | 0x23 => handleHeartbeat cfg raw name connectionImei
  | 0x26 => handleAlarm cfg raw name connectionImei
  | 0x94 => handleInformation cfg raw name connectionImei "DEVICE_INFORMATION".toList
      "Device configuration received".toList
  | 0x8a => handleCommandAck cfg raw name connectionImei
  | 0x21 => handleCommandReply cfg raw name connectionImei
  | 0x6e => handleInformation cfg raw name connectionImei "DEVICE_CONFIGURATION".toList
      "Device configuration packet received on connect".toList
  | _ => handleUnknown cfg raw name connectionImei

def acknowledge (raw : Bytes) : Handler Unit :=
  Program.rescue (do
    let ack ← demand (buildAck raw)
    writeSocket ack
    drainSocket) fun _ => return ()

/-- Handle one packet. An exception in a branch names no device; the acknowledgement is sent in
every case. -/
def processPacket (cfg : Config) (ip : Text) (raw : Bytes) : Handler (Option Text) :=
  if raw.take 2 = shortMarker ∨ raw.take 2 = longMarker then do
    let protocol ← demand (index raw (protocolIndex raw))
    let connectionImei ← request Op.getImeiBySocket
    let currentImei ← (dispatch cfg ip raw protocol connectionImei).rescue fun _ => return none
    acknowledge raw
    return currentImei
  else return none

end TrackerGateway.Services.PacketHandler
