/- module: TrackerGateway/Services/Gps103Handler
   source: src/services/gps103_handler.py
   digest: The handling of one text message of the TK103 family, with the log lines it writes. -/

import TrackerGateway.Parsers.Gps103
import TrackerGateway.Services.Storage

set_option autoImplicit false
set_option relaxedAutoImplicit false

namespace TrackerGateway.Services.Gps103Handler

open Foundation.Coroutine (Program request demand)
open Foundation.Wire
open TrackerGateway.Runtime
open Parsers.Gps103

def say (s : String) : LogPart := .text s.toList

/-- Device input in a log line: capped in length, quoted and escaped. -/
def safe (text : Text) (limit : Nat) : LogPart := .text (quoted (text.take limit))

def safeBytes (raw : Bytes) : LogPart := safe (asciiReplace raw) 120

def send (payload : Bytes) : Handler Unit :=
  Program.rescue (do
    writeSocket payload
    drainSocket
    log [say "📤 Reply sent: ", .text (asciiReplace payload)])
    fun ex => log [say "❌ Reply error: ", .text ex.text]

def safely (label : String) (write : Handler Unit) : Handler Unit :=
  write.rescue fun ex => log [say "❌ ", say label, say " failed: ", .text ex.text]

def saveRawMessage (cfg : Config) (deviceId : Text) (raw : Bytes) (always : Bool) : Handler Unit :=
  saveRaw cfg deviceId Family.gps103.name (hex raw) always true

/-- Whether a reported position is physically possible and not the origin. -/
def locationIsValid (latitude longitude : ℚ) (speed heading : Number) : Bool :=
  !(latitude = 0 && longitude = 0) &&
    -90 ≤ latitude && latitude ≤ 90 && -180 ≤ longitude && longitude ≤ 180 &&
    speed.between 0 300 && heading.between 0 360

/-- The identity of the connection, if the message belongs to it; otherwise the connection is
closed. -/
def authenticatedImei (messageImei : Text) : Handler (Option Text) := do
  match truthy (← request Op.getImeiBySocket) with
  | none =>
      log [say "❌ GPS103 message before login — connection closed to force re-login"]
      request Op.close
      return none
  | some connectionImei =>
      if messageImei ≠ connectionImei then
        log [say "🚨 IMEI MISMATCH — socket authenticated as ", .text connectionImei,
          say " but message claims ", .text messageImei, say ". Dropping connection."]
        request Op.close
        return none
      else return some connectionImei

def handleLogin (cfg : Config) (ip text : Text) (raw : Bytes) : Handler (Option Text) := do
  let imei ← demand (parseLogin text)
  log [say "📡 GPS103 login — IMEI: ", .text imei]
  match truthy (← getDeviceByImei imei .gps103 "TK103".toList) with
  | none =>
      log [say "🚫 REJECTED — IMEI not admin-activated: ", .text imei, say " from ", .text ip]
      request Op.close
      return none
  | some deviceId =>
      log [say "✅ Authorised Device — IMEI: ", .text imei, say " → ", .text deviceId]
      registerDevice imei ip deviceId .gps103
      -- The unit waits for the reply before it reports: answer first, do the bookkeeping after.
      send loginReply
      safely "raw packet save" (saveRawMessage cfg deviceId raw true)
      safely "mark online" (markDeviceAlive deviceId false)
      let vehicleId ← (getVehicleByDevice deviceId).rescue fun _ => return none
      safely "online event" (createEvent deviceId vehicleId "DEVICE_ONLINE".toList .low none none
        "Device connected to the gateway".toList
        [("protocol".toList, .text Family.gps103.name)])
      return some imei

def handleHeartbeat (text : Text) : Handler (Option Text) := do
  let imei ← demand (parseHeartbeat text)
  match truthy (← authenticatedImei imei) with
  | none => return none
  | some connectionImei =>
      send heartbeatReply
      match ← request (Op.getDevice connectionImei) with
      | none => .throw .typeError
      | some device =>
          safely "heartbeat update" (markDeviceAlive device.deviceId true)
          return some connectionImei

/-- The fix whose position may be stored; a rejected or missing one is logged. -/
def usableFix (imei : Text) (report : Report) : Handler (Option Fix) :=
  match report.fix with
  | some fix =>
      if locationIsValid fix.latitude fix.longitude fix.speed fix.heading then return some fix
      else do
        log [say "🚨 REJECTED invalid location — lat=", .number (.finite fix.latitude), say " lon=",
          .number (.finite fix.longitude), say " speed=", .number fix.speed, say " heading=",
          .number fix.heading]
        return none
  | none => do
      log [say "ℹ️ No GPS fix in report from ", .text imei, say " (fix_type=",
        .text (report.fixType.getD "None".toList), say ") — position skipped"]
      return none

def alarmVehicle (deviceId : Text) (alarm : Option Text) : Handler (Option Text) :=
  match alarm with
  | none => return none
  | some _ => (getVehicleByDevice deviceId).rescue fun ex => do
      log [say "❌ vehicle lookup failed: ", .text ex.text]
      return none

/-- The time of a report, or the time it was received. -/
def eventTimeOf (fix : Fix) : Handler Instant :=
  match fix.timestamp with
  | some timestamp => return timestamp
  | none => do
      let now ← request Op.utcNow
      log [say "⚠️ Could not derive a device timestamp — using server receive time"]
      return now

def storeFix (imei deviceId : Text) : Option Fix → Handler Unit
  | none => return ()
  | some fix => do
      let eventTime ← eventTimeOf fix
      safely "location save" (do
        let _ ← saveLocation deviceId (.finite fix.latitude) (.finite fix.longitude) fix.speed
          fix.heading 0 eventTime)
      let now ← request Op.utcNow
      request (Op.notePosition imei fix.speed now)

def alarmMetadata (report : Report) (fix : Option Fix) : List (Text × Json) :=
  [("protocol".toList, .text Family.gps103.name), ("keyword".toList, .text report.keyword),
    ("speed".toList, (fix.map fun fix => Json.float fix.speed).getD .null),
    ("ignition".toList, (report.ignition.map Json.bool).getD .null),
    ("gps_fix".toList, .bool fix.isSome)]

def recordAlarm (deviceId : Text) (vehicleId : Option Text) (report : Report) (fix : Option Fix) :
    Option Text → Handler Unit
  | none => return ()
  | some alarm => do
      safely "alarm event" (createEvent deviceId vehicleId alarm
        (if highSeverityAlarms.contains alarm then .high else .medium)
        (fix.map fun fix => .finite fix.latitude) (fix.map fun fix => .finite fix.longitude)
        ("Alarm: ".toList ++ alarm) (alarmMetadata report fix))
      log [say "🚨 Alarm event recorded: ", .text alarm]

def storeIgnition (deviceId : Text) : Option Bool → Handler Unit
  | none => return ()
  | some ignition => safely "ignition update" (setIgnition deviceId ignition)

def noteKeyword (imei : Text) (report : Report) : Handler Unit :=
  if report.knownKeyword then return ()
  else log [say "ℹ️ Unrecognised GPS103 keyword ", safe report.keyword 40, say " from ",
    .text imei, say " — treated as a position report"]

/-- The unit repeats an SOS until it is acknowledged. -/
def confirmSos (imei : Text) (report : Report) : Handler Unit :=
  if report.alarmName = some "SOS".toList then send (buildHelpMeAck imei) else return ()

def processReport (cfg : Config) (raw : Bytes) (imei deviceId : Text) (report : Report) :
    Handler Unit := do
  noteKeyword imei report
  let fix ← usableFix imei report
  confirmSos imei report
  safely "raw packet save" (saveRawMessage cfg deviceId raw
    (report.alarmName.isSome || !report.knownKeyword))
  storeIgnition deviceId report.ignition
  let vehicleId ← alarmVehicle deviceId report.alarmName
  storeFix imei deviceId fix
  recordAlarm deviceId vehicleId report fix report.alarmName

def handleTracker (cfg : Config) (text : Text) (raw : Bytes) : Handler (Option Text) := do
  let report ← demand (parseTracker cfg text)
  match truthy (← authenticatedImei report.imei) with
  | none => return none
  | some imei =>
      match ← request (Op.getDevice imei) with
      | none => .throw .typeError
      | some device =>
          processReport cfg raw imei device.deviceId report
          return some imei

def dispatch (cfg : Config) (ip : Text) (raw : Bytes) (kind : Kind) (text : Text) :
    Handler (Option Text) :=
  match kind with
  | .login => handleLogin cfg ip text raw
  | .heartbeat => handleHeartbeat text
  | .tracker => handleTracker cfg text raw
  | .unknown => do
      log [say "❓ Unknown GPS103 message from ", .text ip, say ": ", safeBytes raw]
      return none

/-- Handle one message; after an exception the connection keeps its identity. -/
def processGps103Message (cfg : Config) (ip : Text) (raw : Bytes) : Handler (Option Text) :=
  let (kind, text) := classify raw
  (dispatch cfg ip raw kind text).rescue fun ex => do
    match ex with
    | .gps103ParseError message =>
        log [say "❌ Malformed GPS103 ", .text kind.name, say " message: ", .text message,
          say " — ", safeBytes raw]
    | ex => log [say "❌ GPS103 PACKET ERROR [", .text kind.name, say "]: ", .text ex.text]
    request Op.getImeiBySocket

end TrackerGateway.Services.Gps103Handler
