/- module: TrackerGateway/Services/Storage
   source: src/utils/numeric.py, src/services/tracking_service.py, src/services/event_service.py,
     src/services/raw_packet_policy.py, src/services/command_response_service.py, src/repositories
   digest: The service functions that write to the database, and the cleaning of what they bind. -/

import TrackerGateway.Runtime.Effects

set_option autoImplicit false
set_option relaxedAutoImplicit false

namespace TrackerGateway.Services

open Foundation.Coroutine (Program request demand)
open Foundation.Wire (Text Bytes Number Instant binary64 binary64_natCast roundTo roundTo_natCast)
open TrackerGateway.Runtime

/-- The decimal text of a rounded double. The value may be the exact quotient that the double was
rounded from. For a rounded double below a billion its shortest text is this decimal. -/
def cleaned (places : Nat) (q : ℚ) : ℚ := roundTo places (binary64 q)

theorem cleaned_natCast {places n : Nat} (small : n < 2 ^ 53) : cleaned places n = n := by
  rw [cleaned, binary64_natCast small, roundTo_natCast]

/-- Round for a numeric column; infinities and the undefined number are refused. -/
def cleanDecimal (value : Number) (places : Nat) : Except Exn ℚ :=
  match value with
  | .finite q => .ok (cleaned places q)
  | .infinite _ | .nan => .error (.valueError "non-finite numeric value rejected".toList)

/-- Both coordinates rounded, or neither when one is missing or out of bounds. -/
def cleanCoordinates (latitude longitude : Option Number) : Option ℚ × Option ℚ :=
  match latitude, longitude with
  | some (.finite lat), some (.finite lon) =>
      if -90 ≤ lat ∧ lat ≤ 90 ∧ -180 ≤ lon ∧ lon ≤ 180 then
        (some (cleaned 6 lat), some (cleaned 6 lon))
      else (none, none)
  | _, _ => (none, none)

/-- Store one position, history and live; `true` when the live row was written. -/
def saveLocation (deviceId : Text) (latitude longitude speed heading : Number) (satellites : Nat)
    (eventTime : Instant) : Handler Bool := do
  let latitude ← demand (cleanDecimal latitude 6)
  let longitude ← demand (cleanDecimal longitude 6)
  let speed ← demand (cleanDecimal speed 2)
  let heading ← demand (cleanDecimal heading 2)
  execute (.saveLocation deviceId latitude longitude speed heading satellites eventTime)

def updateDeviceStatus (deviceId : Text) (batteryLevel gpsSignal : Nat)
    (ignitionStatus movementStatus : Bool) (powerStatus : Nat) : Handler Unit := do
  let now ← request Op.utcNow
  let _ ← execute (.deviceStatus deviceId batteryLevel gpsSignal ignitionStatus movementStatus
    powerStatus now)

def markDeviceAlive (deviceId : Text) (heartbeat : Bool) : Handler Unit := do
  let now ← request Op.utcNow
  let _ ← execute (.deviceAlive deviceId heartbeat now)

def setIgnition (deviceId : Text) (ignitionStatus : Bool) : Handler Unit := do
  let now ← request Op.utcNow
  let _ ← execute (.ignition deviceId ignitionStatus now)

def updateHeartbeat (deviceId : Text) : Handler Unit := do
  let now ← request Op.utcNow
  let _ ← execute (.heartbeat deviceId now)

inductive Severity
  | low | medium | high | critical
  deriving DecidableEq

def Severity.value : Severity → Nat
  | .low => 1
  | .medium => 2
  | .high => 3
  | .critical => 4

/-- Insert one event; unusable coordinates become a missing position, an empty metadata object
becomes no metadata. -/
def createEvent (deviceId : Text) (vehicleId : Option Text) (eventType : Text)
    (severity : Severity) (latitude longitude : Option Number) (description : Text)
    (metadata : List (Text × Json)) : Handler Unit := do
  let position := cleanCoordinates latitude longitude
  let createdAt ← request Op.utcNow
  let _ ← execute (.event {
    deviceId, vehicleId, eventType
    severity := severity.value
    latitude := position.1
    longitude := position.2
    description
    metadata := if metadata.isEmpty then none else some (.object metadata)
    createdAt })

/-- Whether the raw bytes of a packet are kept; routine packets are sampled. -/
def shouldStoreRaw (cfg : Config) (always : Bool) : Handler Bool :=
  match cfg.rawPacketMode with
  | .off => pure false
  | .all => pure true
  | .selective =>
      if always then pure true
      else do
        let sample ← request Op.random
        pure (decide (sample < cfg.rawPacketSampleRate))

def saveRaw (cfg : Config) (deviceId protocol hexData : Text) (always parsed : Bool) :
    Handler Unit := do
  if ← shouldStoreRaw cfg always then
    let receivedAt ← request Op.utcNow
    let _ ← execute (.rawPacket deviceId protocol hexData (hexData.length / 2) receivedAt parsed)

/-- Store the reply to a command, without the characters the text columns refuse. -/
def handleCommandResponse (deviceId command rawText : Text) (data : Json) : Handler Unit := do
  let _ ← execute (.commandResponse deviceId command
    (rawText.filter (· != Char.ofNat 0)) data)

end TrackerGateway.Services
