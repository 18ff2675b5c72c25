/- module: TrackerGateway/Runtime/Effects
   source: src/services/device_registry.py, src/services/tracking_service.py,
     src/services/event_service.py, src/repositories
   digest: What a packet handler may ask of its surroundings, and the answers it can get. -/

import TrackerGateway.Config
import TrackerGateway.Foundation.Coroutine.Program
import TrackerGateway.Foundation.Wire.Calendar
import TrackerGateway.Foundation.Wire.Numeral

set_option autoImplicit false
set_option relaxedAutoImplicit false

namespace TrackerGateway.Runtime

open Foundation.Coroutine (Program request demand)
open Foundation.Wire (Text Bytes Number Instant paddedHex upper)

abbrev Conn := Nat

/-- The exceptions of the modelled code, and those of the code it calls. -/
inductive Exn
  | indexError
  | typeError
  | overflowError
  | valueError (message : Text)
  | timeoutError
  | gps103ParseError (message : Text)
  | frameOverflowError (message : Text)
  | teltonikaFrameError (message : Text)
  | teltonikaParseError (message : Text)
  | teltonikaCrcError
  | unsupportedCodecError (codec : Nat)
  | foreign (name message : Text)
  deriving DecidableEq

def Exn.text : Exn → Text
  | .indexError => "index out of range".toList
  | .typeError => "'NoneType' object is not subscriptable".toList
  | .overflowError => "int too large to convert to float".toList
  | .timeoutError => []
  | .teltonikaCrcError => "CRC mismatch".toList
  | .unsupportedCodecError codec => "unsupported codec 0x".toList ++ upper (paddedHex 2 codec)
  | .valueError m | .gps103ParseError m | .frameOverflowError m | .teltonikaFrameError m
  | .teltonikaParseError m | .foreign _ m => m

inductive Json
  | null
  | bool (b : Bool)
  | int (n : ℤ)
  | float (x : Number)
  | text (t : Text)
  | object (members : List (Text × Json))

def Json.ofText? : Option Text → Json
  | none => .null
  | some t => .text t

structure Entry where
  deviceId : Text
  ip : Text
  protocol : Family
  socket : Conn
  connectedAt : Instant
  lastSeen : Instant
  lastPositionAt : Option Instant
  lastSpeed : Option Number
  lastPollAt : Option Instant
  deriving DecidableEq

structure EventRow where
  deviceId : Text
  vehicleId : Option Text
  eventType : Text
  severity : Nat
  latitude : Option ℚ
  longitude : Option ℚ
  description : Text
  metadata : Option Json
  createdAt : Instant

/-- The statements that write on behalf of a device, with the values they bind. -/
inductive DbWrite
  | rawPacket (deviceId protocolNumber rawHex : Text) (packetLength : Nat) (receivedAt : Instant)
      (parsed : Bool)
  | saveLocation (deviceId : Text) (latitude longitude speed heading : ℚ) (satellites : Nat)
      (eventTime : Instant)
  | deviceStatus (deviceId : Text) (batteryLevel gpsSignal : Nat)
      (ignitionStatus movementStatus : Bool) (powerStatus : Nat) (now : Instant)
  | deviceAlive (deviceId : Text) (heartbeat : Bool) (now : Instant)
  | ignition (deviceId : Text) (ignitionStatus : Bool) (now : Instant)
  | heartbeat (deviceId : Text) (now : Instant)
  | event (row : EventRow)
  | commandResponse (deviceId command rawResponse : Text) (parsedData : Json)

def DbWrite.device : DbWrite → Text
  | .rawPacket d .. | .saveLocation d .. | .deviceStatus d .. | .deviceAlive d ..
  | .ignition d .. | .heartbeat d .. | .commandResponse d .. => d
  | .event row => row.deviceId

/-- A piece of a log line: text, or a number whose spelling is left to the runtime. -/
inductive LogPart
  | text (t : Text)
  | number (x : Number)

/-- The operations of a packet handler. Those on a socket or on the reverse lookup concern the
connection whose packet is handled. -/
inductive Op
  | registerDevice (imei ip deviceId : Text) (protocol : Family) (connectedAt lastSeen : Instant)
  | getImeiBySocket
  | getDevice (imei : Text)
  | notePosition (imei : Text) (speed : Number) (now : Instant)
  | lastAlive (deviceId : Text)
  | setLastAlive (deviceId : Text) (seconds : ℚ)
  | lastIgnition (deviceId : Text)
  | setLastIgnition (deviceId : Text) (ignition : Bool)
  | forgetStatus (deviceId : Text)
  | close
  | write (payload : Bytes)
  | drain
  | utcNow
  | monotonic
  | random
  | getDeviceByImei (imei : Text) (protocolType : Family) (defaultModel : Text)
  | getVehicleByDevice (deviceId : Text)
  | execute (statement : DbWrite)
  | log (line : List LogPart)

@[reducible] def Res : Op → Type
  | .getImeiBySocket => Option Text
  | .getDevice _ => Option Entry
  | .lastAlive _ => Option ℚ
  | .lastIgnition _ => Option Bool
  | .write _ | .drain => Except Exn Unit
  | .utcNow => Instant
  | .monotonic | .random => ℚ
  | .getDeviceByImei .. | .getVehicleByDevice _ => Except Exn (Option Text)
  | .execute _ => Except Exn Bool
  | .registerDevice .. | .notePosition .. | .setLastAlive .. | .setLastIgnition ..
  | .forgetStatus _ | .close | .log _ => Unit

/-- Whether an operation is awaited, so that other connections may run before its answer. -/
def Op.awaits : Op → Bool
  | .drain | .getDeviceByImei .. | .getVehicleByDevice _ | .execute _ => true
  | _ => false

abbrev Handler := Program Op Res Exn

abbrev Answered := Sigma Res

def writeSocket (payload : Bytes) : Handler Unit := (request (.write payload)).bind demand

/-- Wait until the written bytes have left, or raise. -/
def drainSocket : Handler Unit := (request .drain).bind demand

def getDeviceByImei (imei : Text) (protocolType : Family) (defaultModel : Text) :
    Handler (Option Text) :=
  (request (.getDeviceByImei imei protocolType defaultModel)).bind demand

def getVehicleByDevice (deviceId : Text) : Handler (Option Text) :=
  (request (.getVehicleByDevice deviceId)).bind demand

def log (line : List LogPart) : Handler Unit := request (Op.log line)

/-- Run one database statement; `true` when it returned a row. -/
def execute (statement : DbWrite) : Handler Bool := (request (.execute statement)).bind demand

/-- `device_registry.register_device`, with the two clock readings it takes. -/
def registerDevice (imei ip deviceId : Text) (protocol : Family) : Handler Unit := do
  let connectedAt ← request Op.utcNow
  let lastSeen ← request Op.utcNow
  request (Op.registerDevice imei ip deviceId protocol connectedAt lastSeen)

/-- One byte of a packet, or the exception of an index past its end. -/
def index (b : Bytes) (i : Nat) : Except Exn UInt8 :=
  match b[i]? with
  | some byte => .ok byte
  | none => .error .indexError

@[simp] theorem index_eq_ok_iff {b : Bytes} {i : Nat} {byte : UInt8} :
    index b i = .ok byte ↔ b[i]? = some byte := by
  rw [index]
  split <;> simp_all

/-- A text that counts as true: `none` and the empty text do not. -/
def truthy (t : Option Text) : Option Text := t.filter (!·.isEmpty)

@[simp] theorem truthy_none : truthy none = none := rfl

@[simp] theorem truthy_eq_some_iff {t : Option Text} {value : Text} :
    truthy t = some value ↔ t = some value ∧ value ≠ [] := by
  simp [truthy, Option.filter_eq_some_iff]

end TrackerGateway.Runtime
