/- module: TrackerGateway/Server/HandleDevice
   source: src/tcp_server.py
   digest: Every connection's execution of `handle_device`, stepping between awaits over the shared
     registry, slot counter and caches. -/

import TrackerGateway.Foundation.Transition.Run
import TrackerGateway.Services.DeviceRegistry
import TrackerGateway.Services.Gps103Handler
import TrackerGateway.Services.PacketHandler
import TrackerGateway.Services.TeltonikaHandler

set_option autoImplicit false
set_option relaxedAutoImplicit false

namespace TrackerGateway.Server

open Foundation.Coroutine (Program)
open Foundation.Transition (Reachable)
open Foundation.Wire (Text Bytes Number Instant)
open TrackerGateway.Runtime
open Services (Registry)

/-- The framer and the handler of a family. The handler also takes the peer's address. -/
structure Pipeline where
  framer : Bytes → Except Exn (List Bytes × Bytes)
  handler : Text → Bytes → Handler (Option Text)

def pipelines (cfg : Config) : Family → Pipeline
  | .gt06 => ⟨fun buffer => .ok (Parsers.V5.extractPackets buffer),
      Services.PacketHandler.processPacket cfg⟩
  | .gps103 => ⟨Parsers.Gps103.extractMessages cfg, Services.Gps103Handler.processGps103Message cfg⟩
  | .teltonika => ⟨Parsers.Teltonika.extractFrames cfg,
      Services.TeltonikaHandler.processTeltonikaFrame cfg⟩

/-- The local variables of a connection whose family is known. -/
structure Session where
  protocol : Family
  imei : Option Text
  buffer : Bytes

inductive Phase
  /-- not started -/
  | absent
  /-- awaiting the first bytes; the bytes received so far are too few to tell the family -/
  | probing (received : Bytes)
  /-- about to take the next packet of a batch -/
  | batch (session : Session) (packets : List Bytes)
  /-- inside the handler of a packet; `packets` is the rest of the batch -/
  | handling (session : Session) (program : Handler (Option Text)) (packets : List Bytes)
  /-- awaiting more bytes -/
  | reading (session : Session)
  /-- at the beginning of the `finally` block, with the remembered identity -/
  | finishing (imei : Option Text)
  /-- in the `finally` block, awaiting the offline mark of a device -/
  | offlining (imei deviceId : Text)
  /-- in the `finally` block, awaiting the end of the closed connection -/
  | closing
  | ended

/-- One connection: its peer, its execution, and why its writer would be closing. -/
structure Task where
  ip : Text
  phase : Phase
  writerClosed : Bool
  lost : Bool

inductive Event
  | acquired (c : Conn)
  | refused (c : Conn)
  | detected (c : Conn) (protocol : Family)
  | began (c : Conn) (raw : Bytes)
  | performed (c : Conn) (answered : Answered)
  | returned (c : Conn) (outcome : Except Exn (Option Text))
  | offlined (c : Conn) (imei deviceId : Text) (outcome : Except Exn Unit)
  | released (c : Conn)
  | ended (c : Conn)
  | pushed (c : Conn) (payload : Bytes)

/-- The process: its globals, its connections, the one that runs until its next await, and the
history so far, newest first. -/
structure Gateway where
  registry : Registry
  lastAlive : Text → Option ℚ
  lastIgnition : Text → Option Bool
  lastPacketAt : Option Instant
  connectionCount : ℤ
  tasks : Conn → Task
  turn : Option Conn
  history : List Event

def Gateway.start : Gateway where
  registry := .empty
  lastAlive := fun _ => none
  lastIgnition := fun _ => none
  lastPacketAt := none
  connectionCount := 0
  tasks := fun _ => ⟨[], .absent, false, false⟩
  turn := none
  history := []

/-- How an awaited read ends; no bytes is the end of the stream. -/
inductive ReadOutcome
  | data (b : Bytes)
  | timeout
  | failed (e : Exn)

/-- What moves the process: the scheduler's choice of a connection and the answer it receives. -/
inductive Input
  | connect (c : Conn) (ip : Text)
  | arrive (c : Conn) (outcome : ReadOutcome)
  | resume (c : Conn) (answers : (o : Op) → Res o)
  | offline (c : Conn) (outcome : Except Exn Unit)
  | waitClosed (c : Conn)
  | lose (c : Conn)
  | push (imei : Text) (required : Option Family) (payload : Bytes)

/-- Whether the execution continues without an await. -/
def Phase.runnable : Phase → Bool
  | .batch .. | .finishing _ => true
  | .handling _ (.call o _) _ => !o.awaits
  | .handling .. => true
  | _ => false

def Phase.closes : Phase → Bool
  | .closing => true
  | _ => false

def Phase.isEnded : Phase → Bool
  | .ended => true
  | _ => false

@[simp] theorem Phase.isEnded_iff {phase : Phase} : phase.isEnded = true ↔ phase = .ended := by
  cases phase <;> simp [Phase.isEnded]

namespace Gateway

def record (g : Gateway) (e : Event) : Gateway := { g with history := e :: g.history }

def enter (g : Gateway) (c : Conn) (phase : Phase) : Gateway := { g with
  tasks := Function.update g.tasks c { g.tasks c with
    phase
    writerClosed := (g.tasks c).writerClosed || phase.closes }
  turn := if phase.runnable then some c else none }

def closeWriter (g : Gateway) (c : Conn) : Gateway := { g with
  tasks := Function.update g.tasks c { g.tasks c with writerClosed := true } }

/-- The answer to an operation of connection `c` and its effect on the process. Operations on the
world outside take their answer from the input. -/
def perform (g : Gateway) (c : Conn) (answers : (o : Op) → Res o) : (o : Op) → Res o × Gateway
  | .registerDevice imei ip deviceId protocol connectedAt lastSeen =>
      ((), { g with
        registry := g.registry.register id imei ip deviceId c protocol connectedAt lastSeen })
  | .getImeiBySocket => (g.registry.getImeiBySocket id c, g)
  | .getDevice imei => (g.registry.getDevice imei, g)
  | .notePosition imei speed now =>
      ((), { g with registry := g.registry.notePosition imei speed now })
  | .lastAlive deviceId => (g.lastAlive deviceId, g)
  | .setLastAlive deviceId seconds =>
      ((), { g with lastAlive := Function.update g.lastAlive deviceId (some seconds) })
  | .lastIgnition deviceId => (g.lastIgnition deviceId, g)
  | .setLastIgnition deviceId ignition =>
      ((), { g with lastIgnition := Function.update g.lastIgnition deviceId (some ignition) })
  | .forgetStatus deviceId =>
      ((), { g with
        lastAlive := Function.update g.lastAlive deviceId none
        lastIgnition := Function.update g.lastIgnition deviceId none })
  | .close => ((), g.closeWriter c)
  | o => (answers o, g)

def framed (pipes : Family → Pipeline) (session : Session) : Phase :=
  match (pipes session.protocol).framer session.buffer with
  | .ok (packets, rest) => .batch { session with buffer := rest } packets
  | .error _ => .finishing session.imei

/-- The first bytes decide the family; unknown traffic is dropped. -/
def sniffed (g : Gateway) (cfg : Config) (pipes : Family → Pipeline) (c : Conn) (data : Bytes) :
    Gateway :=
  match detectProtocol cfg data with
  | none => g.enter c (.finishing none)
  | some protocol =>
      (g.record (.detected c protocol)).enter c (framed pipes ⟨protocol, none, data⟩)

def arrive (g : Gateway) (cfg : Config) (pipes : Family → Pipeline) (c : Conn)
    (outcome : ReadOutcome) : Option Gateway :=
  match (g.tasks c).phase, outcome with
  | .probing received, .data more =>
      if more.isEmpty then
        some (if received.isEmpty then g.enter c (.finishing none)
          else g.sniffed cfg pipes c received)
      else if (received ++ more).length < 5 then some (g.enter c (.probing (received ++ more)))
      else some (g.sniffed cfg pipes c (received ++ more))
  | .probing received, .timeout =>
      some (if received.isEmpty then g.enter c (.finishing none)
        else g.sniffed cfg pipes c received)
  | .probing _, .failed _ => some (g.enter c (.finishing none))
  | .reading session, .data more =>
      if more.isEmpty then some (g.enter c (.finishing session.imei))
      else some (g.enter c (framed pipes { session with buffer := session.buffer ++ more }))
  | .reading session, .timeout | .reading session, .failed _ =>
      some (g.enter c (.finishing session.imei))
  | _, _ => none

/-- After a packet that named its device, the device and the process have been heard of. -/
def heard (g : Gateway) (imei : Text) (now : Instant) : Gateway := { g with
  registry := g.registry.updateLastSeen imei now
  lastPacketAt := some now }

/-- The beginning of the `finally` block: only a registration of its own is torn down. -/
def teardown (registry : Registry) (c : Conn) (imei : Option Text) : Phase :=
  match truthy ((truthy imei).or (registry.getImeiBySocket id c)) with
  | none => .closing
  | some cleanupImei =>
      match registry.getDevice cleanupImei with
      | none => .closing
      | some device =>
          if device.socket = c then .offlining cleanupImei device.deviceId else .closing

/-- One stretch of an execution without an await, or the answer to an awaited operation. -/
def resume (g : Gateway) (pipes : Family → Pipeline) (c : Conn) (answers : (o : Op) → Res o) :
    Option Gateway :=
  match (g.tasks c).phase with
  | .batch session [] => some (g.enter c (.reading session))
  | .batch session (raw :: packets) =>
      if (g.tasks c).writerClosed || (g.tasks c).lost then some (g.enter c (.reading session))
      else some ((g.record (.began c raw)).enter c
        (.handling session ((pipes session.protocol).handler (g.tasks c).ip raw) packets))
  | .handling session (.call o next) packets =>
      let answered := g.perform c answers o
      some ((answered.2.record (.performed c ⟨o, answered.1⟩)).enter c
        (.handling session (next answered.1) packets))
  | .handling session (.pure outcome) packets =>
      match truthy outcome with
      | none => some ((g.record (.returned c (.ok outcome))).enter c (.batch session packets))
      | some imei =>
          some (((g.heard imei (answers .utcNow)).record (.returned c (.ok outcome))).enter c
            (.batch { session with imei := some imei } packets))
  | .handling session (.throw e) _ =>
      some ((g.record (.returned c (.error e))).enter c (.finishing session.imei))
  | .finishing imei => some (g.enter c (teardown g.registry c imei))
  | _ => none

/-- The offline mark returned or raised; an exception leaves the `finally` block at once. -/
def offline (g : Gateway) (c : Conn) (outcome : Except Exn Unit) : Option Gateway :=
  match (g.tasks c).phase, outcome with
  | .offlining imei deviceId, .ok () =>
      some (({ g with registry := g.registry.unregister id imei }.record
        (.offlined c imei deviceId outcome)).enter c .closing)
  | .offlining imei deviceId, .error _ =>
      some (((g.record (.offlined c imei deviceId outcome)).record (.ended c)).enter c .ended)
  | _, _ => none

def connect (g : Gateway) (cfg : Config) (c : Conn) (ip : Text) : Option Gateway :=
  match (g.tasks c).phase with
  | .absent =>
      if cfg.maxConnections ≤ g.connectionCount then
        some { g with
          tasks := Function.update g.tasks c ⟨ip, .ended, true, false⟩
          history := .refused c :: g.history }
      else
        some { g with
          tasks := Function.update g.tasks c ⟨ip, .probing [], false, false⟩
          connectionCount := g.connectionCount + 1
          history := .acquired c :: g.history }
  | _ => none

def waitClosed (g : Gateway) (c : Conn) : Option Gateway :=
  match (g.tasks c).phase with
  | .closing =>
      some ((({ g with connectionCount := g.connectionCount - 1 }.record (.released c)).record
        (.ended c)).enter c .ended)
  | _ => none

/-- A command or a poll written to the current connection of a device, for some commands only if
the device is of one family. -/
def push (g : Gateway) (imei : Text) (required : Option Family) (payload : Bytes) :
    Option Gateway :=
  match g.registry.getDevice imei with
  | none => none
  | some device =>
      if required.all (· = device.protocol) then some (g.record (.pushed device.socket payload))
      else none

/-- One step. Between awaits only the running connection moves. -/
def step (cfg : Config) (pipes : Family → Pipeline) (g : Gateway) : Input → Option Gateway
  | .connect c ip => if g.turn = none then g.connect cfg c ip else none
  | .arrive c outcome => if g.turn = none then g.arrive cfg pipes c outcome else none
  | .resume c answers =>
      if g.turn = none ∨ g.turn = some c then g.resume pipes c answers else none
  | .offline c outcome => if g.turn = none then g.offline c outcome else none
  | .waitClosed c => if g.turn = none then g.waitClosed c else none
  | .lose c =>
      if g.turn = none then
        some { g with tasks := Function.update g.tasks c { g.tasks c with lost := true } }
      else none
  | .push imei required payload => if g.turn = none then g.push imei required payload else none

end Gateway

/-- Surroundings in which every call succeeds and every identity belongs to one device. -/
def calm (deviceId : Text) : (o : Op) → Res o
  | .getImeiBySocket | .getDevice _ | .lastAlive _ | .lastIgnition _ => none
  | .write _ | .drain => .ok ()
  | .utcNow => (0 : ℤ)
  | .monotonic | .random => (0 : ℚ)
  | .getDeviceByImei .. => .ok (some deviceId)
  | .getVehicleByDevice _ => .ok none
  | .execute _ => .ok true
  | .registerDevice .. | .notePosition .. | .setLastAlive .. | .setLastIgnition ..
  | .forgetStatus _ | .close | .log _ => ()

def loginFrame (imei : UInt8) : Bytes :=
  [0x78, 0x78, 0x0D, 0x01, 0, 0, 0, 0, 0, 0, 0, imei, 0, 1, 0, 0, 0x0D, 0x0A]

/-- A new connection that logs in and is handled until it waits for more bytes. -/
def loginInputs (c : Conn) (imei : UInt8) (answers : (o : Op) → Res o) : List Input :=
  [.connect c [], .arrive c (.data (loginFrame imei))] ++ List.replicate 15 (.resume c answers)

def hangUp (c : Conn) (answers : (o : Op) → Res o) : List Input :=
  [.arrive c (.data []), .resume c answers]

end TrackerGateway.Server
