/- module: TrackerGateway/Services/Routine
   source: src/services/tracking_service.py, src/services/event_service.py,
     src/services/raw_packet_policy.py, src/services/teltonika_handler.py
   digest: The bookkeeping of the handlers: what it may ask for, and what it leaves undisturbed. -/

import TrackerGateway.Foundation.Coroutine.Discipline
import TrackerGateway.Services.TeltonikaHandler

set_option autoImplicit false
set_option relaxedAutoImplicit false

namespace TrackerGateway.Services

open Foundation.Coroutine
open Foundation.Wire (Text Bytes Number Instant)
open TrackerGateway.Runtime

/-- The operations of bookkeeping for a device: everything but logins, answers to the connection
and statements for other devices. -/
def Routine (deviceId : Text) : Op → Prop
  | .registerDevice .. | .write _ => False
  | .execute statement => statement.device = deviceId
  | _ => True

def Unmarked : Op → Prop
  | .notePosition .. => False
  | _ => True

section Bookkeeping

variable {allowed : List Answered → Op → Prop} {fact : List Answered → Prop} {deviceId : Text}
  (cfg : Config) (persists : ∀ past a, fact past → fact (a :: past))
  (permits : ∀ past o, fact past → Routine deviceId o → Unmarked o → allowed past o)

include persists permits

theorem keeps_routine {o : Op} (routine : Routine deviceId o) (unmarked : Unmarked o) :
    Keeps allowed fact (request o : Handler (Res o)) :=
  keeps_request persists fun past holds => permits past o holds routine unmarked

theorem keeps_clock : Keeps allowed fact (request Op.utcNow : Handler Instant) :=
  keeps_routine persists permits trivial trivial

theorem keeps_getVehicle (d : Text) : Keeps allowed fact (getVehicleByDevice d) :=
  (keeps_routine (o := .getVehicleByDevice d) persists permits trivial trivial).bind keeps_demand

theorem keeps_shouldStoreRaw (always : Bool) :
    Keeps allowed fact (shouldStoreRaw cfg always) := by
  rw [shouldStoreRaw]
  split
  · exact keeps_pure _
  · exact keeps_pure _
  · exact keeps_ite (keeps_pure _)
      ((keeps_routine (o := .random) persists permits trivial trivial).bind fun _ => keeps_pure _)

theorem keeps_execute {statement : DbWrite} (device : statement.device = deviceId) :
    Keeps allowed fact (execute statement) :=
  (keeps_routine (o := .execute statement) persists permits device trivial).bind keeps_demand

theorem keeps_saveRaw (protocol hexData : Text) (always parsed : Bool) :
    Keeps allowed fact (saveRaw cfg deviceId protocol hexData always parsed) := by
  have policy := keeps_shouldStoreRaw cfg persists permits always
  refine policy.bind fun store => keeps_ite ?_ (keeps_pure _)
  apply (keeps_clock persists permits).bind
  intro now
  exact (keeps_execute persists permits rfl).bind fun _ => keeps_pure _

theorem keeps_saveLocation (latitude longitude speed heading : Number) (satellites : Nat)
    (eventTime : Instant) :
    Keeps allowed fact
      (saveLocation deviceId latitude longitude speed heading satellites eventTime) :=
  (keeps_demand _).bind fun _ => (keeps_demand _).bind fun _ => (keeps_demand _).bind fun _ =>
    (keeps_demand _).bind fun _ => keeps_execute persists permits rfl

theorem keeps_updateDeviceStatus (battery signal : Nat) (ignition movement : Bool) (power : Nat) :
    Keeps allowed fact
      (updateDeviceStatus deviceId battery signal ignition movement power) :=
  (keeps_clock persists permits).bind fun _ =>
    (keeps_execute persists permits rfl).bind fun _ => keeps_pure _

theorem keeps_markDeviceAlive (heartbeat : Bool) :
    Keeps allowed fact (markDeviceAlive deviceId heartbeat) :=
  (keeps_clock persists permits).bind fun _ =>
    (keeps_execute persists permits rfl).bind fun _ => keeps_pure _

theorem keeps_setIgnition (ignition : Bool) :
    Keeps allowed fact (setIgnition deviceId ignition) :=
  (keeps_clock persists permits).bind fun _ =>
    (keeps_execute persists permits rfl).bind fun _ => keeps_pure _

theorem keeps_updateHeartbeat : Keeps allowed fact (updateHeartbeat deviceId) :=
  (keeps_clock persists permits).bind fun _ =>
    (keeps_execute persists permits rfl).bind fun _ => keeps_pure _

theorem keeps_createEvent (vehicleId : Option Text) (eventType : Text) (severity : Severity)
    (latitude longitude : Option Number) (description : Text) (metadata : List (Text × Json)) :
    Keeps allowed fact
      (createEvent deviceId vehicleId eventType severity latitude longitude description metadata) :=
  (keeps_clock persists permits).bind fun _ =>
    (keeps_execute persists permits rfl).bind fun _ => keeps_pure _

theorem keeps_handleCommandResponse (command rawText : Text) (data : Json) :
    Keeps allowed fact (handleCommandResponse deviceId command rawText data) :=
  (keeps_execute persists permits rfl).bind fun _ => keeps_pure _

end Bookkeeping

namespace TeltonikaHandler

open Parsers.Teltonika (AvlRecord)

section Bookkeeping

variable {allowed : List Answered → Op → Prop} {fact : List Answered → Prop} {deviceId : Text}
  (cfg : Config) (persists : ∀ past a, fact past → fact (a :: past))
  (permits : ∀ past o, fact past → Routine deviceId o → Unmarked o → allowed past o)

theorem keeps_safely {body : Handler Unit}
    (kept : Keeps allowed fact body) :
    Keeps allowed fact (safely body) := kept.rescue fun _ => keeps_pure _

include persists permits

theorem keeps_storeRecord (rec : AvlRecord) :
    Keeps allowed fact (storeRecord cfg deviceId rec) := by
  refine keeps_ite (keeps_pure _) ((keeps_clock persists permits).bind ?_)
  intro now
  refine keeps_ite (keeps_pure _) (keeps_ite (keeps_pure _) ?_)
  have saved : Keeps allowed fact _ :=
    keeps_saveLocation persists permits (.finite rec.latitude) (.finite rec.longitude)
      (.finite rec.speed) (.finite rec.angle) rec.satellites rec.timestamp
  exact (saved.bind fun _ => keeps_pure _).rescue fun _ => keeps_pure _

theorem keeps_storeRecords (records : List AvlRecord) :
    Keeps allowed fact (storeRecords cfg deviceId records) := by
  induction records with
  | nil => exact keeps_pure _
  | cons rec rest ih =>
      apply (keeps_storeRecord cfg persists permits rec).bind
      intro settled
      exact keeps_ite (ih.bind fun _ => keeps_pure _) (keeps_pure _)

theorem keeps_refreshStatus (records : List AvlRecord) :
    Keeps allowed fact (refreshStatus deviceId records) := by
  have alive : ∀ now, Keeps allowed fact (refreshStatus.refreshAlive deviceId now) := by
    intro now
    apply (keeps_routine (o := .lastAlive deviceId) persists permits trivial trivial).bind
    intro last
    refine keeps_ite ?_ (keeps_pure _)
    exact (keeps_safely (keeps_markDeviceAlive persists permits true)).bind fun _ =>
      keeps_routine persists permits trivial trivial
  apply (keeps_routine (o := .monotonic) persists permits trivial trivial).bind
  intro now
  cases newestIgnition records with
  | none => exact alive now
  | some ignition =>
      refine (keeps_routine (o := .lastIgnition deviceId) persists permits trivial trivial).bind
        ?_
      intro cached
      refine keeps_ite ?_ (alive now)
      apply (keeps_safely (keeps_setIgnition persists permits ignition)).bind
      intro _
      have kept : Keeps allowed fact
          (request (Op.setLastIgnition deviceId ignition) : Handler Unit) :=
        keeps_routine persists permits trivial trivial
      exact kept.bind fun _ => keeps_routine persists permits trivial trivial

end Bookkeeping

end TeltonikaHandler

end TrackerGateway.Services
