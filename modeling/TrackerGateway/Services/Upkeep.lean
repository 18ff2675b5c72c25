/- module: TrackerGateway/Services/Upkeep
   source: src/services/tracking_service.py, src/services/raw_packet_policy.py,
     src/services/device_registry.py, src/repositories/device_repository.py
   digest: The parts of the handlers that store no position, no event and no ignition. -/

import TrackerGateway.Foundation.Coroutine.Discipline
import TrackerGateway.Services.Storage

set_option autoImplicit false
set_option relaxedAutoImplicit false

namespace TrackerGateway.Services

open Foundation.Coroutine
open Foundation.Wire (Text Bytes Number Instant)
open TrackerGateway.Runtime

/-- Everything but the statements of positions, events and status, and the cached ignition. -/
def Plain : Op → Prop
  | .execute (.saveLocation ..) | .execute (.event _) => False
  | .execute (.deviceStatus ..) | .execute (.ignition ..) => False
  | .setLastIgnition .. | .forgetStatus _ => False
  | _ => True

section Parts

variable {deviceId : Text}

theorem plain_log (line : List LogPart) : Confined Plain (log line) :=
  confined_request (o := Op.log line) trivial

theorem plain_close : Confined Plain (request Op.close : Handler Unit) :=
  confined_request (o := Op.close) trivial

theorem plain_getImeiBySocket :
    Confined Plain (request Op.getImeiBySocket : Handler (Option Text)) :=
  confined_request (o := Op.getImeiBySocket) trivial

theorem plain_getDevice (imei : Text) :
    Confined Plain (request (Op.getDevice imei) : Handler (Option Entry)) :=
  confined_request (o := Op.getDevice imei) trivial

theorem plain_clock : Confined Plain (request Op.utcNow : Handler Instant) :=
  confined_request (o := Op.utcNow) trivial

theorem plain_write (payload : Bytes) : Confined Plain (writeSocket payload) :=
  (confined_request (o := Op.write payload) trivial).bind keeps_demand

theorem plain_drain : Confined Plain drainSocket :=
  (confined_request (o := Op.drain) trivial).bind keeps_demand

theorem plain_getDeviceByImei (imei : Text) (family : Family) (model : Text) :
    Confined Plain (getDeviceByImei imei family model) :=
  (confined_request (o := Op.getDeviceByImei imei family model) trivial).bind keeps_demand

theorem plain_getVehicle : Confined Plain (getVehicleByDevice deviceId) :=
  (confined_request (o := Op.getVehicleByDevice deviceId) trivial).bind keeps_demand

theorem plain_registerDevice (imei ip : Text) (protocol : Family) :
    Confined Plain (registerDevice imei ip deviceId protocol) :=
  plain_clock.bind fun _ => plain_clock.bind fun _ => confined_request trivial

theorem plain_shouldStoreRaw (cfg : Config) (always : Bool) :
    Confined Plain (shouldStoreRaw cfg always) := by
  rw [shouldStoreRaw]
  split
  · exact keeps_pure _
  · exact keeps_pure _
  · exact keeps_ite (keeps_pure _)
      ((confined_request (o := Op.random) trivial).bind fun _ => keeps_pure _)

theorem confined_stamped {kind : Op → Prop} {write : Instant → DbWrite}
    (clock : kind .utcNow) (is : ∀ now, kind (.execute (write now))) :
    Confined kind ((request Op.utcNow : Handler Instant).bind fun now =>
      (execute (write now)).bind fun _ => .pure ()) := by
  apply (confined_request clock).bind
  intro now
  exact ((confined_request (is now)).bind keeps_demand).bind fun _ => keeps_pure _

theorem plain_saveRaw (cfg : Config) (protocol hexData : Text) (always parsed : Bool) :
    Confined Plain (saveRaw cfg deviceId protocol hexData always parsed) :=
  (plain_shouldStoreRaw cfg always).bind fun _ =>
    keeps_ite (confined_stamped trivial fun _ => trivial) (keeps_pure _)

theorem plain_markDeviceAlive (heartbeat : Bool) :
    Confined Plain (markDeviceAlive deviceId heartbeat) :=
  confined_stamped trivial fun _ => trivial

theorem plain_updateHeartbeat : Confined Plain (updateHeartbeat deviceId) :=
  confined_stamped trivial fun _ => trivial

theorem plain_handleCommandResponse (command rawText : Text) (data : Json) :
    Confined Plain (handleCommandResponse deviceId command rawText data) :=
  ((confined_request trivial).bind keeps_demand).bind fun _ => keeps_pure _

end Parts

end TrackerGateway.Services
