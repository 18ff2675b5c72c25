/- module: TrackerGateway/Packets/Erasure
   source: src/services/packet_handler.py, src/repositories
   digest: Handlers compared without the raw bytes they store. -/

import TrackerGateway.Services.PacketHandler

set_option autoImplicit false
set_option relaxedAutoImplicit false

namespace TrackerGateway.Packets

open Foundation.Coroutine
open Foundation.Wire
open TrackerGateway.Runtime
open Services
open Services.PacketHandler

/-- A statement without the raw bytes of a packet and their number. -/
def eraseRaw : DbWrite → DbWrite
  | .rawPacket deviceId protocolNumber _ _ receivedAt parsed =>
      .rawPacket deviceId protocolNumber [] 0 receivedAt parsed
  | statement => statement

def erase {α : Type} : Handler α → Handler α
  | .pure a => .pure a
  | .throw e => .throw e
  | .call (.execute statement) next =>
      .call (.execute (eraseRaw statement)) fun x => erase (next x)
  | .call o next => .call o fun x => erase (next x)

def blur {α : Type} : Handler α → Handler α
  | .pure a => .pure a
  | .throw _ => .throw .indexError
  | .call (.execute statement) next =>
      .call (.execute (eraseRaw statement)) fun x => blur (next x)
  | .call o next => .call o fun x => blur (next x)

section Laws

variable {α β : Type}

theorem erase_bind (p : Handler α) (next : α → Handler β) :
    erase (p.bind next) = (erase p).bind fun a => erase (next a) := by
  induction p with
  | pure a => rfl
  | throw e => rfl
  | call o k ih => cases o <;> exact congrArg _ (funext ih)

theorem blur_bind (p : Handler α) (next : α → Handler β) :
    blur (p.bind next) = (blur p).bind fun a => blur (next a) := by
  induction p with
  | pure a => rfl
  | throw e => rfl
  | call o k ih => cases o <;> exact congrArg _ (funext ih)

/-- Recovery that ignores the exception does not see the kind of it. -/
theorem erase_rescue (p q : Handler α) :
    erase (p.rescue fun _ => q) = (blur p).rescue fun _ => erase q := by
  induction p with
  | pure a => rfl
  | throw e => rfl
  | call o k ih => cases o <;> exact congrArg _ (funext ih)

theorem blur_bind_congr {p p' : Handler α} {next next' : α → Handler β} (first : blur p = blur p')
    (later : ∀ a, blur (next a) = blur (next' a)) : blur (p.bind next) = blur (p'.bind next') := by
  rw [blur_bind, blur_bind, first]
  exact congrArg _ (funext later)

theorem blur_demand {r r' : Except Exn α} (same : r.toOption = r'.toOption) :
    blur (demand r : Handler α) = blur (demand r') := by
  cases r <;> cases r' <;> simp_all [Except.toOption, demand, blur]

theorem blur_demand_bind {r r' : Except Exn α} {next next' : α → Handler β}
    (same : r.toOption = r'.toOption) (later : ∀ a, blur (next a) = blur (next' a)) :
    blur ((demand r).bind next) = blur ((demand r').bind next') :=
  blur_bind_congr (blur_demand same) later

theorem blur_saveRaw (cfg : Config) (deviceId protocol hexData hexData' : Text)
    (always parsed : Bool) : blur (saveRaw cfg deviceId protocol hexData always parsed) =
      blur (saveRaw cfg deviceId protocol hexData' always parsed) := by
  apply blur_bind_congr rfl
  intro store
  split <;> rfl

theorem blur_withDevice {connectionImei : Option Text} {body body' : Entry → Handler Unit}
    (same : ∀ device, blur (body device) = blur (body' device)) :
    blur (withDevice connectionImei body) = blur (withDevice connectionImei body') := by
  apply blur_bind_congr rfl
  intro device?
  cases device? with
  | none => rfl
  | some device => exact blur_bind_congr (same device) fun _ => rfl

end Laws

end TrackerGateway.Packets
