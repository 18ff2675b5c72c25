/- module: TrackerGateway/Invariants/Inverse
   source: src/services/device_registry.py (register_device, unregister_device)
   digest: When the two maps of the registry are inverse to each other. -/

import TrackerGateway.Foundation.Transition.Run
import TrackerGateway.Services.DeviceRegistry

set_option autoImplicit false
set_option relaxedAutoImplicit false

namespace TrackerGateway.Invariants.Inverse

open Foundation.Transition (permittedRun)
open Foundation.Wire (Text Instant)
open TrackerGateway.Runtime
open Services (Registry)

inductive Operation
  | register (imei ip deviceId : Text) (conn : Conn) (protocol : Family)
      (connectedAt lastSeen : Instant)
  | unregister (imei : Text)

def Operation.imei : Operation → Text
  | .register imei .. | .unregister imei => imei

variable (ident : Conn → Nat)

/-- Connections are told apart by their object ids. -/
def perform (r : Registry) : Operation → Registry
  | .register imei ip deviceId conn protocol connectedAt lastSeen =>
      r.register ident imei ip deviceId conn protocol connectedAt lastSeen
  | .unregister imei => r.unregister ident imei

def held (r : Registry) (imei : Text) : Option Nat :=
  (r.getDevice imei).map fun entry => ident entry.socket

/-- The entry of an identity has a connection exactly if the reverse map sends the connection to
that identity. -/
def MutuallyInverse (r : Registry) : Prop :=
  ∀ imei c, held ident r imei = some (ident c) ↔ r.getImeiBySocket ident c = some imei

/-- The other identities keep their connections, in both maps. -/
def Undisturbed (r r' : Registry) (imei : Text) : Prop :=
  ∀ other, other ≠ imei → r'.getDevice other = r.getDevice other ∧
    ∀ c, r'.getImeiBySocket ident c = some other ↔ r.getImeiBySocket ident c = some other

/-- In every state of a run the maps are inverse, and every operation leaves the other identities
alone. -/
def Sound : Registry → List Operation → Prop
  | r, [] => MutuallyInverse ident r
  | r, op :: rest => MutuallyInverse ident r ∧ Undisturbed ident r (perform ident r op) op.imei ∧
      Sound (perform ident r op) rest

/-- A connection is not registered for a second identity. -/
def unshared (r : Registry) : Operation → Bool
  | .register imei _ _ conn .. => (r.getImeiBySocket ident conn).all (· = imei)
  | .unregister _ => true

section Steps

variable {ident} {r : Registry} {imei ip deviceId : Text} {conn : Conn} {protocol : Family}
  {connectedAt lastSeen : Instant}

theorem held_register (other : Text) :
    held ident (r.register ident imei ip deviceId conn protocol connectedAt lastSeen) other =
      if other = imei then some (ident conn) else held ident r other := by
  unfold held
  by_cases same : other = imei
  · subst same
    simp
  · rw [Registry.getDevice_register_ne same, if_neg same]

theorem held_unregister (other : Text) :
    held ident (r.unregister ident imei) other =
      if other = imei then none else held ident r other := by
  unfold held
  by_cases same : other = imei
  · subst same
    simp
  · rw [Registry.getDevice_unregister_ne same, if_neg same]

theorem any_held (key : Nat) :
    (r.getDevice imei).any (fun e => ident e.socket = key) =
      decide (held ident r imei = some key) := by
  rw [held]
  cases r.getDevice imei <;> simp

theorem reverse_congr {c c' : Conn} (same : ident c = ident c') :
    r.getImeiBySocket ident c = r.getImeiBySocket ident c' := by
  rw [Registry.getImeiBySocket, same, Registry.getImeiBySocket]

theorem reverse_register (c : Conn) :
    (r.register ident imei ip deviceId conn protocol connectedAt lastSeen).getImeiBySocket ident c =
      if ident c = ident conn then some imei
      else if held ident r imei = some (ident c) then none
      else r.getImeiBySocket ident c := by
  by_cases same : ident c = ident conn
  · rw [if_pos same, reverse_congr same, Registry.getImeiBySocket_register_self]
  · rw [if_neg same, Registry.getImeiBySocket_register_ne same, any_held]
    simp only [decide_eq_true_eq]

theorem reverse_unregister (c : Conn) :
    (r.unregister ident imei).getImeiBySocket ident c =
      if held ident r imei = some (ident c) then none else r.getImeiBySocket ident c := by
  rw [Registry.getImeiBySocket_unregister, any_held]
  simp only [decide_eq_true_eq]

variable (inverse : MutuallyInverse ident r)

include inverse

theorem one_holder {one other : Text} {c : Conn} (holds : held ident r one = some (ident c))
    (holds' : held ident r other = some (ident c)) : one = other := by
  have found := (inverse one c).mp holds
  rw [(inverse other c).mp holds'] at found
  exact (Option.some.inj found).symm

theorem not_held_elsewhere {one other : Text} {c : Conn} (holds : held ident r one = some (ident c))
    (distinct : other ≠ one) : held ident r other ≠ some (ident c) := fun holds' =>
  distinct (one_holder inverse holds' holds)

theorem unregister_inverse : MutuallyInverse ident (r.unregister ident imei) := by
  intro other c
  rw [held_unregister, reverse_unregister]
  by_cases here : held ident r imei = some (ident c)
  · rw [if_pos here]
    split
    · simp
    · next distinct => simpa using not_held_elsewhere inverse here distinct
  · rw [if_neg here]
    split
    · next same =>
        rw [← inverse, same]
        simpa using here
    · exact inverse other c

theorem register_inverse_iff : MutuallyInverse ident
      (r.register ident imei ip deviceId conn protocol connectedAt lastSeen) ↔
    ∀ other, r.getImeiBySocket ident conn = some other → other = imei := by
  constructor
  · intro after other found
    by_contra distinct
    have holds : held ident r other = some (ident conn) := (inverse other conn).mpr found
    have kept := after other conn
    rw [held_register, reverse_register, if_neg distinct, if_pos rfl] at kept
    exact distinct (Option.some.inj (kept.mp holds)).symm
  · intro unshared other c
    rw [held_register, reverse_register]
    by_cases same : ident c = ident conn
    · rw [if_pos same, same]
      split
      · next here => simp [here]
      · next distinct =>
          have elsewhere : held ident r other ≠ some (ident conn) := by
            intro holds
            exact distinct (unshared other ((inverse other conn).mp holds))
          simpa [Ne.symm distinct] using elsewhere
    · have apart : ident conn ≠ ident c := Ne.symm same
      rw [if_neg same]
      by_cases here : held ident r imei = some (ident c)
      · rw [if_pos here]
        split
        · simpa using apart
        · next distinct => simpa using not_held_elsewhere inverse here distinct
      · rw [if_neg here]
        split
        · next is =>
            rw [← inverse, is]
            simp [here, apart]
        · exact inverse other c

theorem unregister_undisturbed : Undisturbed ident r (r.unregister ident imei) imei := by
  intro other distinct
  refine ⟨Registry.getDevice_unregister_ne distinct, ?_⟩
  intro c
  rw [reverse_unregister]
  split
  · next here =>
      have found := (inverse imei c).mp here
      rw [found]
      simp [Ne.symm distinct]
  · exact Iff.rfl

theorem register_undisturbed
    (unshared : ∀ other, r.getImeiBySocket ident conn = some other → other = imei) :
    Undisturbed ident r
      (r.register ident imei ip deviceId conn protocol connectedAt lastSeen) imei := by
  intro other distinct
  refine ⟨Registry.getDevice_register_ne distinct, ?_⟩
  intro c
  rw [reverse_register]
  split
  · next same =>
      rw [reverse_congr same]
      constructor
      · intro claims
        exact absurd (Option.some.inj claims).symm distinct
      · intro found
        exact absurd (unshared other found) distinct
  · split
    · next here =>
        have found := (inverse imei c).mp here
        rw [found]
        simp [Ne.symm distinct]
    · exact Iff.rfl

/-- An operation keeps the maps inverse exactly if it shares no connection. -/
theorem perform_inverse_iff (op : Operation) :
    MutuallyInverse ident (perform ident r op) ↔ unshared ident r op = true := by
  cases op with
  | register imei ip deviceId conn protocol connectedAt lastSeen =>
      rw [perform, register_inverse_iff inverse, unshared]
      simp only [Option.all_eq_true, decide_eq_true_eq]
  | unregister imei => simp only [perform, unshared, unregister_inverse inverse]

theorem perform_undisturbed {op : Operation} (alone : unshared ident r op = true) :
    Undisturbed ident r (perform ident r op) op.imei := by
  cases op with
  | register imei ip deviceId conn protocol connectedAt lastSeen =>
      apply register_undisturbed inverse
      intro other found
      simpa [unshared, found] using alone
  | unregister imei => exact unregister_undisturbed inverse

theorem sound_iff (ops : List Operation) :
    Sound ident r ops ↔
      permittedRun (fun r op => some (perform ident r op)) (unshared ident) r ops = true := by
  induction ops generalizing r with
  | nil => simpa [Sound, permittedRun] using inverse
  | cons op rest ih =>
      have step := perform_inverse_iff inverse op
      simp only [Sound, permittedRun, Option.all_some, Bool.and_eq_true]
      constructor
      · rintro ⟨-, -, later⟩
        have after : MutuallyInverse ident (perform ident r op) := by
          cases rest with
          | nil => exact later
          | cons next rest => exact later.1
        exact ⟨step.mp after, (ih after).mp later⟩
      · rintro ⟨alone, later⟩
        exact ⟨inverse, perform_undisturbed inverse alone, (ih (step.mpr alone)).mpr later⟩

end Steps

/-- In every run from the empty registry the maps are mutually inverse in every state, and every
operation leaves the other identities alone, exactly if no connection is registered for an identity
while the reverse map sends it to another. -/
theorem maps_inverse_iff (ops : List Operation) :
    Sound ident .empty ops ↔
      permittedRun (fun r op => some (perform ident r op)) (unshared ident) .empty ops = true := by
  apply sound_iff
  intro imei c
  simp [held]

/-- One connection registers for two identities, and the first of them is unregistered. -/
def severing : List Operation :=
  [.register ['1'] [] ['d'] 0 .gps103 0 0, .register ['2'] [] ['e'] 0 .gps103 0 0,
    .unregister ['1']]

/-- After the second registration the first entry still has the connection that the reverse map
sends to the second identity; unregistering the first takes the connection of the second from the
reverse map, although its entry has it. -/
theorem severed : ¬ Sound id .empty severing ∧
    (let shared := (severing.take 2).foldl (perform id) .empty
    held id shared ['1'] = some 0 ∧ shared.getImeiBySocket id 0 = some ['2']) ∧
    (let cut := severing.foldl (perform id) .empty
    held id cut ['2'] = some 0 ∧ cut.getImeiBySocket id 0 = none) := by
  refine ⟨?_, ⟨rfl, rfl⟩, rfl, rfl⟩
  rintro ⟨-, -, -, -, inverse, -⟩
  have found : Registry.getImeiBySocket id (perform id (perform id .empty _) _) 0 = some ['1'] :=
    (inverse ['1'] 0).mp rfl
  cases found

end TrackerGateway.Invariants.Inverse
