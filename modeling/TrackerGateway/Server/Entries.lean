/- module: TrackerGateway/Server/Entries
   source: src/services/device_registry.py, src/tcp_server.py
   digest: What a step does to the entries of the registry, and which parts of an entry last. -/

import TrackerGateway.Server.History

set_option autoImplicit false
set_option relaxedAutoImplicit false

namespace TrackerGateway.Server

open Foundation.Wire (Text Number Instant)
open TrackerGateway.Runtime
open Services (Registry)

def Event.touches : Event → Bool
  | .performed _ ⟨.registerDevice .., _⟩ | .performed _ ⟨.notePosition .., _⟩ => true
  | .offlined _ _ _ (.ok ()) => true
  | _ => false

/-- A step by what it does to the entries, with the events it adds to the history. -/
inductive EntryStep (g g' : Gateway) : Prop
  | login {c : Conn} {imei ip deviceId : Text} {protocol : Family} {connectedAt lastSeen : Instant}
      (registry : g'.registry =
        g.registry.register id imei ip deviceId c protocol connectedAt lastSeen)
      (history : g'.history =
        .performed c ⟨.registerDevice imei ip deviceId protocol connectedAt lastSeen, ()⟩ ::
          g.history)
  | logout {c : Conn} {imei deviceId : Text}
      (registry : g'.registry = g.registry.unregister id imei)
      (history : g'.history = .offlined c imei deviceId (.ok ()) :: g.history)
  | note {c : Conn} {imei : Text} {speed : Number} {now : Instant}
      (registry : g'.registry = g.registry.notePosition imei speed now)
      (history : g'.history = .performed c ⟨.notePosition imei speed now, ()⟩ :: g.history)
  | heard {c : Conn} {imei : Text} {now : Instant}
      (registry : g'.registry = g.registry.updateLastSeen imei now)
      (history : g'.history = .returned c (.ok (some imei)) :: g.history)
  | quiet (events : List Event) (registry : g'.registry = g.registry)
      (history : g'.history = events ++ g.history) (silent : ∀ e ∈ events, e.touches = false)

section Steps

variable {cfg : Config} {pipes : Family → Pipeline} {g g' : Gateway}

private theorem EntryStep.one {g' : Gateway} (e : Event) (registry : g'.registry = g.registry)
    (history : g'.history = e :: g.history) (silent : e.touches = false) : EntryStep g g' := by
  apply EntryStep.quiet [e] registry history
  intro e' member
  rw [List.mem_singleton.mp member]
  exact silent

theorem entry_step {i : Input} (moves : Step cfg pipes g i g') : EntryStep g g' := by
  cases moves with
  | @refuse c ip turn at_ full => exact .one (.refused c) rfl rfl rfl
  | @acquire c ip turn at_ free => exact .one (.acquired c) rfl rfl rfl
  | quiet turn move => exact .quiet [] rfl rfl (by simp)
  | @detect i c b data protocol turn at_ enabled => exact .one (.detected c protocol) rfl rfl rfl
  | @begin_ c answers s raw packets turn at_ open_ => exact .one (.began c raw) rfl rfl rfl
  | @operate c answers s o next packets turn at_ =>
      cases o with
      | registerDevice imei ip deviceId protocol connectedAt lastSeen => exact .login rfl rfl
      | notePosition imei speed now => exact .note rfl rfl
      | _ => exact .one (.performed c ⟨_, _⟩) rfl rfl rfl
  | @nameless c answers s outcome packets turn at_ untrue =>
      exact .one (.returned c (.ok outcome)) rfl rfl rfl
  | named turn at_ real => exact .heard rfl rfl
  | @raise c answers s e packets turn at_ => exact .one (.returned c (.error e)) rfl rfl rfl
  | finish turn at_ => exact .quiet [] rfl rfl (by simp)
  | unregister turn at_ => exact .logout rfl rfl
  | @crash c imei deviceId e turn at_ =>
      exact .quiet [.ended c, .offlined c imei deviceId (.error e)] rfl rfl
        (by simp [Event.touches])
  | @release c turn at_ =>
      exact .quiet [.ended c, .released c] rfl rfl (by simp [Event.touches])
  | lose turn => exact .quiet [] rfl rfl (by simp)
  | @push imei required payload device turn found family =>
      exact .one (.pushed device.socket payload) rfl rfl rfl

theorem reroutes_of_silent {e : Event} (silent : e.touches = false) (imei : Text) :
    e.reroutes imei = none := by
  unfold Event.touches at silent
  unfold Event.reroutes
  split
  · cases silent
  · cases silent
  · rfl

theorem lasting_step {α : Type} (part : Entry → α)
    (noted : ∀ entry position speed,
      part { entry with lastPositionAt := position, lastSpeed := speed } = part entry)
    (heard : ∀ entry now, part { entry with lastSeen := now } = part entry)
    (moves : EntryStep g g') : ∃ events, g'.history = events ++ g.history ∧
      ∀ imei, lastRoute imei events = none →
        (g'.registry.getDevice imei).map part = (g.registry.getDevice imei).map part := by
  have modified : ∀ (f : Entry → Entry) (imei other : Text),
      (∀ entry, part (f entry) = part entry) →
        ((g.registry.modify imei f).getDevice other).map part =
          (g.registry.getDevice other).map part := by
    intro f imei other same
    rw [Registry.getDevice_modify]
    split
    · rw [Option.map_map]
      exact congrArg (fun h => Option.map h _) (funext same)
    · rfl
  cases moves with
  | @login c imei ip deviceId protocol connectedAt lastSeen registry history =>
      refine ⟨[_], history, ?_⟩
      intro other kept
      have distinct : other ≠ imei := by
        rintro rfl
        simp [lastRoute, Event.reroutes] at kept
      rw [registry, Registry.getDevice_register_ne distinct]
  | @logout c imei deviceId registry history =>
      refine ⟨[_], history, ?_⟩
      intro other kept
      have distinct : other ≠ imei := by
        rintro rfl
        simp [lastRoute, Event.reroutes] at kept
      rw [registry, Registry.getDevice_unregister_ne distinct]
  | note registry history =>
      refine ⟨[_], history, ?_⟩
      intro other _
      rw [registry]
      exact modified _ _ _ fun entry => noted entry _ _
  | heard registry history =>
      refine ⟨[_], history, ?_⟩
      intro other _
      rw [registry]
      exact modified _ _ _ fun entry => heard entry _
  | quiet events registry history silent =>
      refine ⟨events, history, ?_⟩
      intro other _
      rw [registry]

end Steps

end TrackerGateway.Server
