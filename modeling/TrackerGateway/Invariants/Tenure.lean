/- module: TrackerGateway/Invariants/Tenure
   source: src/services/device_registry.py, src/tcp_server.py
   digest: A connection that is the only one to log in under an identity, and logs in under no
     other, is found under it from its login to its teardown. -/

import TrackerGateway.Server.Frames

set_option autoImplicit false
set_option relaxedAutoImplicit false

namespace TrackerGateway.Invariants.Tenure

open Foundation.Transition (Reachable Throughout)
open Foundation.Wire (Text Bytes)
open TrackerGateway.Runtime
open Server
open Services (Registry)

def Registers (c : Conn) (imei : Text) (h : List Event) : Prop :=
  ∃ e ∈ h, ∃ deviceId, e.registration = some (c, imei, deviceId)

/-- No other connection has registered under the identity, and this one under no other. -/
structure Sole (c : Conn) (imei : Text) (h : List Event) : Prop where
  alone : ∀ c', Registers c' imei h → c' = c
  faithful : ∀ imei', Registers c imei' h → imei' = imei

section Histories

variable {c : Conn} {imei : Text} {h : List Event}

theorem Registers.append (registers : Registers c imei h) (events : List Event) :
    Registers c imei (events ++ h) := by
  obtain ⟨e, member, found⟩ := registers
  exact ⟨e, List.mem_append_right events member, found⟩

theorem Registers.of_append_none (events : List Event)
    (registers : Registers c imei (events ++ h))
    (others : ∀ e ∈ events, e.registration = none) : Registers c imei h := by
  obtain ⟨e, member, deviceId, found⟩ := registers
  rcases List.mem_append.mp member with new | old
  · rw [others e new] at found
    cases found
  · exact ⟨e, old, deviceId, found⟩

theorem Sole.earlier (events : List Event) (sole : Sole c imei (events ++ h)) : Sole c imei h where
  alone c' registers := sole.alone c' (registers.append events)
  faithful imei' registers := sole.faithful imei' (registers.append events)

theorem registers_of_registrant {deviceId : Text} (last : registrant imei h = some (c, deviceId)) :
    Registers c imei h := by
  obtain ⟨e, member, found⟩ := registrant_mem last
  exact ⟨e, member, deviceId, found⟩

end Histories

section Runs

variable {cfg : Config} {pipes : Family → Pipeline} {g g' : Gateway}
  {permitted : Gateway → Input → Prop} {c : Conn} {imei : Text}

theorem registers_of_owner (traced : Traced g) (owned : g.registry.owner imei = some c) :
    Registers c imei g.history := by
  obtain ⟨deviceId, last, -⟩ := traced.entry imei c owned
  exact registers_of_registrant last

def Marked (g : Gateway) : Prop :=
  ∀ c imei deviceId, (g.tasks c).phase = .offlining imei deviceId → Registers c imei g.history

theorem framed_ne_offlining (s : Session) (deviceId : Text) :
    Gateway.framed pipes s ≠ .offlining imei deviceId := by
  rw [Gateway.framed]
  split <;> simp

theorem registers_of_teardown (traced : Traced g) {remembered : Option Text} {deviceId : Text}
    (goes : Gateway.teardown g.registry c remembered = .offlining imei deviceId) :
    Registers c imei g.history := by
  rw [Gateway.teardown] at goes
  split at goes
  · cases goes
  · split at goes
    · cases goes
    · next device found =>
        split at goes
        · next own =>
            cases goes
            exact registers_of_owner traced (by rw [Registry.owner, found, Option.map_some, own])
        · cases goes

theorem marked_step {i : Input} (traced : Traced g) (marked : Marked g)
    (moves : Step cfg pipes g i g') : Marked g' := by
  obtain ⟨events, grown⟩ := history_step (registry_step moves)
  -- A connection that stays where it is has registered before.
  have stays : ∀ {c : Conn} {imei deviceId : Text},
      (g.tasks c).phase = .offlining imei deviceId → Registers c imei g'.history := by
    intro c imei deviceId at_
    rw [grown]
    exact (marked c imei deviceId at_).append events
  have enters : ∀ {g₁ : Gateway} {c' : Conn} {phase : Phase},
      g' = g₁.enter c' phase → (∀ c, (g₁.tasks c).phase = (g.tasks c).phase) →
      (∀ imei deviceId, phase = .offlining imei deviceId → Registers c' imei g'.history) →
      Marked g' := by
    rintro g₁ c' phase rfl others own c imei deviceId at_
    by_cases here : c = c'
    · subst here
      rw [Gateway.enter_phase_self] at at_
      exact own imei deviceId at_
    · rw [Gateway.enter_tasks_ne _ _ _ here, others] at at_
      exact stays at_
  cases moves with
  | @refuse c' ip turn at_ full =>
      intro c imei deviceId now
      by_cases here : c = c'
      · simp [here] at now
      · exact stays (by simpa [here] using now)
  | @acquire c' ip turn at_ free =>
      intro c imei deviceId now
      by_cases here : c = c'
      · simp [here] at now
      · exact stays (by simpa [here] using now)
  | @quiet i c' phase turn move =>
      refine enters rfl (fun _ => rfl) ?_
      intro imei deviceId is
      generalize (g.tasks c').phase = before at move
      cases move with
      | more s buffer => exact absurd is (framed_ne_offlining _ _)
      | _ => cases is
  | detect turn at_ enabled =>
      exact enters rfl (fun _ => rfl) fun _ _ is => absurd is (framed_ne_offlining _ _)
  | begin_ turn at_ open_ => exact enters rfl (fun _ => rfl) (by simp)
  | operate turn at_ => exact enters rfl (by simp) (by simp)
  | nameless turn at_ untrue => exact enters rfl (fun _ => rfl) (by simp)
  | named turn at_ real => exact enters rfl (by simp) (by simp)
  | raise turn at_ => exact enters rfl (fun _ => rfl) (by simp)
  | finish turn at_ =>
      refine enters rfl (fun _ => rfl) ?_
      intro imei deviceId goes
      exact registers_of_teardown (g := g) traced goes
  | unregister turn at_ => exact enters rfl (fun _ => rfl) (by simp)
  | crash turn at_ => exact enters rfl (fun _ => rfl) (by simp)
  | release turn at_ => exact enters rfl (fun _ => rfl) (by simp)
  | @lose c' turn =>
      intro c imei deviceId now
      by_cases here : c = c'
      · subst here
        exact stays (by simpa using now)
      · exact stays (by simpa [here] using now)
  | push turn found family => exact fun c imei deviceId at_ => stays at_

theorem marked (reached : Reachable (Gateway.step cfg pipes) permitted .start g) : Marked g := by
  refine reached.invariant_of_reached ?_ fun _ _ _ before marked _ moves =>
    marked_step (traced before) marked (step_cases moves)
  intro c imei deviceId at_
  cases at_

def Held (c : Conn) (imei : Text) (g : Gateway) : Prop :=
  Sole c imei g.history → Registers c imei g.history → (g.tasks c).phase.gone = false →
    g.registry.owner imei = some c ∧ g.registry.getImeiBySocket id c = some imei

theorem held_step {i : Input} (traced : Traced g) (marked : Marked g) (held : Held c imei g)
    (moves : Step cfg pipes g i g') : Held c imei g' := by
  intro sole registers active
  have active_before : (g.tasks c).phase.gone = false := by
    by_contra gone
    have over_ := gone_step moves (eq_true_of_ne_false gone)
    rw [active] at over_
    cases over_
  cases registry_step moves with
  | @login _ c₁ _ _ imei₁ ip deviceId₁ protocol connectedAt lastSeen _ _ at_ registry history =>
      rw [history] at sole registers
      have new : Registers c₁ imei₁ (.performed c₁ ⟨.registerDevice imei₁ ip deviceId₁ protocol
          connectedAt lastSeen, ()⟩ :: g.history) := ⟨_, List.mem_cons_self, deviceId₁, rfl⟩
      rw [registry, Registry.owner_register, Registry.socket_register]
      by_cases here : imei = imei₁
      · subst here
        obtain rfl := sole.alone c₁ new
        simp
      · have other : c ≠ c₁ := by
          rintro rfl
          exact here (sole.faithful imei₁ new).symm
        have before : Registers c imei g.history := by
          obtain ⟨e, member, deviceId, found⟩ := registers
          rcases List.mem_cons.mp member with rfl | old
          · cases found
            exact absurd rfl other
          · exact ⟨e, old, deviceId, found⟩
        have sole_before : Sole c imei g.history := sole.earlier [_]
        obtain ⟨owned, found⟩ := held sole_before before active_before
        rw [if_neg here, if_neg other, if_neg, found]
        · exact ⟨owned, rfl⟩
        · intro taken
          exact here (sole_before.faithful imei₁ (registers_of_owner traced taken)).symm
  | @logout _ c₁ imei₁ deviceId₁ at_ registry history closing =>
      rw [history] at sole registers
      have before : Registers c imei g.history :=
        Registers.of_append_none [.offlined c₁ imei₁ deviceId₁ (.ok ())] registers
          (by simp [Event.registration])
      have sole_before : Sole c imei g.history := sole.earlier [_]
      obtain ⟨owned, found⟩ := held sole_before before active_before
      have other : c₁ ≠ c := by
        rintro rfl
        rw [closing] at active
        cases active
      have distinct : imei ≠ imei₁ := by
        rintro rfl
        exact other (sole_before.alone c₁ (marked c₁ imei deviceId₁ at_))
      rw [registry, Registry.owner_unregister, Registry.socket_unregister, if_neg distinct, if_neg,
        found]
      · exact ⟨owned, rfl⟩
      · intro taken
        exact distinct (sole_before.faithful imei₁ (registers_of_owner traced taken)).symm
  | same events view history others =>
      rw [history] at sole registers
      rw [view.owner, view.socket]
      have before := Registers.of_append_none events registers others
      exact held (sole.earlier events) before active_before

theorem held (reached : Reachable (Gateway.step cfg pipes) permitted .start g) :
    Held c imei g := by
  refine reached.invariant_of_reached ?_ fun _ _ _ before held _ moves =>
    held_step (traced before) (marked before) held (step_cases moves)
  rintro - ⟨e, member, -⟩
  cases member

def Found (c : Conn) (imei : Text) : Event → List Event → Prop
  | .performed c' ⟨.getImeiBySocket, imei?⟩, earlier =>
      c' = c → Sole c imei earlier → Registers c imei earlier → imei? = some imei
  | .performed c' ⟨.getDevice imei', device?⟩, earlier =>
      c' = c → imei' = imei → Sole c imei earlier → Registers c imei earlier →
        ∃ device, device? = some device ∧ device.socket = c ∧
          registrant imei earlier = some (c, device.deviceId)
  | _, _ => True

theorem found_step {i : Input} (traced : Traced g) (held : Held c imei g)
    (found : Throughout (Found c imei) g.history) (moves : Step cfg pipes g i g') :
    Throughout (Found c imei) g'.history := by
  cases moves with
  | quiet turn move => exact found
  | finish turn at_ => exact found
  | lose turn => exact found
  | @operate c' answers s o next packets turn at_ =>
      refine ⟨?_, by simpa using found⟩
      simp only [Gateway.perform_history]
      have active : c' = c → (g.tasks c).phase.gone = false := by
        rintro rfl
        rw [at_]
        rfl
      cases o with
      | getImeiBySocket =>
          rintro same sole registers
          have is := (held sole registers (active same)).2
          subst same
          exact is
      | getDevice imei' =>
          rintro same rfl sole registers
          obtain ⟨owned, -⟩ := held sole registers (active same)
          obtain ⟨device, there, own⟩ := Option.map_eq_some_iff.mp owned
          have last := traced.getDevice there
          rw [own] at last
          exact ⟨device, there, own, last⟩
      | _ => trivial
  | push turn found' family => exact ⟨trivial, found⟩
  | crash turn at_ => exact ⟨trivial, trivial, found⟩
  | release turn at_ => exact ⟨trivial, trivial, found⟩
  | _ => exact ⟨trivial, found⟩

/-- In every run a connection is answered its identity and its device, as long as it is the only one
that has logged in under the identity and has logged in under no other. -/
theorem found (reached : Reachable (Gateway.step cfg pipes) permitted .start g) :
    Throughout (Found c imei) g.history :=
  reached.invariant_of_reached trivial fun _ _ _ before found _ moves =>
    found_step (traced before) (held before) found (step_cases moves)

end Runs

end TrackerGateway.Invariants.Tenure
