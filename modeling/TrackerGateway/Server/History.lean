/- module: TrackerGateway/Server/History
   source: src/services/device_registry.py, src/tcp_server.py
   digest: Registrations in the history of a run, and what a step does to who is registered. -/

import TrackerGateway.Server.Steps

set_option autoImplicit false
set_option relaxedAutoImplicit false

namespace TrackerGateway.Server

open Foundation.Coroutine (Program)
open Foundation.Transition (Reachable)
open Foundation.Wire (Text Bytes Instant)
open TrackerGateway.Runtime
open Services (Registry)

def Event.registration : Event → Option (Conn × Text × Text)
  | .performed c ⟨.registerDevice imei _ deviceId .., _⟩ => some (c, imei, deviceId)
  | _ => none

theorem Event.eq_of_registration {e : Event} {c : Conn} {imei deviceId : Text}
    (is : e.registration = some (c, imei, deviceId)) :
    ∃ ip protocol connectedAt lastSeen, e = .performed c
      ⟨.registerDevice imei ip deviceId protocol connectedAt lastSeen, ()⟩ := by
  unfold Event.registration at is
  split at is
  · cases is
    exact ⟨_, _, _, _, rfl⟩
  · cases is

/-- The connection that registered an identity last, and for which device. -/
def registrant (imei : Text) : List Event → Option (Conn × Text)
  | [] => none
  | e :: rest =>
      match e.registration with
      | some (c, i, deviceId) => if i = imei then some (c, deviceId) else registrant imei rest
      | none => registrant imei rest

@[simp] theorem registrant_nil (imei : Text) : registrant imei [] = none := rfl

theorem registrant_cons_none {e : Event} (other : e.registration = none) (imei : Text)
    (h : List Event) : registrant imei (e :: h) = registrant imei h := by
  simp [registrant, other]

theorem registrant_cons_some {e : Event} {c : Conn} {i deviceId : Text}
    (is : e.registration = some (c, i, deviceId)) (imei : Text) (h : List Event) :
    registrant imei (e :: h) = if imei = i then some (c, deviceId) else registrant imei h := by
  simp [registrant, is, eq_comm]

theorem registrant_append_none {events : List Event}
    (others : ∀ e ∈ events, e.registration = none) (imei : Text) (h : List Event) :
    registrant imei (events ++ h) = registrant imei h := by
  induction events with
  | nil => rfl
  | cons e events ih =>
      rw [List.cons_append, registrant_cons_none (others e (by simp))]
      exact ih fun e' member => others e' (by simp [member])

theorem registrant_mem {imei : Text} {h : List Event} {c : Conn} {deviceId : Text}
    (last : registrant imei h = some (c, deviceId)) :
    ∃ e ∈ h, e.registration = some (c, imei, deviceId) := by
  induction h with
  | nil => cases last
  | cons e h ih =>
      cases is : e.registration with
      | none =>
          rw [registrant_cons_none is] at last
          obtain ⟨e', member, found⟩ := ih last
          exact ⟨e', by simp [member], found⟩
      | some registered =>
          obtain ⟨c', i, deviceId'⟩ := registered
          rw [registrant_cons_some is] at last
          split at last
          · next same =>
              subst same
              cases last
              exact ⟨e, by simp, is⟩
          · obtain ⟨e', member, found⟩ := ih last
            exact ⟨e', by simp [member], found⟩

inductive RegistryStep (g : Gateway) : Input → Gateway → Prop
  | login {g' : Gateway} {c : Conn} {answers : (o : Op) → Res o} {s : Session}
      {imei ip deviceId : Text} {protocol : Family} {connectedAt lastSeen : Instant}
      {next : Unit → Handler (Option Text)} {packets : List Bytes}
      (at_ : (g.tasks c).phase = .handling s
        (.call (.registerDevice imei ip deviceId protocol connectedAt lastSeen) next) packets)
      (registry : g'.registry =
        g.registry.register id imei ip deviceId c protocol connectedAt lastSeen)
      (history : g'.history = .performed c
        ⟨.registerDevice imei ip deviceId protocol connectedAt lastSeen, ()⟩ :: g.history) :
      RegistryStep g (.resume c answers) g'
  | logout {g' : Gateway} {c : Conn} {imei deviceId : Text}
      (at_ : (g.tasks c).phase = .offlining imei deviceId)
      (registry : g'.registry = g.registry.unregister id imei)
      (history : g'.history = .offlined c imei deviceId (.ok ()) :: g.history)
      (closing : (g'.tasks c).phase = .closing) :
      RegistryStep g (.offline c (.ok ())) g'
  | same {i : Input} {g' : Gateway} (events : List Event)
      (view : Registry.SameView g.registry g'.registry)
      (history : g'.history = events ++ g.history)
      (others : ∀ e ∈ events, e.registration = none) : RegistryStep g i g'

theorem RegistryStep.record {g g' : Gateway} {i : Input} (e : Event)
    (view : Registry.SameView g.registry g'.registry) (history : g'.history = e :: g.history)
    (other : e.registration = none) : RegistryStep g i g' := by
  apply RegistryStep.same [e] view history
  intro e' member
  rw [List.mem_singleton.mp member]
  exact other

theorem registry_step {cfg : Config} {pipes : Family → Pipeline} {g g' : Gateway} {i : Input}
    (moves : Step cfg pipes g i g') : RegistryStep g i g' := by
  cases moves with
  | @refuse c ip turn at_ full =>
      exact .record (.refused c) (.refl _) rfl rfl
  | @acquire c ip turn at_ free =>
      exact .record (.acquired c) (.refl _) rfl rfl
  | quiet turn move => exact .same [] (.refl _) rfl (by simp)
  | @detect i c b data protocol turn at_ enabled =>
      exact .record (.detected c protocol) (.refl _) rfl rfl
  | @begin_ c answers s raw packets turn at_ open_ =>
      exact .record (.began c raw) (.refl _) rfl rfl
  | @operate c answers s o next packets turn at_ =>
      rcases g.perform_registry c answers o with
        ⟨imei, ip, deviceId, protocol, connectedAt, lastSeen, rfl, registry⟩ | ⟨distinct, view⟩
      · exact .login at_ registry rfl
      · refine .same [.performed c ⟨o, (g.perform c answers o).1⟩] view (by simp) ?_
        intro e member
        obtain rfl := List.mem_singleton.mp member
        cases o <;> first | rfl | exact (distinct _ _ _ _ _ _ rfl).elim
  | @nameless c answers s outcome packets turn at_ untrue =>
      exact .record (.returned c (.ok outcome)) (.refl _) rfl rfl
  | @named c answers s imei packets turn at_ real =>
      exact .record (.returned c (.ok (some imei))) (g.heard_registry _ _) rfl rfl
  | @raise c answers s e packets turn at_ =>
      exact .record (.returned c (.error e)) (.refl _) rfl rfl
  | finish turn at_ => exact .same [] (.refl _) rfl (by simp)
  | unregister turn at_ => exact .logout at_ rfl rfl (by simp)
  | @crash c imei deviceId e turn at_ =>
      exact .same [.ended c, .offlined c imei deviceId (.error e)] (.refl _) rfl
        (by simp [Event.registration])
  | @release c turn at_ =>
      exact .same [.ended c, .released c] (.refl _) rfl (by simp [Event.registration])
  | lose turn => exact .same [] (.refl _) rfl (by simp)
  | @push imei required payload device turn found family =>
      exact .record (.pushed device.socket payload) (.refl _) rfl rfl

theorem history_step {g g' : Gateway} {i : Input} (moves : RegistryStep g i g') :
    ∃ events, g'.history = events ++ g.history := by
  cases moves with
  | login at_ registry history => exact ⟨[_], history⟩
  | logout at_ registry history closing => exact ⟨[_], history⟩
  | same events view history others => exact ⟨events, history⟩

/-- What holds of the registry in every run: an entry is the last registration of its identity, and
the reverse map only names the connection an identity is registered for. -/
structure Traced (g : Gateway) : Prop where
  entry : ∀ imei c, g.registry.owner imei = some c →
    ∃ deviceId, registrant imei g.history = some (c, deviceId) ∧
      g.registry.deviceOf imei = some deviceId
  reverse : ∀ c imei, g.registry.getImeiBySocket id c = some imei →
    g.registry.owner imei = some c

theorem traced_start : Traced .start where
  entry := by
    intro imei c owned
    cases owned
  reverse := by
    intro c imei found
    cases found

theorem traced_step {g g' : Gateway} {i : Input} (traced : Traced g)
    (moves : RegistryStep g i g') : Traced g' := by
  obtain ⟨entry, reverse⟩ := traced
  cases moves with
  | @login _ c _ _ imei _ deviceId _ _ _ _ _ at_ registry history =>
      refine ⟨?_, ?_⟩
      · intro imei' c' owned
        rw [registry, Registry.owner_register] at owned
        rw [registry, Registry.deviceOf_register, history, registrant_cons_some rfl]
        by_cases here : imei' = imei
        · rw [if_pos here] at owned
          cases owned
          exact ⟨deviceId, if_pos here, if_pos here⟩
        · rw [if_neg here] at owned ⊢
          rw [if_neg here]
          exact entry imei' c' owned
      · intro c' imei' found
        rw [registry, Registry.socket_register] at found
        rw [registry, Registry.owner_register]
        by_cases here : c' = c
        · rw [if_pos here] at found
          cases found
          rw [if_pos rfl, here]
        · rw [if_neg here] at found
          split at found
          · cases found
          · next other =>
              have owned := reverse c' imei' found
              have distinct : imei' ≠ imei := by
                rintro rfl
                exact other owned
              rw [if_neg distinct, owned]
  | @logout _ c imei deviceId at_ registry history closing =>
      refine ⟨?_, ?_⟩
      · intro imei' c' owned
        rw [registry, Registry.owner_unregister] at owned
        rw [registry, Registry.deviceOf_unregister, history, registrant_cons_none rfl]
        split at owned
        · cases owned
        · next other =>
            rw [if_neg other]
            exact entry imei' c' owned
      · intro c' imei' found
        rw [registry, Registry.socket_unregister] at found
        rw [registry, Registry.owner_unregister]
        split at found
        · cases found
        · next other =>
            have owned := reverse c' imei' found
            have distinct : imei' ≠ imei := by
              rintro rfl
              exact other owned
            rw [if_neg distinct, owned]
  | same events view history others =>
      refine ⟨?_, ?_⟩
      · intro imei c owned
        rw [view.owner] at owned
        rw [view.device, history, registrant_append_none others]
        exact entry imei c owned
      · intro c imei found
        rw [view.socket] at found
        rw [view.owner]
        exact reverse c imei found

/-- In every state of every run the registry is traced to the history. -/
theorem traced {cfg : Config} {pipes : Family → Pipeline} {permitted : Gateway → Input → Prop}
    {g : Gateway} (reached : Reachable (Gateway.step cfg pipes) permitted .start g) : Traced g :=
  reached.invariant traced_start fun _ _ _ traced _ moves =>
    traced_step traced (registry_step (step_cases moves))

def Event.reroutes (imei : Text) : Event → Option (Option (Conn × Family))
  | .performed c ⟨.registerDevice i _ _ protocol _ _, _⟩ =>
      if i = imei then some (some (c, protocol)) else none
  | .offlined _ i _ (.ok ()) => if i = imei then some none else none
  | _ => none

def lastRoute (imei : Text) (h : List Event) : Option (Option (Conn × Family)) :=
  h.findSome? (Event.reroutes imei)

theorem lastRoute_append (imei : Text) (later earlier : List Event) :
    lastRoute imei (later ++ earlier) = (lastRoute imei later).or (lastRoute imei earlier) :=
  List.findSome?_append

theorem lastRoute_cons (imei : Text) (e : Event) (h : List Event) :
    lastRoute imei (e :: h) = (e.reroutes imei).or (lastRoute imei h) := by
  rw [lastRoute]
  rw [List.findSome?_cons]
  cases e.reroutes imei <;> rfl

theorem registered_of_lastRoute {imei : Text} {h : List Event} {c : Conn} {protocol : Family}
    (last : lastRoute imei h = some (some (c, protocol))) :
    ∃ ip deviceId connectedAt lastSeen, .performed c
      ⟨.registerDevice imei ip deviceId protocol connectedAt lastSeen, ()⟩ ∈ h := by
  obtain ⟨e, member, changes⟩ := List.exists_of_findSome?_eq_some last
  unfold Event.reroutes at changes
  split at changes
  · split at changes
    · next same =>
        subst same
        cases changes
        exact ⟨_, _, _, _, member⟩
    · cases changes
  · split at changes <;> cases changes
  · cases changes

def Routed (g : Gateway) : Prop :=
  ∀ imei, g.registry.route imei = (lastRoute imei g.history).join

theorem routed_step {cfg : Config} {pipes : Family → Pipeline} {g g' : Gateway} {i : Input}
    (routed : Routed g) (moves : Step cfg pipes g i g') : Routed g' := by
  have quiet : ∀ {g₁ : Gateway} (events : List Event), g₁.history = events ++ g.history →
      (∀ imei, g₁.registry.route imei = g.registry.route imei) →
      (∀ imei, ∀ e ∈ events, e.reroutes imei = none) → Routed g₁ := by
    intro g₁ events history same unchanged imei
    have nothing : lastRoute imei events = none :=
      List.findSome?_eq_none_iff.mpr (unchanged imei)
    rw [same, history, lastRoute_append, nothing, Option.none_or]
    exact routed imei
  have one : ∀ {g₁ : Gateway} (e : Event), g₁.history = e :: g.history →
      (∀ imei, g₁.registry.route imei = g.registry.route imei) →
      (∀ imei, e.reroutes imei = none) → Routed g₁ := by
    intro g₁ e history same unchanged
    apply quiet [e] history same
    intro imei e' member
    rw [List.mem_singleton.mp member]
    exact unchanged imei
  cases moves with
  | @refuse c ip turn at_ full =>
      exact one (.refused c) rfl (fun _ => rfl) fun _ => rfl
  | @acquire c ip turn at_ free =>
      exact one (.acquired c) rfl (fun _ => rfl) fun _ => rfl
  | quiet turn move => exact quiet [] rfl (fun _ => rfl) (by simp)
  | @detect i c b data protocol turn at_ enabled =>
      exact one (.detected c protocol) rfl (fun _ => rfl) fun _ => rfl
  | @begin_ c answers s raw packets turn at_ open_ =>
      exact one (.began c raw) rfl (fun _ => rfl) fun _ => rfl
  | @operate c answers s o next packets turn at_ =>
      cases o with
      | registerDevice imei ip deviceId protocol connectedAt lastSeen =>
          intro other
          change (g.registry.register id imei ip deviceId c protocol connectedAt lastSeen).route
            other = (lastRoute other (.performed c ⟨.registerDevice imei ip deviceId protocol
              connectedAt lastSeen, ()⟩ :: g.history)).join
          rw [Registry.route_register, lastRoute_cons, Event.reroutes]
          by_cases here : imei = other
          · subst here
            simp
          · rw [if_neg (Ne.symm here), if_neg here, Option.none_or]
            exact routed other
      | notePosition imei speed now =>
          exact one (.performed c ⟨.notePosition imei speed now, ()⟩) rfl
            (Registry.route_notePosition _ _) fun _ => rfl
      | _ => exact one (.performed c ⟨_, _⟩) rfl (fun _ => rfl) fun _ => rfl
  | @nameless c answers s outcome packets turn at_ untrue =>
      exact one (.returned c (.ok outcome)) rfl (fun _ => rfl) fun _ => rfl
  | @named c answers s imei packets turn at_ real =>
      exact one (.returned c (.ok (some imei))) rfl (Registry.route_updateLastSeen _) fun _ => rfl
  | @raise c answers s e packets turn at_ =>
      exact one (.returned c (.error e)) rfl (fun _ => rfl) fun _ => rfl
  | finish turn at_ => exact quiet [] rfl (fun _ => rfl) (by simp)
  | @unregister c imei deviceId turn at_ =>
      intro other
      change (g.registry.unregister id imei).route other =
        (lastRoute other (.offlined c imei deviceId (.ok ()) :: g.history)).join
      rw [Registry.route_unregister, lastRoute_cons, Event.reroutes]
      by_cases here : imei = other
      · subst here
        simp
      · rw [if_neg (Ne.symm here), if_neg here, Option.none_or]
        exact routed other
  | @crash c imei deviceId e turn at_ =>
      exact quiet [.ended c, .offlined c imei deviceId (.error e)] rfl (fun _ => rfl)
        (by simp [Event.reroutes])
  | @release c turn at_ =>
      exact quiet [.ended c, .released c] rfl (fun _ => rfl) (by simp [Event.reroutes])
  | lose turn => exact quiet [] rfl (fun _ => rfl) (by simp)
  | @push imei required payload device turn found family =>
      exact one (.pushed device.socket payload) rfl (fun _ => rfl) fun _ => rfl

theorem routed {cfg : Config} {pipes : Family → Pipeline} {permitted : Gateway → Input → Prop}
    {g : Gateway} (reached : Reachable (Gateway.step cfg pipes) permitted .start g) : Routed g := by
  refine reached.invariant ?_ fun _ _ _ routed _ moves =>
    routed_step routed (step_cases moves)
  intro imei
  rfl

def Phase.gone : Phase → Bool
  | .closing | .ended => true
  | _ => false

theorem gone_step {cfg : Config} {pipes : Family → Pipeline} {g g' : Gateway} {i : Input}
    (moves : Step cfg pipes g i g') {c : Conn} (gone : (g.tasks c).phase.gone = true) :
    (g'.tasks c).phase.gone = true := by
  have stays : ∀ {g₁ : Gateway} {c' : Conn} {phase : Phase},
      (g₁.tasks c).phase = (g.tasks c).phase →
      (g.tasks c').phase.gone = false → ((g₁.enter c' phase).tasks c).phase.gone = true := by
    intro g₁ c' phase same active
    have other : c ≠ c' := by
      rintro rfl
      simp [gone] at active
    rw [Gateway.enter_tasks_ne _ _ _ other, same, gone]
  cases moves with
  | @refuse c' ip turn at_ full =>
      have other : c ≠ c' := by
        rintro rfl
        simp [at_, Phase.gone] at gone
      simpa [other] using gone
  | @acquire c' ip turn at_ free =>
      have other : c ≠ c' := by
        rintro rfl
        simp [at_, Phase.gone] at gone
      simpa [other] using gone
  | @quiet _ c' phase turn move =>
      apply stays rfl
      generalize (g.tasks c').phase = before at move
      cases move <;> rfl
  | operate turn at_ => exact stays (by simp) (by simp [at_, Phase.gone])
  | detect turn at_ enabled => exact stays rfl (by simp [at_, Phase.gone])
  | begin_ turn at_ open_ => exact stays rfl (by simp [at_, Phase.gone])
  | nameless turn at_ untrue => exact stays rfl (by simp [at_, Phase.gone])
  | named turn at_ real => exact stays rfl (by simp [at_, Phase.gone])
  | raise turn at_ => exact stays rfl (by simp [at_, Phase.gone])
  | finish turn at_ => exact stays rfl (by simp [at_, Phase.gone])
  | unregister turn at_ => exact stays rfl (by simp [at_, Phase.gone])
  | crash turn at_ => exact stays rfl (by simp [at_, Phase.gone])
  | @release c' turn at_ =>
      by_cases here : c = c'
      · subst here
        simp [Phase.gone]
      · rw [Gateway.enter_tasks_ne _ _ _ here]
        exact gone
  | @lose c' turn =>
      by_cases here : c = c'
      · subst here
        simpa using gone
      · simpa [here] using gone
  | push turn found family => exact gone

end TrackerGateway.Server
