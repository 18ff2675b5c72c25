/- module: TrackerGateway/Invariants/Reconnect
   source: src/tcp_server.py (finally), src/services/device_registry.py
   digest: A device that has reconnected stays registered, and the teardown that undoes it. -/

import TrackerGateway.Server.History

set_option autoImplicit false
set_option relaxedAutoImplicit false

namespace TrackerGateway.Invariants.Reconnect

open Foundation.Transition (Reachable run permittedRun reachable_of_run)
open Foundation.Wire (Text)
open TrackerGateway.Runtime
open TrackerGateway.Server
open Services (Registry)

/-- The connection that logged in last for an identity is the one it is registered for, in both
maps, until its own execution is over. -/
def Reconnected (g : Gateway) : Prop :=
  ∀ imei c deviceId, registrant imei g.history = some (c, deviceId) →
    (g.tasks c).phase.gone = false →
    g.registry.owner imei = some c ∧ g.registry.getImeiBySocket id c = some imei

/-- A login comes only on a connection without a registration for another identity, and a teardown
goes on only if its entry has not been taken by a connection that is still running. -/
def orderly (g : Gateway) : Input → Bool
  | .resume c _ =>
      match (g.tasks c).phase with
      | .handling _ (.call (.registerDevice imei ..) _) _ =>
          (g.registry.identities c).all (· = imei)
      | _ => true
  | .offline c (.ok _) =>
      match (g.tasks c).phase with
      | .offlining imei _ =>
          (g.registry.owner imei).all fun c' => c' = c || (g.tasks c').phase.gone
      | _ => true
  | _ => true

private theorem reconnected_step {cfg : Config} {pipes : Family → Pipeline} {g g' : Gateway}
    {i : Input} (traced : Traced g) (inv : Reconnected g) (allowed : orderly g i = true)
    (moves : Step cfg pipes g i g') : Reconnected g' := by
  intro imei c deviceId last active
  have active_before : (g.tasks c).phase.gone = false := by
    by_contra gone
    have := gone_step moves (eq_true_of_ne_false gone)
    rw [active] at this
    cases this
  cases registry_step moves with
  | @login _ c₁ _ _ imei₁ _ deviceId₁ _ _ _ _ _ at_ registry history =>
      rw [history, registrant_cons_some rfl] at last
      rw [registry, Registry.owner_register, Registry.socket_register]
      by_cases here : imei = imei₁
      · rw [if_pos here] at last
        cases last
        rw [if_pos here, if_pos rfl, here]
        exact ⟨rfl, rfl⟩
      · rw [if_neg here] at last ⊢
        obtain ⟨owned, found⟩ := inv imei c deviceId last active_before
        -- The connection that logs in has no entry of another identity.
        have other : c ≠ c₁ := by
          rintro rfl
          simp only [orderly, at_, List.all_eq_true, decide_eq_true_eq] at allowed
          exact here (allowed imei (Registry.mem_identities.mpr owned))
        refine ⟨owned, ?_⟩
        rw [if_neg other, if_neg, found]
        intro taken
        obtain ⟨deviceId', last', -⟩ := traced.entry imei₁ c taken
        have := (inv imei₁ c deviceId' last' active_before).2
        rw [found] at this
        cases this
        exact here rfl
  | @logout _ c₁ imei₁ deviceId₁ at_ registry history closing =>
      rw [history, registrant_cons_none rfl] at last
      rw [registry, Registry.owner_unregister, Registry.socket_unregister]
      obtain ⟨owned, found⟩ := inv imei c deviceId last active_before
      have other : c ≠ c₁ := by
        rintro rfl
        rw [closing] at active
        cases active
      have untaken : g.registry.owner imei₁ ≠ some c := by
        intro taken
        simp only [orderly, at_, taken, Option.all_some, active_before, Bool.or_false,
          decide_eq_true_eq] at allowed
        exact other allowed
      have distinct : imei ≠ imei₁ := by
        rintro rfl
        exact untaken owned
      rw [if_neg distinct, if_neg untaken]
      exact ⟨owned, found⟩
  | same events view history others =>
      rw [history, registrant_append_none others] at last
      rw [view.owner, view.socket]
      exact inv imei c deviceId last active_before

/-- In every state of every run of orderly logins and teardowns, a device that has logged in stays
registered until its own connection is over, whatever older connections do. -/
theorem reconnection_safe (cfg : Config) (pipes : Family → Pipeline) {g : Gateway}
    (reached : Reachable (Gateway.step cfg pipes) (fun g i => orderly g i) .start g) :
    Reconnected g := by
  refine reached.invariant_of_reached ?_ fun _ _ _ before inv allowed moves =>
    reconnected_step (traced before) inv allowed (step_cases moves)
  intro imei c deviceId last
  cases last

/-- A device logs in again on connection 1 while the teardown of its connection 0 awaits the offline
mark. -/
def overtakenInputs : List Input :=
  loginInputs 0 1 (calm ['d']) ++ hangUp 0 (calm ['d']) ++ loginInputs 1 1 (calm ['d']) ++
    [.offline 0 (.ok ())]

/-- The same two logins, the second after the end of the first connection. -/
def successiveInputs : List Input :=
  loginInputs 0 1 (calm ['d']) ++ hangUp 0 (calm ['d']) ++ [.offline 0 (.ok ()), .waitClosed 0] ++
    loginInputs 1 1 (calm ['d'])

private def view (g : Gateway) : Option (Conn × Text) × Bool × Option Conn × Option Text :=
  (registrant ['1'] g.history, (g.tasks 1).phase.gone, g.registry.owner ['1'],
    g.registry.getImeiBySocket id 1)

/-- The old teardown removes the entries of the connection that has logged in meanwhile. -/
theorem teardown_removes_reconnected : ∃ g,
    run (Gateway.step defaults (pipelines defaults)) .start overtakenInputs = some g ∧
    registrant ['1'] g.history = some (1, ['d']) ∧ (g.tasks 1).phase.gone = false ∧
    g.registry.owner ['1'] = none ∧ g.registry.getImeiBySocket id 1 = none ∧ ¬ Reconnected g := by
  have seen : (run (Gateway.step defaults (pipelines defaults)) .start overtakenInputs).map view =
      some (some (1, ['d']), false, none, none) := by decide +kernel
  obtain ⟨g, ran, shown⟩ := Option.map_eq_some_iff.mp seen
  simp only [view, Prod.mk.injEq] at shown
  obtain ⟨last, active, unowned, unfound⟩ := shown
  refine ⟨g, ran, last, active, unowned, unfound, ?_⟩
  intro reconnected
  have := (reconnected _ _ _ last active).1
  rw [unowned] at this
  cases this

/-- A reconnection after the old connection has ended. -/
theorem reconnection_safe_successive : ∃ g,
    run (Gateway.step defaults (pipelines defaults)) .start successiveInputs = some g ∧
    registrant ['1'] g.history = some (1, ['d']) ∧ Reconnected g := by
  have seen : (run (Gateway.step defaults (pipelines defaults)) .start successiveInputs).map
      (fun g => registrant ['1'] g.history) = some (some (1, ['d'])) := by decide +kernel
  obtain ⟨g, ran, last⟩ := Option.map_eq_some_iff.mp seen
  exact ⟨g, ran, last, reconnection_safe defaults (pipelines defaults)
    (reachable_of_run .start (by decide +kernel) ran)⟩

end TrackerGateway.Invariants.Reconnect
