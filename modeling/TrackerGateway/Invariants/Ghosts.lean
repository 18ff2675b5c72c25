/- module: TrackerGateway/Invariants/Ghosts
   source: src/tcp_server.py (finally), src/services/device_registry.py
   digest: No registration outlives its connection, and the teardown that leaves one behind. -/

import TrackerGateway.Server.History

set_option autoImplicit false
set_option relaxedAutoImplicit false

namespace TrackerGateway.Invariants.Ghosts

open Foundation.Transition (Reachable run permittedRun reachable_of_run)
open Foundation.Wire (Text)
open TrackerGateway.Runtime
open TrackerGateway.Server
open Services (Registry)

/-- No ended connection is registered for an identity, nor known to the reverse map. -/
def NoGhosts (g : Gateway) : Prop :=
  ∀ c, (g.tasks c).phase = .ended →
    (∀ imei, g.registry.owner imei ≠ some c) ∧ g.registry.getImeiBySocket id c = none

/-- A login comes only on a connection without a registration for another identity, the `finally`
block remembers no other identity than a registered one, and the offline mark does not raise. -/
def tidy (g : Gateway) : Input → Bool
  | .resume c _ =>
      match (g.tasks c).phase with
      | .handling _ (.call (.registerDevice imei ..) _) _ =>
          (g.registry.identities c).all (· = imei)
      | .finishing remembered =>
          (g.registry.getImeiBySocket id c).all fun imei =>
            !imei.isEmpty && (truthy remembered).all (· = imei)
      | _ => true
  | .offline _ (.error _) => false
  | _ => true

def Clean (r : Registry) (c : Conn) : Phase → Prop
  | .absent | .closing | .ended => ∀ imei, r.owner imei ≠ some c
  | .offlining imei _ => ∀ other, r.owner other = some c → other = imei
  | _ => True

structure Invariant (g : Gateway) : Prop where
  paired : ∀ imei c, g.registry.owner imei = some c → g.registry.getImeiBySocket id c = some imei
  clean : ∀ c, Clean g.registry c (g.tasks c).phase

private theorem clean_mono {r r' : Registry} {c : Conn} {phase : Phase}
    (fewer : ∀ imei, r'.owner imei = some c → r.owner imei = some c) (clean : Clean r c phase) :
    Clean r' c phase := by
  unfold Clean at clean ⊢
  split
  · exact fun imei owned => clean imei (fewer imei owned)
  · exact fun imei owned => clean imei (fewer imei owned)
  · exact fun imei owned => clean imei (fewer imei owned)
  · exact fun other owned => clean other (fewer other owned)
  · trivial

private theorem clean_framed (r : Registry) (c : Conn) (pipes : Family → Pipeline) (s : Session) :
    Clean r c (Gateway.framed pipes s) := by
  rw [Gateway.framed]
  split <;> trivial

private theorem clean_teardown {r : Registry} {c : Conn} {remembered : Option Text}
    (paired : ∀ imei, r.owner imei = some c → r.getImeiBySocket id c = some imei)
    (allowed : (r.getImeiBySocket id c).all
      (fun imei => !imei.isEmpty && (truthy remembered).all (· = imei)) = true) :
    Clean r c (Gateway.teardown r c remembered) := by
  have single : ∀ imei, r.owner imei = some c →
      truthy ((truthy remembered).or (r.getImeiBySocket id c)) = some imei := by
    intro imei owned
    rw [paired imei owned] at allowed ⊢
    simp only [Option.all_some, Bool.and_eq_true, Bool.not_eq_true', List.isEmpty_eq_false_iff]
      at allowed
    rcases remembers : truthy remembered with _ | named
    · simp [allowed.1]
    · have same : named = imei := by simpa [remembers] using allowed.2
      simp [same, allowed.1]
  rw [Gateway.teardown]
  split
  · next none_ =>
      intro imei owned
      rw [single imei owned] at none_
      cases none_
  · next cleanupImei named =>
      split
      · next missing =>
          intro imei owned
          rw [single imei owned] at named
          cases named
          simp [Registry.owner, missing] at owned
      · next device found =>
          split
          · intro imei owned
            rw [single imei owned] at named
            cases named
            rfl
          · next foreign =>
              intro imei owned
              rw [single imei owned] at named
              cases named
              simp [Registry.owner, found, foreign] at owned

private theorem paired_step {g g' : Gateway} {i : Input} (inv : Invariant g)
    (allowed : tidy g i = true) (moves : RegistryStep g i g') (imei : Text) (c : Conn)
    (owned : g'.registry.owner imei = some c) :
    g'.registry.getImeiBySocket id c = some imei := by
  cases moves with
  | @login _ c₁ _ _ imei₁ _ deviceId₁ _ _ _ _ _ at_ registry history =>
      rw [registry, Registry.owner_register] at owned
      rw [registry, Registry.socket_register]
      by_cases here : imei = imei₁
      · rw [if_pos here] at owned
        cases owned
        rw [if_pos rfl, here]
      · rw [if_neg here] at owned
        have found := inv.paired imei c owned
        have other : c ≠ c₁ := by
          rintro rfl
          simp only [tidy, at_, List.all_eq_true, decide_eq_true_eq] at allowed
          exact here (allowed imei (Registry.mem_identities.mpr owned))
        rw [if_neg other, if_neg, found]
        intro taken
        have := inv.paired imei₁ c taken
        rw [found] at this
        cases this
        exact here rfl
  | @logout _ c₁ imei₁ deviceId₁ at_ registry history closing =>
      rw [registry, Registry.owner_unregister] at owned
      rw [registry, Registry.socket_unregister]
      split at owned
      · cases owned
      · next here =>
          have found := inv.paired imei c owned
          rw [if_neg, found]
          intro taken
          have := inv.paired imei₁ c taken
          rw [found] at this
          cases this
          exact here rfl
  | same events view history others =>
      rw [view.owner] at owned
      rw [view.socket]
      exact inv.paired imei c owned

private theorem clean_enter {g g₁ : Gateway} {c : Conn} {phase : Phase} (inv : Invariant g)
    (others : ∀ c', c' ≠ c → (g₁.tasks c').phase = (g.tasks c').phase)
    (fewer : ∀ imei c', c' ≠ c → g₁.registry.owner imei = some c' →
      g.registry.owner imei = some c')
    (moved : Clean g₁.registry c phase) (c' : Conn) :
    Clean (g₁.enter c phase).registry c' ((g₁.enter c phase).tasks c').phase := by
  rw [Gateway.enter_registry, Gateway.enter_phase]
  by_cases here : c' = c
  · rw [if_pos here, here]
    exact moved
  · rw [if_neg here, others c' here]
    exact clean_mono (fun imei => fewer imei c' here) (inv.clean c')

private theorem clean_step {cfg : Config} {pipes : Family → Pipeline} {g g' : Gateway} {i : Input}
    (inv : Invariant g) (allowed : tidy g i = true) (moves : Step cfg pipes g i g') (c' : Conn) :
    Clean g'.registry c' (g'.tasks c').phase := by
  have clean := inv.clean
  cases moves with
  | @refuse c ip turn at_ full =>
      by_cases here : c' = c
      · subst here
        have unregistered := clean c'
        rw [at_] at unregistered
        change Clean g.registry c' (Function.update g.tasks c' _ c').phase
        rw [Function.update_self]
        exact unregistered
      · simpa [here] using clean c'
  | @acquire c ip turn at_ free =>
      by_cases here : c' = c
      · subst here
        simp [Clean]
      · simpa [here] using clean c'
  | @quiet i c phase turn move =>
      refine clean_enter inv (fun _ _ => rfl) (fun _ _ _ owned => owned) ?_ c'
      generalize at_ : (g.tasks c).phase = before at move
      cases move with
      | more s buffer => exact clean_framed _ _ _ _
      | _ => trivial
  | detect turn at_ enabled =>
      exact clean_enter inv (fun _ _ => rfl) (fun _ _ _ owned => owned) (clean_framed _ _ _ _) c'
  | begin_ turn at_ open_ =>
      exact clean_enter inv (fun _ _ => rfl) (fun _ _ _ owned => owned) (by trivial) c'
  | @operate c answers s o next packets turn at_ =>
      refine clean_enter inv (fun _ _ => by simp) ?_ (by trivial) c'
      intro imei c'' other owned
      rw [Gateway.record_registry] at owned
      rcases g.perform_registry c answers o with
        ⟨imei₁, ip, deviceId, protocol, connectedAt, lastSeen, rfl, registry⟩ | ⟨-, view⟩
      · rw [registry, Registry.owner_register] at owned
        split at owned
        · cases owned
          exact absurd rfl other
        · exact owned
      · rwa [view.owner] at owned
  | nameless turn at_ untrue =>
      exact clean_enter inv (fun _ _ => rfl) (fun _ _ _ owned => owned) (by trivial) c'
  | named turn at_ real =>
      refine clean_enter inv (fun _ _ => by rfl) ?_ ?_ c'
      · intro imei c'' other owned
        exact ((g.heard_registry _ _).owner imei).symm.trans owned
      · trivial
  | raise turn at_ =>
      exact clean_enter inv (fun _ _ => rfl) (fun _ _ _ owned => owned) (by trivial) c'
  | @finish c answers remembered turn at_ =>
      simp only [tidy, at_] at allowed
      exact clean_enter inv (fun _ _ => rfl) (fun _ _ _ owned => owned)
        (clean_teardown (fun imei => inv.paired imei c) allowed) c'
  | @unregister c imei deviceId turn at_ =>
      refine clean_enter inv (fun _ _ => by rfl) ?_ ?_ c'
      · intro other c'' _ owned
        rw [Gateway.record_registry, Registry.owner_unregister] at owned
        split at owned
        · cases owned
        · exact owned
      · intro other owned
        rw [Gateway.record_registry, Registry.owner_unregister] at owned
        split at owned
        · cases owned
        · next distinct =>
            have promised := clean c
            rw [at_] at promised
            exact distinct (promised other owned)
  | crash turn at_ => cases allowed
  | @release c turn at_ =>
      refine clean_enter inv (fun _ _ => rfl) (fun _ _ _ owned => owned) ?_ c'
      have promised := clean c
      rw [at_] at promised
      exact promised
  | @lose c turn =>
      by_cases here : c' = c
      · subst here
        simpa using clean c'
      · simpa [here] using clean c'
  | push turn found family => exact clean c'

/-- No registration outlives its connection in any run of tidy steps. -/
theorem no_ghosts (cfg : Config) (pipes : Family → Pipeline) {g : Gateway}
    (reached : Reachable (Gateway.step cfg pipes) (fun g i => tidy g i) .start g) :
    NoGhosts g := by
  have inv : Invariant g := by
    have start : Invariant .start := by
      constructor
      · intro imei c owned
        cases owned
      · intro c imei owned
        cases owned
    apply reached.invariant start
    intro _ _ _ inv allowed moves
    exact ⟨paired_step inv allowed (registry_step (step_cases moves)),
      clean_step inv allowed (step_cases moves)⟩
  intro c ended
  have unregistered : ∀ imei, g.registry.owner imei ≠ some c := by
    have clean := inv.clean c
    rwa [ended] at clean
  refine ⟨unregistered, Option.eq_none_iff_forall_ne_some.mpr ?_⟩
  intro imei found
  exact unregistered imei ((traced reached).reverse c imei found)

/-- A device logs in, hangs up, and its offline mark raises. -/
def abandonedInputs : List Input :=
  loginInputs 0 1 (calm ['d']) ++ hangUp 0 (calm ['d']) ++ [.offline 0 (.error .timeoutError)]

/-- The same connection with an offline mark that succeeds. -/
def completedInputs : List Input :=
  loginInputs 0 1 (calm ['d']) ++ hangUp 0 (calm ['d']) ++ [.offline 0 (.ok ()), .waitClosed 0]

/-- The ended connection stays registered after its offline mark has raised. -/
theorem ghost_left_behind : ∃ g,
    run (Gateway.step defaults (pipelines defaults)) .start abandonedInputs = some g ∧
    (g.tasks 0).phase = .ended ∧ g.registry.owner ['1'] = some 0 ∧
    g.registry.getImeiBySocket id 0 = some ['1'] ∧ ¬ NoGhosts g := by
  have seen : (run (Gateway.step defaults (pipelines defaults)) .start abandonedInputs).map
      (fun g => ((g.tasks 0).phase.isEnded, g.registry.owner ['1'],
        g.registry.getImeiBySocket id 0)) = some (true, some 0, some ['1']) := by decide +kernel
  obtain ⟨g, ran, shown⟩ := Option.map_eq_some_iff.mp seen
  simp only [Prod.mk.injEq, Phase.isEnded_iff] at shown
  obtain ⟨ended, owned, found⟩ := shown
  exact ⟨g, ran, ended, owned, found, fun clean => (clean 0 ended).1 _ owned⟩

theorem no_ghosts_completed : ∃ g,
    run (Gateway.step defaults (pipelines defaults)) .start completedInputs = some g ∧
    (g.tasks 0).phase = .ended ∧ NoGhosts g := by
  have seen : (run (Gateway.step defaults (pipelines defaults)) .start completedInputs).map
      (fun g => (g.tasks 0).phase.isEnded) = some true := by decide +kernel
  obtain ⟨g, ran, ended⟩ := Option.map_eq_some_iff.mp seen
  exact ⟨g, ran, Phase.isEnded_iff.mp ended, no_ghosts defaults (pipelines defaults)
    (reachable_of_run .start (by decide +kernel) ran)⟩

end TrackerGateway.Invariants.Ghosts
