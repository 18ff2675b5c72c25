/- module: TrackerGateway/Invariants/Startup
   source: src/config.py, src/protocols/detect.py, src/tcp_server.py, src/services/gps103_poller.py
   digest: No run of a process serves a family or polls a device that its environment does not
     name. -/

import TrackerGateway.Environment
import TrackerGateway.Polling.Families
import TrackerGateway.Server.Sessions

set_option autoImplicit false
set_option relaxedAutoImplicit false

namespace TrackerGateway.Invariants.Startup

open Foundation.Transition (Reachable run run_induction reachable_of_free_run)
open Foundation.Wire (Text Bytes)
open TrackerGateway.Runtime
open Server
open Server.Sessions

section Runs

variable {cfg : Config} {pipes : Family → Pipeline} {c : Conn} {family : Family}

theorem enabled_of_advance {stage stage' : Stage}
    (moves : advance cfg stage (.detected c family) = some stage') :
    family ∈ cfg.enabledProtocols := by
  cases stage with
  | admitted => exact (ite_eq_some moves).1
  | _ => cases moves

theorem enabled_of_followed {w : List Event} {stage : Stage}
    (follows : run (advance cfg) .unseen w = some stage) (detected : .detected c family ∈ w) :
    family ∈ cfg.enabledProtocols := by
  refine run_induction (P := fun w _ => .detected c family ∈ w → family ∈ cfg.enabledProtocols)
    (by simp) ?_ follows detected
  intro w stage e stage' before moves member
  rcases List.mem_append.mp member with earlier | last
  · exact before earlier
  · rw [← List.mem_singleton.mp last] at moves
    exact enabled_of_advance moves

theorem enabled_of_detected {g : Gateway} {permitted : Gateway → Input → Prop}
    (reached : Reachable (Gateway.step cfg pipes) permitted .start g)
    (detected : .detected c family ∈ g.history) : family ∈ cfg.enabledProtocols := by
  obtain ⟨stage, follows, -⟩ := followed reached c
  exact enabled_of_followed follows ((mem_word rfl).mpr detected)

theorem unasked {p : Polling.System} {permitted : Polling.System → Polling.Move → Prop}
    (off : Polling.System.enabled cfg = false)
    (reached : Reachable (Polling.System.step cfg pipes) permitted .start p) :
    p.poller = .sleeping ∧ p.asked = [] := by
  refine reached.invariant (P := fun p => p.poller = .sleeping ∧ p.asked = []) ⟨rfl, rfl⟩ ?_
  rintro p move p' ⟨asleep, silent⟩ - moves
  cases move with
  | gateway i =>
      rw [Polling.System.step] at moves
      split at moves
      · cases moves
      · obtain ⟨gateway, -, rfl⟩ := Option.map_eq_some_iff.mp moves
        exact ⟨asleep, silent⟩
  | wake now due =>
      rw [Polling.System.step, asleep] at moves
      obtain ⟨⟨-, on, -⟩, -⟩ := ite_eq_some moves
      rw [off] at on
      cases on
  | ask writing =>
      rw [Polling.System.step, asleep] at moves
      cases moves
  | drained outcome now =>
      rw [Polling.System.step, asleep] at moves
      cases moves

/-- Whatever the variables of a process that starts: in no run is a connection detected as a family
that they do not list, nor anything done for one that is not; a poller that has asked anyone was
listed with its family and set to ten seconds at least; bytes that carry the signature of a listed
family are detected as it; parked devices are polled no more often than others; and routine packets
are sampled at a rate between zero and one. -/
theorem environment_respected {env : Environment} {cfg : Config}
    (starts : env.settings = some cfg) :
    (∀ g, Reachable (Gateway.step cfg (pipelines cfg)) (fun _ _ => True) .start g →
      (∀ c family, .detected c family ∈ g.history → env.Lists family) ∧
      ∀ c a, .performed c a ∈ g.history →
        ∃ family, .detected c family ∈ g.history ∧ env.Lists family) ∧
    (∀ p, Reachable (Polling.System.step cfg (pipelines cfg)) (fun _ _ => True) .start p →
      p.asked ≠ [] → env.Lists .gps103 ∧ 10 ≤ cfg.gps103PollSeconds) ∧
    (∀ firstBytes family, detectProtocol cfg firstBytes = some family ↔
      sniff firstBytes = some family ∧ env.Lists family) ∧
    cfg.gps103PollSeconds ≤ cfg.gps103PollIdleSeconds ∧
    0 ≤ cfg.rawPacketSampleRate ∧ cfg.rawPacketSampleRate ≤ 1 := by
  obtain ⟨families, rate, -⟩ := Environment.settings_eq_some starts
  obtain ⟨wakes, ordered⟩ := Environment.pollSeconds_bounds starts
  have listed : ∀ family, family ∈ cfg.enabledProtocols ↔ env.Lists family := by
    intro family
    rw [families]
    exact Environment.mem_enabledProtocols
  refine ⟨?_, ?_, ?_, ordered, rate ▸ Environment.rawPacketSampleRate_bounds⟩
  · intro g reached
    refine ⟨fun c family detected => (listed family).mp (enabled_of_detected reached detected), ?_⟩
    intro c a member
    obtain ⟨later, earlier, whole, family, raw, detected, -⟩ :=
      (overseen_run reached).obeys.exists_of_mem member
    have there : .detected c family ∈ g.history := by
      rw [whole]
      exact List.mem_append_right _ (List.mem_cons_of_mem _ detected)
    exact ⟨family, there, (listed family).mp (enabled_of_detected reached there)⟩
  · intro p reached asked
    cases on : Polling.System.enabled cfg with
    | false => exact absurd (unasked on reached).2 asked
    | true =>
        rw [Polling.System.enabled, Bool.and_eq_true, List.contains_iff_mem, bne_iff_ne] at on
        exact ⟨(listed .gps103).mp on.1, wakes.resolve_left on.2⟩
  · intro firstBytes family
    rw [detectProtocol, Option.filter_eq_some_iff, List.contains_iff_mem, listed]

/-- A process that is to serve two families and to poll every three seconds. -/
def someVariables : Environment := fun name =>
  if name = "ENABLED_PROTOCOLS".toList then some " teltonika, gps103,BB8".toList
  else if name = "GPS103_POLL_SECONDS".toList then some "3".toList
  else none

theorem environment_respected_some : ∃ cfg, someVariables.settings = some cfg ∧
    cfg.enabledProtocols = [.gps103, .teltonika] ∧ cfg.gps103PollSeconds = 10 ∧
    ∀ g, Reachable (Gateway.step cfg (pipelines cfg)) (fun _ _ => True) .start g →
      ∀ c family, .detected c family ∈ g.history → someVariables.Lists family := by
  have shown : someVariables.settings.map (fun cfg =>
      (cfg.enabledProtocols, cfg.gps103PollSeconds)) = some ([.gps103, .teltonika], 10) := by
    decide +kernel
  obtain ⟨cfg, starts, is⟩ := Option.map_eq_some_iff.mp shown
  obtain ⟨families, poll⟩ := Prod.mk.inj is
  exact ⟨cfg, starts, families, poll, fun g reached =>
    ((environment_respected starts).1 g reached).1⟩

end Runs

end TrackerGateway.Invariants.Startup
