/- module: TrackerGateway/Invariants/Slots
   source: src/tcp_server.py (_try_acquire_slot, _release_slot, handle_device)
   digest: Slot accounting over every run, and the teardown that leaks a slot. -/

import Mathlib.Data.Finset.Card
import TrackerGateway.Server.Steps

set_option autoImplicit false
set_option relaxedAutoImplicit false

namespace TrackerGateway.Invariants.Slots

open Foundation.Transition (Reachable run permittedRun reachable_of_run)
open TrackerGateway.Runtime
open TrackerGateway.Server

/-- Whether an execution in this phase has acquired a slot and has not ended. -/
def holds : Phase → Bool
  | .absent | .ended => false
  | _ => true

def isAcquired (c : Conn) : Event → Bool
  | .acquired c' => c' = c
  | _ => false

def isReleased (c : Conn) : Event → Bool
  | .released c' => c' = c
  | _ => false

def acquisitions (c : Conn) (h : List Event) : Nat := h.countP (isAcquired c)

def releases (c : Conn) (h : List Event) : Nat := h.countP (isReleased c)

private theorem acquisitions_cons (c : Conn) (e : Event) (h : List Event) :
    acquisitions c (e :: h) = acquisitions c h + if isAcquired c e then 1 else 0 :=
  List.countP_cons

private theorem releases_cons (c : Conn) (e : Event) (h : List Event) :
    releases c (e :: h) = releases c h + if isReleased c e then 1 else 0 :=
  List.countP_cons

/-- Slot accounting as it is wanted of every reachable state. -/
structure Accounted (cfg : Config) (g : Gateway) : Prop where
  nonneg : 0 ≤ g.connectionCount
  bounded : g.connectionCount ≤ cfg.maxConnections
  /-- The counter is the number of executions that acquired a slot and have not ended. -/
  counted : ∃ holders : Finset Conn, (holders.card : ℤ) = g.connectionCount ∧
    ∀ c, c ∈ holders ↔ acquisitions c g.history = 1 ∧ (g.tasks c).phase ≠ .ended
  once : ∀ c, acquisitions c g.history ≤ 1 ∧ releases c g.history ≤ acquisitions c g.history
  /-- What acquired a slot and ended has released it once and closed its writer. -/
  settled : ∀ c, (g.tasks c).phase = .ended → acquisitions c g.history = 1 →
    releases c g.history = 1 ∧ (g.tasks c).writerClosed = true

/-- What the history says about an execution, by its phase. -/
def Ledger (c : Conn) (h : List Event) (t : Task) : Prop :=
  match t.phase with
  | .absent => acquisitions c h = 0 ∧ releases c h = 0
  | .ended => releases c h = acquisitions c h ∧ acquisitions c h ≤ 1 ∧ t.writerClosed = true
  | .closing => acquisitions c h = 1 ∧ releases c h = 0 ∧ t.writerClosed = true
  | _ => acquisitions c h = 1 ∧ releases c h = 0

structure Invariant (cfg : Config) (g : Gateway) : Prop where
  bounded : g.connectionCount ≤ cfg.maxConnections
  counted : ∃ holders : Finset Conn, (holders.card : ℤ) = g.connectionCount ∧
    ∀ c, c ∈ holders ↔ holds (g.tasks c).phase = true
  ledger : ∀ c, Ledger c g.history (g.tasks c)

private theorem ledger_of_holds {c : Conn} {h : List Event} {t : Task}
    (phase : holds t.phase = true) (ledger : Ledger c h t) :
    acquisitions c h = 1 ∧ releases c h = 0 := by
  rw [Ledger] at ledger
  split at ledger <;> simp_all [holds]

private theorem ledger_to_holds {c : Conn} {h : List Event} {t : Task}
    (phase : holds t.phase = true) (closed : t.phase.closes = true → t.writerClosed = true)
    (account : acquisitions c h = 1 ∧ releases c h = 0) : Ledger c h t := by
  rw [Ledger]
  split <;> simp_all [holds, Phase.closes]

private theorem ledger_frame {c : Conn} {h h' : List Event} {t t' : Task}
    (same_phase : t'.phase = t.phase) (closed : t.writerClosed = true → t'.writerClosed = true)
    (same_acquisitions : acquisitions c h' = acquisitions c h)
    (same_releases : releases c h' = releases c h) (ledger : Ledger c h t) : Ledger c h' t' := by
  unfold Ledger at ledger ⊢
  rw [same_phase, same_acquisitions, same_releases]
  split <;> simp_all

section Moves

variable {cfg : Config} {g g' : Gateway} {c : Conn}

private theorem Invariant.move (inv : Invariant cfg g)
    (same_count : g'.connectionCount = g.connectionCount)
    (same_acquisitions : ∀ c', acquisitions c' g'.history = acquisitions c' g.history)
    (same_releases : ∀ c', releases c' g'.history = releases c' g.history)
    (others : ∀ c', c' ≠ c → g'.tasks c' = g.tasks c')
    (before : holds (g.tasks c).phase = true) (after : holds (g'.tasks c).phase = true)
    (closed : (g'.tasks c).phase.closes = true → (g'.tasks c).writerClosed = true) :
    Invariant cfg g' := by
  obtain ⟨bounded, ⟨holders, card, members⟩, ledger⟩ := inv
  refine ⟨same_count ▸ bounded, ⟨holders, same_count ▸ card, ?_⟩, ?_⟩
  · intro c'
    by_cases here : c' = c
    · subst here
      rw [members, before, after]
    · rw [members, others c' here]
  · intro c'
    by_cases here : c' = c
    · subst here
      apply ledger_to_holds after closed
      rw [same_acquisitions, same_releases]
      exact ledger_of_holds before (ledger c')
    · rw [others c' here]
      exact ledger_frame rfl id (same_acquisitions c') (same_releases c') (ledger c')

private theorem Invariant.enter {phase : Phase} (inv : Invariant cfg g)
    (same_count : g'.connectionCount = g.connectionCount)
    (same_acquisitions : ∀ c', acquisitions c' g'.history = acquisitions c' g.history)
    (same_releases : ∀ c', releases c' g'.history = releases c' g.history)
    (others : ∀ c', c' ≠ c → g'.tasks c' = g.tasks c')
    (before : holds (g.tasks c).phase = true) (after : holds phase = true) :
    Invariant cfg (g'.enter c phase) := by
  refine inv.move (c := c) same_count same_acquisitions same_releases ?_ before ?_ ?_
  · intro c' other
    rw [Gateway.enter_tasks_ne _ _ _ other, others c' other]
  · rw [Gateway.enter_phase_self, after]
  · intro closes
    rw [Gateway.enter_phase_self] at closes
    rw [Gateway.enter_writerClosed_self, closes, Bool.or_true]

end Moves

theorem holds_framed (pipes : Family → Pipeline) (s : Session) :
    holds (Gateway.framed pipes s) = true := by
  rw [Gateway.framed]
  split <;> rfl

theorem holds_teardown (r : Services.Registry) (c : Conn)
    (imei : Option Foundation.Wire.Text) :
    holds (Gateway.teardown r c imei) = true := by
  rw [Gateway.teardown]
  split
  · rfl
  · split
    · rfl
    · split <;> rfl

theorem holds_quiet {pipes : Family → Pipeline} {p p' : Phase}
    (move : Quiet pipes p p') : holds p = true ∧ holds p' = true := by
  cases move with
  | more s buffer => exact ⟨rfl, holds_framed _ _⟩
  | _ => exact ⟨rfl, rfl⟩

def offlineSucceeds (_ : Gateway) : Input → Bool
  | .offline _ (.error _) => false
  | _ => true

private theorem invariant_start {cfg : Config} (room : 0 ≤ cfg.maxConnections) :
    Invariant cfg .start where
  bounded := room
  counted := ⟨∅, rfl, fun _ => by simp [Gateway.start, holds]⟩
  ledger := fun _ => ⟨rfl, rfl⟩

/-- Every step keeps the account, unless an offline mark raises. -/
private theorem invariant_step {cfg : Config} {pipes : Family → Pipeline} {g g' : Gateway}
    {i : Input} (inv : Invariant cfg g) (allowed : offlineSucceeds g i = true)
    (moves : Step cfg pipes g i g') : Invariant cfg g' := by
  cases moves with
  | @refuse c ip turn at_ full =>
      obtain ⟨bounded, ⟨holders, card, members⟩, ledger⟩ := inv
      refine ⟨bounded, ⟨holders, card, ?_⟩, ?_⟩
      · intro c'
        by_cases here : c' = c
        · subst here
          simp [members, at_, holds]
        · simp [members, here]
      · intro c'
        by_cases here : c' = c
        · subst here
          have account := ledger c'
          simp only [Ledger, at_] at account
          simp [Ledger, acquisitions_cons, releases_cons, isAcquired, isReleased, account]
        · refine ledger_frame (by simp [here]) (by simp [here]) ?_ ?_ (ledger c')
          · simp [acquisitions_cons, isAcquired]
          · simp [releases_cons, isReleased]
  | @acquire c ip turn at_ free =>
      obtain ⟨bounded, ⟨holders, card, members⟩, ledger⟩ := inv
      have fresh : c ∉ holders := by simp [members, at_, holds]
      refine ⟨Int.add_one_le_of_lt free, ⟨insert c holders, ?_, ?_⟩, ?_⟩
      · rw [Finset.card_insert_of_notMem fresh, Nat.cast_add, card]
        rfl
      · intro c'
        by_cases here : c' = c
        · subst here
          simp [holds]
        · simp [here, members]
      · intro c'
        by_cases here : c' = c
        · subst here
          have account := ledger c'
          simp only [Ledger, at_] at account
          simp [Ledger, acquisitions_cons, releases_cons, isAcquired, isReleased, account]
        · have other : c ≠ c' := Ne.symm here
          refine ledger_frame (by simp [here]) (by simp [here]) ?_ ?_ (ledger c')
          · simp [acquisitions_cons, isAcquired, other]
          · simp [releases_cons, isReleased]
  | quiet turn move =>
      obtain ⟨before, after⟩ := holds_quiet move
      exact inv.enter rfl (fun _ => rfl) (fun _ => rfl) (fun _ _ => rfl) before after
  | detect turn at_ enabled =>
      exact inv.enter rfl (fun _ => rfl) (fun _ => rfl) (fun _ _ => rfl) (by simp [at_, holds])
        (holds_framed _ _)
  | begin_ turn at_ open_ =>
      exact inv.enter rfl (fun _ => rfl) (fun _ => rfl) (fun _ _ => rfl) (by simp [at_, holds]) rfl
  | operate turn at_ =>
      refine inv.enter (by simp) ?_ ?_ ?_
        (by simp [at_, holds]) rfl
      · intro c'
        simp [acquisitions_cons, isAcquired]
      · intro c'
        simp [releases_cons, isReleased]
      · intro c' other
        exact Gateway.perform_tasks_ne _ _ _ _ other
  | nameless turn at_ untrue =>
      exact inv.enter rfl (fun _ => rfl) (fun _ => rfl) (fun _ _ => rfl) (by simp [at_, holds]) rfl
  | named turn at_ real =>
      exact inv.enter rfl (fun _ => rfl) (fun _ => rfl) (fun _ _ => rfl) (by simp [at_, holds]) rfl
  | raise turn at_ =>
      exact inv.enter rfl (fun _ => rfl) (fun _ => rfl) (fun _ _ => rfl) (by simp [at_, holds]) rfl
  | finish turn at_ =>
      exact inv.enter rfl (fun _ => rfl) (fun _ => rfl) (fun _ _ => rfl) (by simp [at_, holds])
        (holds_teardown _ _ _)
  | unregister turn at_ =>
      exact inv.enter rfl (fun _ => rfl) (fun _ => rfl) (fun _ _ => rfl) (by simp [at_, holds]) rfl
  | crash turn at_ => cases allowed
  | @release c turn at_ =>
      obtain ⟨bounded, ⟨holders, card, members⟩, ledger⟩ := inv
      have member : c ∈ holders := by simp [members, at_, holds]
      refine ⟨?_, ⟨holders.erase c, ?_, ?_⟩, ?_⟩
      · change g.connectionCount - 1 ≤ _
        omega
      · have := Finset.card_erase_add_one member
        change _ = g.connectionCount - 1
        omega
      · intro c'
        by_cases here : c' = c
        · subst here
          simp [holds]
        · simp [here, members, Gateway.enter_tasks_ne]
      · intro c'
        by_cases here : c' = c
        · subst here
          have account := ledger c'
          simp only [Ledger, at_] at account
          obtain ⟨acquired, released, closed⟩ := account
          simp only [Ledger, Gateway.enter_phase_self, Gateway.enter_writerClosed_self]
          refine ⟨?_, ?_, by simp [closed]⟩
          · simp [acquisitions_cons, releases_cons, isAcquired, isReleased, acquired, released]
          · simp [acquisitions_cons, isAcquired, acquired]
        · have other : c ≠ c' := Ne.symm here
          refine ledger_frame ?_ ?_ ?_ ?_ (ledger c')
          · simp [Gateway.enter_tasks_ne _ _ _ here]
          · simp [Gateway.enter_tasks_ne _ _ _ here]
          · simp [acquisitions_cons, isAcquired]
          · simp [releases_cons, isReleased, other]
  | @lose c turn =>
      obtain ⟨bounded, ⟨holders, card, members⟩, ledger⟩ := inv
      have phases : ∀ c', (Function.update g.tasks c { g.tasks c with lost := true } c').phase =
          (g.tasks c').phase := by
        intro c'
        by_cases here : c' = c
        · subst here
          simp
        · simp [here]
      refine ⟨bounded, ⟨holders, card, fun c' => by rw [members, phases]⟩, ?_⟩
      intro c'
      refine ledger_frame (phases c') ?_ rfl rfl (ledger c')
      by_cases here : c' = c
      · subst here
        simp
      · simp [here]
  | push turn found family =>
      exact ⟨inv.bounded, inv.counted, fun c' => ledger_frame rfl id rfl rfl (inv.ledger c')⟩

private theorem accounted_of_invariant {cfg : Config} {g : Gateway} (inv : Invariant cfg g) :
    Accounted cfg g := by
  obtain ⟨bounded, ⟨holders, card, members⟩, ledger⟩ := inv
  refine ⟨by omega, bounded, ⟨holders, card, ?_⟩, ?_, ?_⟩
  · intro c
    rw [members]
    have account := ledger c
    rw [Ledger] at account
    split at account <;> simp_all [holds]
  · intro c
    have account := ledger c
    rw [Ledger] at account
    split at account <;> omega
  · intro c ended once
    have account := ledger c
    simp only [Ledger, ended] at account
    exact ⟨account.1.trans once, account.2.2⟩

/-- Slots are accounted for in every state of every run in which no offline mark raises, whatever
the framers and handlers do. -/
theorem slots_accounted (cfg : Config) (pipes : Family → Pipeline) (room : 0 ≤ cfg.maxConnections)
    {g : Gateway}
    (reached : Reachable (Gateway.step cfg pipes) (fun g i => offlineSucceeds g i) .start g) :
    Accounted cfg g :=
  accounted_of_invariant (reached.invariant (invariant_start room)
    fun _ _ _ inv allowed moves => invariant_step inv allowed (step_cases moves))

/-- A device logs in, hangs up, and its offline mark raises. -/
def leakingInputs : List Input :=
  loginInputs 0 1 (calm ['d']) ++ hangUp 0 (calm ['d']) ++ [.offline 0 (.error .timeoutError)]

/-- The same connection with an offline mark that succeeds. -/
def tidyInputs : List Input :=
  loginInputs 0 1 (calm ['d']) ++ hangUp 0 (calm ['d']) ++ [.offline 0 (.ok ()), .waitClosed 0]

/-- Whether the first connection has ended, what the history and its writer say, and the counter. -/
private def view (g : Gateway) : Bool × Nat × Nat × Bool × ℤ :=
  ((g.tasks 0).phase.isEnded, acquisitions 0 g.history, releases 0 g.history,
    (g.tasks 0).writerClosed, g.connectionCount)

/-- When the offline mark raises, the execution ends with its slot kept and its writer open. -/
theorem slot_leaks : ∃ g, run (Gateway.step defaults (pipelines defaults)) Gateway.start
    leakingInputs = some g ∧ g.connectionCount = 1 ∧ (g.tasks 0).phase = .ended ∧
    releases 0 g.history = 0 ∧ (g.tasks 0).writerClosed = false ∧ ¬ Accounted defaults g := by
  have seen : (run (Gateway.step defaults (pipelines defaults)) Gateway.start leakingInputs).map
      view = some (true, 1, 0, false, 1) := by decide +kernel
  obtain ⟨g, ran, shown⟩ := Option.map_eq_some_iff.mp seen
  simp only [view, Prod.mk.injEq, Phase.isEnded_iff] at shown
  obtain ⟨ended, acquired, released, open_, count⟩ := shown
  refine ⟨g, ran, count, ended, released, open_, ?_⟩
  intro accounted
  have := (accounted.settled 0 ended acquired).1
  omega

/-- The account of the connection whose offline mark succeeds. -/
theorem slots_accounted_tidy : ∃ g, run (Gateway.step defaults (pipelines defaults)) Gateway.start
    tidyInputs = some g ∧ Accounted defaults g := by
  have defined : (run (Gateway.step defaults (pipelines defaults)) Gateway.start
      tidyInputs).isSome = true := by decide +kernel
  obtain ⟨g, ran⟩ := Option.isSome_iff_exists.mp defined
  refine ⟨g, ran, slots_accounted defaults (pipelines defaults) (by decide) ?_⟩
  exact reachable_of_run .start (by decide +kernel) ran

end TrackerGateway.Invariants.Slots
