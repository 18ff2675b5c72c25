/- module: TrackerGateway/Foundation/Transition/Run
   layer: library
   digest: Runs of a partial step function whose steps meet a condition, and their invariants. -/

import Mathlib.Data.List.Basic
import Mathlib.Data.List.Induction

set_option autoImplicit false
set_option relaxedAutoImplicit false

namespace TrackerGateway.Foundation.Transition

variable {State Input : Type}

/-- The states reached from `start` by steps that are all permitted. -/
inductive Reachable (step : State → Input → Option State) (permitted : State → Input → Prop)
    (start : State) : State → Prop
  | start : Reachable step permitted start start
  | next {s s' : State} {i : Input} : Reachable step permitted start s → permitted s i →
      step s i = some s' → Reachable step permitted start s'

variable {step : State → Input → Option State} {permitted : State → Input → Prop} {start : State}

/-- What holds at the start and is kept by every permitted step holds in every reached state. -/
theorem Reachable.invariant {P : State → Prop} (base : P start)
    (keep : ∀ s i s', P s → permitted s i → step s i = some s' → P s')
    {s : State} (reached : Reachable step permitted start s) : P s := by
  induction reached with
  | start => exact base
  | next _ allowed moves ih => exact keep _ _ _ ih allowed moves

theorem Reachable.invariant_of_reached {P : State → Prop} (base : P start)
    (keep : ∀ s i s', Reachable step permitted start s → P s → permitted s i →
      step s i = some s' → P s')
    {s : State} (reached : Reachable step permitted start s) : P s := by
  induction reached with
  | start => exact base
  | next before allowed moves ih => exact keep _ _ _ before ih allowed moves

theorem Reachable.trans {s s' : State} (first : Reachable step permitted start s)
    (later : Reachable step permitted s s') : Reachable step permitted start s' := by
  induction later with
  | start => exact first
  | next _ allowed moves ih => exact .next ih allowed moves

theorem Reachable.mono {weaker : State → Input → Prop}
    (weaken : ∀ s i, permitted s i → weaker s i)
    {s : State} (reached : Reachable step permitted start s) : Reachable step weaker start s := by
  induction reached with
  | start => exact .start
  | next _ allowed moves ih => exact .next ih (weaken _ _ allowed) moves

def run (step : State → Input → Option State) : State → List Input → Option State
  | s, [] => some s
  | s, i :: rest => (step s i).bind fun s' => run step s' rest

theorem run_append (s : State) (first later : List Input) :
    run step s (first ++ later) = (run step s first).bind fun s' => run step s' later := by
  induction first generalizing s with
  | nil => rfl
  | cons i rest ih =>
      rw [List.cons_append, run, run, Option.bind_assoc]
      exact Option.bind_congr fun s' _ => ih s'

theorem run_induction {P : List Input → State → Prop} (base : P [] start)
    (keep : ∀ inputs s i s', P inputs s → step s i = some s' → P (inputs ++ [i]) s')
    {inputs : List Input} {s : State} (ran : run step start inputs = some s) : P inputs s := by
  induction inputs using List.reverseRecOn generalizing s with
  | nil =>
      cases ran
      exact base
  | append_singleton inputs i ih =>
      rw [run_append] at ran
      obtain ⟨before, ran, moves⟩ := Option.bind_eq_some_iff.mp ran
      exact keep inputs before i s (ih ran) (by simpa [run] using moves)

def permittedRun (step : State → Input → Option State) (permitted : State → Input → Bool) :
    State → List Input → Bool
  | _, [] => true
  | s, i :: rest => permitted s i && (step s i).all fun s' => permittedRun step permitted s' rest

theorem reachable_of_run {permitted : State → Input → Bool} {inputs : List Input} {s s' : State}
    (reached : Reachable step (fun s i => permitted s i) start s)
    (allowed : permittedRun step permitted s inputs = true)
    (moves : run step s inputs = some s') : Reachable step (fun s i => permitted s i) start s' := by
  induction inputs generalizing s with
  | nil =>
      cases moves
      exact reached
  | cons i rest ih =>
      obtain ⟨middle, first, later⟩ := Option.bind_eq_some_iff.mp moves
      obtain ⟨now, after⟩ := Bool.and_eq_true_iff.mp allowed
      rw [first, Option.all_some] at after
      exact ih (.next reached now first) after later

theorem reachable_of_free_run {inputs : List Input} {s s' : State}
    (reached : Reachable step (fun _ _ => True) start s) (moves : run step s inputs = some s') :
    Reachable step (fun _ _ => True) start s' := by
  induction inputs generalizing s with
  | nil =>
      cases moves
      exact reached
  | cons i rest ih =>
      obtain ⟨middle, first, later⟩ := Option.bind_eq_some_iff.mp moves
      exact ih (.next reached trivial first) later

end TrackerGateway.Foundation.Transition
