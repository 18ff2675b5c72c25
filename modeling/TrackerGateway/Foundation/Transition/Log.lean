/- module: TrackerGateway/Foundation/Transition/Log
   layer: library
   digest: Logs that grow at the head, and conditions on every entry given the entries before it. -/

import Mathlib.Data.List.Basic

set_option autoImplicit false
set_option relaxedAutoImplicit false

namespace TrackerGateway.Foundation.Transition

variable {Entry : Type}

/-- Each entry meets the condition with respect to the earlier entries; the newest comes first. -/
def Throughout (P : Entry → List Entry → Prop) : List Entry → Prop
  | [] => True
  | e :: earlier => P e earlier ∧ Throughout P earlier

variable {P : Entry → List Entry → Prop} {log later earlier : List Entry} {e : Entry}

@[simp] theorem throughout_nil : Throughout P [] := trivial

@[simp] theorem throughout_cons : Throughout P (e :: log) ↔ P e log ∧ Throughout P log := Iff.rfl

theorem Throughout.of_append (holds : Throughout P (later ++ earlier)) : Throughout P earlier := by
  induction later with
  | nil => exact holds
  | cons e later ih => exact ih holds.2

theorem Throughout.at (holds : Throughout P (later ++ e :: earlier)) : P e earlier :=
  holds.of_append.1

theorem Throughout.exists_of_mem (holds : Throughout P log) (member : e ∈ log) :
    ∃ later earlier, log = later ++ e :: earlier ∧ P e earlier := by
  obtain ⟨later, earlier, rfl⟩ := List.append_of_mem member
  exact ⟨later, earlier, rfl, holds.at⟩

end TrackerGateway.Foundation.Transition
