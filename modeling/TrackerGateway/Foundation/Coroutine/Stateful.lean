/- module: TrackerGateway/Foundation/Coroutine/Stateful
   layer: library
   digest: A state that answers some operations of a run and is changed by others. -/

import TrackerGateway.Foundation.Coroutine.Discipline

set_option autoImplicit false
set_option relaxedAutoImplicit false

namespace TrackerGateway.Foundation.Coroutine

/-- What a state answers, and what an answered operation makes of it. -/
structure Surroundings (Op : Type) (Res : Op → Type) (State : Type) where
  admits : State → Sigma Res → Prop
  after : State → Sigma Res → State

variable {Op : Type} {Res : Op → Type} {State ε α β : Type}

/-- The operations are answered in this state, one after the other, and leave it as the last. -/
def Follows (world : Surroundings Op Res State) : State → List (Sigma Res) → State → Prop
  | s, [], s' => s' = s
  | s, a :: rest, s' => world.admits s a ∧ Follows world (world.after s a) rest s'

section Laws

variable {world : Surroundings Op Res State} {s s' : State} {front back trace : List (Sigma Res)}

@[simp] theorem follows_nil : Follows world s [] s' ↔ s' = s := Iff.rfl

@[simp] theorem follows_cons {a : Sigma Res} : Follows world s (a :: trace) s' ↔
    world.admits s a ∧ Follows world (world.after s a) trace s' := Iff.rfl

theorem follows_append :
    Follows world s (front ++ back) s' ↔
      ∃ middle, Follows world s front middle ∧ Follows world middle back s' := by
  induction front generalizing s with
  | nil => simp
  | cons a front ih => simp only [List.cons_append, follows_cons, ih, and_assoc, exists_and_left]

theorem Follows.invariant {kind : Op → Prop} {holds : State → Prop}
    (stays : ∀ s a, kind a.1 → holds s → holds (world.after s a))
    (follows : Follows world s trace s') (kinds : ∀ a ∈ trace, kind a.1) (before : holds s) :
    holds s' := by
  induction trace generalizing s with
  | nil =>
      rw [follows_nil.mp follows]
      exact before
  | cons a trace ih =>
      obtain ⟨-, later⟩ := follows
      apply ih later
      · intro a' member
        exact kinds a' (List.mem_cons_of_mem a member)
      · exact stays s a (kinds a List.mem_cons_self) before

def Runs (world : Surroundings Op Res State) (p : Program Op Res ε α) (s : State)
    (trace : List (Sigma Res)) (outcome : Except ε α) (s' : State) : Prop :=
  Executes p trace outcome ∧ Follows world s trace s'

end Laws

theorem demand_bind (first : Except ε α) (later : α → Except ε β) {γ : Type}
    (next : β → Program Op Res ε γ) : (demand (first >>= later)).bind next =
      (demand first : Program Op Res ε α).bind fun a => (demand (later a)).bind next := by
  cases first <;> rfl

def enact (world : Surroundings Op Res State) (answers : State → (o : Op) → Res o) :
    Program Op Res ε α → State → List (Sigma Res) × Except ε α × State
  | .pure a, s => ([], .ok a, s)
  | .throw e, s => ([], .error e, s)
  | .call o k, s =>
      let (rest, ended) := enact world answers (k (answers s o)) (world.after s ⟨o, answers s o⟩)
      (⟨o, answers s o⟩ :: rest, ended)

theorem runs_enact {world : Surroundings Op Res State} {answers : State → (o : Op) → Res o}
    (admits : ∀ s o, world.admits s ⟨o, answers s o⟩) (p : Program Op Res ε α) (s : State) :
    Runs world p s (enact world answers p s).1 (enact world answers p s).2.1
      (enact world answers p s).2.2 := by
  induction p generalizing s with
  | pure a => exact ⟨⟨rfl, rfl⟩, rfl⟩
  | throw e => exact ⟨⟨rfl, rfl⟩, rfl⟩
  | call o k ih =>
      obtain ⟨executed, follows⟩ := ih (answers s o) (world.after s ⟨o, answers s o⟩)
      exact ⟨⟨answers s o, _, rfl, executed⟩, admits s o, follows⟩

end TrackerGateway.Foundation.Coroutine
