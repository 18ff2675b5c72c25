/- module: TrackerGateway/Foundation/Coroutine/Cost
   layer: library
   digest: What the operations of a run cost together, and bounds that compose. -/

import Mathlib.Algebra.GroupWithZero.Nat
import TrackerGateway.Foundation.Coroutine.Discipline

set_option autoImplicit false
set_option relaxedAutoImplicit false

namespace TrackerGateway.Foundation.Coroutine

variable {Op : Type} {Res : Op → Type} {ε α β : Type}

def spent (price : Op → Nat) (trace : List (Sigma Res)) : Nat := (trace.map fun a => price a.1).sum

/-- No run of the program costs more. -/
def Costs (price : Op → Nat) : Nat → Program Op Res ε α → Prop
  | _, .pure _ => True
  | _, .throw _ => True
  | n, .call o k => ∃ m, price o + m ≤ n ∧ ∀ x, Costs price m (k x)

section Laws

variable {price : Op → Nat} {n m : Nat} {p : Program Op Res ε α}

@[simp] theorem spent_nil : spent price ([] : List (Sigma Res)) = 0 := rfl

@[simp] theorem spent_cons (a : Sigma Res) (trace : List (Sigma Res)) :
    spent price (a :: trace) = price a.1 + spent price trace := by
  simp [spent]

theorem costs_pure (a : α) : Costs price n (.pure a : Program Op Res ε α) := trivial

theorem costs_throw (e : ε) : Costs price n (.throw e : Program Op Res ε α) := trivial

theorem costs_demand (r : Except ε α) : Costs price n (demand r : Program Op Res ε α) := by
  cases r <;> exact trivial

theorem costs_request {o : Op} (pays : price o ≤ n) :
    Costs price n (request o : Program Op Res ε (Res o)) :=
  ⟨0, pays, fun _ => trivial⟩

theorem Costs.mono (costs : Costs price n p) (more : n ≤ m) : Costs price m p := by
  cases p with
  | pure a => exact trivial
  | throw e => exact trivial
  | call o k =>
      obtain ⟨rest, pays, later⟩ := costs
      exact ⟨rest, Nat.le_trans pays more, later⟩

theorem Costs.bind {next : α → Program Op Res ε β} (first : Costs price n p)
    (later : ∀ a, Costs price m (next a)) : Costs price (n + m) (p.bind next) := by
  induction p generalizing n with
  | pure a => exact (later a).mono (Nat.le_add_left m n)
  | throw e => exact trivial
  | call o k ih =>
      obtain ⟨rest, pays, others⟩ := first
      exact ⟨rest + m, by omega, fun x => ih x (others x)⟩

theorem Costs.free {next : α → Program Op Res ε β} (first : Costs price 0 p)
    (later : ∀ a, Costs price m (next a)) : Costs price m (p.bind next) :=
  (first.bind later).mono (Nat.le_of_eq (Nat.zero_add m))

theorem Costs.rescue {recover : ε → Program Op Res ε α} (first : Costs price n p)
    (later : ∀ e, Costs price m (recover e)) : Costs price (n + m) (p.rescue recover) := by
  induction p generalizing n with
  | pure a => exact trivial
  | throw e => exact (later e).mono (Nat.le_add_left m n)
  | call o k ih =>
      obtain ⟨rest, pays, others⟩ := first
      exact ⟨rest + m, by omega, fun x => ih x (others x)⟩

theorem costs_ite {c : Prop} [Decidable c] {q : Program Op Res ε α} (first : Costs price n p)
    (second : Costs price n q) : Costs price n (if c then p else q) := by
  split
  · exact first
  · exact second

/-- What has been spent stays within the bound at every operation. -/
theorem Costs.guarded (costs : Costs price n p) {limit : Nat} {past : List (Sigma Res)}
    (within : spent price past + n ≤ limit) :
    Guarded (fun past o => spent price past + price o ≤ limit)
      (fun past _ => spent price past ≤ limit) p past := by
  induction p generalizing n past with
  | pure a => exact Nat.le_trans (Nat.le_add_right _ n) within
  | throw e => exact Nat.le_trans (Nat.le_add_right _ n) within
  | call o k ih =>
      obtain ⟨rest, pays, later⟩ := costs
      refine ⟨by omega, ?_⟩
      intro x
      refine ih x (later x) ?_
      rw [spent_cons]
      dsimp only
      omega

end Laws

end TrackerGateway.Foundation.Coroutine
