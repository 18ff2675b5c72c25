/- module: TrackerGateway/Foundation/Coroutine/Program
   layer: library
   digest: Coroutines that suspend at operations, their sequencing, recovery and complete runs. -/

import Mathlib.Data.List.Basic

set_option autoImplicit false
set_option relaxedAutoImplicit false

namespace TrackerGateway.Foundation.Coroutine

/-- A computation that returns, raises, or suspends at an operation and resumes with its answer. -/
inductive Program (Op : Type) (Res : Op → Type) (ε α : Type) : Type
  | pure (value : α)
  | throw (error : ε)
  | call (op : Op) (resume : Res op → Program Op Res ε α)

variable {Op : Type} {Res : Op → Type} {ε α β : Type}

namespace Program

/-- Sequencing: `next` runs on the value returned, an exception skips it. -/
def bind (p : Program Op Res ε α) (next : α → Program Op Res ε β) : Program Op Res ε β :=
  match p with
  | .pure a => next a
  | .throw e => .throw e
  | .call o k => .call o fun x => (k x).bind next

/-- Recovery: `recover` runs on an exception raised anywhere in the first computation. -/
def rescue (p : Program Op Res ε α) (recover : ε → Program Op Res ε α) : Program Op Res ε α :=
  match p with
  | .pure a => .pure a
  | .throw e => recover e
  | .call o k => .call o fun x => (k x).rescue recover

instance : Monad (Program Op Res ε) where
  pure := .pure
  bind := .bind

@[simp] theorem pure_eq (a : α) : (Pure.pure a : Program Op Res ε α) = .pure a := rfl

@[simp] theorem bind_eq (p : Program Op Res ε α) (next : α → Program Op Res ε β) :
    p >>= next = p.bind next := rfl

@[simp] theorem bind_pure (a : α) (next : α → Program Op Res ε β) :
    (Program.pure a : Program Op Res ε α).bind next = next a := rfl

@[simp] theorem bind_throw (e : ε) (next : α → Program Op Res ε β) :
    (Program.throw e : Program Op Res ε α).bind next = .throw e := rfl

@[simp] theorem bind_call (o : Op) (k : Res o → Program Op Res ε α)
    (next : α → Program Op Res ε β) :
    (Program.call o k).bind next = .call o fun x => (k x).bind next := rfl

@[simp] theorem rescue_pure (a : α) (recover : ε → Program Op Res ε α) :
    (Program.pure a).rescue recover = .pure a := rfl

@[simp] theorem rescue_throw (e : ε) (recover : ε → Program Op Res ε α) :
    (Program.throw e).rescue recover = recover e := rfl

@[simp] theorem rescue_call (o : Op) (k : Res o → Program Op Res ε α)
    (recover : ε → Program Op Res ε α) :
    (Program.call o k).rescue recover = .call o fun x => (k x).rescue recover := rfl

end Program

def request (o : Op) : Program Op Res ε (Res o) := .call o .pure

def demand : Except ε α → Program Op Res ε α
  | .ok a => .pure a
  | .error e => .throw e

@[simp] theorem demand_ok (a : α) : (demand (.ok a) : Program Op Res ε α) = .pure a := rfl

@[simp] theorem demand_error (e : ε) : (demand (.error e) : Program Op Res ε α) = .throw e := rfl

@[simp] theorem request_bind (o : Op) (next : Res o → Program Op Res ε β) :
    (request o).bind next = .call o next := rfl

/-- A complete run: every operation with its answer, in order, and the final outcome. -/
def Executes : Program Op Res ε α → List (Sigma Res) → Except ε α → Prop
  | .pure a, trace, outcome => trace = [] ∧ outcome = .ok a
  | .throw e, trace, outcome => trace = [] ∧ outcome = .error e
  | .call o k, trace, outcome =>
      ∃ x rest, trace = ⟨o, x⟩ :: rest ∧ Executes (k x) rest outcome

@[simp] theorem executes_pure {a : α} {trace : List (Sigma Res)} {outcome : Except ε α} :
    Executes (.pure a : Program Op Res ε α) trace outcome ↔ trace = [] ∧ outcome = .ok a := Iff.rfl

@[simp] theorem executes_throw {e : ε} {trace : List (Sigma Res)} {outcome : Except ε α} :
    Executes (.throw e : Program Op Res ε α) trace outcome ↔ trace = [] ∧ outcome = .error e :=
  Iff.rfl

theorem executes_call {o : Op} {k : Res o → Program Op Res ε α} {trace : List (Sigma Res)}
    {outcome : Except ε α} : Executes (.call o k) trace outcome ↔
      ∃ x rest, trace = ⟨o, x⟩ :: rest ∧ Executes (k x) rest outcome := Iff.rfl

@[simp] theorem executes_demand {r : Except ε α} {trace : List (Sigma Res)}
    {outcome : Except ε α} :
    Executes (demand r : Program Op Res ε α) trace outcome ↔ trace = [] ∧ outcome = r := by
  cases r <;> rfl

theorem executes_bind {p : Program Op Res ε α} {next : α → Program Op Res ε β}
    {trace : List (Sigma Res)} {outcome : Except ε β} :
    Executes (p.bind next) trace outcome ↔ ∃ first rest middle, trace = first ++ rest ∧
      Executes p first middle ∧ match middle with
        | .ok a => Executes (next a) rest outcome
        | .error e => rest = [] ∧ outcome = .error e := by
  induction p generalizing trace with
  | pure a => simp [Executes]
  | throw e => simp [Executes]
  | call o k ih =>
      simp only [Program.bind_call, executes_call, ih]
      constructor
      · rintro ⟨x, _, rfl, first, rest, middle, rfl, run, continued⟩
        exact ⟨⟨o, x⟩ :: first, rest, middle, rfl, ⟨x, first, rfl, run⟩, continued⟩
      · rintro ⟨_, rest, middle, rfl, ⟨x, first, rfl, run⟩, continued⟩
        exact ⟨x, first ++ rest, rfl, first, rest, middle, rfl, run, continued⟩

theorem executes_rescue {p : Program Op Res ε α} {recover : ε → Program Op Res ε α}
    {trace : List (Sigma Res)} {outcome : Except ε α} :
    Executes (p.rescue recover) trace outcome ↔ ∃ first rest middle, trace = first ++ rest ∧
      Executes p first middle ∧ match middle with
        | .ok a => rest = [] ∧ outcome = .ok a
        | .error e => Executes (recover e) rest outcome := by
  induction p generalizing trace with
  | pure a => simp [Executes]
  | throw e => simp [Executes]
  | call o k ih =>
      simp only [Program.rescue_call, executes_call, ih]
      constructor
      · rintro ⟨x, _, rfl, first, rest, middle, rfl, run, continued⟩
        exact ⟨⟨o, x⟩ :: first, rest, middle, rfl, ⟨x, first, rfl, run⟩, continued⟩
      · rintro ⟨_, rest, middle, rfl, ⟨x, first, rfl, run⟩, continued⟩
        exact ⟨x, first ++ rest, rfl, first, rest, middle, rfl, run, continued⟩

/-- The run in which every operation gets the answer of a fixed table. -/
def play (answers : (o : Op) → Res o) : Program Op Res ε α → List (Sigma Res) × Except ε α
  | .pure a => ([], .ok a)
  | .throw e => ([], .error e)
  | .call o k =>
      let (rest, outcome) := play answers (k (answers o))
      (⟨o, answers o⟩ :: rest, outcome)

theorem executes_play (answers : (o : Op) → Res o) (p : Program Op Res ε α) :
    Executes p (play answers p).1 (play answers p).2 := by
  induction p with
  | pure a => exact ⟨rfl, rfl⟩
  | throw e => exact ⟨rfl, rfl⟩
  | call o k ih => exact ⟨answers o, _, rfl, ih _⟩

theorem answered_play (answers : (o : Op) → Res o) (p : Program Op Res ε α) :
    ∀ a ∈ (play answers p).1, a = ⟨a.1, answers a.1⟩ := by
  induction p with
  | pure a => simp [play]
  | throw e => simp [play]
  | call o k ih =>
      intro a member
      rcases List.mem_cons.mp member with rfl | later
      · rfl
      · exact ih _ a later

end TrackerGateway.Foundation.Coroutine
