/- module: TrackerGateway/Foundation/Coroutine/Discipline
   layer: library
   digest: A rule checked at every operation against the run so far, and its composition laws. -/

import TrackerGateway.Foundation.Coroutine.Program

set_option autoImplicit false
set_option relaxedAutoImplicit false

namespace TrackerGateway.Foundation.Coroutine

variable {Op : Type} {Res : Op → Type} {ε α β : Type}

/-- Every operation the program can reach is `allowed` after the past that led to it, and every
outcome meets `done`. The past lists the answered operations, newest first. -/
def Guarded (allowed : List (Sigma Res) → Op → Prop)
    (done : List (Sigma Res) → Except ε α → Prop) :
    Program Op Res ε α → List (Sigma Res) → Prop
  | .pure a, past => done past (.ok a)
  | .throw e, past => done past (.error e)
  | .call o k, past => allowed past o ∧ ∀ x, Guarded allowed done (k x) (⟨o, x⟩ :: past)

def sequel (allowed : List (Sigma Res) → Op → Prop)
    (done : List (Sigma Res) → Except ε β → Prop) (next : α → Program Op Res ε β) :
    List (Sigma Res) → Except ε α → Prop
  | past, .ok a => Guarded allowed done (next a) past
  | past, .error e => done past (.error e)

def recovery (allowed : List (Sigma Res) → Op → Prop)
    (done : List (Sigma Res) → Except ε α → Prop) (recover : ε → Program Op Res ε α) :
    List (Sigma Res) → Except ε α → Prop
  | past, .ok a => done past (.ok a)
  | past, .error e => Guarded allowed done (recover e) past

section Laws

variable {allowed : List (Sigma Res) → Op → Prop} {done : List (Sigma Res) → Except ε α → Prop}

@[simp] theorem guarded_call (o : Op) (k : Res o → Program Op Res ε α) (past : List (Sigma Res)) :
    Guarded allowed done (.call o k) past ↔
      allowed past o ∧ ∀ x, Guarded allowed done (k x) (⟨o, x⟩ :: past) := Iff.rfl

theorem guarded_bind {done : List (Sigma Res) → Except ε β → Prop}
    (p : Program Op Res ε α) (next : α → Program Op Res ε β) (past : List (Sigma Res)) :
    Guarded allowed done (p.bind next) past ↔
      Guarded allowed (sequel allowed done next) p past := by
  induction p generalizing past with
  | pure a => rfl
  | throw e => rfl
  | call o k ih => simp only [Program.bind_call, guarded_call, ih]

theorem guarded_rescue (p : Program Op Res ε α) (recover : ε → Program Op Res ε α)
    (past : List (Sigma Res)) :
    Guarded allowed done (p.rescue recover) past ↔
      Guarded allowed (recovery allowed done recover) p past := by
  induction p generalizing past with
  | pure a => rfl
  | throw e => rfl
  | call o k ih => simp only [Program.rescue_call, guarded_call, ih]

theorem guarded_mono {weaker : List (Sigma Res) → Op → Prop}
    {after : List (Sigma Res) → Except ε α → Prop}
    (allow : ∀ past o, allowed past o → weaker past o)
    (finish : ∀ past r, done past r → after past r)
    {p : Program Op Res ε α} {past : List (Sigma Res)}
    (guarded : Guarded allowed done p past) : Guarded weaker after p past := by
  induction p generalizing past with
  | pure a => exact finish _ _ guarded
  | throw e => exact finish _ _ guarded
  | call o k ih => exact ⟨allow _ _ guarded.1, fun x => ih x (guarded.2 x)⟩

theorem guarded_and {done' : List (Sigma Res) → Except ε α → Prop} {p : Program Op Res ε α}
    {past : List (Sigma Res)} (one : Guarded allowed done p past)
    (other : Guarded allowed done' p past) :
    Guarded allowed (fun past' r => done past' r ∧ done' past' r) p past := by
  induction p generalizing past with
  | pure a => exact ⟨one, other⟩
  | throw e => exact ⟨one, other⟩
  | call o k ih => exact ⟨one.1, fun x => ih x (one.2 x) (other.2 x)⟩

/-- In a run of a guarded program every operation was allowed, and the outcome is right. -/
theorem Guarded.executes {p : Program Op Res ε α} {past trace : List (Sigma Res)}
    {outcome : Except ε α} (guarded : Guarded allowed done p past)
    (ran : Executes p trace outcome) :
    (∀ front a back, trace = front ++ a :: back → allowed (front.reverse ++ past) a.1) ∧
      done (trace.reverse ++ past) outcome := by
  induction p generalizing past trace with
  | pure a =>
      obtain ⟨rfl, rfl⟩ := ran
      exact ⟨by simp, guarded⟩
  | throw e =>
      obtain ⟨rfl, rfl⟩ := ran
      exact ⟨by simp, guarded⟩
  | call o k ih =>
      obtain ⟨x, rest, rfl, later⟩ := ran
      obtain ⟨allows, finished⟩ := ih x (guarded.2 x) later
      constructor
      · intro front a back whole
        cases front with
        | nil =>
            obtain ⟨rfl, -⟩ := List.cons.inj whole
            exact guarded.1
        | cons first front =>
            obtain ⟨rfl, rest_eq⟩ := List.cons.inj whole
            simpa using allows front a back rest_eq
      · simpa using finished

/-- A rule that is kept in every run, whatever the answers, is kept everywhere. -/
theorem guarded_of_executes (answers : (o : Op) → Res o) {p : Program Op Res ε α}
    {past : List (Sigma Res)}
    (each : ∀ trace outcome, Executes p trace outcome →
      ∀ front a back, trace = front ++ a :: back → allowed (front.reverse ++ past) a.1) :
    Guarded allowed (fun _ _ => True) p past := by
  induction p generalizing past with
  | pure a => exact trivial
  | throw e => exact trivial
  | call o k ih =>
      constructor
      · exact each _ _ (executes_play answers (.call o k)) [] ⟨o, answers o⟩ _ rfl
      · intro x
        apply ih x
        intro trace outcome ran front a back whole
        have allow := each (⟨o, x⟩ :: trace) outcome ⟨x, trace, rfl, ran⟩ (⟨o, x⟩ :: front) a back
          (congrArg _ whole)
        simpa using allow

theorem guarded_trace (p : Program Op Res ε α) (past : List (Sigma Res)) :
    Guarded (fun _ _ => True)
      (fun past' r => ∃ trace, past' = trace.reverse ++ past ∧ Executes p trace r) p past := by
  induction p generalizing past with
  | pure a => exact ⟨[], rfl, rfl, rfl⟩
  | throw e => exact ⟨[], rfl, rfl, rfl⟩
  | call o k ih =>
      refine ⟨trivial, ?_⟩
      intro x
      refine guarded_mono (fun _ _ allow => allow) ?_ (ih x (⟨o, x⟩ :: past))
      rintro past' r ⟨trace, rfl, ran⟩
      exact ⟨⟨o, x⟩ :: trace, by simp, x, trace, rfl, ran⟩

end Laws

/-- The program keeps a fact about the past and breaks no rule while the fact holds. -/
def Keeps (allowed : List (Sigma Res) → Op → Prop) (fact : List (Sigma Res) → Prop)
    (p : Program Op Res ε α) : Prop :=
  ∀ past, fact past → Guarded allowed (fun past' _ => fact past') p past

section Persistence

variable {allowed : List (Sigma Res) → Op → Prop} {fact : List (Sigma Res) → Prop}

theorem Keeps.guarded {p : Program Op Res ε α} {done : List (Sigma Res) → Except ε α → Prop}
    {past : List (Sigma Res)} (keeps : Keeps allowed fact p) (holds : fact past)
    (finish : ∀ past' r, fact past' → done past' r) : Guarded allowed done p past :=
  guarded_mono (fun _ _ allow => allow) finish (keeps past holds)

theorem keeps_pure (a : α) : Keeps allowed fact (.pure a : Program Op Res ε α) :=
  fun _ holds => holds

theorem keeps_throw (e : ε) : Keeps allowed fact (.throw e : Program Op Res ε α) :=
  fun _ holds => holds

theorem keeps_demand (r : Except ε α) :
    Keeps allowed fact (demand r : Program Op Res ε α) := by
  cases r
  · exact keeps_throw _
  · exact keeps_pure _

theorem keeps_request {o : Op} (persists : ∀ past a, fact past → fact (a :: past))
    (allow : ∀ past, fact past → allowed past o) :
    Keeps allowed fact (request o : Program Op Res ε (Res o)) :=
  fun past holds => ⟨allow past holds, fun _ => persists _ _ holds⟩

theorem Keeps.andThen {p : Program Op Res ε α} {next : α → Program Op Res ε β}
    {done : List (Sigma Res) → Except ε β → Prop} {past : List (Sigma Res)}
    (first : Keeps allowed fact p) (holds : fact past)
    (later : ∀ a past', fact past' → Guarded allowed done (next a) past')
    (failed : ∀ e past', fact past' → done past' (.error e)) :
    Guarded allowed done (p.bind next) past := by
  rw [guarded_bind]
  apply first.guarded holds
  intro past' r holds'
  cases r with
  | ok a => exact later a past' holds'
  | error e => exact failed e past' holds'

theorem Keeps.bind {p : Program Op Res ε α} {next : α → Program Op Res ε β}
    (first : Keeps allowed fact p) (later : ∀ a, Keeps allowed fact (next a)) :
    Keeps allowed fact (p.bind next) := by
  intro past holds
  exact first.andThen holds (fun a past' holds' => later a past' holds') fun _ _ holds' => holds'

theorem Keeps.rescue {p : Program Op Res ε α} {recover : ε → Program Op Res ε α}
    (first : Keeps allowed fact p) (later : ∀ e, Keeps allowed fact (recover e)) :
    Keeps allowed fact (p.rescue recover) := by
  intro past holds
  rw [guarded_rescue]
  apply first.guarded holds
  intro past' r holds'
  cases r with
  | ok a => exact holds'
  | error e => exact later e past' holds'

/-- Where the fact lifts every restriction, any program will do. -/
theorem keeps_of_permissive (persists : ∀ past a, fact past → fact (a :: past))
    (permissive : ∀ past o, fact past → allowed past o) (p : Program Op Res ε α) :
    Keeps allowed fact p := by
  induction p with
  | pure a => exact keeps_pure a
  | throw e => exact keeps_throw e
  | call o k ih =>
      intro past holds
      exact ⟨permissive past o holds, fun x => ih x _ (persists _ _ holds)⟩

theorem keeps_ite {c : Prop} [Decidable c] {p q : Program Op Res ε α}
    (first : Keeps allowed fact p) (second : Keeps allowed fact q) :
    Keeps allowed fact (if c then p else q) := by
  split
  · exact first
  · exact second

end Persistence

abbrev Confined (kind : Op → Prop) (p : Program Op Res ε α) : Prop :=
  Keeps (fun _ => kind) (fun _ => True) p

section Kinds

variable {kind : Op → Prop}

theorem confined_request {o : Op} (is : kind o) :
    Confined kind (request o : Program Op Res ε (Res o)) :=
  keeps_request (fun _ _ _ => trivial) fun _ _ => is

theorem Confined.mono {wider : Op → Prop} {p : Program Op Res ε α} (confined : Confined kind p)
    (widens : ∀ o, kind o → wider o) : Confined wider p := by
  intro past _
  exact guarded_mono (fun _ o is => widens o is) (fun _ _ holds => holds) (confined past trivial)

theorem guarded_kind_iff {p : Program Op Res ε α} (past past' : List (Sigma Res)) :
    Guarded (fun _ => kind) (fun _ _ => True) p past ↔
      Guarded (fun _ => kind) (fun _ _ => True) p past' := by
  induction p generalizing past past' with
  | pure a => rfl
  | throw e => rfl
  | call o k ih => exact and_congr_right fun _ => forall_congr' fun x => ih x _ _

theorem Confined.keeps {p : Program Op Res ε α} {allowed : List (Sigma Res) → Op → Prop}
    {fact : List (Sigma Res) → Prop} (confined : Confined kind p)
    (persists : ∀ past a, fact past → fact (a :: past))
    (permits : ∀ past o, fact past → kind o → allowed past o) : Keeps allowed fact p := by
  induction p with
  | pure a => exact keeps_pure a
  | throw e => exact keeps_throw e
  | call o k ih =>
      intro past holds
      obtain ⟨is, later⟩ := confined past trivial
      refine ⟨permits past o holds is, ?_⟩
      intro x
      refine ih x ?_ _ (persists _ _ holds)
      intro past' _
      exact (guarded_kind_iff _ _).mp (later x)

theorem Confined.executes {p : Program Op Res ε α} (confined : Confined kind p)
    {trace : List (Sigma Res)} {outcome : Except ε α} (ran : Executes p trace outcome) :
    ∀ a ∈ trace, kind a.1 := by
  intro a member
  obtain ⟨front, back, whole⟩ := List.append_of_mem member
  exact ((confined [] trivial).executes ran).1 front a back whole

end Kinds

end TrackerGateway.Foundation.Coroutine
