/- module: TrackerGateway/Foundation/Coroutine/Plans
   layer: library
   digest: The operations that a program attempts whatever becomes of them, and how they compose. -/

import TrackerGateway.Foundation.Coroutine.Discipline

set_option autoImplicit false
set_option relaxedAutoImplicit false

namespace TrackerGateway.Foundation.Coroutine

variable {Op : Type} {Res : Op → Type} {ε α β γ : Type}

def attempted (visible : Op → Option γ) (trace : List (Sigma Res)) : List γ :=
  trace.filterMap fun a => visible a.1

/-- In every run whose answers are as assumed, this is what is seen. -/
def Attempts (assumed : Sigma Res → Prop) (visible : Op → Option γ) (p : Program Op Res ε α)
    (plan : List γ) : Prop :=
  ∀ trace outcome, Executes p trace outcome → (∀ a ∈ trace, assumed a) →
    attempted visible trace = plan

/-- This is what is seen, and the program returns a value of this kind. -/
def Plans (assumed : Sigma Res → Prop) (visible : Op → Option γ) (p : Program Op Res ε α)
    (plan : List γ) (post : α → Prop) : Prop :=
  ∀ trace outcome, Executes p trace outcome → (∀ a ∈ trace, assumed a) →
    attempted visible trace = plan ∧ ∃ a, outcome = .ok a ∧ post a

section Laws

variable {assumed : Sigma Res → Prop} {visible : Op → Option γ} {plan later : List γ}
  {post : α → Prop}

theorem attempted_append (trace more : List (Sigma Res)) :
    attempted visible (trace ++ more) = attempted visible trace ++ attempted visible more :=
  List.filterMap_append

theorem Plans.attempts {p : Program Op Res ε α} (plans : Plans assumed visible p plan post) :
    Attempts assumed visible p plan :=
  fun trace outcome ran answers => (plans trace outcome ran answers).1

theorem plans_pure {a : α} (holds : post a) :
    Plans assumed visible (.pure a : Program Op Res ε α) [] post := by
  rintro trace outcome ⟨rfl, rfl⟩ -
  exact ⟨rfl, a, rfl, holds⟩

theorem attempts_pure (a : α) :
    Attempts assumed visible (.pure a : Program Op Res ε α) [] := by
  rintro trace outcome ⟨rfl, rfl⟩ -
  rfl

theorem Confined.attempts {kind : Op → Prop} {p : Program Op Res ε α} (confined : Confined kind p)
    (unseen : ∀ o, kind o → visible o = none) : Attempts assumed visible p [] := by
  intro trace outcome ran _
  rw [attempted]
  rw [List.filterMap_eq_nil_iff]
  intro a member
  exact unseen a.1 (confined.executes ran a member)

theorem plans_request (o : Op) :
    Plans assumed visible (request o : Program Op Res ε (Res o)) (visible o).toList
      fun x => assumed ⟨o, x⟩ := by
  rintro trace outcome ⟨x, rest, rfl, rfl, rfl⟩ answers
  refine ⟨?_, x, rfl, answers _ List.mem_cons_self⟩
  rw [attempted, List.filterMap_cons]
  cases visible o <;> rfl

theorem attempts_demand (r : Except ε α) :
    Attempts assumed visible (demand r : Program Op Res ε α) [] := by
  intro trace outcome ran _
  rw [(executes_demand.mp ran).1]
  rfl

theorem Plans.mono {p : Program Op Res ε α} {weaker : α → Prop}
    (plans : Plans assumed visible p plan post) (imp : ∀ a, post a → weaker a) :
    Plans assumed visible p plan weaker := by
  intro trace outcome ran answers
  obtain ⟨seen, a, returned, holds⟩ := plans trace outcome ran answers
  exact ⟨seen, a, returned, imp a holds⟩

theorem Plans.bind {p : Program Op Res ε α} {next : α → Program Op Res ε β} {post' : β → Prop}
    (first : Plans assumed visible p plan post)
    (rest : ∀ a, post a → Plans assumed visible (next a) later post') :
    Plans assumed visible (p.bind next) (plan ++ later) post' := by
  intro trace outcome ran answers
  obtain ⟨front, back, middle, rfl, run, continued⟩ := executes_bind.mp ran
  obtain ⟨seen, a, rfl, holds⟩ := first front middle run fun x member =>
    answers x (List.mem_append_left _ member)
  obtain ⟨seen', returned⟩ := rest a holds back outcome continued fun x member =>
    answers x (List.mem_append_right _ member)
  rw [attempted_append, seen, seen']
  exact ⟨rfl, returned⟩

theorem Plans.andThen {p : Program Op Res ε α} {next : α → Program Op Res ε β}
    (first : Plans assumed visible p plan post)
    (rest : ∀ a, post a → Attempts assumed visible (next a) later) :
    Attempts assumed visible (p.bind next) (plan ++ later) := by
  intro trace outcome ran answers
  obtain ⟨front, back, middle, rfl, run, continued⟩ := executes_bind.mp ran
  obtain ⟨seen, a, rfl, holds⟩ := first front middle run fun x member =>
    answers x (List.mem_append_left _ member)
  rw [attempted_append, seen, rest a holds back outcome continued fun x member =>
    answers x (List.mem_append_right _ member)]

/-- What follows a program that may raise is seen only if it is nothing. -/
theorem Attempts.andQuiet {p : Program Op Res ε α} {next : α → Program Op Res ε β}
    (first : Attempts assumed visible p plan)
    (rest : ∀ a, Attempts assumed visible (next a) []) :
    Attempts assumed visible (p.bind next) plan := by
  intro trace outcome ran answers
  obtain ⟨front, back, middle, rfl, run, continued⟩ := executes_bind.mp ran
  have seen := first front middle run fun x member => answers x (List.mem_append_left _ member)
  rw [attempted_append, seen]
  cases middle with
  | error e => rw [continued.1, attempted, List.filterMap_nil, List.append_nil]
  | ok a =>
      rw [rest a back outcome continued fun x member => answers x (List.mem_append_right _ member),
        List.append_nil]

theorem Attempts.rescue {p : Program Op Res ε α} {recover : ε → Program Op Res ε α}
    (first : Attempts assumed visible p plan)
    (rest : ∀ e, Plans assumed visible (recover e) [] fun _ => True) :
    Plans assumed visible (p.rescue recover) plan fun _ => True := by
  intro trace outcome ran answers
  obtain ⟨front, back, middle, rfl, run, continued⟩ := executes_rescue.mp ran
  have seen := first front middle run fun x member => answers x (List.mem_append_left _ member)
  rw [attempted_append, seen]
  cases middle with
  | ok a =>
      obtain ⟨rfl, rfl⟩ := continued
      exact ⟨List.append_nil plan, a, rfl, trivial⟩
  | error e =>
      obtain ⟨seen', returned⟩ := rest e back outcome continued fun x member =>
        answers x (List.mem_append_right _ member)
      rw [seen', List.append_nil]
      exact ⟨rfl, returned⟩

theorem Plans.rescue {p : Program Op Res ε α} {recover : ε → Program Op Res ε α}
    (first : Plans assumed visible p plan post) :
    Plans assumed visible (p.rescue recover) plan post := by
  intro trace outcome ran answers
  obtain ⟨front, back, middle, rfl, run, continued⟩ := executes_rescue.mp ran
  obtain ⟨seen, a, rfl, holds⟩ := first front middle run fun x member =>
    answers x (List.mem_append_left _ member)
  obtain ⟨rfl, rfl⟩ := continued
  rw [List.append_nil]
  exact ⟨seen, a, rfl, holds⟩

/-- If every operation can be answered as assumed, then what is seen in the middle of a run is the
beginning of what is seen in the end. -/
theorem Attempts.guarded {p : Program Op Res ε α} {answers : (o : Op) → Res o}
    (fits : ∀ o, assumed ⟨o, answers o⟩) (attempts : Attempts assumed visible p plan) :
    Guarded
      (fun past o => (∀ a ∈ past, assumed a) →
        attempted visible past.reverse ++ (visible o).toList <+: plan)
      (fun past _ => (∀ a ∈ past, assumed a) → attempted visible past.reverse = plan) p [] := by
  suffices general : ∀ past : List (Sigma Res),
      (∀ trace outcome, Executes p trace outcome → (∀ a ∈ trace, assumed a) →
        (∀ a ∈ past, assumed a) → attempted visible (past.reverse ++ trace) = plan) →
      Guarded
        (fun past o => (∀ a ∈ past, assumed a) →
          attempted visible past.reverse ++ (visible o).toList <+: plan)
        (fun past _ => (∀ a ∈ past, assumed a) → attempted visible past.reverse = plan) p past by
    refine general [] ?_
    intro trace outcome ran answered _
    exact attempts trace outcome ran answered
  clear attempts
  induction p with
  | pure a =>
      intro past whole answered
      simpa using whole [] (.ok a) ⟨rfl, rfl⟩ (by simp) answered
  | throw e =>
      intro past whole answered
      simpa using whole [] (.error e) ⟨rfl, rfl⟩ (by simp) answered
  | call o k ih =>
      intro past whole
      constructor
      · intro answered
        -- The run goes on with the answers that fit.
        have seen := whole _ _ (executes_play answers (.call o k)) (by
          intro a member
          rw [answered_play answers _ a member]
          exact fits a.1) answered
        refine ⟨attempted visible (play answers (k (answers o))).1, ?_⟩
        rw [← seen, List.append_assoc, attempted_append, play, attempted, attempted, attempted,
          List.filterMap_cons]
        cases visible o <;> rfl
      · intro x
        apply ih x
        intro trace outcome ran answers' past'
        have seen := whole (⟨o, x⟩ :: trace) outcome ⟨x, trace, rfl, ran⟩ (by
          intro a member
          rcases List.mem_cons.mp member with rfl | later
          · exact past' _ List.mem_cons_self
          · exact answers' a later) fun a member => past' a (List.mem_cons_of_mem _ member)
        simpa using seen

end Laws

abbrev Returns (assumed : Sigma Res → Prop) (p : Program Op Res ε α) (post : α → Prop) : Prop :=
  Plans assumed (fun _ => (none : Option Unit)) p [] post

section Outcomes

variable {assumed : Sigma Res → Prop} {post : α → Prop}

theorem attempts_unseen (p : Program Op Res ε α) :
    Attempts assumed (fun _ => (none : Option Unit)) p [] := by
  intro trace outcome _ _
  rw [attempted, List.filterMap_eq_nil_iff]
  intro a _
  rfl

theorem returns_rescue {p : Program Op Res ε α} {recover : ε → Program Op Res ε α}
    (rest : ∀ e, Returns assumed (recover e) fun _ => True) :
    Returns assumed (p.rescue recover) fun _ => True :=
  (attempts_unseen p).rescue rest

theorem Returns.bind {p : Program Op Res ε α} {next : α → Program Op Res ε β} {post' : β → Prop}
    (first : Returns assumed p post)
    (rest : ∀ a, post a → Returns assumed (next a) post') : Returns assumed (p.bind next) post' :=
  Plans.bind first rest

theorem Returns.not_error {p : Program Op Res ε α} (returns : Returns assumed p post)
    {trace : List (Sigma Res)} {e : ε} (ran : Executes p trace (.error e))
    (answers : ∀ a ∈ trace, assumed a) : False := by
  obtain ⟨-, a, same, -⟩ := returns trace _ ran answers
  cases same

theorem executes_bind_ok {p : Program Op Res ε α} {next : α → Program Op Res ε β}
    {trace : List (Sigma Res)} {b : β} (ran : Executes (p.bind next) trace (.ok b)) :
    ∃ a front back, trace = front ++ back ∧ Executes p front (.ok a) ∧
      Executes (next a) back (.ok b) := by
  obtain ⟨front, back, middle, rfl, first, rest⟩ := executes_bind.mp ran
  cases middle with
  | ok a => exact ⟨a, front, back, rfl, first, rest⟩
  | error e => cases rest.2

theorem isOk_of_executes {r : Except ε α} {next : α → Program Op Res ε β}
    {trace : List (Sigma Res)} {b : β} (ran : Executes ((demand r).bind next) trace (.ok b)) :
    r.isOk = true := by
  obtain ⟨a, front, back, -, first, -⟩ := executes_bind_ok ran
  rw [← (executes_demand.mp first).2]
  rfl

end Outcomes

end TrackerGateway.Foundation.Coroutine
