/- module: TrackerGateway/Foundation/Coroutine/Interleaving
   layer: library
   digest: Programs that take turns on one state, and what each may count on from the others. -/

import Mathlib.Logic.Relation
import TrackerGateway.Foundation.Coroutine.Program

set_option autoImplicit false
set_option relaxedAutoImplicit false

namespace TrackerGateway.Foundation.Coroutine

variable {Op : Type} {Res : Op → Type} {State Label ε α β : Type}

/-- The shared state, the programs under way and the outcomes of those that have ended, each
under the label it was started with. -/
structure Crew (Op : Type) (Res : Op → Type) (State Label ε α : Type) where
  shared : State
  running : List (Label × Program Op Res ε α)
  ended : List (Label × Except ε α)

def Crew.idle (s : State) : Crew Op Res State Label ε α := ⟨s, [], []⟩

/-- One turn: a program is started, performs one operation on the shared state, or ends. -/
inductive Turn (effect : State → Sigma Res → State → Prop) (body : Label → Program Op Res ε α) :
    Crew Op Res State Label ε α → Crew Op Res State Label ε α → Prop
  | starts (l : Label) (s : State) (running : List (Label × Program Op Res ε α))
      (ended : List (Label × Except ε α)) :
      Turn effect body ⟨s, running, ended⟩ ⟨s, (l, body l) :: running, ended⟩
  | performs {s s' : State} {o : Op} {x : Res o} (happens : effect s ⟨o, x⟩ s') (l : Label)
      (k : Res o → Program Op Res ε α) (front back : List (Label × Program Op Res ε α))
      (ended : List (Label × Except ε α)) :
      Turn effect body ⟨s, front ++ (l, .call o k) :: back, ended⟩
        ⟨s', front ++ (l, k x) :: back, ended⟩
  | ends {p : Program Op Res ε α} {r : Except ε α} (done : Executes p [] r) (l : Label) (s : State)
      (front back : List (Label × Program Op Res ε α)) (ended : List (Label × Except ε α)) :
      Turn effect body ⟨s, front ++ (l, p) :: back, ended⟩ ⟨s, front ++ back, (l, r) :: ended⟩

/-- The crews that programs started in a state can come to, in every order of their turns. -/
def Reaches (effect : State → Sigma Res → State → Prop) (body : Label → Program Op Res ε α)
    (start : State) (crew : Crew Op Res State Label ε α) : Prop :=
  Relation.ReflTransGen (Turn effect body) (.idle start) crew

/-- Whatever the others do between its operations, as long as the state only evolves, every
operation of the program lets it evolve and the outcome is right in the state it ends in. -/
def Guarantees (effect : State → Sigma Res → State → Prop) (evolves : State → State → Prop)
    (post : State → Except ε α → Prop) : Program Op Res ε α → State → Prop
  | .pure a, s => post s (.ok a)
  | .throw e, s => post s (.error e)
  | .call o k, s => ∀ m, evolves s m → ∀ x s', effect m ⟨o, x⟩ s' →
      evolves m s' ∧ Guarantees effect evolves post (k x) s'

def onward (effect : State → Sigma Res → State → Prop) (evolves : State → State → Prop)
    (post : State → Except ε β → Prop) (next : α → Program Op Res ε β) : State → Except ε α → Prop
  | s, .ok a => Guarantees effect evolves post (next a) s
  | s, .error e => post s (.error e)

def recovered (effect : State → Sigma Res → State → Prop) (evolves : State → State → Prop)
    (post : State → Except ε α → Prop) (recover : ε → Program Op Res ε α) :
    State → Except ε α → Prop
  | s, .ok a => post s (.ok a)
  | s, .error e => Guarantees effect evolves post (recover e) s

section Laws

variable {effect : State → Sigma Res → State → Prop} {evolves : State → State → Prop}
  {post : State → Except ε α → Prop} {s s' : State}

theorem guarantees_bind {post : State → Except ε β → Prop} (p : Program Op Res ε α)
    (next : α → Program Op Res ε β) :
    Guarantees effect evolves post (p.bind next) s ↔
      Guarantees effect evolves (onward effect evolves post next) p s := by
  induction p generalizing s with
  | pure a => rfl
  | throw e => rfl
  | call o k ih => simp only [Program.bind_call, Guarantees, ih]

theorem guarantees_rescue (p : Program Op Res ε α) (recover : ε → Program Op Res ε α) :
    Guarantees effect evolves post (p.rescue recover) s ↔
      Guarantees effect evolves (recovered effect evolves post recover) p s := by
  induction p generalizing s with
  | pure a => rfl
  | throw e => rfl
  | call o k ih => simp only [Program.rescue_call, Guarantees, ih]

theorem Guarantees.mono {weaker : State → Except ε α → Prop} {p : Program Op Res ε α}
    (guarantees : Guarantees effect evolves post p s)
    (weaken : ∀ m r, post m r → weaker m r) : Guarantees effect evolves weaker p s := by
  induction p generalizing s with
  | pure a => exact weaken s _ guarantees
  | throw e => exact weaken s _ guarantees
  | call o k ih =>
      intro m evolved x s' happens
      obtain ⟨kept, later⟩ := guarantees m evolved x s' happens
      exact ⟨kept, ih x later⟩

/-- The rule of sequencing: what the first part guarantees is what the second starts from. -/
theorem Guarantees.bind {middle : State → Except ε α → Prop} {post : State → Except ε β → Prop}
    {p : Program Op Res ε α} {next : α → Program Op Res ε β}
    (first : Guarantees effect evolves middle p s)
    (second : ∀ m r, middle m r → onward effect evolves post next m r) :
    Guarantees effect evolves post (p.bind next) s := by
  rw [guarantees_bind]
  exact first.mono second

theorem Guarantees.rescue {middle : State → Except ε α → Prop} {p : Program Op Res ε α}
    {recover : ε → Program Op Res ε α} (first : Guarantees effect evolves middle p s)
    (second : ∀ m r, middle m r → recovered effect evolves post recover m r) :
    Guarantees effect evolves post (p.rescue recover) s := by
  rw [guarantees_rescue]
  exact first.mono second

/-- What a program guarantees it still guarantees when others have had their turns. -/
theorem Guarantees.later {p : Program Op Res ε α}
    (trans : ∀ {a b c}, evolves a b → evolves b c → evolves a c)
    (stable : ∀ {m m' r}, post m r → evolves m m' → post m' r)
    (guarantees : Guarantees effect evolves post p s) (evolved : evolves s s') :
    Guarantees effect evolves post p s' := by
  cases p with
  | pure a => exact stable guarantees evolved
  | throw e => exact stable guarantees evolved
  | call o k =>
      intro m onward
      exact guarantees m (trans evolved onward)

theorem Guarantees.ended {p : Program Op Res ε α} {r : Except ε α}
    (guarantees : Guarantees effect evolves post p s) (done : Executes p [] r) : post s r := by
  cases p with
  | pure a =>
      obtain ⟨-, rfl⟩ := done
      exact guarantees
  | throw e =>
      obtain ⟨-, rfl⟩ := done
      exact guarantees
  | call o k =>
      obtain ⟨x, rest, absurd, -⟩ := done
      cases absurd

end Laws

section Rule

variable {effect : State → Sigma Res → State → Prop} {evolves : State → State → Prop}
  {post : Label → State → Except ε α → Prop} {body : Label → Program Op Res ε α} {start : State}

/-- The state has evolved from the start, every program under way guarantees its outcome, and
every outcome reached is right in the present state. -/
structure Coherent (effect : State → Sigma Res → State → Prop) (evolves : State → State → Prop)
    (post : Label → State → Except ε α → Prop) (start : State)
    (crew : Crew Op Res State Label ε α) : Prop where
  evolved : evolves start crew.shared
  promised : ∀ l p, (l, p) ∈ crew.running → Guarantees effect evolves (post l) p crew.shared
  right : ∀ l r, (l, r) ∈ crew.ended → post l crew.shared r

variable (refl : ∀ s, evolves s s) (trans : ∀ {a b c}, evolves a b → evolves b c → evolves a c)
  (stable : ∀ l {m m' r}, post l m r → evolves m m' → post l m' r)
  (guarantees : ∀ l s, evolves start s → Guarantees effect evolves (post l) (body l) s)

include refl trans stable guarantees

theorem Coherent.turn {crew crew' : Crew Op Res State Label ε α}
    (coherent : Coherent effect evolves post start crew) (turn : Turn effect body crew crew') :
    Coherent effect evolves post start crew' := by
  obtain ⟨evolved, promised, right⟩ := coherent
  cases turn with
  | starts l s running ended =>
      refine ⟨evolved, ?_, right⟩
      intro l' p member
      rcases List.mem_cons.mp member with same | earlier
      · obtain ⟨rfl, rfl⟩ := Prod.mk.inj same
        exact guarantees l' s evolved
      · exact promised l' p earlier
  | performs happens l k front back ended =>
      -- The operation is one its program guarantees; to the others it is evolution.
      have own := promised l _ (List.mem_append_right front List.mem_cons_self)
      obtain ⟨kept, later⟩ := own _ (refl _) _ _ happens
      refine ⟨trans evolved kept, ?_, ?_⟩
      · intro l' p member
        rcases List.mem_append.mp member with before | behind
        · exact (promised l' p (List.mem_append_left _ before)).later trans (stable l') kept
        rcases List.mem_cons.mp behind with same | after
        · obtain ⟨rfl, rfl⟩ := Prod.mk.inj same
          exact later
        · have there := List.mem_append_right front (List.mem_cons_of_mem (l, .call _ k) after)
          exact (promised l' p there).later trans (stable l') kept
      · intro l' r member
        exact stable l' (right l' r member) kept
  | ends done l s front back ended =>
      have own := promised l _ (List.mem_append_right front List.mem_cons_self)
      refine ⟨evolved, ?_, ?_⟩
      · intro l' p member
        rcases List.mem_append.mp member with before | after
        · exact promised l' p (List.mem_append_left _ before)
        · exact promised l' p (List.mem_append_right _ (List.mem_cons_of_mem _ after))
      · intro l' r member
        rcases List.mem_cons.mp member with same | earlier
        · obtain ⟨rfl, rfl⟩ := Prod.mk.inj same
          exact own.ended done
        · exact right l' r earlier

/-- Programs that each guarantee their outcome while the state evolves are coherent in every
order of their turns. -/
theorem Reaches.coherent {crew : Crew Op Res State Label ε α}
    (reached : Reaches effect body start crew) : Coherent effect evolves post start crew := by
  induction reached with
  | refl => exact ⟨refl start, by simp [Crew.idle], by simp [Crew.idle]⟩
  | tail before turn ih => exact ih.turn refl trans stable guarantees turn

end Rule

/-- The program comes from one state to another and to an outcome, with nobody in between. -/
def Alone (effect : State → Sigma Res → State → Prop) :
    Program Op Res ε α → State → State → Except ε α → Prop
  | .pure a, s, s', r => s' = s ∧ r = .ok a
  | .throw e, s, s', r => s' = s ∧ r = .error e
  | .call o k, s, s', r => ∃ x m, effect s ⟨o, x⟩ m ∧ Alone effect (k x) m s' r

theorem Alone.turns {effect : State → Sigma Res → State → Prop}
    {body : Label → Program Op Res ε α} {p : Program Op Res ε α} {s s' : State} {r : Except ε α}
    (alone : Alone effect p s s' r) (l : Label) (running : List (Label × Program Op Res ε α))
    (ended : List (Label × Except ε α)) :
    Relation.ReflTransGen (Turn effect body) ⟨s, (l, p) :: running, ended⟩
      ⟨s', running, (l, r) :: ended⟩ := by
  induction p generalizing s with
  | pure a =>
      obtain ⟨rfl, rfl⟩ := alone
      exact .single (.ends (executes_pure.mpr ⟨rfl, rfl⟩) l s' [] running ended)
  | throw e =>
      obtain ⟨rfl, rfl⟩ := alone
      exact .single (.ends (executes_throw.mpr ⟨rfl, rfl⟩) l s' [] running ended)
  | call o k ih =>
      obtain ⟨x, m, happens, later⟩ := alone
      exact .head (.performs happens l k [] running ended) (ih x later)

theorem Alone.reaches {effect : State → Sigma Res → State → Prop}
    {body : Label → Program Op Res ε α} {l : Label} {s s' : State} {r : Except ε α}
    (alone : Alone effect (body l) s s' r) : Reaches effect body s ⟨s', [], [(l, r)]⟩ :=
  .head (.starts l s [] []) (alone.turns l [] [])

end TrackerGateway.Foundation.Coroutine
