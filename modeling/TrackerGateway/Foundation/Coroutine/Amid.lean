/- module: TrackerGateway/Foundation/Coroutine/Amid
   layer: library
   digest: Programs on a state that anyone changes meanwhile, and what each of them has seen. -/

import Mathlib.Logic.Relation
import TrackerGateway.Foundation.Coroutine.Interleaving

set_option autoImplicit false
set_option relaxedAutoImplicit false

namespace TrackerGateway.Foundation.Coroutine

variable {Op : Type} {Res : Op → Type} {State Label ε α β : Type}

/-- Whatever states come between its operations, behind those that it has seen, newest first, each
operation is allowed by what it has then seen, and the outcome is right. -/
def Meets (effect : State → Sigma Res → State → Prop) (allow : List State → Op → Prop)
    (post : List State → Except ε α → Prop) : Program Op Res ε α → List State → Prop
  | .pure a, past => post past (.ok a)
  | .throw e, past => post past (.error e)
  | .call o k, past => ∀ m before, past <:+ m :: before → allow (m :: before) o ∧
      ∀ x m', effect m ⟨o, x⟩ m' → Meets effect allow post (k x) (m' :: m :: before)

def Onward (effect : State → Sigma Res → State → Prop) (allow : List State → Op → Prop)
    (post : List State → Except ε β → Prop) (next : α → Program Op Res ε β) (past : List State) :
    Except ε α → Prop
  | .ok a => Meets effect allow post (next a) past
  | .error e => post past (.error e)

def Recovered (effect : State → Sigma Res → State → Prop) (allow : List State → Op → Prop)
    (post : List State → Except ε α → Prop) (recover : ε → Program Op Res ε α)
    (past : List State) : Except ε α → Prop
  | .ok a => post past (.ok a)
  | .error e => Meets effect allow post (recover e) past

/-- What is right goes on to be right when more is seen. -/
def Lasting {α : Type} (post : List State → α → Prop) : Prop :=
  ∀ past now r, past <:+ now → post past r → post now r

section Laws

variable {effect : State → Sigma Res → State → Prop} {allow : List State → Op → Prop}
  {post : List State → Except ε α → Prop} {past now : List State}

theorem Meets.mono {p : Program Op Res ε α} (lasting : Lasting post)
    (meets : Meets effect allow post p past) (later : past <:+ now) :
    Meets effect allow post p now := by
  cases p with
  | pure a => exact lasting _ _ _ later meets
  | throw e => exact lasting _ _ _ later meets
  | call o k => exact fun m before more => meets m before (later.trans more)

theorem Meets.bind {middle : List State → Except ε α → Prop} {post : List State → Except ε β → Prop}
    {p : Program Op Res ε α} {next : α → Program Op Res ε β}
    (first : Meets effect allow middle p past)
    (second : ∀ now r, past <:+ now → middle now r → Onward effect allow post next now r) :
    Meets effect allow post (p.bind next) past := by
  induction p generalizing past with
  | pure a => exact second past _ (List.suffix_refl _) first
  | throw e => exact second past _ (List.suffix_refl _) first
  | call o k ih =>
      intro m before more
      obtain ⟨allowed, later⟩ := first m before more
      refine ⟨allowed, fun x m' happens => ih x (later x m' happens) ?_⟩
      exact fun now r since => second now r ((more.trans (List.suffix_cons m' _)).trans since)

theorem Meets.rescue {middle : List State → Except ε α → Prop} {p : Program Op Res ε α}
    {recover : ε → Program Op Res ε α} (first : Meets effect allow middle p past)
    (second : ∀ now r, past <:+ now → middle now r → Recovered effect allow post recover now r) :
    Meets effect allow post (p.rescue recover) past := by
  induction p generalizing past with
  | pure a => exact second past _ (List.suffix_refl _) first
  | throw e => exact second past _ (List.suffix_refl _) first
  | call o k ih =>
      intro m before more
      obtain ⟨allowed, later⟩ := first m before more
      refine ⟨allowed, fun x m' happens => ih x (later x m' happens) ?_⟩
      exact fun now r since => second now r ((more.trans (List.suffix_cons m' _)).trans since)

theorem meets_demand {r : Except ε α} (right : post past r) :
    Meets effect allow post (demand r : Program Op Res ε α) past := by
  cases r <;> exact right

theorem Meets.ended {p : Program Op Res ε α} {r : Except ε α}
    (meets : Meets effect allow post p past) (done : Executes p [] r) : post past r := by
  cases p with
  | pure a =>
      obtain ⟨-, rfl⟩ := done
      exact meets
  | throw e =>
      obtain ⟨-, rfl⟩ := done
      exact meets
  | call o k =>
      obtain ⟨x, rest, absurd_, -⟩ := done
      cases absurd_

end Laws

/-- The shared state, the programs under way and the outcomes of those that have ended, each with
the states since it was started, newest first. -/
structure Scene (Op : Type) (Res : Op → Type) (State Label ε α : Type) where
  shared : State
  running : List (Label × List State × Program Op Res ε α)
  ended : List (Label × List State × Except ε α)

namespace Scene

def idle (s : State) : Scene Op Res State Label ε α := ⟨s, [], []⟩

def seen (s : State) (running : List (Label × List State × Program Op Res ε α)) :
    List (Label × List State × Program Op Res ε α) :=
  running.map fun r => (r.1, s :: r.2.1, r.2.2)

/-- A program is started, performs one operation or ends; or the state is changed by others. -/
inductive Moves (effect : State → Sigma Res → State → Prop) (body : Label → Program Op Res ε α)
    (edits : State → State → Prop) :
    Scene Op Res State Label ε α → Scene Op Res State Label ε α → Prop
  | starts (l : Label) (s : State) (running : List (Label × List State × Program Op Res ε α))
      (ended : List (Label × List State × Except ε α)) :
      Moves effect body edits ⟨s, running, ended⟩ ⟨s, (l, [s], body l) :: running, ended⟩
  | performs {s s' : State} {o : Op} {x : Res o} (happens : effect s ⟨o, x⟩ s') (l : Label)
      (past : List State) (k : Res o → Program Op Res ε α)
      (front back : List (Label × List State × Program Op Res ε α))
      (ended : List (Label × List State × Except ε α)) :
      Moves effect body edits ⟨s, front ++ (l, past, .call o k) :: back, ended⟩
        ⟨s', seen s' front ++ (l, s' :: past, k x) :: seen s' back, ended⟩
  | edits {s s' : State} (edit : edits s s')
      (running : List (Label × List State × Program Op Res ε α))
      (ended : List (Label × List State × Except ε α)) :
      Moves effect body edits ⟨s, running, ended⟩ ⟨s', seen s' running, ended⟩
  | ends {p : Program Op Res ε α} {r : Except ε α} (done : Executes p [] r) (l : Label) (s : State)
      (past : List State) (front back : List (Label × List State × Program Op Res ε α))
      (ended : List (Label × List State × Except ε α)) :
      Moves effect body edits ⟨s, front ++ (l, past, p) :: back, ended⟩
        ⟨s, front ++ back, (l, past, r) :: ended⟩

/-- The scenes that programs can come to, in every order of their turns and of the changes. -/
def Reaches (effect : State → Sigma Res → State → Prop) (body : Label → Program Op Res ε α)
    (edits : State → State → Prop) (start : State) (scene : Scene Op Res State Label ε α) : Prop :=
  Relation.ReflTransGen (Moves effect body edits) (.idle start) scene

section Rule

variable {effect : State → Sigma Res → State → Prop} {edits : State → State → Prop}
  {allow : Label → List State → Op → Prop} {post : Label → List State → Except ε α → Prop}
  {body : Label → Program Op Res ε α} {start : State}

/-- Everyone has seen the present state last, will do right whatever it is going to see, and has
done so if it has ended. -/
structure Right (effect : State → Sigma Res → State → Prop)
    (allow : Label → List State → Op → Prop) (post : Label → List State → Except ε α → Prop)
    (scene : Scene Op Res State Label ε α) : Prop where
  present : ∀ l past p, (l, past, p) ∈ scene.running → past.head? = some scene.shared
  promised : ∀ l past p, (l, past, p) ∈ scene.running → Meets effect (allow l) (post l) p past
  right : ∀ l past r, (l, past, r) ∈ scene.ended → post l past r

theorem mem_seen {s : State} {running : List (Label × List State × Program Op Res ε α)} {l : Label}
    {past : List State} {p : Program Op Res ε α} (member : (l, past, p) ∈ seen s running) :
    ∃ before, (l, before, p) ∈ running ∧ past = s :: before := by
  obtain ⟨⟨l', before, p'⟩, there, same⟩ := List.mem_map.mp member
  cases same
  exact ⟨before, there, rfl⟩

theorem Right.moves {scene scene' : Scene Op Res State Label ε α}
    (lasting : ∀ l, Lasting (post l))
    (correct : ∀ l past, Meets effect (allow l) (post l) (body l) past)
    (right : Right effect allow post scene) (moves : Moves effect body edits scene scene') :
    Right effect allow post scene' := by
  obtain ⟨present, promised, ended⟩ := right
  cases moves with
  | starts l s running ended' =>
      refine ⟨?_, ?_, ended⟩
      · intro l' past p member
        rcases List.mem_cons.mp member with same | earlier
        · cases same
          rfl
        · exact present l' past p earlier
      · intro l' past p member
        rcases List.mem_cons.mp member with same | earlier
        · cases same
          exact correct l _
        · exact promised l' past p earlier
  | edits edit running ended' =>
      refine ⟨?_, ?_, ended⟩
      · intro l past p member
        obtain ⟨before, -, rfl⟩ := mem_seen member
        rfl
      · intro l past p member
        obtain ⟨before, there, rfl⟩ := mem_seen member
        exact (promised l before p there).mono (lasting l) (List.suffix_cons _ _)
  | @performs s s' o x happens l past k front back ended' =>
      -- The program that performs has seen the state before and sees the one behind.
      have own := promised l past _ (List.mem_append_right front List.mem_cons_self)
      have met : past.head? = some s :=
        present l past _ (List.mem_append_right front List.mem_cons_self)
      obtain ⟨older, rfl⟩ := List.head?_eq_some_iff.mp met
      refine ⟨?_, ?_, ended⟩
      · intro l' past' p member
        rcases List.mem_append.mp member with before | behind
        · obtain ⟨earlier, -, rfl⟩ := mem_seen before
          rfl
        rcases List.mem_cons.mp behind with same | after
        · cases same
          rfl
        · obtain ⟨earlier, -, rfl⟩ := mem_seen after
          rfl
      · intro l' past' p member
        rcases List.mem_append.mp member with before | behind
        · obtain ⟨earlier, there, rfl⟩ := mem_seen before
          exact (promised l' earlier p (List.mem_append_left _ there)).mono (lasting l')
            (List.suffix_cons _ _)
        rcases List.mem_cons.mp behind with same | after
        · cases same
          exact (own s older (List.suffix_refl _)).2 x s' happens
        · obtain ⟨earlier, there, rfl⟩ := mem_seen after
          exact (promised l' earlier p (List.mem_append_right front
            (List.mem_cons_of_mem _ there))).mono (lasting l') (List.suffix_cons _ _)
  | @ends p r done l s past front back ended' =>
      have own := promised l past _ (List.mem_append_right front List.mem_cons_self)
      have others : ∀ {r}, r ∈ front ++ back → r ∈ front ++ (l, past, p) :: back := by
        intro r member
        rcases List.mem_append.mp member with before | after
        · exact List.mem_append_left _ before
        · exact List.mem_append_right _ (List.mem_cons_of_mem _ after)
      refine ⟨fun l' past' p member => present l' past' p (others member),
        fun l' past' p member => promised l' past' p (others member), ?_⟩
      intro l' past' r member
      rcases List.mem_cons.mp member with same | earlier
      · cases same
        exact own.ended done
      · exact ended l' past' r earlier

/-- Programs that come to right outcomes from whatever they meet do so by what they have seen, and
are allowed what they are about to do. -/
theorem Reaches.right {scene : Scene Op Res State Label ε α} (lasting : ∀ l, Lasting (post l))
    (correct : ∀ l past, Meets effect (allow l) (post l) (body l) past)
    (reached : Reaches effect body edits start scene) :
    (∀ l past o k, (l, past, .call o k) ∈ scene.running → allow l past o) ∧
      ∀ l past r, (l, past, r) ∈ scene.ended → post l past r := by
  have right : Right effect allow post scene := by
    induction reached with
    | refl => exact ⟨by simp [idle], by simp [idle], by simp [idle]⟩
    | tail before moves ih => exact ih.moves lasting correct moves
  refine ⟨?_, right.right⟩
  intro l past o k member
  obtain ⟨before, rfl⟩ := List.head?_eq_some_iff.mp (right.present l past _ member)
  exact (right.promised l _ _ member scene.shared before (List.suffix_refl _)).1

variable (body edits)

theorem moves_of_alone {p : Program Op Res ε α} {s s' : State} {r : Except ε α}
    (alone : Alone effect p s s' r) (l : Label) (past : List State)
    (ended : List (Label × List State × Except ε α)) :
    ∃ whole, Relation.ReflTransGen (Moves effect body edits) ⟨s, [(l, past, p)], ended⟩
      ⟨s', [], (l, whole, r) :: ended⟩ := by
  induction p generalizing s past with
  | pure a =>
      obtain ⟨rfl, rfl⟩ := alone
      exact ⟨past, .single (.ends (executes_pure.mpr ⟨rfl, rfl⟩) l s' past [] [] ended)⟩
  | throw e =>
      obtain ⟨rfl, rfl⟩ := alone
      exact ⟨past, .single (.ends (executes_throw.mpr ⟨rfl, rfl⟩) l s' past [] [] ended)⟩
  | call o k ih =>
      obtain ⟨x, m, happens, later⟩ := alone
      obtain ⟨whole, moves⟩ := ih x later (m :: past)
      exact ⟨whole, .head (.performs happens l past k [] [] ended) moves⟩

theorem reaches_of_alone {l : Label} {s' : State} {r : Except ε α}
    (alone : Alone effect (body l) start s' r) :
    ∃ whole, Reaches effect body edits start ⟨s', [], [(l, whole, r)]⟩ := by
  obtain ⟨whole, moves⟩ := moves_of_alone edits body alone l [start] []
  exact ⟨whole, .head (.starts l start [] []) moves⟩

end Rule

end Scene

end TrackerGateway.Foundation.Coroutine
