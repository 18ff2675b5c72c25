/- module: TrackerGateway/Foundation/Coroutine/Borrowing
   layer: library
   digest: Programs that borrow from a pool one thing at a time, and what a crew of them leaves. -/

import Mathlib.Algebra.GroupWithZero.Nat
import TrackerGateway.Foundation.Coroutine.Discipline
import TrackerGateway.Foundation.Coroutine.Interleaving

set_option autoImplicit false
set_option relaxedAutoImplicit false

namespace TrackerGateway.Foundation.Coroutine

variable {Op : Type} {Res : Op → Type} {Label ε α β : Type}

inductive Use
  | acquires
  | releases
  | needs
  | free
  deriving DecidableEq

/-- How operations use a pool, and which answers grant what was asked for. -/
structure Borrowing (Op : Type) (Res : Op → Type) where
  use : Op → Use
  granted : (o : Op) → Res o → Bool

namespace Borrowing

variable (b : Borrowing Op Res)

def after (held : Bool) (a : Sigma Res) : Bool :=
  match b.use a.1 with
  | .acquires => b.granted a.1 a.2
  | .releases => false
  | .needs | .free => held

/-- Whether a loan is open behind the past, newest first. -/
def holding : List (Sigma Res) → Bool
  | [] => false
  | a :: past => b.after (holding past) a

/-- Who has an open loan asks for no second one; who has none neither uses nor returns one. -/
def Fits (held : Bool) (o : Op) : Prop :=
  match b.use o with
  | .acquires => held = false
  | .releases | .needs => held = true
  | .free => True

def Rule (past : List (Sigma Res)) (o : Op) : Prop := b.Fits (b.holding past) o

/-- Every loan is granted to a program without one, used while it is open and returned. -/
def Tidy (p : Program Op Res ε α) : Prop := Keeps b.Rule (fun past => b.holding past = false) p

/-- The program uses the loan that is open, and leaves it open. -/
def Borrows (p : Program Op Res ε α) : Prop := Keeps b.Rule (fun past => b.holding past = true) p

/-- The program returns with a loan that was not open before, or raises without. -/
def Acquires (p : Program Op Res ε α) : Prop :=
  ∀ past, b.holding past = false →
    Guarded b.Rule (fun past' r => b.holding past' = r.isOk) p past

/-- The program closes the loan that is open. -/
def Releases (p : Program Op Res ε α) : Prop :=
  ∀ past, b.holding past = true → Guarded b.Rule (fun past' _ => b.holding past' = false) p past

def grants (trace : List (Sigma Res)) : Nat :=
  trace.countP fun a => b.use a.1 = .acquires ∧ b.granted a.1 a.2 = true

def returns (trace : List (Sigma Res)) : Nat := trace.countP fun a => b.use a.1 = .releases

variable {b}

theorem tidy_free {o : Op} (use : b.use o = .free) :
    b.Tidy (request o : Program Op Res ε (Res o)) := by
  intro past none_
  refine ⟨by simp [Rule, Fits, use], ?_⟩
  intro x
  simpa [Guarded, holding, after, use] using none_

theorem borrows_request {o : Op} (use : b.use o = .needs ∨ b.use o = .free) :
    b.Borrows (request o : Program Op Res ε (Res o)) := by
  intro past open_
  have stays : ∀ x, b.holding (⟨o, x⟩ :: past) = true := by
    intro x
    obtain use | use := use <;> simpa [holding, after, use] using open_
  refine ⟨?_, stays⟩
  obtain use | use := use <;> simp [Rule, Fits, use, open_]

/-- An acquisition, a body that uses the loan, and the return, also when the body raised. -/
def bracket (acquire release : Program Op Res ε Unit) (body : Program Op Res ε α) :
    Program Op Res ε α :=
  acquire.bind fun _ =>
    (body.rescue fun e => release.bind fun _ => .throw e).bind fun a =>
      release.bind fun _ => .pure a

section Pairs

variable {done : List (Sigma Res) → Except ε β → Prop} {p : Program Op Res ε Unit}
  {next : Unit → Program Op Res ε β} {past : List (Sigma Res)}

theorem Acquires.andThen (acquires : b.Acquires p) (none_ : b.holding past = false)
    (later : ∀ past', b.holding past' = true → Guarded b.Rule done (next ()) past')
    (failed : ∀ past' e, b.holding past' = false → done past' (.error e)) :
    Guarded b.Rule done (p.bind next) past := by
  rw [guarded_bind]
  refine guarded_mono (fun _ _ allow => allow) ?_ (acquires past none_)
  intro past' r held
  cases r with
  | ok value => exact later past' held
  | error e => exact failed past' e held

theorem Releases.andThen (releases : b.Releases p) (open_ : b.holding past = true)
    (later : ∀ past', b.holding past' = false → Guarded b.Rule done (next ()) past')
    (failed : ∀ past' e, b.holding past' = false → done past' (.error e)) :
    Guarded b.Rule done (p.bind next) past := by
  rw [guarded_bind]
  refine guarded_mono (fun _ _ allow => allow) ?_ (releases past open_)
  intro past' r closed
  cases r with
  | ok value => exact later past' closed
  | error e => exact failed past' e closed

end Pairs

/-- The body of a bracket uses the loan of the bracket, and all that was borrowed is returned. -/
theorem tidy_bracket {acquire release : Program Op Res ε Unit} {body : Program Op Res ε α}
    (acquires : b.Acquires acquire) (releases : b.Releases release) (borrows : b.Borrows body) :
    b.Tidy (bracket acquire release body) := by
  intro past none_
  refine acquires.andThen none_ ?_ fun _ _ none_ => none_
  intro past' open_
  rw [guarded_bind, guarded_rescue]
  apply borrows.guarded open_
  intro past'' r held
  cases r with
  | ok a => exact releases.andThen held (fun _ none_ => none_) fun _ _ none_ => none_
  | error e => exact releases.andThen held (fun _ none_ => none_) fun _ _ none_ => none_

section Account

/-- The loans granted and returned in a run make up what is open behind it. -/
theorem balance {past trace : List (Sigma Res)}
    (fits : ∀ front a back, trace = front ++ a :: back → b.Rule (front.reverse ++ past) a.1) :
    b.grants trace + (b.holding past).toNat =
      b.returns trace + (b.holding (trace.reverse ++ past)).toNat := by
  induction trace generalizing past with
  | nil => simp [grants, returns]
  | cons a trace ih =>
      have first := fits [] a trace rfl
      have rest := @ih (a :: past) fun front a' back whole => by
        simpa using fits (a :: front) a' back (congrArg (a :: ·) whole)
      rw [List.reverse_cons, List.append_assoc, List.singleton_append, returns, List.countP_cons,
        ← returns, grants, List.countP_cons, ← grants]
      -- The first operation changes one of the counts exactly if it changes the open loan.
      cases use : b.use a.1 <;> simp [Rule, Fits, use] at first <;>
        simp [holding, after, use, first] at rest ⊢
      · cases answer : b.granted a.1 a.2 <;> simp [answer] at rest ⊢ <;> omega
      · omega
      · omega
      · omega

theorem Tidy.executes {p : Program Op Res ε α} (tidy : b.Tidy p) {trace : List (Sigma Res)}
    {outcome : Except ε α} (ran : Executes p trace outcome) :
    (∀ front a back, trace = front ++ a :: back → b.Rule front.reverse a.1) ∧
      b.grants trace = b.returns trace := by
  obtain ⟨fits, closed⟩ := (tidy [] rfl).executes ran
  refine ⟨by simpa using fits, ?_⟩
  have balanced := balance fits
  rw [closed] at balanced
  simpa [holding] using balanced

end Account

/-- A pool that lends up to a number of things: what an operation makes of the number lent. -/
def Lends (b : Borrowing Op Res) (size lent : Nat) (a : Sigma Res) (lent' : Nat) : Prop :=
  match b.use a.1 with
  | .acquires =>
      if b.granted a.1 a.2 then lent < size ∧ lent' = lent + 1 else lent' = lent
  | .releases => lent' = lent - 1
  | .needs | .free => lent' = lent

theorem Lends.count {size lent lent' : Nat} {held : Bool} {a : Sigma Res}
    (happens : b.Lends size lent a lent') (fits : b.Fits held a.1) (own : held.toNat ≤ lent)
    (capped : lent ≤ size) :
    lent' + held.toNat = lent + (b.after held a).toNat ∧ lent' ≤ size := by
  cases use : b.use a.1 <;> simp only [Lends, use] at happens <;>
    simp only [Fits, use] at fits <;> simp only [after, use]
  · rw [fits]
    cases answer : b.granted a.1 a.2 <;> simp [answer] at happens ⊢ <;> omega
  · rw [fits] at own ⊢
    simp only [Bool.toNat_true, Bool.toNat_false] at own ⊢
    omega
  · omega
  · omega

def Orderly (b : Borrowing Op Res) (held : Bool) (p : Program Op Res ε α) : Prop :=
  ∃ past, b.holding past = held ∧
    Guarded b.Rule (fun past' _ => b.holding past' = false) p past

theorem Tidy.orderly {p : Program Op Res ε α} (tidy : b.Tidy p) : b.Orderly false p :=
  ⟨[], rfl, tidy [] rfl⟩

theorem Orderly.fits {held : Bool} {o : Op} {k : Res o → Program Op Res ε α}
    (orderly : b.Orderly held (.call o k)) : b.Fits held o := by
  obtain ⟨past, rfl, allowed, later⟩ := orderly
  exact allowed

theorem Orderly.resume {held : Bool} {o : Op} {k : Res o → Program Op Res ε α}
    (orderly : b.Orderly held (.call o k)) (x : Res o) :
    b.Orderly (b.after held ⟨o, x⟩) (k x) := by
  obtain ⟨past, rfl, allowed, later⟩ := orderly
  exact ⟨⟨o, x⟩ :: past, rfl, later x⟩

theorem Orderly.ended {held : Bool} {p : Program Op Res ε α} {r : Except ε α}
    (orderly : b.Orderly held p) (done : Executes p [] r) : held = false := by
  obtain ⟨past, rfl, guarded⟩ := orderly
  exact (guarded.executes done).2

/-- What is lent is with programs under way, one thing with each at most. -/
structure Accounted (b : Borrowing Op Res) (size : Nat)
    (crew : Crew Op Res Nat Label ε α) (tagged : List (Bool × Label × Program Op Res ε α)) :
    Prop where
  members : tagged.map Prod.snd = crew.running
  orderly : ∀ t ∈ tagged, b.Orderly t.1 t.2.2
  lent : crew.shared = tagged.countP Prod.fst
  capped : crew.shared ≤ size

section Crews

variable {size : Nat} {body : Label → Program Op Res ε α} {crew crew' : Crew Op Res Nat Label ε α}

theorem Accounted.turn {tagged : List (Bool × Label × Program Op Res ε α)}
    (tidy : ∀ l, b.Tidy (body l)) (accounted : Accounted b size crew tagged)
    (turn : Turn (b.Lends size) body crew crew') : ∃ tagged', Accounted b size crew' tagged' := by
  obtain ⟨members, orderly, lent, capped⟩ := accounted
  cases turn with
  | starts l s running ended =>
      refine ⟨(false, l, body l) :: tagged, by simp [members], ?_, by simpa using lent, capped⟩
      intro t member
      rcases List.mem_cons.mp member with rfl | earlier
      · exact (tidy l).orderly
      · exact orderly t earlier
  | @performs s s' o x happens l k front back ended =>
      obtain ⟨tf, tb, rfl, rfl, whole⟩ := List.map_eq_append_iff.mp members
      obtain ⟨⟨held, t⟩, tb, rfl, same, rfl⟩ := List.map_eq_cons_iff.mp whole
      obtain rfl : t = (l, .call o k) := same
      have own : b.Orderly held (.call o k) :=
        orderly _ (List.mem_append_right tf List.mem_cons_self)
      have counts : ∀ loan p, (tf ++ (loan, l, p) :: tb).countP Prod.fst =
          tf.countP Prod.fst + tb.countP Prod.fst + loan.toNat := by
        intro loan p
        cases loan <;> simp [Nat.add_assoc]
      replace lent : s = _ := lent.trans (counts held _)
      obtain ⟨count, capped'⟩ := happens.count own.fits (by omega) capped
      refine ⟨tf ++ (b.after held ⟨o, x⟩, l, k x) :: tb, by simp, ?_, ?_, capped'⟩
      · intro t member
        rcases List.mem_append.mp member with before | behind
        · exact orderly t (List.mem_append_left _ before)
        rcases List.mem_cons.mp behind with rfl | after
        · exact own.resume x
        · exact orderly t (List.mem_append_right _ (List.mem_cons_of_mem _ after))
      · rw [counts]
        change s' = _
        omega
  | ends done l s front back ended =>
      obtain ⟨tf, tb, rfl, rfl, whole⟩ := List.map_eq_append_iff.mp members
      obtain ⟨⟨held, t⟩, tb, rfl, same, rfl⟩ := List.map_eq_cons_iff.mp whole
      obtain rfl : t = (l, _) := same
      have own := orderly _ (List.mem_append_right tf List.mem_cons_self)
      obtain rfl : held = false := own.ended done
      refine ⟨tf ++ tb, by simp, ?_, by simpa using lent, capped⟩
      intro t member
      rcases List.mem_append.mp member with before | after
      · exact orderly t (List.mem_append_left _ before)
      · exact orderly t (List.mem_append_right _ (List.mem_cons_of_mem _ after))

/-- Tidy programs are accounted for in every order of their turns. -/
theorem accounted (tidy : ∀ l, b.Tidy (body l)) (reached : Reaches (b.Lends size) body 0 crew) :
    ∃ tagged, Accounted b size crew tagged := by
  induction reached with
  | refl => exact ⟨[], rfl, by simp, rfl, Nat.zero_le size⟩
  | tail before turn ih =>
      obtain ⟨tagged, accounted⟩ := ih
      exact accounted.turn tidy turn

theorem Accounted.shared_le {tagged : List (Bool × Label × Program Op Res ε α)}
    (accounted : Accounted b size crew tagged) : crew.shared ≤ crew.running.length := by
  rw [accounted.lent, ← accounted.members, List.length_map]
  exact List.countP_le_length

def Waits (b : Borrowing Op Res) (p : Program Op Res ε α) : Prop :=
  ∃ o k, p = .call o k ∧ b.use o = .acquires

theorem Accounted.waiting {tagged : List (Bool × Label × Program Op Res ε α)}
    (accounted : Accounted b size crew tagged)
    (waiting : ∀ m ∈ crew.running, b.Waits m.2) : crew.shared = 0 := by
  rw [accounted.lent, List.countP_eq_zero]
  rintro ⟨held, l, p⟩ member
  have running : (l, p) ∈ crew.running :=
    accounted.members ▸ List.mem_map_of_mem (f := Prod.snd) member
  obtain ⟨o, k, same, use⟩ := waiting _ running
  obtain rfl : p = .call o k := same
  have fits := (accounted.orderly _ member).fits
  simpa [Fits, use] using fits

/-- How far a program is from its end, if every operation gets the answer of a table. -/
def remaining (answers : (o : Op) → Res o) (p : Program Op Res ε α) : Nat :=
  (play answers p).1.length + 1

def distance (answers : (o : Op) → Res o) (crew : Crew Op Res Nat Label ε α) : Nat :=
  (crew.running.map fun m => remaining answers m.2).sum

variable {answers : (o : Op) → Res o}

theorem lends_exists {lent : Nat} {o : Op}
    (possible : b.use o = .acquires → b.granted o (answers o) = true ∧ lent < size) :
    ∃ lent', b.Lends size lent ⟨o, answers o⟩ lent' := by
  cases use : b.use o <;> simp only [Lends, use]
  · obtain ⟨granted, free⟩ := possible use
    exact ⟨lent + 1, by simp [granted, free]⟩
  all_goals exact ⟨_, rfl⟩

def labels (crew : Crew Op Res Nat Label ε α) : List Label :=
  crew.running.map Prod.fst ++ crew.ended.map Prod.fst

/-- Some program under way can have a turn that brings it closer to its end. -/
theorem Accounted.progress {tagged : List (Bool × Label × Program Op Res ε α)}
    (some_ : 0 < size) (grants : ∀ o, b.use o = .acquires → b.granted o (answers o) = true)
    (accounted : Accounted b size crew tagged) (busy : crew.running ≠ []) :
    ∃ crew', Turn (b.Lends size) body crew crew' ∧
      distance answers crew' < distance answers crew ∧
      (labels crew').Perm (labels crew) := by
  have idle := accounted.waiting
  obtain ⟨lent, running, ended⟩ := crew
  have performs : ∀ l o k front back, running = front ++ (l, .call o k) :: back →
      (b.use o = .acquires → lent < size) → ∃ crew', Turn (b.Lends size) body
        ⟨lent, running, ended⟩ crew' ∧ distance answers crew' <
          distance answers ⟨lent, running, ended⟩ ∧
        (labels crew').Perm (labels ⟨lent, running, ended⟩) := by
    rintro l o k front back rfl free
    have possible : ∃ lent', b.Lends size lent ⟨o, answers o⟩ lent' :=
      lends_exists fun use => ⟨grants o use, free use⟩
    obtain ⟨lent', happens⟩ := possible
    refine ⟨_, .performs happens l k front back ended, ?_, ?_⟩
    · have shorter : (play answers (Program.call o k)).1.length =
          (play answers (k (answers o))).1.length + 1 := rfl
      simp [distance, remaining, shorter]
    · simp [labels]
  by_cases waiting : ∀ m ∈ running, b.Waits m.2
  · obtain ⟨⟨l, p⟩, back, rfl⟩ := List.exists_cons_of_ne_nil busy
    obtain ⟨o, k, same, use⟩ := waiting _ List.mem_cons_self
    obtain rfl : p = .call o k := same
    obtain rfl : lent = 0 := idle waiting
    exact performs l o k [] back rfl fun _ => some_
  · simp only [not_forall] at waiting
    obtain ⟨⟨l, p⟩, member, moving⟩ := waiting
    obtain ⟨front, back, rfl⟩ := List.append_of_mem member
    cases p with
    | call o k =>
        exact performs l o k front back rfl fun use => absurd ⟨o, k, rfl, use⟩ moving
    | pure a =>
        refine ⟨_, .ends (executes_pure.mpr ⟨rfl, rfl⟩) l lent front back ended, ?_, ?_⟩
        · simp [distance, remaining]
        · simpa [labels] using List.perm_middle.append_left _
    | throw e =>
        refine ⟨_, .ends (executes_throw.mpr ⟨rfl, rfl⟩) l lent front back ended, ?_, ?_⟩
        · simp [distance, remaining]
        · simpa [labels] using List.perm_middle.append_left _

/-- From every crew the programs under way can all come to their end, with nothing left lent. -/
theorem Accounted.drains {tagged : List (Bool × Label × Program Op Res ε α)}
    (tidy : ∀ l, b.Tidy (body l)) (some_ : 0 < size)
    (grants : ∀ o, b.use o = .acquires → b.granted o (answers o) = true)
    (accounted : Accounted b size crew tagged) :
    ∃ ended, Relation.ReflTransGen (Turn (b.Lends size) body) crew ⟨0, [], ended⟩ ∧
      (ended.map Prod.fst).Perm (labels crew) := by
  induction left : distance answers crew using Nat.strongRecOn
    generalizing crew tagged with
  | ind n ih =>
      by_cases busy : crew.running = []
      · have few := accounted.shared_le
        obtain ⟨lent, running, ended⟩ := crew
        obtain rfl : running = [] := busy
        obtain rfl : lent = 0 := Nat.le_zero.mp few
        exact ⟨ended, .refl, by simp [labels]⟩
      · have moved : ∃ crew', Turn (b.Lends size) body crew crew' ∧
            distance answers crew' < distance answers crew ∧ (labels crew').Perm (labels crew) :=
          accounted.progress some_ grants busy
        obtain ⟨crew', turn, closer, same⟩ := moved
        obtain ⟨tagged', accounted'⟩ := accounted.turn tidy turn
        obtain ⟨ended, turns, all⟩ := ih _ (left ▸ closer) accounted' rfl
        exact ⟨ended, .head turn turns, all.trans same⟩

end Crews

end Borrowing

end TrackerGateway.Foundation.Coroutine
