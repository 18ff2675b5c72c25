/- module: TrackerGateway/Delivery/Accounts
   source: src/tcp_server.py
   digest: What is seen of the operations of a connection adds up frame by frame, in every run. -/

import TrackerGateway.Foundation.Coroutine.Plans
import TrackerGateway.Framing.Intake
import TrackerGateway.Server.Sessions

set_option autoImplicit false
set_option relaxedAutoImplicit false

namespace TrackerGateway.Delivery

open Foundation.Coroutine
open Foundation.Transition (Reachable Throughout run run_append)
open Foundation.Wire (Text Bytes)
open TrackerGateway.Runtime
open Framing (handed handed_began handed_cons_none begun)
open Server
open Server.Sessions

variable {γ : Type}

def sight (visible : Op → Option γ) (c : Conn) : Event → Option γ
  | .performed c' a => if c' = c then visible a.1 else none
  | _ => none

/-- What is seen of a connection, oldest first. -/
def deeds (visible : Op → Option γ) (c : Conn) (h : List Event) : List γ :=
  (h.filterMap (sight visible c)).reverse

section Histories

variable {visible : Op → Option γ} {c : Conn} {h : List Event}

theorem deeds_cons (e : Event) (h : List Event) :
    deeds visible c (e :: h) = deeds visible c h ++ (sight visible c e).toList := by
  rw [deeds, List.filterMap_cons]
  cases sight visible c e with
  | none => exact (List.append_nil _).symm
  | some seen => exact List.reverse_cons

theorem deeds_performed (a : Answered) (h : List Event) :
    deeds visible c (.performed c a :: h) = deeds visible c h ++ (visible a.1).toList := by
  rw [deeds_cons, sight, if_pos rfl]

theorem deeds_apart {e : Event} (apart : e.Apart c) :
    deeds visible c (e :: h) = deeds visible c h := by
  have unseen : sight visible c e = none := by
    cases e with
    | performed c' a =>
        have distinct : c' ≠ c := by
          rintro rfl
          exact apart.performed a rfl
        exact if_neg distinct
    | _ => rfl
  rw [deeds_cons, unseen]
  exact List.append_nil _

theorem deeds_began (raw : Bytes) (h : List Event) :
    deeds visible c (.began c raw :: h) = deeds visible c h := by
  rw [deeds_cons]
  exact List.append_nil _

theorem handed_apart {e : Event} (apart : e.Apart c) : handed c (e :: h) = handed c h := by
  cases e with
  | began c' raw =>
      have distinct : c' ≠ c := by
        rintro rfl
        exact apart.began raw rfl
      exact handed_cons_none (by simp [begun, distinct]) h
  | _ => exact handed_cons_none rfl h

theorem handed_suffix {whole : List Event} (suffix : h <:+ whole) :
    handed c h <+: handed c whole := by
  obtain ⟨later, rfl⟩ := suffix
  rw [handed, handed, List.filterMap_append, List.reverse_append]
  exact List.prefix_append _ _

theorem mem_deeds {seen : γ} : seen ∈ deeds visible c h ↔
    ∃ a, .performed c a ∈ h ∧ visible a.1 = some seen := by
  rw [deeds, List.mem_reverse, List.mem_filterMap]
  constructor
  · rintro ⟨e, member, shows_⟩
    cases e with
    | performed c' a =>
        rw [sight] at shows_
        split at shows_
        · next here =>
            subst here
            exact ⟨a, member, shows_⟩
        · cases shows_
    | _ => cases shows_
  · rintro ⟨a, member, is⟩
    exact ⟨_, member, (if_pos rfl).trans is⟩

end Histories

section Plans

variable (visible : Op → Option γ) (assumed : Bytes → Answered → Prop) (plan : Bytes → List γ)
  (Known : Family → Bytes → Prop)

/-- A handler keeps to what its frame leads to, as long as its answers are as assumed. -/
def KeepsTo (family : Family) (raw : Bytes) (past : List Answered) (o : Op) : Prop :=
  Known family raw → (∀ a ∈ past, assumed raw a) →
    attempted visible past.reverse ++ (visible o).toList <+: plan raw

def HasDone (family : Family) (raw : Bytes) (past : List Answered)
    (_ : Except Exn (Option Text)) : Prop :=
  Known family raw → (∀ a ∈ past, assumed raw a) → attempted visible past.reverse = plan raw

/-- In the middle of a frame: the frames before it have come to what they lead to, and it has come
to a part of it. -/
structure Underway (c : Conn) (h : List Event) (raw : Bytes) : Prop where
  current : frame c h = some raw
  last : ∃ before, handed c h = before ++ [raw] ∧
    deeds visible c h = before.flatMap plan ++ attempted visible (ownTrace c h).reverse
  part : attempted visible (ownTrace c h).reverse <+: plan raw
  answered : ∀ a ∈ ownTrace c h, assumed raw a

def Accounted (c : Conn) (h : List Event) : Stage → Prop
  | .inside _ raw => Underway visible assumed plan c h raw
  | _ => deeds visible c h = (handed c h).flatMap plan

end Plans

section Advances

variable {cfg : Config} {c : Conn} {stage stage' : Stage} {raw : Bytes} {a : Answered} {e : Event}

theorem advance_began (moves : advance cfg stage (.began c raw) = some stage') :
    ∃ protocol, stage = .speaking protocol ∧ stage' = .inside protocol raw := by
  cases stage with
  | speaking protocol =>
      cases moves
      exact ⟨protocol, rfl, rfl⟩
  | _ => cases moves

theorem advance_performed (moves : advance cfg stage (.performed c a) = some stage') :
    ∃ protocol raw, stage = .inside protocol raw ∧ stage' = .inside protocol raw := by
  cases stage with
  | inside protocol raw =>
      cases moves
      exact ⟨protocol, raw, rfl, rfl⟩
  | _ => cases moves

theorem advance_apart (apart : e.Apart c) (own : Event.lives e = some c)
    (moves : advance cfg stage e = some stage') (protocol : Family) (raw : Bytes) :
    stage' ≠ .inside protocol raw := by
  rintro rfl
  unfold advance at moves
  split at moves <;> (try split at moves) <;> cases moves
  · next c' =>
    obtain rfl : c' = c := Option.some.inj own
    exact apart.began raw rfl
  · next c' a =>
    obtain rfl : c' = c := Option.some.inj own
    exact apart.performed a rfl

theorem advance_inside (apart : e.Apart c) (own : Event.lives e = some c) {protocol : Family}
    (moves : advance cfg (.inside protocol raw) e = some stage') :
    ∃ outcome, e = .returned c outcome := by
  cases e with
  | returned c' outcome =>
      obtain rfl : c' = c := Option.some.inj own
      exact ⟨outcome, rfl⟩
  | performed c' a =>
      obtain rfl : c' = c := Option.some.inj own
      exact absurd rfl (apart.performed a)
  | offlined c' imei deviceId outcome =>
      cases outcome <;> cases moves
  | _ => cases moves

end Advances

section Runs

variable {visible : Op → Option γ} {assumed : Bytes → Answered → Prop} {plan : Bytes → List γ}
  {Known : Family → Bytes → Prop} {cfg : Config} {c : Conn} {h whole : List Event} {stage : Stage}

theorem accounted_settled (settled : deeds visible c h = (handed c h).flatMap plan)
    (outside : ∀ protocol raw, stage ≠ .inside protocol raw) :
    Accounted visible assumed plan c h stage := by
  cases stage with
  | inside protocol raw => exact absurd rfl (outside protocol raw)
  | _ => exact settled

theorem Accounted.settled (accounted : Accounted visible assumed plan c h stage)
    (outside : ∀ protocol raw, stage ≠ .inside protocol raw) :
    deeds visible c h = (handed c h).flatMap plan := by
  cases stage with
  | inside protocol raw => exact absurd rfl (outside protocol raw)
  | _ => exact accounted

/-- In the middle of a frame too nothing else has been seen than what the frames lead to. -/
theorem Underway.begins {frames : List Bytes} {raw : Bytes}
    (underway : Underway visible assumed plan c h raw) (part : handed c h <+: frames) :
    deeds visible c h <+: frames.flatMap plan := by
  obtain ⟨-, ⟨before, handed_, seen⟩, begun_, -⟩ := underway
  obtain ⟨more, all⟩ := begun_
  obtain ⟨rest, rfl⟩ := part
  refine ⟨more ++ rest.flatMap plan, ?_⟩
  rw [seen, handed_, List.flatMap_append, List.flatMap_append, List.flatMap_singleton, ← all]
  simp only [List.append_assoc]

theorem Accounted.begins {frames : List Bytes}
    (accounted : Accounted visible assumed plan c h stage) (part : handed c h <+: frames) :
    deeds visible c h <+: frames.flatMap plan := by
  cases stage with
  | inside protocol raw => exact Underway.begins accounted part
  | _ =>
      rw [accounted.settled (by simp)]
      obtain ⟨rest, rfl⟩ := part
      rw [List.flatMap_append]
      exact List.prefix_append _ _

theorem Accounted.apart {e : Event} (accounted : Accounted visible assumed plan c h stage)
    (apart : e.Apart c) : Accounted visible assumed plan c (e :: h) stage := by
  cases stage with
  | inside protocol raw =>
      obtain ⟨current, last, part, answered⟩ := accounted
      refine ⟨?_, ?_, ?_, ?_⟩
      · rw [apart.frame_cons, current]
      · rwa [handed_apart apart, deeds_apart apart, apart.ownTrace_cons]
      · rwa [apart.ownTrace_cons]
      · rwa [apart.ownTrace_cons]
  | _ =>
      refine accounted_settled ?_ (by simp)
      rw [handed_apart apart, deeds_apart apart]
      exact accounted

/-- Every event keeps the account: a frame begins behind frames that are over, its operations are
what it leads to, and when its handler is over all of it has been seen. -/
theorem accounted (suffix : h <:+ whole)
    (obeys : Throughout (Obeys (KeepsTo visible assumed plan Known)
      (HasDone visible assumed plan Known)) h)
    (known : ∀ family raw, .detected c family ∈ whole → raw ∈ handed c whole → Known family raw)
    (answers : ∀ a earlier raw, .performed c a :: earlier <:+ whole →
      Underway visible assumed plan c earlier raw → assumed raw a)
    (follows : run (advance cfg) .unseen (word c h) = some stage) :
    Accounted visible assumed plan c h stage := by
  induction h generalizing stage with
  | nil =>
      cases follows
      exact rfl
  | cons e h ih =>
      obtain ⟨obeyed, before⟩ := obeys
      have earlier : h <:+ whole := (List.suffix_cons e h).trans suffix
      have within : ∀ raw ∈ handed c h, raw ∈ handed c whole :=
        fun raw member => (handed_suffix earlier).subset member
      by_cases own : Event.lives e = some c
      · rw [word_own own, run_append] at follows
        obtain ⟨stage₀, ran, last⟩ := Option.bind_eq_some_iff.mp follows
        have moves : advance cfg stage₀ e = some stage := by
          simpa [run] using last
        have account := ih earlier before ran
        obtain ⟨raw, rfl⟩ | ⟨a, rfl⟩ | apart := e.own_cases c
        · obtain ⟨protocol, rfl, rfl⟩ := advance_began moves
          have settled : deeds visible c h = (handed c h).flatMap plan := account
          refine ⟨frame_began c raw h, ⟨handed c h, handed_began raw h, ?_⟩, ?_, ?_⟩
          · rw [deeds_began, ownTrace_began, settled]
            exact (List.append_nil _).symm
          · rw [ownTrace_began]
            exact List.nil_prefix
          · simp
        · obtain ⟨protocol, raw, rfl, rfl⟩ := advance_performed moves
          have underway : Underway visible assumed plan c h raw := account
          obtain ⟨current, ⟨front, handed_, seen⟩, part, answered⟩ := underway
          obtain ⟨family, raw', detected, current', allowed⟩ := obeyed
          obtain rfl : raw' = raw := Option.some.inj (current'.symm.trans current)
          have named : Known family raw' := known family raw' (earlier.subset detected)
            (within raw' (by rw [handed_]; simp))
          have grown : attempted visible (ownTrace c (.performed c a :: h)).reverse =
              attempted visible (ownTrace c h).reverse ++ (visible a.1).toList := by
            rw [ownTrace_performed, List.reverse_cons, attempted_append]
            refine congrArg _ ?_
            rw [attempted, List.filterMap_cons]
            cases visible a.1 <;> rfl
          refine ⟨current, ⟨front, ?_, ?_⟩, ?_, ?_⟩
          · rw [handed_cons_none rfl, handed_]
          · rw [deeds_performed, grown, seen, List.append_assoc]
          · rw [grown]
            exact allowed named answered
          · rw [ownTrace_performed]
            intro x member
            rcases List.mem_cons.mp member with rfl | old
            · exact answers x h raw' suffix ⟨current, ⟨front, handed_, seen⟩, part, answered⟩
            · exact answered x old
        · refine accounted_settled ?_ (advance_apart apart own moves)
          rw [deeds_apart apart, handed_apart apart]
          cases stage₀ with
          | inside protocol raw =>
              obtain ⟨outcome, rfl⟩ := advance_inside apart own moves
              obtain ⟨current, ⟨front, handed_, seen⟩, part, answered⟩ :=
                (account : Underway visible assumed plan c h raw)
              obtain ⟨family, raw', detected, current', done_⟩ := obeyed
              obtain rfl : raw' = raw := Option.some.inj (current'.symm.trans current)
              have named : Known family raw' := known family raw' (earlier.subset detected)
                (within raw' (by rw [handed_]; simp))
              rw [seen, handed_, done_ named answered, List.flatMap_append,
                List.flatMap_singleton]
          | _ => exact account
      · rw [word_other own] at follows
        have apart : e.Apart c := by
          refine ⟨?_, ?_⟩
          · rintro raw rfl
            exact own rfl
          · rintro a rfl
            exact own rfl
        exact (ih earlier before follows).apart apart

/-- What is seen of a connection in a run: all of what its frames lead to, of the last one perhaps
only a part, as long as its answers are as assumed. -/
theorem seen_of_plans {pipes : Family → Pipeline} {g : Gateway} (answered : (o : Op) → Res o)
    (reached : Reachable (Gateway.step cfg pipes) (fun _ _ => True) .start g)
    (plans : ∀ family ip raw, Known family raw →
      Attempts (assumed raw) visible ((pipes family).handler ip raw) (plan raw))
    (fits : ∀ family raw, Known family raw → ∀ o, assumed raw ⟨o, answered o⟩)
    (known : ∀ family raw, .detected c family ∈ g.history → raw ∈ handed c g.history →
      Known family raw)
    (answers : ∀ a earlier raw, .performed c a :: earlier <:+ g.history →
      Underway visible assumed plan c earlier raw → assumed raw a) :
    ∃ stage, Accounted visible assumed plan c g.history stage ∧
      Shows stage (g.tasks c).phase := by
  have kept : ∀ family ip raw, Guarded (KeepsTo visible assumed plan Known family raw)
      (HasDone visible assumed plan Known family raw) ((pipes family).handler ip raw) [] := by
    intro family ip raw
    by_cases named : Known family raw
    · exact guarded_mono (fun _ _ allow _ => allow) (fun _ _ finish _ => finish)
        ((plans family ip raw named).guarded (fits family raw named))
    · exact guarded_mono (fun _ _ _ known => absurd known named)
        (fun _ _ _ known => absurd known named) (guarded_trace _ [])
  obtain ⟨stage, follows, shows_⟩ := followed reached c
  exact ⟨stage, accounted List.suffix_rfl (overseen kept reached).obeys known answers follows,
    shows_⟩

end Runs

end TrackerGateway.Delivery
