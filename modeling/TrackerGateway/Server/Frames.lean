/- module: TrackerGateway/Server/Frames
   source: src/tcp_server.py
   digest: The history of a connection frame by frame, and rules its handlers keep in every run. -/

import TrackerGateway.Foundation.Coroutine.Discipline
import TrackerGateway.Foundation.Transition.Log
import TrackerGateway.Server.History

set_option autoImplicit false
set_option relaxedAutoImplicit false

namespace TrackerGateway.Server

open Foundation.Coroutine
open Foundation.Transition (Reachable Throughout)
open Foundation.Wire (Text Bytes Instant)
open TrackerGateway.Runtime
open Services (Registry)

/-- The frame that was begun last. -/
def frame (c : Conn) : List Event → Option Bytes
  | [] => none
  | .began c' raw :: h => if c' = c then some raw else frame c h
  | _ :: h => frame c h

/-- The history before that frame was begun. -/
def atBegin (c : Conn) : List Event → List Event
  | [] => []
  | .began c' _ :: h => if c' = c then h else atBegin c h
  | _ :: h => atBegin c h

/-- The answered operations since that frame was begun. -/
def ownTrace (c : Conn) : List Event → List Answered
  | [] => []
  | .began c' _ :: h => if c' = c then [] else ownTrace c h
  | .performed c' a :: h => if c' = c then a :: ownTrace c h else ownTrace c h
  | _ :: h => ownTrace c h

def Event.concerns : Event → Option Conn
  | .detected c _ | .began c _ | .performed c _ => some c
  | _ => none

/-- An event that neither begins a frame of the connection nor is an operation for one. -/
structure Event.Apart (c : Conn) (e : Event) : Prop where
  began : ∀ raw, e ≠ .began c raw
  performed : ∀ a, e ≠ .performed c a

section Apart

variable {c : Conn} {e : Event}

theorem Event.apart_of_concerns_ne (other : e.concerns ≠ some c) : e.Apart c where
  began := by
    rintro raw rfl
    exact other rfl
  performed := by
    rintro a rfl
    exact other rfl

/-- Seen from a connection, an event begins a frame, is an operation, or is apart. -/
theorem Event.own_cases (c : Conn) (e : Event) :
    (∃ raw, e = .began c raw) ∨ (∃ a, e = .performed c a) ∨ e.Apart c := by
  by_cases began : ∃ raw, e = .began c raw
  · exact .inl began
  · by_cases performed : ∃ a, e = .performed c a
    · exact .inr (.inl performed)
    · exact .inr (.inr ⟨not_exists.mp began, not_exists.mp performed⟩)

variable (apart : e.Apart c) (h : List Event)

include apart

theorem Event.Apart.frame_cons : frame c (e :: h) = frame c h := by
  cases e with
  | began c' raw =>
      have distinct : c' ≠ c := by
        rintro rfl
        exact apart.began raw rfl
      exact if_neg distinct
  | _ => rfl

theorem Event.Apart.atBegin_cons : atBegin c (e :: h) = atBegin c h := by
  cases e with
  | began c' raw =>
      have distinct : c' ≠ c := by
        rintro rfl
        exact apart.began raw rfl
      exact if_neg distinct
  | _ => rfl

theorem Event.Apart.ownTrace_cons : ownTrace c (e :: h) = ownTrace c h := by
  cases e with
  | began c' raw =>
      have distinct : c' ≠ c := by
        rintro rfl
        exact apart.began raw rfl
      exact if_neg distinct
  | performed c' a =>
      have distinct : c' ≠ c := by
        rintro rfl
        exact apart.performed a rfl
      exact if_neg distinct
  | _ => rfl

end Apart

theorem Event.Apart.registrant_cons {c : Conn} {e : Event} {h : List Event} {imei deviceId : Text}
    (apart : e.Apart c) (holds : registrant imei (e :: h) = some (c, deviceId)) :
    registrant imei h = some (c, deviceId) := by
  cases is : e.registration with
  | none => rwa [registrant_cons_none is] at holds
  | some registered =>
      obtain ⟨c', i, d⟩ := registered
      rw [registrant_cons_some is] at holds
      split at holds
      · cases holds
        obtain ⟨ip, protocol, connectedAt, lastSeen, rfl⟩ := Event.eq_of_registration is
        exact absurd rfl (apart.performed _)
      · exact holds

@[simp] theorem frame_began (c : Conn) (raw : Bytes) (h : List Event) :
    frame c (.began c raw :: h) = some raw := if_pos rfl

@[simp] theorem atBegin_began (c : Conn) (raw : Bytes) (h : List Event) :
    atBegin c (.began c raw :: h) = h := if_pos rfl

@[simp] theorem ownTrace_began (c : Conn) (raw : Bytes) (h : List Event) :
    ownTrace c (.began c raw :: h) = [] := if_pos rfl

@[simp] theorem frame_performed (c c' : Conn) (a : Answered) (h : List Event) :
    frame c (.performed c' a :: h) = frame c h := rfl

@[simp] theorem ownTrace_performed (c : Conn) (a : Answered) (h : List Event) :
    ownTrace c (.performed c a :: h) = a :: ownTrace c h := if_pos rfl

theorem atBegin_suffix (c : Conn) (h : List Event) : atBegin c h <:+ h := by
  induction h with
  | nil => exact List.suffix_rfl
  | cons e h ih =>
      have deeper : atBegin c h <:+ e :: h := ih.trans (List.suffix_cons e h)
      cases e with
      | began c' raw =>
          rw [atBegin]
          split
          · exact List.suffix_cons _ h
          · exact deeper
      | _ => exact deeper

theorem mem_of_mem_ownTrace {c : Conn} {a : Answered} {h : List Event} (member : a ∈ ownTrace c h) :
    .performed c a ∈ h := by
  induction h with
  | nil => cases member
  | cons e h ih =>
      obtain ⟨raw, rfl⟩ | ⟨a', rfl⟩ | apart := e.own_cases c
      · rw [ownTrace_began] at member
        cases member
      · rw [ownTrace_performed] at member
        rcases List.mem_cons.mp member with rfl | earlier
        · exact List.mem_cons_self
        · exact List.mem_cons_of_mem _ (ih earlier)
      · rw [apart.ownTrace_cons] at member
        exact List.mem_cons_of_mem _ (ih member)

theorem split_ownTrace {c : Conn} {h : List Event} {after before : List Answered} {a : Answered}
    (trace : ownTrace c h = after ++ a :: before) :
    ∃ later earlier, h = later ++ .performed c a :: earlier ∧ ownTrace c earlier = before ∧
      atBegin c earlier = atBegin c h := by
  induction h generalizing after with
  | nil => simp [ownTrace] at trace
  | cons e h ih =>
      obtain ⟨raw, rfl⟩ | ⟨a', rfl⟩ | apart := e.own_cases c
      · simp at trace
      · rw [ownTrace_performed] at trace
        cases after with
        | nil =>
            obtain ⟨rfl, rest⟩ := List.cons.inj trace
            exact ⟨[], h, rfl, rest, rfl⟩
        | cons first after =>
            obtain ⟨later, earlier, rfl, rest, begun⟩ := ih (List.cons.inj trace).2
            exact ⟨_ :: later, earlier, rfl, rest, begun⟩
      · rw [apart.ownTrace_cons] at trace
        obtain ⟨later, earlier, rfl, rest, begun⟩ := ih trace
        exact ⟨e :: later, earlier, rfl, rest, begun.trans (apart.atBegin_cons _).symm⟩

theorem mem_ownTrace_or_atBegin {c : Conn} {a : Answered} {h : List Event}
    (member : .performed c a ∈ h) : a ∈ ownTrace c h ∨ .performed c a ∈ atBegin c h := by
  induction h with
  | nil => cases member
  | cons e h ih =>
      obtain ⟨raw, rfl⟩ | ⟨a', rfl⟩ | apart := e.own_cases c
      · rw [atBegin_began]
        rcases List.mem_cons.mp member with this | before
        · cases this
        · exact .inr before
      · rw [ownTrace_performed]
        rcases List.mem_cons.mp member with this | before
        · cases this
          exact .inl List.mem_cons_self
        · exact (ih before).imp_left fun now => List.mem_cons_of_mem _ now
      · rw [apart.ownTrace_cons, apart.atBegin_cons]
        rcases List.mem_cons.mp member with rfl | before
        · exact absurd rfl (apart.performed a)
        · exact ih before

theorem began_of_frame {c : Conn} {raw : Bytes} {h : List Event} (current : frame c h = some raw) :
    ∃ later, h = later ++ .began c raw :: atBegin c h := by
  induction h with
  | nil => cases current
  | cons e h ih =>
      obtain ⟨raw', rfl⟩ | ⟨a, rfl⟩ | apart := e.own_cases c
      · rw [frame_began] at current
        cases current
        exact ⟨[], by rw [atBegin_began, List.nil_append]⟩
      · obtain ⟨later, whole⟩ := ih current
        exact ⟨_ :: later, congrArg _ whole⟩
      · rw [apart.frame_cons] at current
        obtain ⟨later, whole⟩ := ih current
        rw [apart.atBegin_cons]
        exact ⟨e :: later, congrArg _ whole⟩

theorem frame_eq_of_atBegin {c : Conn} {raw raw' : Bytes} {later earlier : List Event}
    (current : frame c (later ++ earlier) = some raw) (before : frame c earlier = some raw')
    (same : atBegin c earlier = atBegin c (later ++ earlier)) : raw' = raw := by
  obtain ⟨front, whole⟩ := began_of_frame current
  obtain ⟨front', whole'⟩ := began_of_frame before
  rw [same] at whole'
  have both : (later ++ front') ++ .began c raw' :: atBegin c (later ++ earlier) =
      front ++ .began c raw :: atBegin c (later ++ earlier) := by
    rw [List.append_assoc, ← whole', ← whole]
  have ends := (List.append_inj' both rfl).2
  exact (Event.began.inj (List.cons.inj ends).1).2

/-- A connection that holds an identity, and has not registered one in its current frame, held it
when the frame was begun. -/
theorem registrant_atBegin {c : Conn} {imei deviceId : Text} {h : List Event}
    (holds : registrant imei h = some (c, deviceId))
    (quiet : ∀ a ∈ ownTrace c h, (Event.performed c a).registration = none) :
    registrant imei (atBegin c h) = some (c, deviceId) := by
  induction h with
  | nil => cases holds
  | cons e h ih =>
      obtain ⟨raw, rfl⟩ | ⟨a, rfl⟩ | apart := e.own_cases c
      · rw [registrant_cons_none rfl] at holds
        rwa [atBegin_began]
      · rw [ownTrace_performed] at quiet
        rw [registrant_cons_none (quiet a List.mem_cons_self)] at holds
        exact ih holds fun a' member => quiet a' (List.mem_cons_of_mem a member)
      · rw [apart.ownTrace_cons] at quiet
        rw [apart.atBegin_cons]
        exact ih (apart.registrant_cons holds) quiet

section Oversight

variable (allowed : Family → Bytes → List Answered → Op → Prop)
  (done : Family → Bytes → List Answered → Except Exn (Option Text) → Prop)

/-- An event keeps to the rules of the family its connection was detected as. -/
def Obeys : Event → List Event → Prop
  | .detected c _, earlier => ∀ family, .detected c family ∉ earlier
  | .performed c a, earlier => ∃ family raw, .detected c family ∈ earlier ∧
      frame c earlier = some raw ∧ allowed family raw (ownTrace c earlier) a.1
  | .returned c outcome, earlier => ∃ family raw, .detected c family ∈ earlier ∧
      frame c earlier = some raw ∧ done family raw (ownTrace c earlier) outcome
  | _, _ => True

def Watched (c : Conn) (h : List Event) : Phase → Prop
  | .absent | .probing _ => ∀ family, .detected c family ∉ h
  | .batch s _ | .reading s => .detected c s.protocol ∈ h
  | .handling s program _ => ∃ raw, .detected c s.protocol ∈ h ∧ frame c h = some raw ∧
      Guarded (allowed s.protocol raw) (done s.protocol raw) program (ownTrace c h)
  | _ => True

variable {allowed done}

theorem detected_unique {h : List Event} (obeys : Throughout (Obeys allowed done) h) {c : Conn}
    {family family' : Family} (one : .detected c family ∈ h) (other : .detected c family' ∈ h) :
    family = family' := by
  induction h with
  | nil => cases one
  | cons e h ih =>
      obtain ⟨obeyed, obeys⟩ := obeys
      rcases List.mem_cons.mp one with rfl | before
      · rcases List.mem_cons.mp other with same | before'
        · cases same
          rfl
        · exact absurd before' (obeyed family')
      · rcases List.mem_cons.mp other with rfl | before'
        · exact absurd before (obeyed family)
        · exact ih obeys before before'

theorem watched_cons_ne {c : Conn} {e : Event} {h : List Event} {phase : Phase}
    (other : e.concerns ≠ some c) (watched : Watched allowed done c h phase) :
    Watched allowed done c (e :: h) phase := by
  have undetected : (∀ family, .detected c family ∉ h) →
      ∀ family, Event.detected c family ∉ e :: h := by
    intro none_ family member
    rcases List.mem_cons.mp member with rfl | before
    · exact other rfl
    · exact none_ family before
  cases phase with
  | absent => exact undetected watched
  | probing b => exact undetected watched
  | batch s packets => exact List.mem_cons_of_mem e watched
  | reading s => exact List.mem_cons_of_mem e watched
  | handling s program packets =>
      obtain ⟨raw, detected, current, guarded⟩ := watched
      have apart := Event.apart_of_concerns_ne other
      refine ⟨raw, List.mem_cons_of_mem e detected, ?_, ?_⟩
      · rw [apart.frame_cons, current]
      · rwa [apart.ownTrace_cons]
  | _ => trivial

structure Overseen (allowed : Family → Bytes → List Answered → Op → Prop)
    (done : Family → Bytes → List Answered → Except Exn (Option Text) → Prop) (g : Gateway) :
    Prop where
  obeys : Throughout (Obeys allowed done) g.history
  watched : ∀ c, Watched allowed done c g.history (g.tasks c).phase

private theorem Overseen.move {g g' : Gateway} (overseen : Overseen allowed done g) (c : Conn)
    (events : List Event) (history : g'.history = events ++ g.history)
    (others : ∀ c', c' ≠ c → (g'.tasks c').phase = (g.tasks c').phase)
    (concerned : ∀ e ∈ events, ∀ c', c' ≠ c → e.concerns ≠ some c')
    (obeys : Throughout (Obeys allowed done) (events ++ g.history))
    (moved : Watched allowed done c (events ++ g.history) (g'.tasks c).phase) :
    Overseen allowed done g' := by
  refine ⟨history ▸ obeys, ?_⟩
  intro c'
  rw [history]
  by_cases here : c' = c
  · rw [here]
    exact moved
  · rw [others c' here]
    clear obeys moved history
    induction events with
    | nil => exact overseen.watched c'
    | cons e events ih =>
        have later := ih fun e' member => concerned e' (List.mem_cons_of_mem e member)
        exact watched_cons_ne (concerned e List.mem_cons_self c' here) later

private theorem Overseen.enter {g g₁ : Gateway} {phase : Phase}
    (overseen : Overseen allowed done g) (c : Conn) (events : List Event)
    (history : g₁.history = events ++ g.history)
    (others : ∀ c', (g₁.tasks c').phase = (g.tasks c').phase)
    (concerned : ∀ e ∈ events, ∀ c', c' ≠ c → e.concerns ≠ some c')
    (obeys : Throughout (Obeys allowed done) (events ++ g.history))
    (moved : Watched allowed done c (events ++ g.history) phase) :
    Overseen allowed done (g₁.enter c phase) := by
  refine overseen.move c events history ?_ concerned obeys ?_
  · intro c' other
    rw [Gateway.enter_tasks_ne _ _ _ other, others]
  · rwa [Gateway.enter_phase_self]

private theorem watched_framed {pipes : Family → Pipeline} {c : Conn} {h : List Event}
    {s : Session} (detected : .detected c s.protocol ∈ h) :
    Watched allowed done c h (Gateway.framed pipes s) := by
  rw [Gateway.framed]
  split
  · exact detected
  · trivial

private theorem watched_teardown (r : Registry) (c : Conn) (h : List Event)
    (imei : Option Text) : Watched allowed done c h (Gateway.teardown r c imei) := by
  rw [Gateway.teardown]
  split
  · trivial
  · split
    · trivial
    · split <;> trivial

theorem overseen_step {cfg : Config} {pipes : Family → Pipeline} {g g' : Gateway} {i : Input}
    (keeps : ∀ family ip raw,
      Guarded (allowed family raw) (done family raw) ((pipes family).handler ip raw) [])
    (overseen : Overseen allowed done g) (moves : Step cfg pipes g i g') :
    Overseen allowed done g' := by
  have obeys := overseen.obeys
  have watched := overseen.watched
  cases moves with
  | @refuse c ip turn at_ full =>
      have before := watched c
      refine overseen.move c [.refused c] rfl ?_ (by simp [Event.concerns])
        ⟨trivial, obeys⟩ ?_
      · intro c' other
        simp [other]
      · simp [Watched]
  | @acquire c ip turn at_ free =>
      have before := watched c
      rw [at_] at before
      refine overseen.move c [.acquired c] rfl ?_ (by simp [Event.concerns])
        ⟨trivial, obeys⟩ ?_
      · intro c' other
        simp [other]
      · simpa [Watched] using before
  | @quiet i c phase turn move =>
      apply overseen.enter c [] rfl (fun _ => rfl) (by simp) obeys
      have before := watched c
      generalize (g.tasks c).phase = phase₀ at move before
      cases move with
      | probe b b' => exact before
      | unknown b => trivial
      | more s buffer => exact watched_framed before
      | stop s => trivial
      | rest s packets => exact before
  | @detect i c b data protocol turn at_ enabled =>
      have before := watched c
      rw [at_] at before
      refine overseen.enter c [.detected c protocol] rfl (fun _ => rfl) ?_ ⟨before, obeys⟩ ?_
      · simp [Event.concerns, eq_comm]
      · exact watched_framed List.mem_cons_self
  | @begin_ c answers s raw packets turn at_ open_ =>
      have before := watched c
      rw [at_] at before
      refine overseen.enter c [.began c raw] rfl (fun _ => rfl) ?_ ⟨trivial, obeys⟩ ?_
      · simp [Event.concerns, eq_comm]
      · exact ⟨raw, List.mem_cons_of_mem _ before, frame_began c raw _, by
          simpa using keeps s.protocol (g.tasks c).ip raw⟩
  | @operate c answers s o next packets turn at_ =>
      have before := watched c
      rw [at_] at before
      obtain ⟨raw, detected, current, allow, guarded⟩ := before
      refine overseen.enter c [.performed c ⟨o, (g.perform c answers o).1⟩] (by simp)
        (fun c' => by simp) ?_ ?_ ?_
      · simp [Event.concerns, eq_comm]
      · exact ⟨⟨s.protocol, raw, detected, current, allow⟩, obeys⟩
      · refine ⟨raw, List.mem_cons_of_mem _ detected, current, ?_⟩
        simpa using guarded _
  | @nameless c answers s outcome packets turn at_ untrue =>
      have before := watched c
      rw [at_] at before
      obtain ⟨raw, detected, current, done_⟩ := before
      refine overseen.enter c [.returned c (.ok outcome)] rfl (fun _ => rfl) ?_ ?_ ?_
      · simp [Event.concerns]
      · exact ⟨⟨s.protocol, raw, detected, current, done_⟩, obeys⟩
      · exact List.mem_cons_of_mem _ detected
  | @named c answers s imei packets turn at_ real =>
      have before := watched c
      rw [at_] at before
      obtain ⟨raw, detected, current, done_⟩ := before
      refine overseen.enter c [.returned c (.ok (some imei))] rfl (fun _ => by simp) ?_ ?_ ?_
      · simp [Event.concerns]
      · exact ⟨⟨s.protocol, raw, detected, current, done_⟩, obeys⟩
      · exact List.mem_cons_of_mem _ detected
  | @raise c answers s e packets turn at_ =>
      have before := watched c
      rw [at_] at before
      obtain ⟨raw, detected, current, done_⟩ := before
      refine overseen.enter c [.returned c (.error e)] rfl (fun _ => rfl) ?_ ?_ ?_
      · simp [Event.concerns]
      · exact ⟨⟨s.protocol, raw, detected, current, done_⟩, obeys⟩
      · trivial
  | @finish c answers remembered turn at_ =>
      exact overseen.enter c [] rfl (fun _ => rfl) (by simp) obeys (watched_teardown _ _ _ _)
  | @unregister c imei deviceId turn at_ =>
      exact overseen.enter c [.offlined c imei deviceId (.ok ())] rfl (fun _ => rfl)
        (by simp [Event.concerns]) ⟨trivial, obeys⟩ trivial
  | @crash c imei deviceId e turn at_ =>
      exact overseen.enter c [.ended c, .offlined c imei deviceId (.error e)] rfl (fun _ => rfl)
        (by simp [Event.concerns]) ⟨trivial, trivial, obeys⟩ trivial
  | @release c turn at_ =>
      exact overseen.enter c [.ended c, .released c] rfl (fun _ => rfl)
        (by simp [Event.concerns]) ⟨trivial, trivial, obeys⟩ trivial
  | @lose c turn =>
      refine overseen.move c [] rfl (fun c' other => by simp [other]) (by simp) obeys ?_
      simpa using watched c
  | @push imei required payload device turn found family =>
      refine ⟨⟨trivial, obeys⟩, ?_⟩
      intro c
      exact watched_cons_ne (by simp [Event.concerns]) (watched c)

/-- A rule that every handler keeps is kept in the history of every run. -/
theorem overseen {cfg : Config} {pipes : Family → Pipeline} {permitted : Gateway → Input → Prop}
    (keeps : ∀ family ip raw,
      Guarded (allowed family raw) (done family raw) ((pipes family).handler ip raw) [])
    {g : Gateway} (reached : Reachable (Gateway.step cfg pipes) permitted .start g) :
    Overseen allowed done g := by
  refine reached.invariant ⟨trivial, ?_⟩ fun _ _ _ overseen _ moves =>
    overseen_step keeps overseen (step_cases moves)
  intro c
  simp [Watched, Gateway.start]

end Oversight

/-- The operations of a connection in its current frame are a run of the family's handler on that
frame, if the handler has returned. -/
def Run (pipes : Family → Pipeline) (family : Family) (raw : Bytes) (past : List Answered)
    (outcome : Except Exn (Option Text)) : Prop :=
  ∃ ip, Executes ((pipes family).handler ip raw) past.reverse outcome

theorem overseen_run {cfg : Config} {pipes : Family → Pipeline}
    {permitted : Gateway → Input → Prop} {g : Gateway}
    (reached : Reachable (Gateway.step cfg pipes) permitted .start g) :
    Overseen (fun _ _ _ _ => True) (Run pipes) g := by
  refine overseen ?_ reached
  intro family ip raw
  refine guarded_mono (fun _ _ allow => allow) ?_ (guarded_trace ((pipes family).handler ip raw) [])
  rintro past outcome ⟨trace, rfl, ran⟩
  refine ⟨ip, ?_⟩
  rw [List.append_nil, List.reverse_reverse]
  exact ran

/-- An answer of the registry, or the target of a push, is traced to a registration. -/
def Truthful : Event → List Event → Prop
  | .performed c ⟨.getImeiBySocket, imei?⟩, earlier =>
      ∀ imei, imei? = some imei → ∃ deviceId, registrant imei earlier = some (c, deviceId)
  | .performed _ ⟨.getDevice imei, device?⟩, earlier =>
      ∀ device, device? = some device →
        registrant imei earlier = some (device.socket, device.deviceId)
  | .pushed c _, earlier => ∃ imei deviceId, registrant imei earlier = some (c, deviceId)
  | _, _ => True

theorem Traced.getDevice {g : Gateway} (traced : Traced g) {imei : Text} {device : Entry}
    (found : g.registry.getDevice imei = some device) :
    registrant imei g.history = some (device.socket, device.deviceId) := by
  have owned : g.registry.owner imei = some device.socket := by simp [Registry.owner, found]
  obtain ⟨deviceId, last, listed⟩ := traced.entry imei device.socket owned
  obtain rfl : device.deviceId = deviceId := by simpa [Registry.deviceOf, found] using listed
  exact last

private theorem truthful_step {cfg : Config} {pipes : Family → Pipeline} {g g' : Gateway}
    {i : Input} (traced : Traced g) (truthful : Throughout Truthful g.history)
    (moves : Step cfg pipes g i g') : Throughout Truthful g'.history := by
  cases moves with
  | quiet turn move => exact truthful
  | finish turn at_ => exact truthful
  | lose turn => exact truthful
  | @operate c answers s o next packets turn at_ =>
      refine ⟨?_, by simpa using truthful⟩
      simp only [Gateway.perform_history]
      cases o with
      | getImeiBySocket =>
          intro imei found
          obtain ⟨deviceId, last, -⟩ := traced.entry imei c (traced.reverse c imei found)
          exact ⟨deviceId, last⟩
      | getDevice imei =>
          intro device found
          exact traced.getDevice found
      | _ => trivial
  | push turn found family => exact ⟨⟨_, _, traced.getDevice found⟩, truthful⟩
  | crash turn at_ => exact ⟨trivial, trivial, truthful⟩
  | release turn at_ => exact ⟨trivial, trivial, truthful⟩
  | _ => exact ⟨trivial, truthful⟩

theorem truthful {cfg : Config} {pipes : Family → Pipeline} {permitted : Gateway → Input → Prop}
    {g : Gateway} (reached : Reachable (Gateway.step cfg pipes) permitted .start g) :
    Throughout Truthful g.history :=
  reached.invariant_of_reached trivial fun _ _ _ before truthful _ moves =>
    truthful_step (traced before) truthful (step_cases moves)

end TrackerGateway.Server
