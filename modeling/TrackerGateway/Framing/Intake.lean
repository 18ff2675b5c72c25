/- module: TrackerGateway/Framing/Intake
   source: src/tcp_server.py
   digest: One connection's reads on their own: what its loop cuts from them, and that every run of
     the gateway hands exactly this to the handler. -/

import TrackerGateway.Server.Steps

set_option autoImplicit false
set_option relaxedAutoImplicit false

namespace TrackerGateway.Framing

open Foundation.Coroutine (Program)
open Foundation.Transition (run run_induction)
open Foundation.Wire (Text Bytes)
open TrackerGateway.Runtime
open Server

inductive Intake
  /-- too few bytes to tell the family -/
  | probing (received : Bytes)
  /-- all frames cut so far, and the bytes behind them -/
  | feeding (protocol : Family) (frames : List Bytes) (buffer : Bytes)
  /-- the framer raised after it had cut these frames -/
  | broken (protocol : Family) (frames : List Bytes)
  /-- unknown traffic, or the end of the reads -/
  | finished (frames : List Bytes)

namespace Intake

variable (cfg : Config) (pipes : Family → Pipeline)

def frames : Intake → List Bytes
  | .probing _ => []
  | .feeding _ frames _ | .broken _ frames | .finished frames => frames

def left : Intake → Bool
  | .probing _ | .feeding .. => false
  | .broken .. | .finished _ => true

def cut (protocol : Family) (frames : List Bytes) (buffer : Bytes) : Intake :=
  match (pipes protocol).framer buffer with
  | .ok (packets, rest) => .feeding protocol (frames ++ packets) rest
  | .error _ => .broken protocol frames

def sniffed (data : Bytes) : Intake :=
  match detectProtocol cfg data with
  | none => .finished []
  | some protocol => cut pipes protocol [] data

def receive : Intake → ReadOutcome → Intake
  | .probing received, .data more =>
      if more.isEmpty then (if received.isEmpty then .finished [] else sniffed cfg pipes received)
      else if (received ++ more).length < 5 then .probing (received ++ more)
      else sniffed cfg pipes (received ++ more)
  | .probing received, .timeout =>
      if received.isEmpty then .finished [] else sniffed cfg pipes received
  | .probing _, .failed _ => .finished []
  | .feeding protocol frames buffer, .data more =>
      if more.isEmpty then .finished frames else cut pipes protocol frames (buffer ++ more)
  | .feeding _ frames _, .timeout | .feeding _ frames _, .failed _ => .finished frames
  | .broken protocol frames, _ => .broken protocol frames
  | .finished frames, _ => .finished frames

section Receive

variable {cfg pipes} {received more buffer : Bytes} {protocol : Family} {frames : List Bytes}

theorem receive_probing_end (ends : more.isEmpty = true) :
    (probing received).receive cfg pipes (.data more) =
      if received.isEmpty then .finished [] else sniffed cfg pipes received := if_pos ends

theorem receive_probing_few (goes : ¬ more.isEmpty = true) (few : (received ++ more).length < 5) :
    (probing received).receive cfg pipes (.data more) = probing (received ++ more) :=
  (if_neg goes).trans (if_pos few)

theorem receive_probing_enough (goes : ¬ more.isEmpty = true)
    (enough : ¬ (received ++ more).length < 5) :
    (probing received).receive cfg pipes (.data more) = sniffed cfg pipes (received ++ more) :=
  (if_neg goes).trans (if_neg enough)

theorem receive_feeding_end (ends : more.isEmpty = true) :
    (feeding protocol frames buffer).receive cfg pipes (.data more) = .finished frames :=
  if_pos ends

theorem receive_feeding_more (goes : ¬ more.isEmpty = true) :
    (feeding protocol frames buffer).receive cfg pipes (.data more) =
      cut pipes protocol frames (buffer ++ more) := if_neg goes

end Receive

end Intake

def intake (cfg : Config) (pipes : Family → Pipeline) (outcomes : List ReadOutcome) : Intake :=
  outcomes.foldl (Intake.receive cfg pipes) (.probing [])

theorem intake_concat (cfg : Config) (pipes : Family → Pipeline) (outcomes : List ReadOutcome)
    (outcome : ReadOutcome) :
    intake cfg pipes (outcomes ++ [outcome]) =
      (intake cfg pipes outcomes).receive cfg pipes outcome := by
  simp [intake]

def actor : Input → Option Conn
  | .connect c _ | .arrive c _ | .resume c _ | .offline c _ | .waitClosed c | .lose c => some c
  | .push .. => none

def outcomeFor (c : Conn) : Input → Option ReadOutcome
  | .arrive c' outcome => if c' = c then some outcome else none
  | _ => none

/-- The reads of one connection among the inputs of a run. -/
def outcomes (c : Conn) (inputs : List Input) : List ReadOutcome := inputs.filterMap (outcomeFor c)

/-- The frame whose handling by one connection an event begins. -/
def begun (c : Conn) : Event → Option Bytes
  | .began c' raw => if c' = c then some raw else none
  | _ => none

theorem begun_began_ne {c c' : Conn} (other : c' ≠ c) (raw : Bytes) :
    begun c (.began c' raw) = none := if_neg other

def handed (c : Conn) (h : List Event) : List Bytes := (h.filterMap (begun c)).reverse

/-- Why an execution may end although its reads go on: it found no slot, or a handler raised. -/
def Quit (c : Conn) (h : List Event) : Prop :=
  .refused c ∈ h ∨ ∃ e, .returned c (.error e) ∈ h

def ClosedByHandler (c : Conn) (h : List Event) : Prop := .performed c ⟨.close, ()⟩ ∈ h

/-- The packets of a batch that are not yet handed to the handler; none outside a batch. -/
def pending : Phase → Option (Session × List Bytes)
  | .batch s packets | .handling s _ packets => some (s, packets)
  | .reading s => some (s, [])
  | _ => none

/-- What holds of a connection whose loop has read this. -/
def Follows (c : Conn) (h : List Event) (task : Task) (intake : Intake) : Prop :=
  match task.phase with
  | .absent => task.writerClosed = false ∧ intake = .probing [] ∧ handed c h = []
  | .probing received => task.writerClosed = false ∧ intake = .probing received ∧ handed c h = []
  | .batch s packets | .handling s _ packets => Feeds c h task intake s packets
  | .reading s => Feeds c h task intake s []
  | _ => handed c h <+: intake.frames ∧ (intake.left = true ∨ Quit c h)
where
  Feeds (c : Conn) (h : List Event) (task : Task) (intake : Intake) (s : Session)
      (packets : List Bytes) : Prop :=
    (task.writerClosed = true → ClosedByHandler c h) ∧
    ∃ frames, intake = .feeding s.protocol frames s.buffer ∧
      (handed c h ++ packets = frames ∨
        (task.writerClosed = true ∨ task.lost = true) ∧ handed c h <+: frames)

section Phases

variable {c : Conn} {h : List Event} {task : Task} {intake : Intake}

theorem follows_absent (at_ : task.phase = .absent) :
    Follows c h task intake ↔
      task.writerClosed = false ∧ intake = .probing [] ∧ handed c h = [] := by
  simp only [Follows, at_]

theorem follows_probing {received : Bytes} (at_ : task.phase = .probing received) :
    Follows c h task intake ↔
      task.writerClosed = false ∧ intake = .probing received ∧ handed c h = [] := by
  simp only [Follows, at_]

/-- What a connection that is in its loop has handed over, and what it still has to. -/
theorem follows_pending {s : Session} {packets : List Bytes}
    (is : pending task.phase = some (s, packets)) :
    Follows c h task intake ↔ Follows.Feeds c h task intake s packets := by
  simp only [Follows]
  generalize task.phase = phase at is
  cases phase with
  | batch s' packets' | handling s' program packets' =>
      obtain ⟨rfl, rfl⟩ := Prod.mk.inj (Option.some.inj is)
      exact Iff.rfl
  | reading s' =>
      obtain ⟨rfl, rfl⟩ := Prod.mk.inj (Option.some.inj is)
      exact Iff.rfl
  | _ => cases is

def isLate : Phase → Bool
  | .finishing _ | .offlining .. | .closing | .ended => true
  | _ => false

theorem follows_late (late : isLate task.phase = true) :
    Follows c h task intake ↔
      handed c h <+: intake.frames ∧ (intake.left = true ∨ Quit c h) := by
  simp only [Follows]
  generalize task.phase = phase at late
  cases phase <;> simp_all [isLate]

theorem Follows.Feeds.handed_begins {s : Session} {packets : List Bytes}
    (feeds : Follows.Feeds c h task intake s packets) : handed c h <+: intake.frames := by
  obtain ⟨-, frames, rfl, all | ⟨-, part⟩⟩ := feeds
  · exact all ▸ List.prefix_append _ packets
  · exact part

theorem handed_begins (follows : Follows c h task intake) : handed c h <+: intake.frames := by
  cases is : pending task.phase with
  | some batch => exact ((follows_pending is).mp follows).handed_begins
  | none =>
      cases at_ : task.phase with
      | absent =>
          obtain ⟨-, -, fresh⟩ := (follows_absent at_).mp follows
          rw [fresh]
          exact List.nil_prefix
      | probing received =>
          obtain ⟨-, -, fresh⟩ := (follows_probing at_).mp follows
          rw [fresh]
          exact List.nil_prefix
      | batch s packets => simp [at_, pending] at is
      | handling s program packets => simp [at_, pending] at is
      | reading s => simp [at_, pending] at is
      | _ => exact ((follows_late (by rw [at_]; rfl)).mp follows).1

end Phases

/-! ### Steps of other connections -/

section Others

variable {cfg : Config} {pipes : Family → Pipeline} {c c' : Conn} {g g' : Gateway}

def Aside (c : Conn) (g g' : Gateway) : Prop :=
  g'.tasks c = g.tasks c ∧ ∃ events, g'.history = events ++ g.history ∧
    ∀ e ∈ events, begun c e = none

theorem Aside.refl (c : Conn) (g : Gateway) : Aside c g g := ⟨rfl, [], rfl, by simp⟩

theorem Aside.record {e : Event} (aside : Aside c g g') (other : begun c e = none) :
    Aside c g (g'.record e) := by
  obtain ⟨same, events, history, others⟩ := aside
  refine ⟨same, e :: events, by simp [history], ?_⟩
  intro e' member
  rcases List.mem_cons.mp member with rfl | earlier
  · exact other
  · exact others e' earlier

theorem Aside.enter (aside : Aside c g g') (other : c' ≠ c) (phase : Phase) :
    Aside c g (g'.enter c' phase) := by
  obtain ⟨same, events, history, others⟩ := aside
  refine ⟨?_, events, history, others⟩
  rw [Gateway.enter_tasks_ne _ _ _ other.symm, same]

theorem Aside.of_eq {g₁ : Gateway} (aside : Aside c g g') (tasks : g₁.tasks c = g'.tasks c)
    (history : g₁.history = g'.history) : Aside c g g₁ := by
  obtain ⟨same, events, known, others⟩ := aside
  exact ⟨tasks.trans same, events, history.trans known, others⟩

private theorem aside_sniffed (other : c' ≠ c) (data : Bytes) :
    Aside c g (g.sniffed cfg pipes c' data) := by
  rw [Gateway.sniffed]
  split
  · exact (Aside.refl c g).enter other _
  · exact ((Aside.refl c g).record rfl).enter other _

private theorem aside_arrive {outcome : ReadOutcome} (other : c' ≠ c)
    (moves : g.arrive cfg pipes c' outcome = some g') : Aside c g g' := by
  unfold Gateway.arrive at moves
  split at moves
  · split at moves
    · cases moves
      split
      · exact (Aside.refl c g).enter other _
      · exact aside_sniffed other _
    · split at moves
      · cases moves
        exact (Aside.refl c g).enter other _
      · cases moves
        exact aside_sniffed other _
  · cases moves
    split
    · exact (Aside.refl c g).enter other _
    · exact aside_sniffed other _
  · cases moves
    exact (Aside.refl c g).enter other _
  · split at moves
    all_goals
      cases moves
      exact (Aside.refl c g).enter other _
  · cases moves
    exact (Aside.refl c g).enter other _
  · cases moves
    exact (Aside.refl c g).enter other _
  · cases moves

private theorem aside_resume {answers : (o : Op) → Res o} (other : c' ≠ c)
    (moves : g.resume pipes c' answers = some g') : Aside c g g' := by
  have performed : ∀ o, Aside c g (g.perform c' answers o).2 := by
    intro o
    refine (Aside.refl c g).of_eq ?_ (by simp)
    exact Gateway.perform_tasks_ne _ _ _ _ other.symm
  rw [Gateway.resume] at moves
  split at moves
  · cases moves
    exact (Aside.refl c g).enter other _
  · split at moves
    · cases moves
      exact (Aside.refl c g).enter other _
    · cases moves
      exact ((Aside.refl c g).record (begun_began_ne other _)).enter other _
  · cases moves
    exact ((performed _).record rfl).enter other _
  · split at moves
    · cases moves
      exact ((Aside.refl c g).record rfl).enter other _
    · cases moves
      exact (((Aside.refl c g).of_eq rfl rfl).record rfl).enter other _
  · cases moves
    exact ((Aside.refl c g).record rfl).enter other _
  · cases moves
    exact (Aside.refl c g).enter other _
  · cases moves

theorem aside_step {i : Input} (moves : Gateway.step cfg pipes g i = some g')
    (other : actor i ≠ some c) : Aside c g g' := by
  have apart : ∀ {c'}, actor i = some c' → c' ≠ c := by
    rintro c' acts rfl
    exact other acts
  unfold Gateway.step at moves
  split at moves <;> obtain ⟨turn, moves⟩ := ite_eq_some moves
  · next c' ip _ =>
      have ne : c' ≠ c := apart rfl
      rw [Gateway.connect] at moves
      split at moves
      · split at moves
        all_goals
          cases moves
          refine ⟨Function.update_of_ne ne.symm _ _, [_], rfl, ?_⟩
          simp [begun]
      · cases moves
  · exact aside_arrive (apart rfl) moves
  · exact aside_resume (apart rfl) moves
  · next c' outcome _ =>
      have ne : c' ≠ c := apart rfl
      unfold Gateway.offline at moves
      split at moves
      · cases moves
        exact (((Aside.refl c g).of_eq rfl rfl).record rfl).enter ne _
      · cases moves
        exact (((Aside.refl c g).record rfl).record rfl).enter ne _
      · cases moves
  · next c' _ =>
      have ne : c' ≠ c := apart rfl
      rw [Gateway.waitClosed] at moves
      split at moves
      · cases moves
        exact ((((Aside.refl c g).of_eq rfl rfl).record rfl).record rfl).enter ne _
      · cases moves
  · next c' _ =>
      have ne : c' ≠ c := apart rfl
      cases moves
      exact ⟨Function.update_of_ne ne.symm _ _, [], rfl, by simp⟩
  · rw [Gateway.push] at moves
    split at moves
    · cases moves
    · obtain ⟨-, moves⟩ := ite_eq_some moves
      cases moves
      exact (Aside.refl c g).record rfl

end Others

/-! ### Steps of the connection itself -/

section Own

variable {cfg : Config} {pipes : Family → Pipeline} {c : Conn} {g g' : Gateway} {before : Intake}

theorem handed_append_none {events : List Event} (others : ∀ e ∈ events, begun c e = none)
    (h : List Event) : handed c (events ++ h) = handed c h := by
  rw [handed, handed, List.filterMap_append, List.filterMap_eq_nil_iff.mpr others, List.nil_append]

theorem handed_cons_none {e : Event} (other : begun c e = none) (h : List Event) :
    handed c (e :: h) = handed c h := by
  have others : ∀ e' ∈ [e], begun c e' = none := by simpa using other
  exact handed_append_none others h

theorem handed_began (raw : Bytes) (h : List Event) :
    handed c (.began c raw :: h) = handed c h ++ [raw] := by
  simp [handed, begun]

theorem Follows.extend {h events : List Event} {task : Task}
    (follows : Follows c h task before) (others : ∀ e ∈ events, begun c e = none) :
    Follows c (events ++ h) task before := by
  have same := handed_append_none others h
  have closed : ClosedByHandler c h → ClosedByHandler c (events ++ h) :=
    List.mem_append_right events
  have quit : Quit c h → Quit c (events ++ h) := by
    rintro (refused | ⟨e, raised⟩)
    · exact .inl (List.mem_append_right events refused)
    · exact .inr ⟨e, List.mem_append_right events raised⟩
  have feeds : ∀ s packets, Follows.Feeds c h task before s packets →
      Follows.Feeds c (events ++ h) task before s packets := by
    intro s packets known
    rw [Follows.Feeds, same]
    exact ⟨closed ∘ known.1, known.2⟩
  unfold Follows at follows ⊢
  generalize task.phase = phase at follows ⊢
  cases phase with
  | absent => simpa only [same] using follows
  | probing received => simpa only [same] using follows
  | batch s packets => exact feeds s packets follows
  | handling s program packets => exact feeds s packets follows
  | reading s => exact feeds s [] follows
  | _ =>
      simp only [same]
      exact ⟨follows.1, follows.2.imp_right quit⟩

theorem enter_task (phase : Phase) :
    (g.enter c phase).tasks c =
      { g.tasks c with phase, writerClosed := (g.tasks c).writerClosed || phase.closes } := by
  simp [Gateway.enter]

theorem follows_enter_late {h : List Event} {phase : Phase} (late : isLate phase = true)
    (prefix_ : handed c h <+: before.frames) (why : before.left = true ∨ Quit c h) :
    Follows c h ((g.enter c phase).tasks c) before := by
  rw [follows_late (by rw [enter_task]; exact late)]
  exact ⟨prefix_, why⟩

theorem follows_enter_feeds {h : List Event} {phase : Phase} {s : Session} {packets : List Bytes}
    (is : phase = .batch s packets ∨ (∃ program, phase = .handling s program packets) ∨
      phase = .reading s ∧ packets = [])
    (feeds : Follows.Feeds c h (g.tasks c) before s packets) :
    Follows c h ((g.enter c phase).tasks c) before := by
  rw [enter_task]
  rcases is with rfl | ⟨program, rfl⟩ | ⟨rfl, rfl⟩
  all_goals
    simp only [Phase.closes, Bool.or_false]
    exact feeds

theorem follows_framed {h : List Event} {protocol : Family} {imei : Option Text}
    {frames : List Bytes} {buffer : Bytes}
    (closed : (g.tasks c).writerClosed = true → ClosedByHandler c h)
    (soFar : handed c h = frames ∨
      ((g.tasks c).writerClosed = true ∨ (g.tasks c).lost = true) ∧ handed c h <+: frames) :
    Follows c h ((g.enter c (Gateway.framed pipes ⟨protocol, imei, buffer⟩)).tasks c)
      (Intake.cut pipes protocol frames buffer) := by
  rw [Gateway.framed, Intake.cut]
  cases (pipes protocol).framer buffer with
  | ok result =>
      obtain ⟨packets, rest⟩ := result
      refine follows_enter_feeds (.inl rfl) ⟨closed, frames ++ packets, rfl, ?_⟩
      rcases soFar with all | ⟨closing, part⟩
      · exact .inl (by rw [all])
      · exact .inr ⟨closing, part.trans (List.prefix_append frames packets)⟩
  | error e =>
      refine follows_enter_late rfl ?_ (.inl rfl)
      rcases soFar with all | ⟨-, part⟩
      · rw [all]
        exact List.prefix_rfl
      · exact part

private theorem follows_sniffed {data : Bytes} (open_ : (g.tasks c).writerClosed = false)
    (fresh : handed c g.history = []) :
    Follows c (g.sniffed cfg pipes c data).history ((g.sniffed cfg pipes c data).tasks c)
      (Intake.sniffed cfg pipes data) := by
  have none_ : handed c g.history <+: [] := List.prefix_nil.mpr fresh
  rw [Gateway.sniffed, Intake.sniffed]
  cases detectProtocol cfg data with
  | none => exact follows_enter_late rfl none_ (.inl rfl)
  | some protocol =>
      have fresh' : handed c (.detected c protocol :: g.history) = [] := by
        rw [handed_cons_none rfl, fresh]
      exact follows_framed (g := g.record (.detected c protocol)) (by simp [open_]) (.inl fresh')

private theorem follows_arrive {outcome : ReadOutcome}
    (follows : Follows c g.history (g.tasks c) before)
    (moves : g.arrive cfg pipes c outcome = some g') :
    Follows c g'.history (g'.tasks c) (before.receive cfg pipes outcome) := by
  unfold Gateway.arrive at moves
  split at moves
  · next received more at_ =>
      obtain ⟨open_, rfl, fresh⟩ := (follows_probing at_).mp follows
      have none_ : handed c g.history <+: [] := List.prefix_nil.mpr fresh
      split at moves
      · next ends =>
          rw [Intake.receive_probing_end ends]
          cases moves
          split
          · exact follows_enter_late rfl none_ (.inl rfl)
          · exact follows_sniffed open_ fresh
      · next goes =>
          split at moves
          · next few =>
              rw [Intake.receive_probing_few goes few]
              cases moves
              rw [enter_task]
              exact ⟨by simp [open_, Phase.closes], rfl, fresh⟩
          · next enough =>
              rw [Intake.receive_probing_enough goes enough]
              cases moves
              exact follows_sniffed open_ fresh
  · next received at_ =>
      obtain ⟨open_, rfl, fresh⟩ := (follows_probing at_).mp follows
      have none_ : handed c g.history <+: [] := List.prefix_nil.mpr fresh
      cases moves
      rw [Intake.receive]
      split
      · exact follows_enter_late rfl none_ (.inl rfl)
      · exact follows_sniffed open_ fresh
  · next received e at_ =>
      obtain ⟨open_, rfl, fresh⟩ := (follows_probing at_).mp follows
      cases moves
      exact follows_enter_late rfl (List.prefix_nil.mpr fresh) (.inl rfl)
  · next session more at_ =>
      have feeds := (follows_pending (by rw [at_]; rfl)).mp follows
      have part := feeds.handed_begins
      obtain ⟨closed, frames, rfl, soFar⟩ := feeds
      rw [List.append_nil] at soFar
      split at moves
      · next ends =>
          rw [Intake.receive_feeding_end ends]
          cases moves
          exact follows_enter_late rfl part (.inl rfl)
      · next goes =>
          rw [Intake.receive_feeding_more goes]
          cases moves
          exact follows_framed closed soFar
  · next session at_ =>
      have feeds := (follows_pending (by rw [at_]; rfl)).mp follows
      have part := feeds.handed_begins
      obtain ⟨closed, frames, rfl, soFar⟩ := feeds
      cases moves
      exact follows_enter_late rfl part (.inl rfl)
  · next session e at_ =>
      have feeds := (follows_pending (by rw [at_]; rfl)).mp follows
      have part := feeds.handed_begins
      obtain ⟨closed, frames, rfl, soFar⟩ := feeds
      cases moves
      exact follows_enter_late rfl part (.inl rfl)
  · cases moves

private theorem perform_lost (answers : (o : Op) → Res o) (o : Op) :
    ((g.perform c answers o).2.tasks c).lost = (g.tasks c).lost := by
  cases o <;> try rfl
  simp [Gateway.perform, Gateway.closeWriter]

private theorem perform_closed (answers : (o : Op) → Res o) (o : Op)
    (closed : ((g.perform c answers o).2.tasks c).writerClosed = true) :
    (g.tasks c).writerClosed = true ∨
      (⟨o, (g.perform c answers o).1⟩ : Answered) = ⟨.close, ()⟩ := by
  cases o <;> first | exact .inl closed | exact .inr rfl

private theorem follows_resume {answers : (o : Op) → Res o}
    (follows : Follows c g.history (g.tasks c) before)
    (moves : g.resume pipes c answers = some g') :
    Follows c g'.history (g'.tasks c) before := by
  rw [Gateway.resume] at moves
  split at moves
  · next session at_ =>
      have feeds := (follows_pending (by rw [at_]; rfl)).mp follows
      cases moves
      exact follows_enter_feeds (.inr (.inr ⟨rfl, rfl⟩)) feeds
  · next session raw packets at_ =>
      have feeds := (follows_pending (by rw [at_]; rfl)).mp follows
      have part := feeds.handed_begins
      obtain ⟨closed, frames, rfl, soFar⟩ := feeds
      split at moves
      · next closing =>
          cases moves
          exact follows_enter_feeds (.inr (.inr ⟨rfl, rfl⟩))
            ⟨closed, frames, rfl, .inr ⟨by simpa using closing, part⟩⟩
      · next open_ =>
          cases moves
          have all : handed c g.history ++ raw :: packets = frames :=
            soFar.resolve_right fun closing => open_ (by simpa using closing.1)
          refine follows_enter_feeds (g := g.record (.began c raw)) (.inr (.inl ⟨_, rfl⟩))
            ⟨fun closing => List.mem_cons_of_mem _ (closed closing), frames, rfl, .inl ?_⟩
          rw [Gateway.enter_history, Gateway.record_history, handed_began, List.append_assoc]
          exact all
  · next session o next packets at_ =>
      have feeds := (follows_pending (by rw [at_]; rfl)).mp follows
      obtain ⟨closed, frames, rfl, soFar⟩ := feeds
      cases moves
      refine follows_enter_feeds (.inr (.inl ⟨_, rfl⟩)) ⟨?_, frames, rfl, ?_⟩
      · intro closes
        rw [Gateway.enter_history, Gateway.record_history, Gateway.perform_history]
        rcases perform_closed answers o closes with already | now
        · exact List.mem_cons_of_mem _ (closed already)
        · rw [now]
          exact List.mem_cons_self
      · rw [Gateway.enter_history, Gateway.record_history, Gateway.perform_history,
          handed_cons_none rfl]
        apply soFar.imp_right
        rintro ⟨closing, part⟩
        refine ⟨closing.imp ?_ ?_, part⟩
        · exact fun closed => Gateway.perform_writerClosed g c answers o closed
        · exact fun lost => (perform_lost answers o).trans lost
  · next session outcome packets at_ =>
      have feeds := (follows_pending (by rw [at_]; rfl)).mp follows
      have carried : ∀ imei : Option Text,
          Follows.Feeds c (.returned c (.ok outcome) :: g.history) (g.tasks c) before
            { session with imei } packets := by
        intro imei
        obtain ⟨closed, frames, rfl, soFar⟩ := feeds
        refine ⟨fun closes => List.mem_cons_of_mem _ (closed closes), frames, rfl, ?_⟩
        rwa [handed_cons_none rfl]
      split at moves
      · cases moves
        exact follows_enter_feeds (.inl rfl) (carried session.imei)
      · next imei named =>
          cases moves
          exact follows_enter_feeds (.inl rfl) (carried (some imei))
  · next session e packets at_ =>
      have feeds := (follows_pending (by rw [at_]; rfl)).mp follows
      have part := feeds.handed_begins
      cases moves
      refine follows_enter_late rfl ?_ (.inr (.inr ⟨e, List.mem_cons_self⟩))
      rwa [Gateway.enter_history, Gateway.record_history, handed_cons_none rfl]
  · next imei at_ =>
      rw [follows_late (by rw [at_]; rfl)] at follows
      cases moves
      refine follows_enter_late ?_ follows.1 follows.2
      rw [Gateway.teardown]
      split
      · rfl
      · split
        · rfl
        · split <;> rfl
  · cases moves

private theorem follows_connect {ip : Text} (follows : Follows c g.history (g.tasks c) before)
    (moves : g.connect cfg c ip = some g') : Follows c g'.history (g'.tasks c) before := by
  rw [Gateway.connect] at moves
  split at moves
  · next at_ =>
      obtain ⟨-, rfl, fresh⟩ := (follows_absent at_).mp follows
      split at moves
      · cases moves
        rw [follows_late (by simp [isLate])]
        refine ⟨?_, .inr (.inl List.mem_cons_self)⟩
        rw [handed_cons_none rfl, fresh]
        exact List.nil_prefix
      · cases moves
        simp only [Function.update_self]
        exact ⟨rfl, rfl, (handed_cons_none rfl _).trans fresh⟩
  · cases moves

private theorem follows_still_late {g₁ : Gateway} {phase : Phase} (events : List Event)
    (follows : Follows c g.history (g.tasks c) before) (at_ : isLate (g.tasks c).phase = true)
    (late : isLate phase = true) (history : g₁.history = events ++ g.history)
    (others : ∀ e ∈ events, begun c e = none) :
    Follows c (g₁.enter c phase).history ((g₁.enter c phase).tasks c) before := by
  obtain ⟨part, why⟩ := (follows_late at_).mp (follows.extend others)
  rw [Gateway.enter_history, history]
  exact follows_enter_late late part why

private theorem follows_offline {outcome : Except Exn Unit}
    (follows : Follows c g.history (g.tasks c) before)
    (moves : g.offline c outcome = some g') : Follows c g'.history (g'.tasks c) before := by
  unfold Gateway.offline at moves
  split at moves
  · next at_ =>
      cases moves
      exact follows_still_late [_] follows (by rw [at_]; rfl) rfl rfl (by simp [begun])
  · next at_ =>
      cases moves
      exact follows_still_late [_, _] follows (by rw [at_]; rfl) rfl rfl
        (by simp [begun])
  · cases moves

private theorem follows_waitClosed (follows : Follows c g.history (g.tasks c) before)
    (moves : g.waitClosed c = some g') : Follows c g'.history (g'.tasks c) before := by
  rw [Gateway.waitClosed] at moves
  split at moves
  · next at_ =>
      cases moves
      exact follows_still_late [_, _] follows (by rw [at_]; rfl) rfl rfl
        (by simp [begun])
  · cases moves

private theorem follows_lose (follows : Follows c g.history (g.tasks c) before) :
    Follows c g.history { g.tasks c with lost := true } before := by
  have feeds : ∀ s packets, Follows.Feeds c g.history (g.tasks c) before s packets →
      Follows.Feeds c g.history { g.tasks c with lost := true } before s packets := by
    rintro s packets ⟨closed, frames, is, soFar⟩
    exact ⟨closed, frames, is, soFar.imp_right fun part => ⟨.inr rfl, part.2⟩⟩
  unfold Follows at follows ⊢
  simp only
  generalize (g.tasks c).phase = phase at follows ⊢
  cases phase with
  | batch s packets => exact feeds s packets follows
  | handling s program packets => exact feeds s packets follows
  | reading s => exact feeds s [] follows
  | _ => exact follows

theorem follows_step {i : Input} (follows : Follows c g.history (g.tasks c) before)
    (moves : Gateway.step cfg pipes g i = some g') :
    Follows c g'.history (g'.tasks c)
      ((outcomeFor c i).elim before (before.receive cfg pipes)) := by
  by_cases own : actor i = some c
  · unfold Gateway.step at moves
    split at moves <;> obtain ⟨turn, moves⟩ := ite_eq_some moves
    · next c' ip _ =>
        obtain rfl : c' = c := Option.some.inj own
        exact follows_connect follows moves
    · next c' outcome _ =>
        obtain rfl : c' = c := Option.some.inj own
        rw [outcomeFor, if_pos rfl]
        exact follows_arrive follows moves
    · next c' answers _ =>
        obtain rfl : c' = c := Option.some.inj own
        exact follows_resume follows moves
    · next c' outcome _ =>
        obtain rfl : c' = c := Option.some.inj own
        exact follows_offline follows moves
    · next c' _ =>
        obtain rfl : c' = c := Option.some.inj own
        exact follows_waitClosed follows moves
    · next c' _ =>
        obtain rfl : c' = c := Option.some.inj own
        cases moves
        simp only [Function.update_self]
        exact follows_lose follows
    · cases own
  · obtain ⟨tasks, events, history, others⟩ := aside_step moves own
    have none_ : outcomeFor c i = none := by
      unfold outcomeFor
      split
      · exact if_neg fun same => own (congrArg some same)
      · rfl
    rw [none_, tasks, history]
    exact follows.extend others

end Own

/-- In every run a connection hands to the handler what its own reads amount to: nothing that other
connections do, and nothing that the handler waits for, changes which frames these are. -/
theorem follows_run {cfg : Config} {pipes : Family → Pipeline} {inputs : List Input} {g : Gateway}
    (ran : run (Gateway.step cfg pipes) .start inputs = some g) (c : Conn) :
    Follows c g.history (g.tasks c) (intake cfg pipes (outcomes c inputs)) := by
  refine run_induction (P := fun inputs g =>
    Follows c g.history (g.tasks c) (intake cfg pipes (outcomes c inputs))) ?_ ?_ ran
  · exact ⟨rfl, rfl, rfl⟩
  · intro inputs g i g' follows moves
    have stepped := follows_step follows moves
    rw [outcomes, List.filterMap_append]
    rw [outcomes] at stepped
    cases is : outcomeFor c i with
    | none =>
        rw [is] at stepped
        simpa [is] using stepped
    | some outcome =>
        rw [is] at stepped
        rw [List.filterMap_cons_some is, List.filterMap_nil, intake_concat]
        exact stepped

end TrackerGateway.Framing
