/- module: TrackerGateway/Polling/Marks
   source: src/services/gps103_handler.py (_safely, _handle_tracker),
     src/services/device_registry.py (note_position), src/services/gps103_poller.py (due_devices)
   digest: Whether the positions that the poller counts with were stored. -/

import TrackerGateway.Polling.Spacing
import TrackerGateway.Server.Frames
import TrackerGateway.Services.Marking

set_option autoImplicit false
set_option relaxedAutoImplicit false

namespace TrackerGateway.Polling.Marks

open Foundation.Coroutine
open Foundation.Transition (Reachable Throughout run reachable_of_run)
open Foundation.Wire (Text Bytes Number Instant asciiBytes)
open TrackerGateway.Runtime
open Server
open Server.Polling
open Services (Registry Unmarked)
open Services.Gps103Poller
open Services.Marking

/-- The time and speed of a position of an identity that is remembered here, if a statement has just
stored it. -/
def storedMark (imei : Text) : Event → List Event → Option (Instant × Number)
  | .performed c ⟨.notePosition i speed now, _⟩, earlier =>
      if i = imei ∧ stored imei speed now (ownTrace c earlier) = true then some (now, speed)
      else none
  | _, _ => none

def lastStored (imei : Text) : List Event → Option (Instant × Number)
  | [] => none
  | e :: earlier =>
      match storedMark imei e earlier with
      | some mark => some mark
      | none => if (e.reroutes imei).isSome then none else lastStored imei earlier

/-- A device has been connected for its interval, without a stored position and without a poll. -/
def Silent (cfg : Config) (now : Instant) (entry : Entry) (last : Option (Instant × Number)) :
    Prop :=
  let interval :=
    if (last.map Prod.snd).any aboveZero then cfg.gps103PollSeconds else cfg.gps103PollIdleSeconds
  interval * 1000000 ≤ now - (last.map Prod.fst).getD entry.connectedAt ∧
    ∀ t ∈ entry.lastPollAt, interval * 1000000 ≤ now - t

/-- The registry remembers the last stored position of every device, and every silent TK103 device
is due. -/
structure Truthful (cfg : Config) (p : System) : Prop where
  position : ∀ imei entry, p.gateway.registry.getDevice imei = some entry →
    entry.lastPositionAt = (lastStored imei p.gateway.history).map Prod.fst
  speed : ∀ imei entry, p.gateway.registry.getDevice imei = some entry →
    entry.lastSpeed = (lastStored imei p.gateway.history).map Prod.snd
  due : ∀ imei entry now, p.gateway.registry.getDevice imei = some entry →
    entry.protocol = .gps103 → Silent cfg now entry (lastStored imei p.gateway.history) →
    imei ∈ dueDevices cfg now p.gateway.registry

/-- No statement that stores a position raises while a TK103 message is handled. -/
def saves (p : System) : Move → Bool
  | .gateway (.resume c answers) =>
      match (p.gateway.tasks c).phase with
      | .handling s (.call (.execute (.saveLocation deviceId latitude longitude speed heading
          satellites eventTime)) _) _ =>
          s.protocol ≠ .gps103 || (answers (.execute (.saveLocation deviceId latitude longitude
            speed heading satellites eventTime))).isOk
      | _ => true
  | _ => true

def rules (family : Family) (_ : Bytes) (past : List Answered) (o : Op) : Prop :=
  Noting family past o

def Saving : Event → List Event → Prop
  | .performed c ⟨.execute (.saveLocation ..), .error _⟩, earlier => .detected c .gps103 ∉ earlier
  | _, _ => True

structure Marked (g : Gateway) : Prop where
  overseen : Overseen rules (fun _ _ _ _ => True) g
  saving : Throughout Saving g.history
  marks : ∀ imei entry, g.registry.getDevice imei = some entry →
    entry.lastPositionAt = (lastStored imei g.history).map Prod.fst ∧
      entry.lastSpeed = (lastStored imei g.history).map Prod.snd

theorem noting_handler (cfg : Config) (family : Family) (ip : Text) (raw : Bytes) :
    Guarded (rules family raw) (fun _ _ => True) ((pipelines cfg family).handler ip raw) [] := by
  have plainly : ∀ {p : Handler (Option Text)}, Confined Unmarked p →
      Guarded (rules family raw) (fun _ _ => True) p [] := by
    intro p confined
    have keeps : Keeps (Noting family) (fun _ => True) p :=
      noting_of_confined (fun _ _ _ => trivial) confined
    exact keeps [] trivial
  cases family with
  | gt06 => exact plainly (unmarked_processPacket cfg ip raw)
  | gps103 => exact noting_processGps103Message cfg ip raw [] trivial
  | teltonika => exact plainly (unmarked_processTeltonikaFrame cfg ip raw)

section Steps

variable {cfg : Config} {pipes : Family → Pipeline} {g g' : Gateway}

theorem storedMark_of_silent {e : Event} (silent : e.touches = false) (imei : Text)
    (earlier : List Event) : storedMark imei e earlier = none := by
  unfold Event.touches at silent
  unfold storedMark
  split
  · cases silent
  · rfl

theorem lastStored_of_silent {events : List Event} (silent : ∀ e ∈ events, e.touches = false)
    (imei : Text) (h : List Event) : lastStored imei (events ++ h) = lastStored imei h := by
  induction events with
  | nil => rfl
  | cons e events ih =>
      have quiet := silent e List.mem_cons_self
      rw [List.cons_append, lastStored, storedMark_of_silent quiet, reroutes_of_silent quiet]
      exact ih fun e' member => silent e' (List.mem_cons_of_mem e member)

/-- In a run that keeps to the rules, a mark was set after its position was stored. -/
theorem stored_of_noted {h : List Event} {c : Conn} {imei : Text} {speed : Number} {now : Instant}
    (obeys : Throughout (Obeys rules fun _ _ _ _ => True) h) (saving : Throughout Saving h)
    (obeyed :
      Obeys rules (fun _ _ _ _ => True) (.performed c ⟨.notePosition imei speed now, ()⟩) h) :
    stored imei speed now (ownTrace c h) = true := by
  obtain ⟨family, raw, detected, -, rfl, done | ⟨_, _, _, _, _, _, _, e, failed⟩⟩ := obeyed
  · exact done
  · have performed := mem_of_mem_ownTrace failed
    obtain ⟨later, earlier, whole, elsewhere⟩ := saving.exists_of_mem performed
    rw [whole] at obeys
    obtain ⟨family', _, before, -⟩ := obeys.at
    have kept : Event.detected c family' ∈ h := by
      rw [whole]
      exact List.mem_append_right _ (List.mem_cons_of_mem _ before)
    rw [← whole] at obeys
    obtain rfl := detected_unique obeys detected kept
    exact absurd before elsewhere

theorem undetected_of_handling {c : Conn} {s : Session} {program : Handler (Option Text)}
    {packets : List Bytes} (marked : Marked g)
    (at_ : (g.tasks c).phase = .handling s program packets) (other : s.protocol ≠ .gps103) :
    .detected c .gps103 ∉ g.history := by
  have watched := marked.overseen.watched c
  rw [at_] at watched
  obtain ⟨raw, detected, -⟩ := watched
  intro tracker
  exact other (detected_unique marked.overseen.obeys detected tracker)

theorem saving_step {p : System} {i : Input} (marked : Marked p.gateway)
    (allowed : saves p (.gateway i) = true) (moves : Server.Step cfg pipes p.gateway i g') :
    Throughout Saving g'.history := by
  have saving := marked.saving
  cases moves with
  | quiet turn move => exact saving
  | finish turn at_ => exact saving
  | lose turn => exact saving
  | @operate c answers s o next packets turn at_ =>
      refine ⟨?_, by simpa using saving⟩
      simp only [Gateway.perform_history]
      cases o with
      | execute statement =>
          cases statement with
          | saveLocation deviceId latitude longitude speed heading satellites eventTime =>
              simp only [saves, at_, Bool.or_eq_true, decide_eq_true_eq] at allowed
              change Saving (.performed c ⟨_, answers _⟩) _
              generalize answers (.execute (.saveLocation deviceId latitude longitude speed heading
                satellites eventTime)) = answer at allowed ⊢
              cases answer with
              | ok inserted => trivial
              | error e =>
                  rcases allowed with other | raised
                  · exact undetected_of_handling marked at_ other
                  · cases raised
          | _ => trivial
      | _ => trivial
  | crash turn at_ => exact ⟨trivial, trivial, saving⟩
  | release turn at_ => exact ⟨trivial, trivial, saving⟩
  | _ => exact ⟨trivial, saving⟩

theorem marks_step (marked : Marked g) (moves : EntryStep g g')
    (noted : ∀ c imei speed now, g'.history = .performed c ⟨.notePosition imei speed now, ()⟩ ::
      g.history → stored imei speed now (ownTrace c g.history) = true) :
    ∀ imei entry, g'.registry.getDevice imei = some entry →
      entry.lastPositionAt = (lastStored imei g'.history).map Prod.fst ∧
        entry.lastSpeed = (lastStored imei g'.history).map Prod.snd := by
  have marks := marked.marks
  cases moves with
  | @login c imei ip deviceId protocol connectedAt lastSeen registry history =>
      intro other entry found
      rw [registry] at found
      rw [history]
      by_cases same : other = imei
      · rw [same, Registry.getDevice_register_self] at found
        obtain rfl := Option.some.inj found
        simp [lastStored, storedMark, Event.reroutes, same]
      · rw [Registry.getDevice_register_ne same] at found
        simpa [lastStored, storedMark, Event.reroutes, Ne.symm same] using marks other entry found
  | @logout c imei deviceId registry history =>
      intro other entry found
      rw [registry] at found
      rw [history]
      by_cases same : other = imei
      · rw [same, Registry.getDevice_unregister_self] at found
        cases found
      · rw [Registry.getDevice_unregister_ne same] at found
        simpa [lastStored, storedMark, Event.reroutes, Ne.symm same] using marks other entry found
  | @note c imei speed now registry history =>
      intro other entry found
      have just := noted c imei speed now history
      rw [registry, Registry.notePosition, Registry.getDevice_modify] at found
      rw [history]
      by_cases same : other = imei
      · rw [if_pos same] at found
        obtain ⟨before, -, rfl⟩ := Option.map_eq_some_iff.mp found
        simp [lastStored, storedMark, same, just]
      · rw [if_neg same] at found
        simpa [lastStored, storedMark, Event.reroutes, Ne.symm same] using marks other entry found
  | @heard c imei now registry history =>
      intro other entry found
      rw [registry, Registry.updateLastSeen, Registry.getDevice_modify] at found
      rw [history]
      have kept : lastStored other (.returned c (.ok (some imei)) :: g.history) =
          lastStored other g.history :=
        lastStored_of_silent (List.forall_mem_singleton.mpr rfl) other g.history
      rw [kept]
      split at found
      · obtain ⟨before, known, rfl⟩ := Option.map_eq_some_iff.mp found
        exact marks other before known
      · exact marks other entry found
  | quiet events registry history silent =>
      intro other entry found
      rw [registry] at found
      rw [history, lastStored_of_silent silent]
      exact marks other entry found

theorem marked_gateway {p : System} {i : Input} (marked : Marked p.gateway)
    (allowed : saves p (.gateway i) = true)
    (moves : Server.Step cfg (pipelines cfg) p.gateway i g') : Marked g' := by
  have overseen := overseen_step (noting_handler cfg) marked.overseen moves
  have saving := saving_step marked allowed moves
  refine ⟨overseen, saving, marks_step marked (entry_step moves) ?_⟩
  intro c imei speed now history
  have obeys := overseen.obeys
  rw [history] at obeys
  exact stored_of_noted obeys.2 marked.saving obeys.1

theorem marked_step {p p' : System} {move : Move} (marked : Marked p.gateway)
    (allowed : saves p move = true) (moves : Step cfg (pipelines cfg) p move p') :
    Marked p'.gateway := by
  cases moves with
  | gateway works => exact marked_gateway marked allowed (Server.step_cases works)
  | @wrote imei rest made entry payload at_ found built =>
      refine ⟨⟨⟨trivial, marked.overseen.obeys⟩, ?_⟩, ⟨trivial, marked.saving⟩, ?_⟩
      · intro c
        exact watched_cons_ne (by simp [Event.concerns]) (marked.overseen.watched c)
      · intro other entry' known
        exact marked.marks other entry' known
  | @drained outcome now poll imei asked at_ =>
      refine ⟨⟨?_, ?_⟩, ?_, ?_⟩
      · simpa using marked.overseen.obeys
      · simpa using marked.overseen.watched
      · simpa using marked.saving
      · intro other entry found
        obtain ⟨before, known, same⟩ := entry_of_noted found
        rw [same, noted_history]
        exact marked.marks other before known
  | _ => exact marked

/-- An entry whose marks are those of the last stored position is due when the device is silent. -/
theorem due_of_silent {entry : Entry} {last : Option (Instant × Number)} {now : Instant}
    (position : entry.lastPositionAt = last.map Prod.fst)
    (speed : entry.lastSpeed = last.map Prod.snd) (family : entry.protocol = .gps103)
    (silent : Silent cfg now entry last) : isDue cfg now entry = true := by
  have interval : intervalFor cfg entry = if (last.map Prod.snd).any aboveZero then
      cfg.gps103PollSeconds else cfg.gps103PollIdleSeconds := by
    rw [intervalFor, speed]
  rw [isDue_iff, interval, position]
  exact ⟨family, silent⟩

end Steps

/-- In every run in which no statement raises that stores a position of a TK103 message, the marks
of a device are those of its last stored position, and a silent device is due. -/
theorem marks_truthful (cfg : Config) {p : System}
    (reached : Reachable (System.step cfg (pipelines cfg)) (saves · ·) .start p) :
    Truthful cfg p := by
  have marked : Marked p.gateway := by
    refine reached.invariant (P := fun p => Marked p.gateway) ?_ ?_
    · refine ⟨⟨trivial, ?_⟩, trivial, ?_⟩
      · intro c
        simp [Watched, System.start, Gateway.start]
      · intro imei entry found
        cases found
    · exact fun _ _ _ marked allowed moves => marked_step marked allowed (step_cases moves)
  refine ⟨fun imei entry found => (marked.marks imei entry found).1,
    fun imei entry found => (marked.marks imei entry found).2, ?_⟩
  intro imei entry now found family silent
  obtain ⟨position, speed⟩ := marked.marks imei entry found
  exact due_of_entry found (due_of_silent position speed family silent)

def report : Text :=
  "imei:868683022801132,tracker,1408121838,,F,183824.000,A,0656.2000,N,07951.2000,E,0.00,0;".toList

/-- Surroundings 400 seconds after the start, with a result for storing positions. -/
def storing (saved : Except Exn Bool) : (o : Op) → Res o
  | .utcNow => Spacing.seconds 400
  | .execute (.saveLocation ..) => saved
  | o => calm ['d'] o

/-- A device logs in and reports a position after 400 seconds. -/
def reported (saved : Except Exn Bool) : List Move :=
  Families.trackerLogin 0 Families.first ++
    ([.arrive 0 (.data (asciiBytes report))] ++
      List.replicate 10 (.resume 0 (storing saved)) : List Input).map .gateway

structure Sight where
  /-- the family, the time of the login and the marks of its entry -/
  entry : Option (Family × Instant × Option Instant × Option Instant)
  stored : Option Instant
  due : Bool
  deriving DecidableEq

def sight (p : System) : Sight where
  entry := (p.gateway.registry.getDevice Families.first).map fun entry =>
    (entry.protocol, entry.connectedAt, entry.lastPositionAt, entry.lastPollAt)
  stored := (lastStored Families.first p.gateway.history).map Prod.fst
  due := (dueDevices Spacing.asking (Spacing.seconds 400) p.gateway.registry).contains
    Families.first

/-- A position that could not be stored is remembered, and the device is not due although no
position of it was ever stored. -/
theorem marked_unstored : ∃ p entry, run (System.step Spacing.asking (pipelines Spacing.asking))
      .start (reported (.error .timeoutError)) = some p ∧
    p.gateway.registry.getDevice Families.first = some entry ∧
    entry.lastPositionAt = some (Spacing.seconds 400) ∧
    lastStored Families.first p.gateway.history = none ∧
    Silent Spacing.asking (Spacing.seconds 400) entry none ∧
    Families.first ∉ dueDevices Spacing.asking (Spacing.seconds 400) p.gateway.registry ∧
    ¬ Truthful Spacing.asking p := by
  have seen : (run (System.step Spacing.asking (pipelines Spacing.asking)) .start
      (reported (.error .timeoutError))).map sight =
        some ⟨some (.gps103, 0, some (Spacing.seconds 400), none), none, false⟩ := by
    decide +kernel
  obtain ⟨p, ran, view⟩ := Option.map_eq_some_iff.mp seen
  obtain ⟨row, unstored, due⟩ := Sight.mk.inj view
  obtain ⟨entry, found, row⟩ := Option.map_eq_some_iff.mp row
  simp only [Prod.mk.injEq] at row
  obtain ⟨family, connected, position, polled⟩ := row
  have nothing := Option.map_eq_none_iff.mp unstored
  have silent : Silent Spacing.asking (Spacing.seconds 400) entry none := by
    refine ⟨?_, by simp [polled]⟩
    simp only [Option.map_none, Option.getD_none, connected]
    decide
  have missed : Families.first ∉ dueDevices Spacing.asking (Spacing.seconds 400)
      p.gateway.registry := by
    intro member
    rw [List.contains_iff_mem.mpr member] at due
    cases due
  refine ⟨p, entry, ran, found, position, nothing, silent, missed, ?_⟩
  intro truthful
  rw [← nothing] at silent
  exact missed (truthful.due Families.first entry (Spacing.seconds 400) found family silent)

theorem marks_truthful_stored : ∃ p entry, run (System.step Spacing.asking
      (pipelines Spacing.asking)) .start (reported (.ok true)) = some p ∧
    p.gateway.registry.getDevice Families.first = some entry ∧
    entry.lastPositionAt = some (Spacing.seconds 400) ∧ Truthful Spacing.asking p := by
  have seen : (run (System.step Spacing.asking (pipelines Spacing.asking)) .start
      (reported (.ok true))).map sight = some ⟨some (.gps103, 0, some (Spacing.seconds 400), none),
        some (Spacing.seconds 400), false⟩ := by
    decide +kernel
  obtain ⟨p, ran, view⟩ := Option.map_eq_some_iff.mp seen
  obtain ⟨entry, found, row⟩ := Option.map_eq_some_iff.mp (Sight.mk.inj view).1
  simp only [Prod.mk.injEq] at row
  exact ⟨p, entry, ran, found, row.2.2.1,
    marks_truthful Spacing.asking (reachable_of_run .start (by decide +kernel) ran)⟩

end TrackerGateway.Polling.Marks
