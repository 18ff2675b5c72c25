/- module: TrackerGateway/Invariants/Silence
   source: src/tcp_server.py (handle_device), src/services/device_registry.py
     (mark_packet_received), src/services/health_service.py, the packet handlers
   digest: When the time of the last packet is that of a decoded packet, and silence is noticed. -/

import TrackerGateway.Fixtures.Logins
import TrackerGateway.Invariants.Attribution
import TrackerGateway.Services.HealthService
import TrackerGateway.Services.Verdicts

set_option autoImplicit false
set_option relaxedAutoImplicit false

namespace TrackerGateway.Invariants.Silence

open Fixtures.Logins (gps103Login)
open Foundation.Coroutine
open Foundation.Transition (Reachable Throughout run permittedRun reachable_of_run)
open Foundation.Wire (Text Bytes Instant asciiBytes)
open TrackerGateway.Runtime
open TrackerGateway.Server
open Services.HealthService
open Services.Verdicts
open Attribution (HasLoggedIn overseen_rules loggedIn_of_registrant told_of_registration)

variable (cfg : Config)

/-- A frame that counts: its connection has logged in, at the latest with this frame, its family's
parser has decoded it, and its branch has run to the end without an exception. -/
def Valid (c : Conn) (imei : Text) (earlier : List Event) : Prop :=
  HasLoggedIn c earlier ∧ ∃ family raw ip, .detected c family ∈ earlier ∧
    frame c earlier = some raw ∧ decodes cfg family raw = true ∧
    Completes cfg family ip raw (ownTrace c earlier).reverse imei

def Marked (c : Conn) (imei : Text) (later earlier h : List Event) : Prop :=
  h = later ++ .returned c (.ok (some imei)) :: earlier ∧ imei ≠ []

/-- The frames handled since an earlier moment that a parser takes: none. -/
def Malformed (since h : List Event) : Prop :=
  ∀ later c outcome earlier, h = later ++ .returned c outcome :: earlier →
    since.length ≤ earlier.length → ∀ family raw, .detected c family ∈ earlier →
      frame c earlier = some raw → decodes cfg family raw = false

def health (silenceSeconds : ℤ) (sight : Sight) (g : Gateway) : Report :=
  getHealth cfg.maxConnections silenceSeconds sight g.registry.byImei.entries.length g.lastPacketAt

/-- The silence is reported: the process is degraded, or worse for another reason. -/
def Noticed (sight : Sight) (lastPacket : Option Instant) (report : Report) : Prop :=
  silenceReason lastPacket sight.startedAt sight.now ∈ report.reasons ∧
    Level.degraded.rank ≤ report.status.rank ∧
    (sight.loop.ok = true → sight.db.ok = true → report.status = .degraded)

/-- Every packet that counts is valid, and a process that receives nothing else from some moment
on is reported once the silence is too long. -/
structure Sound (permitted : Gateway → Input → Prop) (g : Gateway) : Prop where
  valid : ∀ c imei later earlier, Marked c imei later earlier g.history → Valid cfg c imei earlier
  silent : ∀ g', Reachable (Gateway.step cfg (pipelines cfg)) permitted g g' →
    Malformed cfg g.history g'.history → g'.lastPacketAt = g.lastPacketAt ∧
      ∀ silenceSeconds sight,
        silenceSeconds * 1000000 < silentFor g.lastPacketAt sight.startedAt sight.now →
        Noticed sight g.lastPacketAt (health cfg silenceSeconds sight g')

/-- The reverse lookup finds no identity for a TK103 or FMB frame that its parser refuses, or whose
handling has failed at a lookup. -/
def sober (g : Gateway) : Input → Bool
  | .resume c _ =>
      match (g.tasks c).phase with
      | .handling s (.call .getImeiBySocket _) _ =>
          s.protocol = .gt06 || (truthy (g.registry.getImeiBySocket id c)).isNone ||
            (frame c g.history).all (decodes cfg s.protocol) &&
              (ownTrace c g.history).all (!lost ·)
      | _ => true
  | _ => true

section Lookups

variable {cfg}

/-- An identity is found for decoded frames only, as long as no lookup has failed. -/
def Clearly (cfg : Config) : Event → List Event → Prop
  | .performed c ⟨.getImeiBySocket, found⟩, earlier => ∀ family raw,
      .detected c family ∈ earlier → frame c earlier = some raw → family ≠ .gt06 →
        (truthy found).isSome = true →
        decodes cfg family raw = true ∧ ∀ a ∈ ownTrace c earlier, Found a
  | _, _ => True

theorem clearly_operate {g : Gateway} {c : Conn} {answers : (o : Op) → Res o} {s : Session}
    {o : Op} {next : Res o → Handler (Option Text)} {packets : List Bytes}
    (overseen : Overseen (fun _ _ _ _ => True) (Run (pipelines cfg)) g)
    (at_ : (g.tasks c).phase = .handling s (.call o next) packets)
    (allowed : sober cfg g (.resume c answers) = true) :
    Clearly cfg (.performed c ⟨o, (g.perform c answers o).1⟩) g.history := by
  cases o with
  | getImeiBySocket =>
      intro family raw detected current foreign found
      have watched := overseen.watched c
      rw [at_] at watched
      have same : family = s.protocol :=
        detected_unique overseen.obeys detected watched.choose_spec.1
      rw [sober, at_] at allowed
      have real : (truthy (g.registry.getImeiBySocket id c)).isNone = false := by
        rw [← Option.not_isSome]
        exact congrArg not found
      simp only [current, Option.all_some, real, Bool.or_false, Bool.or_eq_true, Bool.and_eq_true,
        decide_eq_true_eq, List.all_eq_true, Bool.not_eq_true'] at allowed
      rcases allowed with v5 | clean
      · exact absurd (same.trans v5) foreign
      · rw [same]
        exact clean
  | _ => trivial

theorem clearly {g : Gateway}
    (reached : Reachable (Gateway.step cfg (pipelines cfg)) (fun g i => sober cfg g i = true)
      .start g) : Throughout (Clearly cfg) g.history := by
  have start : Throughout (Clearly cfg) Gateway.start.history := trivial
  refine reached.invariant_of_reached (P := fun g => Throughout (Clearly cfg) g.history) start ?_
  intro g i g' before clear allowed moves
  cases step_cases moves with
  | @operate c answers s o next packets turn at_ =>
      refine ⟨?_, by simpa using clear⟩
      simp only [Gateway.perform_history]
      exact clearly_operate (overseen_run before) at_ allowed
  | quiet turn move => exact clear
  | finish turn at_ => exact clear
  | lose turn => exact clear
  | crash turn at_ => exact ⟨trivial, trivial, clear⟩
  | release turn at_ => exact ⟨trivial, trivial, clear⟩
  | _ => exact ⟨trivial, clear⟩

end Lookups

section Validity

variable {cfg}

theorem hasLoggedIn_of_named {h : List Event} {c : Conn} {imei : Text}
    (obeys : Throughout (Obeys Attribution.rules Attribution.outcomes) h)
    (truthful : Throughout Truthful h)
    (named : Services.Discipline.Named (ownTrace c h) (.ok (some imei))) : HasLoggedIn c h := by
  rcases named with found | ⟨deviceId, ip, protocol, connectedAt, lastSeen, registered⟩
  · obtain ⟨later, earlier, rfl, told⟩ := truthful.exists_of_mem (mem_of_mem_ownTrace found)
    obtain ⟨deviceId, last⟩ := told imei rfl
    have has := (loggedIn_of_registrant obeys.of_append.2 last).has
    apply has.mono
    intro e member
    exact List.mem_append_right _ (List.mem_cons_of_mem _ member)
  · have member := mem_of_mem_ownTrace registered
    exact ⟨imei, deviceId, told_of_registration obeys member rfl, _, member, rfl⟩

/-- In the current frame of a connection an identity is found only while nothing is wrong. -/
theorem clear_of_clearly {h : List Event} {c : Conn} {family : Family} {raw : Bytes}
    (obeys : Throughout (Obeys (fun _ _ _ _ => True) (Run (pipelines cfg))) h)
    (clearly : Throughout (Clearly cfg) h) (detected : .detected c family ∈ h)
    (current : frame c h = some raw) (foreign : family ≠ .gt06) :
    Clear cfg family raw (ownTrace c h).reverse := by
  intro front back found whole real
  have trace : ownTrace c h = back.reverse ++ ⟨.getImeiBySocket, some found⟩ :: front.reverse := by
    rw [← List.reverse_reverse (ownTrace c h), whole]
    simp
  obtain ⟨later, earlier, rfl, own, begun⟩ := split_ownTrace trace
  obtain ⟨family', raw', detected', current', -⟩ := obeys.at
  have sub : earlier ⊆ later ++ .performed c ⟨.getImeiBySocket, some found⟩ :: earlier := by
    intro e member
    exact List.mem_append_right _ (List.mem_cons_of_mem _ member)
  obtain rfl : family = family' := detected_unique obeys detected (sub detected')
  have same : raw' = raw := by
    have whole' : later ++ .performed c ⟨.getImeiBySocket, some found⟩ :: earlier =
        (later ++ [.performed c ⟨.getImeiBySocket, some found⟩]) ++ earlier := by simp
    rw [whole'] at current begun
    exact frame_eq_of_atBegin current current' begun
  subst same
  have isSome : (truthy (some found)).isSome = true := by
    rw [truthy_eq_some_iff.mpr ⟨rfl, real⟩]
    rfl
  obtain ⟨decoded, clean⟩ := clearly.at family raw' detected' current' foreign isSome
  refine ⟨decoded, ?_⟩
  intro a member
  apply clean
  rw [own]
  exact List.mem_reverse.mpr member

theorem handler_eq (family : Family) :
    ((pipelines cfg) family).handler = handler cfg family := by
  cases family <;> rfl

theorem valid_of_marked {g : Gateway}
    (reached : Reachable (Gateway.step cfg (pipelines cfg)) (fun g i => sober cfg g i = true)
      .start g) {c : Conn} {imei : Text} {later earlier : List Event}
    (marked : Marked c imei later earlier g.history) : Valid cfg c imei earlier := by
  obtain ⟨whole, real⟩ := marked
  have rules := (overseen_rules reached).obeys
  have runs := (overseen_run reached).obeys
  have lookups := clearly reached
  have truthful := truthful reached
  rw [whole] at rules runs lookups truthful
  obtain ⟨_, _, _, _, named⟩ := rules.at
  obtain ⟨family, raw, detected, current, ip, ran⟩ := runs.at
  refine ⟨hasLoggedIn_of_named rules.of_append.2 truthful.of_append.2 named, family, raw, ip,
    detected, current, ?_⟩
  rw [handler_eq] at ran
  apply completes_of_named ran real
  intro foreign
  exact clear_of_clearly runs.of_append.2 lookups.of_append.2 detected current foreign

end Validity

section Marks

variable {cfg}

/-- One step adds to the history, and the time of the last packet changes only with a packet that
counts. -/
theorem heard_step {pipes : Family → Pipeline} {g g' : Gateway} {i : Input}
    (moves : Step cfg pipes g i g') : ∃ events, g'.history = events ++ g.history ∧
      (g'.lastPacketAt = g.lastPacketAt ∨
        ∃ c imei, Marked c imei [] g.history g'.history) := by
  cases moves with
  | @named c answers s imei packets turn at_ real =>
      exact ⟨[.returned c (.ok (some imei))], rfl, .inr ⟨c, imei, rfl, real⟩⟩
  | @operate c answers s o next packets turn at_ =>
      refine ⟨[.performed c ⟨o, (g.perform c answers o).1⟩], by simp, .inl ?_⟩
      cases o <;> rfl
  | quiet turn move => exact ⟨[], rfl, .inl rfl⟩
  | finish turn at_ => exact ⟨[], rfl, .inl rfl⟩
  | lose turn => exact ⟨[], rfl, .inl rfl⟩
  | crash turn at_ => exact ⟨[_, _], rfl, .inl rfl⟩
  | release turn at_ => exact ⟨[_, _], rfl, .inl rfl⟩
  | _ => exact ⟨[_], rfl, .inl rfl⟩

theorem heard_run {pipes : Family → Pipeline} {permitted : Gateway → Input → Prop} {g g' : Gateway}
    (later : Reachable (Gateway.step cfg pipes) permitted g g') :
    (∃ events, g'.history = events ++ g.history) ∧ (g'.lastPacketAt = g.lastPacketAt ∨
      ∃ c imei events earlier, Marked c imei events earlier g'.history ∧
        g.history.length ≤ earlier.length) := by
  induction later with
  | start => exact ⟨⟨[], rfl⟩, .inl rfl⟩
  | @next middle g' i before _ moves ih =>
      obtain ⟨⟨events, whole⟩, told⟩ := ih
      obtain ⟨more, grown, step⟩ := heard_step (step_cases moves)
      refine ⟨⟨more ++ events, by rw [grown, whole, List.append_assoc]⟩, ?_⟩
      rcases step with same | ⟨c, imei, marked⟩
      · rcases told with kept | ⟨c, imei, front, earlier, ⟨split, real⟩, long⟩
        · exact .inl (same.trans kept)
        · refine .inr ⟨c, imei, more ++ front, earlier, ⟨?_, real⟩, long⟩
          rw [grown, split, List.append_assoc]
      · refine .inr ⟨c, imei, [], middle.history, marked, ?_⟩
        rw [whole, List.length_append]
        exact Nat.le_add_left _ _

theorem noticed {silenceSeconds : ℤ} {sight : Sight} {g : Gateway}
    (silent : silenceSeconds * 1000000 < silentFor g.lastPacketAt sight.startedAt sight.now) :
    Noticed sight g.lastPacketAt (health cfg silenceSeconds sight g) := by
  obtain ⟨reason, level⟩ :=
    silence_reported cfg.maxConnections g.registry.byImei.entries.length silent
  exact ⟨reason, level, fun turns answers => silence_degrades _ _ silent turns answers⟩

end Marks

/-- In every run in which the reverse lookup finds no identity for a frame that is refused or has
failed, the packets that count are decoded packets of connections that have logged in. While only
malformed frames are handled the time of the last packet stands still, and the silence is
reported when it is too long. -/
theorem silence_sees_valid_packets {g : Gateway}
    (reached : Reachable (Gateway.step cfg (pipelines cfg)) (fun g i => sober cfg g i = true)
      .start g) : Sound cfg (fun g i => sober cfg g i = true) g := by
  refine ⟨fun c imei later earlier marked => valid_of_marked reached marked, ?_⟩
  intro g' later malformed
  have same : g'.lastPacketAt = g.lastPacketAt := by
    rcases (heard_run later).2 with same | ⟨c, imei, events, earlier, marked, long⟩
    · exact same
    · obtain ⟨-, family, raw, ip, detected, current, decoded, -⟩ :=
        valid_of_marked (reached.trans later) marked
      rw [malformed events c _ earlier marked.1 long family raw detected current] at decoded
      cases decoded
  refine ⟨same, ?_⟩
  intro silenceSeconds sight silent
  rw [← same] at silent ⊢
  exact noticed silent

def timed (seconds : ℤ) : (o : Op) → Res o
  | .utcNow => seconds * 1000000
  | o => calm ['d'] o

def imei : Text := "868683022801132".toList

/-- A TK103 unit logs in, and sends a message an hour later. -/
def messages (text : String) (steps : Nat) : List Input :=
  [.connect 0 [], .arrive 0 (.data (gps103Login imei))] ++
    List.replicate 19 (.resume 0 (timed 0)) ++
    [.arrive 0 (.data (asciiBytes text.toList))] ++ List.replicate steps (.resume 0 (timed 3600))

/-- The last event, if a packet that counts: its connection's frame, and the families it was
detected as. -/
def lastCounted : List Event → Option (Text × Option Bytes × List Family)
  | .returned c (.ok (some imei)) :: earlier => some (imei, frame c earlier,
      earlier.filterMap fun e => match e with
        | .detected c' family => if c' = c then some family else none
        | _ => none)
  | _ => none

/-- A message without an identity is refused by its parser, and the process has been heard of. -/
theorem malformed_heard : ∃ g, run (Gateway.step defaults (pipelines defaults)) .start
      (messages "imei:12;" 4) = some g ∧
    g.lastPacketAt = some 3600000000 ∧
    Parsers.Gps103.parseTracker defaults "imei:12".toList =
      .error (.gps103ParseError "invalid IMEI in tracker message".toList) ∧
    ¬ Sound defaults (fun _ _ => True) g := by
  have late : (run (Gateway.step defaults (pipelines defaults)) .start
      (messages "imei:12;" 4)).map Gateway.lastPacketAt = some (some 3600000000) := by
    decide +kernel
  have counted : (run (Gateway.step defaults (pipelines defaults)) .start
      (messages "imei:12;" 4)).map (fun g => lastCounted g.history) =
      some (some (imei, some (asciiBytes "imei:12".toList), [.gps103])) := by
    decide +kernel
  obtain ⟨g, ran, heard⟩ := Option.map_eq_some_iff.mp late
  rw [ran] at counted
  have last : lastCounted g.history = some (imei, some (asciiBytes "imei:12".toList), [.gps103]) :=
    Option.some.inj counted
  refine ⟨g, ran, heard, rfl, ?_⟩
  intro sound
  cases shape : g.history with
  | nil =>
      rw [shape] at last
      cases last
  | cons e earlier =>
      rw [shape] at last
      unfold lastCounted at last
      split at last
      · next c imei' earlier' same =>
          cases same
          simp only [Option.some.injEq, Prod.mk.injEq] at last
          obtain ⟨rfl, current, families⟩ := last
          obtain ⟨-, family, raw, ip, detected, current', decoded, -⟩ :=
            sound.valid c imei [] earlier ⟨shape, by decide +kernel⟩
          have listed : family ∈ [Family.gps103] := by
            rw [← families]
            exact List.mem_filterMap.mpr ⟨_, detected, if_pos rfl⟩
          obtain rfl := List.mem_singleton.mp listed
          rw [current] at current'
          cases current'
          have refused : decodes defaults .gps103 (asciiBytes "imei:12".toList) = false := by
            decide +kernel
          rw [refused] at decoded
          cases decoded
      · cases last

/-- A unit that sends its heartbeat after an hour. -/
theorem silence_sees_heartbeat : ∃ g, run (Gateway.step defaults (pipelines defaults)) .start
      (messages "868683022801132;" 10) = some g ∧
    g.lastPacketAt = some 3600000000 ∧
    Sound defaults (fun g i => sober defaults g i = true) g := by
  have seen : (run (Gateway.step defaults (pipelines defaults)) .start
      (messages "868683022801132;" 10)).map Gateway.lastPacketAt = some (some 3600000000) := by
    decide +kernel
  obtain ⟨g, ran, heard⟩ := Option.map_eq_some_iff.mp seen
  exact ⟨g, ran, heard,
    silence_sees_valid_packets defaults (reachable_of_run .start (by decide +kernel) ran)⟩

end TrackerGateway.Invariants.Silence
