/- module: TrackerGateway/Polling/Spacing
   source: src/services/gps103_poller.py, src/config.py
   digest: How far apart in time the requests to one registration are. -/

import TrackerGateway.Polling.Families
import TrackerGateway.Server.Entries

set_option autoImplicit false
set_option relaxedAutoImplicit false

namespace TrackerGateway.Polling.Spacing

open Foundation.Transition (Reachable run reachable_of_run)
open Foundation.Wire (Text Instant)
open TrackerGateway.Runtime
open Server
open Server.Polling
open Services (Registry)
open Services.Gps103Poller

/-- A position request that was written, with its time and the history before it. -/
structure Request where
  imei : Text
  conn : Conn
  time : Instant
  made : List Event

/-- The process, the latest time it was moved at, and the requests so far, newest first. -/
structure Clocked where
  system : System
  clock : Instant
  requests : List Request

def Clocked.start (clock : Instant) : Clocked := ⟨.start, clock, []⟩

def reads (now : Instant) : Move → Bool
  | .wake now' _ | .drained _ now' => now' = now
  | _ => true

def written (p p' : System) (now : Instant) : List Request :=
  (p'.asked.take (p'.asked.length - p.asked.length)).map fun asked =>
    ⟨asked.imei, asked.conn, now, p.gateway.history⟩

/-- One step, at a time that is not before the last one. -/
def Clocked.step (cfg : Config) (pipes : Family → Pipeline) (p : Clocked) (input : Instant × Move) :
    Option Clocked :=
  if p.clock ≤ input.1 ∧ reads input.1 input.2 = true then
    (p.system.step cfg pipes input.2).map fun system => {
      system
      clock := input.1
      requests := written p.system system input.1 ++ p.requests }
  else none

/-- Two requests to one connection under one registration: between them the identity has neither
logged in nor been torn down. -/
def SameRegistration (later earlier : Request) : Prop :=
  later.imei = earlier.imei ∧ later.conn = earlier.conn ∧
    lastRoute earlier.imei (later.made.take (later.made.length - earlier.made.length)) = none

instance (later earlier : Request) : Decidable (SameRegistration later earlier) :=
  inferInstanceAs (Decidable (_ ∧ _ ∧ _))

/-- Requests under one registration are at least the poll interval apart. -/
def Spaced (cfg : Config) (requests : List Request) : Prop :=
  requests.Pairwise fun later earlier => SameRegistration later earlier →
    earlier.time + cfg.gps103PollSeconds * 1000000 ≤ later.time

/-- No request is left undrained by an error or a timeout. -/
def drains (_ : Clocked) : Instant × Move → Bool
  | (_, .drained (.error _) _) => false
  | _ => true

def Current (h : List Event) (r : Request) : Prop :=
  ∃ events, h = events ++ r.made ∧ lastRoute r.imei events = none

def pending : Poller → List Text
  | .sleeping => []
  | .asking poll => poll.rest
  | .draining poll imei _ => imei :: poll.rest

def waiting : Poller → List Text
  | .sleeping => []
  | .asking poll | .draining poll _ _ => poll.rest

def polledAt (p : System) (imei : Text) : Option (Option Instant) :=
  (p.gateway.registry.getDevice imei).map Entry.lastPollAt

def Draining (p : System) (r : Request) : Prop :=
  ∃ poll, p.poller = .draining poll r.imei r.made

/-- A request under a standing registration is being drained, or its time or a later one is
remembered; and who is still to be asked was last asked an interval ago. -/
structure Paced (cfg : Config) (p : Clocked) : Prop where
  spaced : Spaced cfg p.requests
  past : ∀ r ∈ p.requests, r.time ≤ p.clock ∧
    ∃ events, p.system.gateway.history = events ++ r.made
  marked : ∀ r ∈ p.requests, Current p.system.gateway.history r →
    ∃ last, polledAt p.system r.imei = some last ∧
      (Draining p.system r ∨ ∃ t, last = some t ∧ r.time ≤ t)
  due : ∀ r ∈ p.requests, r.imei ∈ waiting p.system.poller → Current p.system.gateway.history r →
    r.time + cfg.gps103PollSeconds * 1000000 ≤ p.clock
  once : (pending p.system.poller).Nodup

section Steps

variable {cfg : Config} {pipes : Family → Pipeline} {p : Clocked} {system : System} {move : Move}
  {now : Instant}

theorem current_of_grown {h events : List Event} {r : Request}
    (past : ∃ before, h = before ++ r.made) (current : Current (events ++ h) r) :
    lastRoute r.imei events = none ∧ Current h r := by
  obtain ⟨before, rfl⟩ := past
  obtain ⟨all, whole, kept⟩ := current
  rw [← List.append_assoc] at whole
  obtain rfl := List.append_cancel_right whole
  rw [lastRoute_append, Option.or_eq_none_iff] at kept
  exact ⟨kept.1, before, rfl, kept.2⟩

theorem written_same (same : system.asked = p.system.asked) :
    written p.system system now = [] := by
  rw [written, same, Nat.sub_self, List.take_zero, List.map_nil]

/-- A step that writes nothing keeps all, if the marks of the standing requests last and no one else
has to be asked. -/
theorem Paced.quiet (paced : Paced cfg p) (later : p.clock ≤ now) (events : List Event)
    (history : system.gateway.history = events ++ p.system.gateway.history)
    (asked : system.asked = p.system.asked)
    (marks : ∀ r ∈ p.requests, lastRoute r.imei events = none →
      Current p.system.gateway.history r → ∀ last, polledAt p.system r.imei = some last →
      (Draining p.system r ∨ ∃ t, last = some t ∧ r.time ≤ t) →
      ∃ last, polledAt system r.imei = some last ∧
        (Draining system r ∨ ∃ t, last = some t ∧ r.time ≤ t))
    (fewer : ∀ imei ∈ waiting system.poller, imei ∈ waiting p.system.poller)
    (once : (pending system.poller).Nodup) :
    Paced cfg ⟨system, now, written p.system system now ++ p.requests⟩ := by
  rw [written_same asked, List.nil_append]
  refine ⟨paced.spaced, ?_, ?_, ?_, once⟩
  · intro r member
    obtain ⟨before, grown⟩ := (paced.past r member).2
    refine ⟨(paced.past r member).1.trans later, events ++ before, ?_⟩
    rw [history, grown, List.append_assoc]
  · intro r member current
    rw [history] at current
    obtain ⟨kept, stood⟩ := current_of_grown (paced.past r member).2 current
    obtain ⟨last, polled, mark⟩ := paced.marked r member stood
    exact marks r member kept stood last polled mark
  · intro r member listed current
    rw [history] at current
    obtain ⟨-, stood⟩ := current_of_grown (paced.past r member).2 current
    exact (paced.due r member (fewer _ listed) stood).trans later

theorem paced_gateway (paced : Paced cfg p) (later : p.clock ≤ now) {g : Gateway}
    (moves : EntryStep p.system.gateway g) :
    Paced cfg ⟨{ p.system with gateway := g }, now,
      written p.system { p.system with gateway := g } now ++ p.requests⟩ := by
  obtain ⟨events, history, lasting⟩ :=
    lasting_step Entry.lastPollAt (fun _ _ _ => rfl) (fun _ _ => rfl) moves
  refine paced.quiet later events history rfl ?_ (fun _ listed => listed) paced.once
  intro r member kept stood last polled mark
  exact ⟨last, (lasting r.imei kept).trans polled, mark⟩

theorem paced_wake (ordered : cfg.gps103PollSeconds ≤ cfg.gps103PollIdleSeconds)
    (paced : Paced cfg p) (later : p.clock ≤ now) {due : List Text}
    (idle : p.system.poller = .sleeping)
    (lists : due.Perm (dueDevices cfg now p.system.gateway.registry)) :
    Paced cfg ⟨{ p.system with poller := .asking ⟨due, p.system.gateway.history⟩ }, now,
      written p.system { p.system with poller := .asking ⟨due, p.system.gateway.history⟩ } now ++
        p.requests⟩ := by
  have marked : ∀ r ∈ p.requests, Current p.system.gateway.history r →
      ∃ t, polledAt p.system r.imei = some (some t) ∧ r.time ≤ t := by
    intro r member current
    obtain ⟨last, polled, ⟨poll, at_⟩ | ⟨t, rfl, behind⟩⟩ := paced.marked r member current
    · rw [idle] at at_
      cases at_
    · exact ⟨t, polled, behind⟩
  have nothing : written p.system
      { p.system with poller := .asking ⟨due, p.system.gateway.history⟩ } now = [] :=
    written_same rfl
  rw [nothing, List.nil_append]
  refine ⟨paced.spaced, ?_, ?_, ?_, ?_⟩
  · intro r member
    exact ⟨(paced.past r member).1.trans later, (paced.past r member).2⟩
  · intro r member current
    obtain ⟨t, polled, behind⟩ := marked r member current
    exact ⟨some t, polled, .inr ⟨t, rfl, behind⟩⟩
  · intro r member listed current
    obtain ⟨t, polled, behind⟩ := marked r member current
    obtain ⟨entry, found, asked⟩ := entry_of_due (lists.mem_iff.mp listed)
    have last : entry.lastPollAt = some t := by simpa [polledAt, found] using polled
    have waited := interval_since_poll asked last
    have least := pollSeconds_le ordered entry
    dsimp only
    linarith
  · exact (lists.nodup_iff).mpr dueDevices_nodup

theorem paced_wrote (paced : Paced cfg p) (later : p.clock ≤ now)
    (payload : Foundation.Wire.Bytes) {imei : Text} {rest : List Text} {made : List Event}
    {entry : Entry}
    (at_ : p.system.poller = .asking ⟨imei :: rest, made⟩)
    (found : p.system.gateway.registry.getDevice imei = some entry) :
    Paced cfg ⟨{
        gateway := p.system.gateway.record (.pushed entry.socket payload)
        poller := .draining ⟨rest, made⟩ imei p.system.gateway.history
        asked := ⟨imei, entry.socket, payload, p.system.gateway.registry⟩ :: p.system.asked },
      now, ⟨imei, entry.socket, now, p.system.gateway.history⟩ :: p.requests⟩ := by
  have listed := paced.due
  have once := paced.once
  rw [at_] at listed once
  have earlier : ∀ r ∈ p.requests,
      Current (.pushed entry.socket payload :: p.system.gateway.history) r →
        Current p.system.gateway.history r := by
    intro r member current
    rw [← List.singleton_append] at current
    exact (current_of_grown (paced.past r member).2 current).2
  refine ⟨List.pairwise_cons.mpr ⟨?_, paced.spaced⟩, ?_, ?_, ?_, once⟩
  · rintro r member ⟨same, -, kept⟩
    have asked : imei = r.imei := same
    obtain ⟨events, grown⟩ := (paced.past r member).2
    dsimp only at kept
    rw [grown, List.take_left' (by simp)] at kept
    refine (listed r member ?_ ⟨events, grown, kept⟩).trans later
    rw [← asked]
    exact List.mem_cons_self
  · intro r member
    rcases List.mem_cons.mp member with rfl | before
    · exact ⟨le_refl _, [_], rfl⟩
    · obtain ⟨events, grown⟩ := (paced.past r before).2
      exact ⟨(paced.past r before).1.trans later, _ :: events, congrArg _ grown⟩
  · intro r member current
    rcases List.mem_cons.mp member with rfl | before
    · exact ⟨entry.lastPollAt, congrArg _ found, .inl ⟨_, rfl⟩⟩
    · have stood := earlier r before current
      obtain ⟨last, polled, ⟨poll, drains⟩ | mark⟩ := paced.marked r before stood
      · rw [at_] at drains
        cases drains
      · exact ⟨last, polled, .inr mark⟩
  · intro r member waits current
    rcases List.mem_cons.mp member with rfl | before
    · exact absurd waits (List.nodup_cons.mp once).1
    · exact (listed r before (List.mem_cons_of_mem imei waits) (earlier r before current)).trans
        later

theorem paced_drained (paced : Paced cfg p) (later : p.clock ≤ now) {poll : Poll} {imei : Text}
    {asked : List Event} (at_ : p.system.poller = .draining poll imei asked) :
    Paced cfg ⟨{ p.system with
        gateway := p.system.noted imei asked (.ok ()) now, poller := .asking poll }, now,
      written p.system { p.system with
        gateway := p.system.noted imei asked (.ok ()) now, poller := .asking poll } now ++
        p.requests⟩ := by
  have once := paced.once
  rw [at_] at once
  refine paced.quiet later [] (by simp) rfl ?_ ?_ (List.nodup_cons.mp once).2
  · intro r member _ stood last polled mark
    have noted : polledAt { p.system with
          gateway := p.system.noted imei asked (.ok ()) now, poller := .asking poll } r.imei =
        if r.imei = imei ∧ lastRoute imei (p.system.since asked) = none then some (some now)
        else some last := by
      unfold polledAt at polled ⊢
      dsimp only [System.noted]
      by_cases kept : lastRoute imei (p.system.since asked) = none
      · rw [if_pos kept, notePoll, Registry.getDevice_modify]
        by_cases here : r.imei = imei
        · rw [if_pos here, if_pos ⟨here, kept⟩]
          cases found : p.system.gateway.registry.getDevice r.imei with
          | none => simp [found] at polled
          | some entry => rfl
        · rw [if_neg here, if_neg fun both => here both.1, polled]
      · rw [if_neg kept, if_neg fun both => kept both.2, polled]
    by_cases now_ : r.imei = imei ∧ lastRoute imei (p.system.since asked) = none
    · rw [if_pos now_] at noted
      exact ⟨some now, noted, .inr ⟨now, rfl, (paced.past r member).1.trans later⟩⟩
    · rw [if_neg now_] at noted
      rcases mark with ⟨poll', drains⟩ | mark
      · rw [at_] at drains
        obtain ⟨-, rfl, rfl⟩ := Poller.draining.inj drains
        obtain ⟨events, grown, kept⟩ := stood
        rw [Families.since_eq grown] at now_
        exact absurd ⟨rfl, kept⟩ now_
      · exact ⟨last, noted, .inr mark⟩
  · intro imei' listed
    rw [at_]
    exact listed

theorem paced_step (ordered : cfg.gps103PollSeconds ≤ cfg.gps103PollIdleSeconds)
    (paced : Paced cfg p) (allowed : drains p (now, move) = true) {p' : Clocked}
    (moves : p.step cfg pipes (now, move) = some p') : Paced cfg p' := by
  obtain ⟨⟨later, reading⟩, moves⟩ := ite_eq_some moves
  obtain ⟨system, ran, rfl⟩ := Option.map_eq_some_iff.mp moves
  cases step_cases ran with
  | gateway works => exact paced_gateway paced later (entry_step (Server.step_cases works))
  | @wake now' due idle lists =>
      obtain rfl : now' = now := by simpa [reads] using reading
      exact paced_wake ordered paced later idle lists
  | sleep at_ =>
      refine paced.quiet later [] rfl rfl ?_ (by simp [waiting]) List.nodup_nil
      intro r member _ _ last polled mark
      rcases mark with ⟨poll, drains⟩ | mark
      · rw [at_] at drains
        cases drains
      · exact ⟨last, polled, .inr mark⟩
  | @pass writing imei rest made at_ =>
      have once := paced.once
      rw [at_] at once
      refine paced.quiet later [] rfl rfl ?_ ?_ (List.nodup_cons.mp once).2
      · intro r member _ _ last polled mark
        rcases mark with ⟨poll, drains⟩ | mark
        · rw [at_] at drains
          cases drains
        · exact ⟨last, polled, .inr mark⟩
      · intro imei' listed
        rw [at_]
        exact List.mem_cons_of_mem imei listed
  | @wrote imei rest made entry payload at_ found built =>
      have new : written p.system {
          gateway := p.system.gateway.record (.pushed entry.socket payload)
          poller := .draining ⟨rest, made⟩ imei p.system.gateway.history
          asked := ⟨imei, entry.socket, payload, p.system.gateway.registry⟩ :: p.system.asked }
          now = [⟨imei, entry.socket, now, p.system.gateway.history⟩] := by
        simp [written]
      have next := paced_wrote paced later payload at_ found
      rw [new]
      exact next
  | @drained outcome now' poll imei asked at_ =>
      obtain rfl : now' = now := by simpa [reads] using reading
      cases outcome with
      | ok done => exact paced_drained paced later at_
      | error e => cases allowed

end Steps

/-- In every run with a clock that does not go back, and in which every request is drained, the
requests under one registration are at least the poll interval apart. -/
theorem requests_spaced (cfg : Config) (poll idle : ℤ) (pipes : Family → Pipeline)
    (clock : Instant) {p : Clocked}
    (reached : Reachable (Clocked.step (cfg.withPolling poll idle) pipes) (drains · ·)
      (.start clock) p) : Spaced (cfg.withPolling poll idle) p.requests := by
  have paced : Paced (cfg.withPolling poll idle) p := by
    refine reached.invariant (P := fun p => Paced (cfg.withPolling poll idle) p) ?_ ?_
    · refine ⟨List.Pairwise.nil, ?_, ?_, ?_, List.nodup_nil⟩ <;> simp [Clocked.start]
    · rintro p input p' paced allowed moves
      obtain ⟨now, move⟩ := input
      exact paced_step (cfg.withPolling_le poll idle) paced allowed moves
  exact paced.spaced

/-- Moving devices are asked every 30 seconds, parked ones every 300. -/
def asking : Config := defaults.withPolling 30 300

def seconds (n : ℤ) : Instant := n * 1000000

/-- A device logs in and is due 400 seconds later. -/
def silent : List (Instant × Move) :=
  (Families.trackerLogin 0 Families.first).map (0, ·) ++
    [(seconds 400, .wake (seconds 400) [Families.first]), (seconds 400, .ask (.ok ()))]

/-- Draining the request takes too long; the next poll, 15 seconds after that, asks again. -/
def askedTwice : List (Instant × Move) :=
  silent ++ [(seconds 405, .drained (.error .timeoutError) (seconds 405)),
    (seconds 405, .ask (.ok ())), (seconds 420, .wake (seconds 420) [Families.first]),
    (seconds 420, .ask (.ok ()))]

/-- The request is drained, and the device is asked again 300 seconds later. -/
def askedOnce : List (Instant × Move) :=
  silent ++ [(seconds 400, .drained (.ok ()) (seconds 400)), (seconds 400, .ask (.ok ())),
    (seconds 700, .wake (seconds 700) [Families.first]), (seconds 700, .ask (.ok ()))]

private def shown (p : Clocked) : List Instant × Bool :=
  (p.requests.map Request.time,
    match p.requests with
    | later :: earlier :: _ => SameRegistration later earlier
    | _ => false)

/-- A request that cannot be drained is repeated after 20 seconds under the same registration. -/
theorem asked_after_timeout : ∃ p, run (Clocked.step asking (pipelines asking)) (.start 0)
      askedTwice = some p ∧ p.requests.map Request.time = [seconds 420, seconds 400] ∧
    ¬ Spaced asking p.requests := by
  have seen : (run (Clocked.step asking (pipelines asking)) (.start 0) askedTwice).map shown =
      some ([seconds 420, seconds 400], true) := by
    decide +kernel
  obtain ⟨p, ran, view⟩ := Option.map_eq_some_iff.mp seen
  obtain ⟨times, same⟩ := Prod.mk.inj view
  refine ⟨p, ran, times, ?_⟩
  intro spaced
  split at same
  · next later earlier others requests =>
      rw [requests] at times spaced
      obtain ⟨first, rest⟩ := List.cons.inj times
      obtain ⟨second, -⟩ := List.cons.inj rest
      have apart := (List.pairwise_cons.mp spaced).1 earlier List.mem_cons_self
        (of_decide_eq_true same)
      rw [first, second] at apart
      exact absurd apart (by decide)
  · cases same

theorem requests_spaced_drained : ∃ p, run (Clocked.step asking (pipelines asking)) (.start 0)
      askedOnce = some p ∧ p.requests.map Request.time = [seconds 700, seconds 400] ∧
    Spaced asking p.requests := by
  have seen : (run (Clocked.step asking (pipelines asking)) (.start 0) askedOnce).map
      (fun p => p.requests.map Request.time) = some [seconds 700, seconds 400] := by
    decide +kernel
  obtain ⟨p, ran, times⟩ := Option.map_eq_some_iff.mp seen
  exact ⟨p, ran, times, requests_spaced defaults 30 300 _ 0
    (reachable_of_run .start (by decide +kernel) ran)⟩

end TrackerGateway.Polling.Spacing
