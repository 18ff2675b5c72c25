/- module: TrackerGateway/Polling/Families
   source: src/services/gps103_poller.py, src/services/device_registry.py
   digest: Whether the poller only writes to TK103 devices while other devices log in. -/

import TrackerGateway.Server.Polling

set_option autoImplicit false
set_option relaxedAutoImplicit false

namespace TrackerGateway.Polling.Families

open Foundation.Transition (Reachable run reachable_of_run permittedRun)
open Foundation.Wire (Text Bytes Instant)
open TrackerGateway.Runtime
open Server
open Server.Polling
open Services (Registry)
open Services.Gps103Poller

/-- Whether an identity was last given to another family since the list was made. -/
def takenOver (p : System) (imei : Text) (made : List Event) : Bool :=
  match lastRoute imei (p.since made) with
  | some (some (_, family)) => family ≠ .gps103
  | _ => false

/-- The poller does not write for an identity that was taken over. -/
def untaken (p : System) : Move → Bool
  | .ask (.ok ()) =>
      match p.poller with
      | .asking ⟨imei :: _, made⟩ => !takenOver p imei made
      | _ => true
  | _ => true

def ToTracker (asked : Asked) : Prop :=
  ∃ imei entry, asked.registry.getDevice imei = some entry ∧ entry.socket = asked.conn ∧
    entry.protocol = .gps103

def Listed (h : List Event) (poll : Poll) : Prop :=
  (∃ since, h = since ++ poll.made) ∧
    ∀ imei ∈ poll.rest, ∃ conn, lastRoute imei poll.made = some (some (conn, .gps103))

def Known (p : System) : Prop :=
  match p.poller with
  | .sleeping => True
  | .asking poll | .draining poll _ _ => Listed p.gateway.history poll

section Steps

variable {cfg : Config} {pipes : Family → Pipeline} {p p' : System} {move : Move}

theorem Listed.grow {h events : List Event} {poll : Poll} (listed : Listed h poll) :
    Listed (events ++ h) poll := by
  obtain ⟨⟨since, rfl⟩, routes⟩ := listed
  exact ⟨⟨events ++ since, (List.append_assoc ..).symm⟩, routes⟩

theorem Listed.tail {h made : List Event} {imei : Text} {rest : List Text}
    (listed : Listed h ⟨imei :: rest, made⟩) : Listed h ⟨rest, made⟩ :=
  ⟨listed.1, fun other member => listed.2 other (List.mem_cons_of_mem imei member)⟩

theorem since_eq {earlier events : List Event} (grown : p.gateway.history = events ++ earlier) :
    p.since earlier = events := by
  rw [System.since]
  rw [grown]
  exact List.take_left' (by simp)

theorem known_move (routed : Routed p.gateway) (known : Known p)
    (moves : Step cfg pipes p move p') : Known p' := by
  obtain ⟨events, grown⟩ := history_move moves
  have growing : ∀ poll, Listed p.gateway.history poll → Listed p'.gateway.history poll := by
    intro poll listed
    rw [grown]
    exact listed.grow
  cases moves with
  | gateway ran =>
      unfold Known at known ⊢
      dsimp only
      split
      · trivial
      · next at_ =>
          rw [at_] at known
          exact growing _ known
      · next at_ =>
          rw [at_] at known
          exact growing _ known
  | @wake now due idle lists =>
      refine ⟨⟨[], rfl⟩, ?_⟩
      intro imei member
      obtain ⟨conn, route⟩ := route_of_due (lists.mem_iff.mp member)
      rw [routed imei] at route
      exact ⟨conn, Option.join_eq_some_iff.mp route⟩
  | sleep at_ => trivial
  | pass at_ =>
      rw [Known] at known
      rw [at_] at known
      exact (growing _ known).tail
  | wrote at_ found built =>
      rw [Known] at known
      rw [at_] at known
      exact (growing _ known).tail
  | drained at_ =>
      rw [Known] at known
      rw [at_] at known
      exact growing _ known

/-- An identity of the list that was not taken over is registered with the family, if at all. -/
theorem protocol_of_listed {imei : Text} {rest : List Text} {made : List Event} {entry : Entry}
    (routed : Routed p.gateway) (listed : Listed p.gateway.history ⟨imei :: rest, made⟩)
    (untaken : takenOver p imei made = false)
    (found : p.gateway.registry.getDevice imei = some entry) : entry.protocol = .gps103 := by
  obtain ⟨⟨since, grown⟩, routes⟩ := listed
  obtain ⟨conn, before⟩ := routes imei List.mem_cons_self
  have now : p.gateway.registry.route imei = some (entry.socket, entry.protocol) := by
    rw [Registry.route, found, Option.map_some]
  rw [routed imei, grown, lastRoute_append, before] at now
  simp only [takenOver, since_eq grown] at untaken
  cases change : lastRoute imei since with
  | none =>
      rw [change] at now
      exact (Prod.mk.inj (Option.some.inj now)).2.symm
  | some route =>
      rw [change] at now untaken
      cases route with
      | none => cases now
      | some target =>
          obtain ⟨conn', family⟩ := target
          obtain ⟨_, rfl⟩ := Prod.mk.inj (Option.some.inj now)
          simpa using untaken

theorem toTracker_move (routed : Routed p.gateway) (known : Known p)
    (before : ∀ asked ∈ p.asked, ToTracker asked) (allowed : untaken p move = true)
    (moves : Step cfg pipes p move p') : ∀ asked ∈ p'.asked, ToTracker asked := by
  cases moves with
  | @wrote imei rest made entry payload at_ found built =>
      intro asked member
      rcases List.mem_cons.mp member with rfl | member
      · rw [Known] at known
        rw [at_] at known
        have kept : takenOver p imei made = false := by simpa [untaken, at_] using allowed
        exact ⟨imei, entry, found, rfl, protocol_of_listed routed known kept found⟩
      · exact before asked member
  | _ => exact before

end Steps

/-- In every run in which the poller does not write for an identity that was taken over, every
request it writes goes to a connection that is registered with the family. -/
theorem asked_trackers_only {cfg : Config} {pipes : Family → Pipeline} {p : System}
    (reached : Reachable (System.step cfg pipes) (untaken · ·) .start p) {asked : Asked}
    (member : asked ∈ p.asked) : ToTracker asked := by
  have both : Known p ∧ ∀ asked ∈ p.asked, ToTracker asked := by
    refine reached.invariant_of_reached (P := fun p => Known p ∧ ∀ asked ∈ p.asked, ToTracker asked)
      ?_ ?_
    · exact ⟨trivial, fun _ none_ => by cases none_⟩
    · intro _ _ _ before inv allowed moves
      have step := step_cases moves
      exact ⟨known_move (routed before) inv.1 step,
        toTracker_move (routed before) inv.1 inv.2 allowed step⟩
  exact both.2 asked member

def toTracker (asked : Asked) : Bool :=
  asked.registry.byImei.entries.any fun row =>
    row.2.socket = asked.conn && row.2.protocol = .gps103

theorem toTracker_iff {asked : Asked} : ToTracker asked ↔ toTracker asked = true := by
  simp only [toTracker, List.any_eq_true, Bool.and_eq_true, decide_eq_true_eq]
  constructor
  · rintro ⟨imei, entry, found, socket, family⟩
    exact ⟨⟨imei, entry⟩, AList.mem_lookup_iff.mp found, socket, family⟩
  · rintro ⟨⟨imei, entry⟩, member, socket, family⟩
    exact ⟨imei, entry, AList.mem_lookup_iff.mpr member, socket, family⟩

def polled : Config := { defaults with gps103PollSeconds := 30 }

def first : Text := "868683022801132".toList

def second : Text := "868683022801133".toList

/-- A new connection that sends a login and is handled until it waits for more bytes. -/
def login (c : Conn) (frame : Bytes) (stretches : Nat) : List Move :=
  ([.connect c [], .arrive c (.data frame)] ++
    List.replicate stretches (.resume c (calm ['d'])) : List Input).map .gateway

def trackerLogin (c : Conn) (imei : Text) : List Move :=
  login c (Foundation.Wire.asciiBytes ("##,imei:".toList ++ imei ++ ",A;".toList)) 19

def secondTakenOver : List Move :=
  login 2 [0x78, 0x78, 0x0D, 0x01, 0x08, 0x68, 0x68, 0x30, 0x22, 0x80, 0x11, 0x33, 0, 1, 0, 0, 0x0D,
    0x0A] 15

/-- Two devices log in, are due after 400 seconds, and the first one is asked. -/
def firstAsked : List Move :=
  trackerLogin 0 first ++ trackerLogin 1 second ++
    [.wake 400000000 [first, second], .ask (.ok ())]

def secondRequest : Bytes := Foundation.Wire.asciiBytes "**,imei:868683022801133,B;".toList

private def view (asked : Asked) : Bytes × Bool × Bool :=
  (asked.payload, asked.registry.route second = some (asked.conn, .gt06), toTracker asked)

/-- While the first device drains, a V5 device logs in under the identity of the second; then the
position request for the second is written to the V5 device. -/
theorem asked_after_takeover : ∃ p asked,
    run (System.step polled (pipelines polled)) .start (firstAsked ++ secondTakenOver ++
      [.drained (.ok ()) 400000000, .ask (.ok ())]) = some p ∧
    asked ∈ p.asked ∧ asked.payload = secondRequest ∧
    asked.registry.route second = some (asked.conn, .gt06) ∧ ¬ ToTracker asked := by
  have seen : (run (System.step polled (pipelines polled)) .start (firstAsked ++ secondTakenOver ++
      [.drained (.ok ()) 400000000, .ask (.ok ())])).map (fun p => p.asked.head?.map view) =
        some (some (secondRequest, true, false)) := by
    decide +kernel
  obtain ⟨p, ran, shown⟩ := Option.map_eq_some_iff.mp seen
  obtain ⟨asked, head, shown⟩ := Option.map_eq_some_iff.mp shown
  simp only [view, Prod.mk.injEq, decide_eq_true_eq] at shown
  obtain ⟨payload, route, other⟩ := shown
  refine ⟨p, asked, ran, List.mem_of_head? head, payload, route, ?_⟩
  rw [toTracker_iff, other]
  exact Bool.false_ne_true

/-- The same poll without the other login. -/
theorem asked_trackers_only_undisturbed : ∃ p asked,
    run (System.step polled (pipelines polled)) .start (firstAsked ++
      [.drained (.ok ()) 400000000, .ask (.ok ())]) = some p ∧
    asked ∈ p.asked ∧ asked.imei = second ∧ ToTracker asked := by
  have seen : (run (System.step polled (pipelines polled)) .start (firstAsked ++
      [.drained (.ok ()) 400000000, .ask (.ok ())])).map (fun p => p.asked.head?.map Asked.imei) =
        some (some second) := by
    decide +kernel
  obtain ⟨p, ran, shown⟩ := Option.map_eq_some_iff.mp seen
  obtain ⟨asked, head, imei⟩ := Option.map_eq_some_iff.mp shown
  have member := List.mem_of_head? head
  exact ⟨p, asked, ran, member, imei,
    asked_trackers_only (reachable_of_run .start (by decide +kernel) ran) member⟩

end TrackerGateway.Polling.Families
