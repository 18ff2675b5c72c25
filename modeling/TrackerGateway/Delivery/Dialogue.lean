/- module: TrackerGateway/Delivery/Dialogue
   source: src/tcp_server.py, src/services/device_registry.py
   digest: A session of any family: as long as its calls are answered, a connection that alone has
     logged in as its device does what the frames of its stream lead to. -/

import TrackerGateway.Delivery.Messages
import TrackerGateway.Framing.Streams
import TrackerGateway.Invariants.Tenure

set_option autoImplicit false
set_option relaxedAutoImplicit false

namespace TrackerGateway.Delivery

open Foundation.Coroutine
open Foundation.Transition (Reachable run run_append reachable_of_free_run)
open Foundation.Wire
open TrackerGateway.Runtime
open Framing
open Invariants.Tenure
open Messages (Deed deed)
open Server
open Server.Sessions

section Detection

variable {cfg : Config} {pipes : Family → Pipeline} {g g' : Gateway} {c : Conn}

theorem handed_step {i : Server.Input} (moves : Step cfg pipes g i g') :
    handed c g'.history = handed c g.history ∨
      ∃ s raw packets, (g.tasks c).phase = .batch s (raw :: packets) := by
  cases moves with
  | quiet turn move => exact .inl rfl
  | finish turn at_ => exact .inl rfl
  | lose turn => exact .inl rfl
  | @begin_ c' answers s raw packets turn at_ open_ =>
      by_cases here : c' = c
      · subst here
        exact .inr ⟨s, raw, packets, at_⟩
      · exact .inl (handed_cons_none (begun_began_ne here raw) _)
  | @operate c' answers s o next packets turn at_ =>
      refine .inl ?_
      rw [Gateway.enter_history, Gateway.record_history, Gateway.perform_history]
      exact handed_cons_none rfl _
  | crash turn at_ =>
      exact .inl ((handed_cons_none rfl _).trans (handed_cons_none rfl _))
  | release turn at_ =>
      exact .inl ((handed_cons_none rfl _).trans (handed_cons_none rfl _))
  | _ => exact .inl (handed_cons_none rfl _)

theorem detected_of_handed {family : Family} {login : Bytes} {later : List Bytes}
    {inputs : List Server.Input} {reads : List Bytes} (enabled : family ∈ cfg.enabledProtocols)
    (is : LoginOf cfg family login) (formed : ∀ frame ∈ later, FrameOf cfg family frame)
    (ran : run (Gateway.step cfg (pipelines cfg)) .start inputs = some g)
    (read : outcomes c inputs = reads.map .data) (nonempty : ∀ read ∈ reads, read ≠ [])
    (part : reads.flatten <+: (login :: later).flatten) (begun : handed c g.history ≠ []) :
    .detected c family ∈ g.history := by
  induction inputs using List.reverseRecOn generalizing g reads with
  | nil =>
      cases ran
      exact absurd rfl begun
  | append_singleton inputs i ih =>
      rw [run_append] at ran
      obtain ⟨g₀, before, last⟩ := Option.bind_eq_some_iff.mp ran
      have moves : Gateway.step cfg (pipelines cfg) g₀ i = some g := by
        simpa [run] using last
      rw [outcomes, List.filterMap_append] at read
      obtain ⟨first, rest, rfl, earlier, -⟩ := List.append_eq_map_iff.mp read
      have within : first.flatten <+: (login :: later).flatten := by
        rw [List.flatten_append] at part
        exact (List.prefix_append _ _).trans part
      have some_ : ∀ read ∈ first, read ≠ [] := fun read member => nonempty read (by simp [member])
      obtain ⟨events, grown⟩ := history_step (registry_step (step_cases moves))
      rw [grown]
      refine List.mem_append_right _ ?_
      rcases handed_step (c := c) (step_cases moves) with same | ⟨s, raw, packets, at_⟩
      · rw [same] at begun
        exact ih before earlier.symm some_ within begun
      · have pending_ : pending (g₀.tasks c).phase = some (s, raw :: packets) := by
          rw [at_]
          rfl
        have served := (stream_handed enabled is formed before earlier.symm some_ within).2.2.1
          s _ pending_
        have watched := (overseen_run (reachable_of_free_run .start before)).watched c
        rw [at_] at watched
        exact served ▸ watched

end Detection

/-- Registrations and closes are seen as what they are. -/
structure Watches (visible : Op → Option Deed) : Prop where
  registers : ∀ imei ip deviceId protocol connectedAt lastSeen,
    visible (.registerDevice imei ip deviceId protocol connectedAt lastSeen) =
      some (.registered imei deviceId)
  only : ∀ o imei deviceId, visible o = some (.registered imei deviceId) →
    ∃ ip protocol connectedAt lastSeen,
      o = .registerDevice imei ip deviceId protocol connectedAt lastSeen
  closes : visible .close = some .closed

def Recalls (imei deviceId : Text) (later : Prop) : Answered → Prop
  | ⟨.getImeiBySocket, found⟩ => later → found = some imei
  | ⟨.getDevice asked, found⟩ => asked = imei → later →
      ∃ device, found = some device ∧ device.deviceId = deviceId
  | _ => True

theorem watches_deed : Watches deed where
  registers _ _ _ _ _ _ := rfl
  only o imei deviceId is := by
    cases o with
    | registerDevice i ip d protocol connectedAt lastSeen =>
        obtain ⟨rfl, rfl⟩ := Deed.registered.inj (Option.some.inj is)
        exact ⟨ip, protocol, connectedAt, lastSeen, rfl⟩
    | execute statement => cases statement <;> cases is
    | _ => cases is
  closes := rfl

section Registry

variable {visible : Op → Option Deed} {assumed : Bytes → Answered → Prop}
  {plan : Bytes → List Deed} {cfg : Config} {imei deviceId : Text} {login raw : Bytes}
  {later : List Bytes} {c : Conn} {h : List Event} {g : Gateway} {a : Answered}

theorem Watches.mem (watches : Watches visible) {e : Event} (member : e ∈ h)
    (is : e.registration = some (c, imei, deviceId)) :
    .registered imei deviceId ∈ deeds visible c h := by
  obtain ⟨ip, protocol, connectedAt, lastSeen, rfl⟩ := Event.eq_of_registration is
  exact mem_deeds.mpr ⟨_, member, watches.registers ..⟩

theorem Watches.registered (watches : Watches visible)
    (member : .registered imei deviceId ∈ deeds visible c h) : Registers c imei h := by
  obtain ⟨⟨o, x⟩, there, is⟩ := mem_deeds.mp member
  obtain ⟨ip, protocol, connectedAt, lastSeen, rfl⟩ := watches.only o _ _ is
  exact ⟨.performed c ⟨_, x⟩, there, _, rfl⟩

/-- A connection that alone has logged in under the identity is answered this identity and its
device, as soon as its login has been handled. -/
theorem recalls (watches : Watches visible)
    (reached : Reachable (Gateway.step cfg (pipelines cfg)) (fun _ _ => True) .start g)
    (logs : .registered imei deviceId ∈ plan login)
    (only : ∀ imei' deviceId', .registered imei' deviceId' ∈ (login :: later).flatMap plan →
      imei' = imei ∧ deviceId' = deviceId)
    (begins : handed c g.history <+: login :: later)
    (alone : ∀ c', Registers c' imei g.history → c' = c)
    (suffix : .performed c a :: h <:+ g.history)
    (underway : Underway visible assumed plan c h raw) :
    Recalls imei deviceId (raw ≠ login) a := by
  have before : h <:+ g.history := (List.suffix_cons _ _).trans suffix
  have part := (handed_suffix before).trans begins
  have seen := underway.begins part
  have sole : Sole c imei h := by
    obtain ⟨front, whole⟩ := before
    refine ⟨fun c' registers => alone c' (whole ▸ registers.append front), ?_⟩
    rintro imei' ⟨e, member, deviceId', is⟩
    exact (only _ _ (seen.subset (watches.mem member is))).1
  -- A frame behind the login comes when the login has been handled.
  have registers : raw ≠ login → Registers c imei h := by
    intro other
    obtain ⟨-, ⟨front, handed_, all⟩, -, -⟩ := underway
    rw [handed_] at part
    cases front with
    | nil =>
        obtain ⟨rest, whole⟩ := part
        exact absurd (List.cons.inj whole).1 other
    | cons packet front =>
        obtain ⟨rest, whole⟩ := part
        obtain ⟨rfl, -⟩ := List.cons.inj whole
        have logged : .registered imei deviceId ∈ deeds visible c h := by
          rw [all, List.flatMap_cons]
          exact List.mem_append_left _ (List.mem_append_left _ logs)
        exact watches.registered logged
  obtain ⟨front, whole⟩ := suffix
  have answered : Foundation.Transition.Throughout (Found c imei) g.history := found reached
  rw [← whole] at answered
  have now := answered.at
  obtain ⟨o, x⟩ := a
  cases o with
  | getImeiBySocket => exact fun other => now rfl sole (registers other)
  | getDevice asked =>
      rintro rfl other
      obtain ⟨device, there, -, last⟩ := now rfl rfl sole (registers other)
      obtain ⟨e, member, is⟩ := registrant_mem last
      exact ⟨device, there, (only _ _ (seen.subset (watches.mem member is))).2⟩
  | _ => trivial

/-- A session of any family: while the calls for a connection are answered as assumed, what is seen
of it is what its frames lead to, and all of it when it waits and has read everything. -/
theorem told_of_plans {family : Family} {inputs : List Server.Input} {reads : List Bytes}
    (watches : Watches visible) (logs : .registered imei deviceId ∈ plan login)
    (only : ∀ imei' deviceId', .registered imei' deviceId' ∈ (login :: later).flatMap plan →
      imei' = imei ∧ deviceId' = deviceId)
    (open_ : Deed.closed ∉ (login :: later).flatMap plan)
    (plans : ∀ ip raw, raw ∈ login :: later →
      Attempts (assumed raw) visible ((pipelines cfg family).handler ip raw) (plan raw))
    (answered : (o : Op) → Res o)
    (fits : ∀ raw ∈ login :: later, ∀ o, assumed raw ⟨o, answered o⟩)
    (enabled : family ∈ cfg.enabledProtocols) (is : LoginOf cfg family login)
    (formed : ∀ frame ∈ later, FrameOf cfg family frame)
    (whole : delivered family (login :: later) = login :: later)
    (ran : run (Gateway.step cfg (pipelines cfg)) .start inputs = some g)
    (read : outcomes c inputs = reads.map .data) (nonempty : ∀ read ∈ reads, read ≠ [])
    (part : reads.flatten <+: (login :: later).flatten)
    (alone : ∀ c', Registers c' imei g.history → c' = c)
    (answers : ∀ a raw, .performed c a ∈ g.history → raw ∈ login :: later →
      Recalls imei deviceId (raw ≠ login) a → assumed raw a) :
    deeds visible c g.history <+: (login :: later).flatMap plan ∧
      ∀ s, (g.tasks c).phase = .reading s → reads.flatten = (login :: later).flatten →
        (g.tasks c).lost = false → deeds visible c g.history = (login :: later).flatMap plan := by
  have reached := reachable_of_free_run .start ran
  obtain ⟨start, -, -, complete, -⟩ := stream_handed enabled is formed ran read nonempty part
  rw [whole] at start complete
  have detected : ∀ family' raw, .detected c family' ∈ g.history → raw ∈ handed c g.history →
      family' = family ∧ raw ∈ login :: later := by
    intro family' raw served member
    have own := detected_of_handed enabled is formed ran read nonempty part
      (List.ne_nil_of_mem member)
    exact ⟨detected_unique (overseen_run reached).obeys served own, start.subset member⟩
  obtain ⟨stage, accounted, shows_⟩ := seen_of_plans answered reached
    (by
      rintro family' ip raw ⟨rfl, member⟩
      exact plans ip raw member)
    (fun _ raw known => fits raw known.2) detected
    (by
      intro a earlier raw suffix underway
      have member : raw ∈ login :: later := by
        obtain ⟨-, ⟨front, handed_, -⟩, -, -⟩ := underway
        have earlier_ := (handed_suffix ((List.suffix_cons _ _).trans suffix)).trans start
        exact earlier_.subset (by rw [handed_]; simp)
      exact answers a raw (suffix.subset List.mem_cons_self) member
        (recalls watches reached logs only start alone suffix underway))
  have soFar := accounted.begins start
  refine ⟨soFar, ?_⟩
  intro s at_ all here
  have unclosed : ¬ ClosedByHandler c g.history := by
    intro closed
    exact open_ (soFar.subset (mem_deeds.mpr ⟨⟨.close, ()⟩, closed, watches.closes⟩))
  have handed_ := complete s at_ all unclosed here
  rw [at_] at shows_
  have settled := accounted.settled (by
    rintro protocol raw rfl
    cases shows_)
  rw [settled, handed_]

end Registry

/-- The calls for a connection are answered: the repository knows the device and its vehicle, and
the statements are executed. -/
def Works (deviceId : Text) (vehicle : Option Text) : Answered → Prop
  | ⟨.getDeviceByImei .., found⟩ => found = .ok (some deviceId)
  | ⟨.getVehicleByDevice _, found⟩ => found = .ok vehicle
  | ⟨.execute _, outcome⟩ => ∃ returned, outcome = .ok returned
  | _ => True

def answering (imei deviceId : Text) (vehicle : Option Text) : (o : Op) → Res o
  | .getImeiBySocket => some imei
  | .getDevice _ => some ⟨deviceId, [], .gt06, 0, 0, 0, none, none, none⟩
  | .lastAlive _ | .lastIgnition _ => none
  | .write _ | .drain => .ok ()
  | .utcNow => (0 : ℤ)
  | .monotonic | .random => (0 : ℚ)
  | .getDeviceByImei .. => .ok (some deviceId)
  | .getVehicleByDevice _ => .ok vehicle
  | .execute _ => .ok true
  | .registerDevice .. | .notePosition .. | .setLastAlive .. | .setLastIgnition ..
  | .forgetStatus _ | .close | .log _ => ()

def calmly : Event → Bool
  | .performed _ ⟨.getDeviceByImei .., .ok (some deviceId)⟩ => deviceId = ['d']
  | .performed _ ⟨.getVehicleByDevice _, .ok vehicle⟩ => vehicle = none
  | .performed _ ⟨.execute _, .ok _⟩ => true
  | .performed _ ⟨.getDeviceByImei .., _⟩ => false
  | .performed _ ⟨.getVehicleByDevice _, _⟩ => false
  | .performed _ ⟨.execute _, _⟩ => false
  | _ => true

theorem works_of_calmly {c : Conn} {a : Answered} (answered : calmly (.performed c a) = true) :
    Works ['d'] none a := by
  obtain ⟨o, x⟩ := a
  cases o with
  | getDeviceByImei imei protocolType defaultModel =>
      rcases x with e | _ | found
      · cases answered
      · cases answered
      · exact congrArg (fun found => Except.ok (some found)) (of_decide_eq_true answered)
  | getVehicleByDevice deviceId =>
      rcases x with e | vehicle
      · cases answered
      · exact congrArg Except.ok (of_decide_eq_true answered)
  | execute statement =>
      rcases x with e | returned
      · cases answered
      · exact ⟨returned, rfl⟩
  | _ => trivial

/-- The connection waits for its next read, on a socket that is not lost. -/
def waits (task : Task) : Bool :=
  match task.phase with
  | .reading _ => !task.lost
  | _ => false

theorem waits_iff {task : Task} : waits task = true ↔
    (∃ s, task.phase = .reading s) ∧ task.lost = false := by
  rw [waits]
  cases task.phase <;> simp

theorem digits_ne_nil (imei : Packets.Identity.Imei) : imei.digits ≠ [] := by
  intro none_
  have fifteen := imei.fifteen
  rw [none_] at fifteen
  cases fifteen

theorem alone_of_registration {imei deviceId : Text} {c : Conn} {h : List Event}
    (only : h.filterMap Event.registration = [(c, imei, deviceId)]) :
    ∀ c', Registers c' imei h → c' = c := by
  rintro c' ⟨e, member, deviceId', is⟩
  have listed : (c', imei, deviceId') ∈ h.filterMap Event.registration :=
    List.mem_filterMap.mpr ⟨e, member, is⟩
  rw [only, List.mem_singleton] at listed
  exact (Prod.mk.inj listed).1

end TrackerGateway.Delivery
