/- module: TrackerGateway/Server/Polling
   source: src/services/gps103_poller.py, src/tcp_server.py
   digest: The gateway with the poller of silent TK103 devices, which awaits between two devices. -/

import TrackerGateway.Server.History
import TrackerGateway.Services.Gps103Poller

set_option autoImplicit false
set_option relaxedAutoImplicit false

namespace TrackerGateway.Server.Polling

open Foundation.Transition (Reachable)
open Foundation.Wire (Text Bytes Instant)
open TrackerGateway.Runtime
open Services (Registry)
open Services.Gps103Poller
open Utils.Gps103CommandBuilder

/-- A poll under way: the identities still to be asked, and the history of the gateway when the list
of them was made. -/
structure Poll where
  rest : List Text
  made : List Event

/-- Where the poller stands. While it asks no other execution runs. -/
inductive Poller
  | sleeping
  | asking (poll : Poll)
  | draining (poll : Poll) (imei : Text) (asked : List Event)

structure Asked where
  imei : Text
  conn : Conn
  payload : Bytes
  registry : Registry

structure System where
  gateway : Gateway
  poller : Poller
  asked : List Asked

def System.start : System := ⟨.start, .sleeping, []⟩

inductive Move
  /-- the gateway moves -/
  | gateway (i : Input)
  /-- the poller wakes and lists the devices that are due -/
  | wake (now : Instant) (due : List Text)
  /-- the poller comes to the next device; the writer takes the bytes or raises -/
  | ask (writing : Except Exn Unit)
  /-- the writer has been drained, or draining it raised or took too long -/
  | drained (outcome : Except Exn Unit) (now : Instant)

def Poller.running : Poller → Bool
  | .asking _ => true
  | _ => false

namespace System

def enabled (cfg : Config) : Bool :=
  cfg.enabledProtocols.contains .gps103 && cfg.gps103PollSeconds != 0

def since (p : System) (earlier : List Event) : List Event :=
  p.gateway.history.take (p.gateway.history.length - earlier.length)

/-- The next device is asked over the writer its identity is registered for now; a device that is
gone, an identity without a frame and a writer that raises are passed over. -/
def ask (p : System) (imei : Text) (poll : Poll) (writing : Except Exn Unit) : System :=
  match p.gateway.registry.getDevice imei, buildSinglePosition imei, writing with
  | some entry, .ok payload, .ok () => {
      gateway := p.gateway.record (.pushed entry.socket payload)
      poller := .draining poll imei p.gateway.history
      asked := ⟨imei, entry.socket, payload, p.gateway.registry⟩ :: p.asked }
  | _, _, _ => { p with poller := .asking poll }

/-- The poll is noted in the entry that was asked, which may have been replaced meanwhile. -/
def noted (p : System) (imei : Text) (asked : List Event) (outcome : Except Exn Unit)
    (now : Instant) : Gateway :=
  match outcome with
  | .ok () =>
      if lastRoute imei (p.since asked) = none then
        { p.gateway with registry := notePoll p.gateway.registry imei now }
      else p.gateway
  | .error _ => p.gateway

/-- One step. The devices that are due are listed in the order of their registrations, which is left
open here. -/
def step (cfg : Config) (pipes : Family → Pipeline) (p : System) : Move → Option System
  | .gateway i =>
      if p.poller.running then none
      else (p.gateway.step cfg pipes i).map fun gateway => { p with gateway }
  | .wake now due =>
      match p.poller with
      | .sleeping =>
          if p.gateway.turn = none ∧ enabled cfg = true ∧
              due.isPerm (dueDevices cfg now p.gateway.registry) = true then
            some { p with poller := .asking ⟨due, p.gateway.history⟩ }
          else none
      | _ => none
  | .ask writing =>
      match p.poller with
      | .asking ⟨[], _⟩ => some { p with poller := .sleeping }
      | .asking ⟨imei :: rest, made⟩ => some (p.ask imei ⟨rest, made⟩ writing)
      | _ => none
  | .drained outcome now =>
      match p.poller with
      | .draining poll imei asked =>
          if p.gateway.turn = none then
            some { p with gateway := p.noted imei asked outcome now, poller := .asking poll }
          else none
      | _ => none

end System

inductive Step (cfg : Config) (pipes : Family → Pipeline) (p : System) : Move → System → Prop
  | gateway {i : Input} {gateway : Gateway} (moves : p.gateway.step cfg pipes i = some gateway) :
      Step cfg pipes p (.gateway i) { p with gateway }
  | wake {now : Instant} {due : List Text} (idle : p.poller = .sleeping)
      (lists : due.Perm (dueDevices cfg now p.gateway.registry)) :
      Step cfg pipes p (.wake now due) { p with poller := .asking ⟨due, p.gateway.history⟩ }
  | sleep {writing : Except Exn Unit} {made : List Event} (at_ : p.poller = .asking ⟨[], made⟩) :
      Step cfg pipes p (.ask writing) { p with poller := .sleeping }
  | pass {writing : Except Exn Unit} {imei : Text} {rest : List Text} {made : List Event}
      (at_ : p.poller = .asking ⟨imei :: rest, made⟩) :
      Step cfg pipes p (.ask writing) { p with poller := .asking ⟨rest, made⟩ }
  | wrote {imei : Text} {rest : List Text} {made : List Event} {entry : Entry} {payload : Bytes}
      (at_ : p.poller = .asking ⟨imei :: rest, made⟩)
      (found : p.gateway.registry.getDevice imei = some entry)
      (built : buildSinglePosition imei = .ok payload) :
      Step cfg pipes p (.ask (.ok ())) {
        gateway := p.gateway.record (.pushed entry.socket payload)
        poller := .draining ⟨rest, made⟩ imei p.gateway.history
        asked := ⟨imei, entry.socket, payload, p.gateway.registry⟩ :: p.asked }
  | drained {outcome : Except Exn Unit} {now : Instant} {poll : Poll} {imei : Text}
      {asked : List Event} (at_ : p.poller = .draining poll imei asked) :
      Step cfg pipes p (.drained outcome now)
        { p with gateway := p.noted imei asked outcome now, poller := .asking poll }

section Inversion

variable {cfg : Config} {pipes : Family → Pipeline} {p p' : System}

private theorem ask_step {imei : Text} {rest : List Text} {made : List Event}
    {writing : Except Exn Unit} (at_ : p.poller = .asking ⟨imei :: rest, made⟩) :
    Step cfg pipes p (.ask writing) (p.ask imei ⟨rest, made⟩ writing) := by
  unfold System.ask
  split
  · next found built => exact .wrote at_ found built
  · exact .pass at_

theorem step_cases {move : Move} (moves : p.step cfg pipes move = some p') :
    Step cfg pipes p move p' := by
  unfold System.step at moves
  split at moves
  · split at moves
    · cases moves
    · obtain ⟨gateway, ran, same⟩ := Option.map_eq_some_iff.mp moves
      cases same
      exact .gateway ran
  · split at moves
    · next idle =>
        obtain ⟨⟨_, _, lists⟩, moves⟩ := ite_eq_some moves
        cases moves
        exact .wake idle (List.isPerm_iff.mp lists)
    · cases moves
  · split at moves
    · next at_ =>
        cases moves
        exact .sleep at_
    · next at_ =>
        cases moves
        exact ask_step at_
    · cases moves
  · split at moves
    · next at_ =>
        obtain ⟨_, moves⟩ := ite_eq_some moves
        cases moves
        exact .drained at_
    · cases moves

end Inversion

section Routes

variable {cfg : Config} {pipes : Family → Pipeline} {permitted : System → Move → Prop}
  {p p' : System} {move : Move}

@[simp] theorem noted_history (imei : Text) (asked : List Event) (outcome : Except Exn Unit)
    (now : Instant) : (p.noted imei asked outcome now).history = p.gateway.history := by
  unfold System.noted
  split
  · split <;> rfl
  · rfl

@[simp] theorem noted_tasks (imei : Text) (asked : List Event) (outcome : Except Exn Unit)
    (now : Instant) : (p.noted imei asked outcome now).tasks = p.gateway.tasks := by
  unfold System.noted
  split
  · split <;> rfl
  · rfl

theorem entry_of_noted {imei other : Text} {asked : List Event} {outcome : Except Exn Unit}
    {now : Instant} {entry : Entry}
    (found : (p.noted imei asked outcome now).registry.getDevice other = some entry) :
    ∃ before, p.gateway.registry.getDevice other = some before ∧
      entry = { before with lastPollAt := entry.lastPollAt } := by
  unfold System.noted at found
  split at found
  · split at found
    · dsimp only at found
      rw [notePoll, Registry.getDevice_modify] at found
      split at found
      · obtain ⟨before, known, rfl⟩ := Option.map_eq_some_iff.mp found
        exact ⟨before, known, rfl⟩
      · exact ⟨entry, found, rfl⟩
    · exact ⟨entry, found, rfl⟩
  · exact ⟨entry, found, rfl⟩

theorem noted_route (imei : Text) (asked : List Event) (outcome : Except Exn Unit) (now : Instant)
    (other : Text) :
    (p.noted imei asked outcome now).registry.route other = p.gateway.registry.route other := by
  unfold System.noted
  split
  · split
    · exact route_notePoll other
    · rfl
  · rfl

theorem routed_move (routed : Routed p.gateway) (moves : Step cfg pipes p move p') :
    Routed p'.gateway := by
  cases moves with
  | gateway ran => exact routed_step routed (Server.step_cases ran)
  | drained at_ =>
      intro other
      rw [noted_route, noted_history]
      exact routed other
  | wrote at_ found built => exact routed
  | _ => exact routed

theorem routed (reached : Reachable (System.step cfg pipes) permitted .start p) :
    Routed p.gateway := by
  refine reached.invariant (P := fun p => Routed p.gateway) ?_
    fun _ _ _ routed _ moves => routed_move routed (step_cases moves)
  intro imei
  rfl

theorem history_move (moves : Step cfg pipes p move p') :
    ∃ events, p'.gateway.history = events ++ p.gateway.history := by
  cases moves with
  | gateway ran => exact history_step (registry_step (Server.step_cases ran))
  | wrote at_ found built => exact ⟨[_], rfl⟩
  | drained at_ => exact ⟨[], by simp⟩
  | _ => exact ⟨[], rfl⟩

end Routes

end TrackerGateway.Server.Polling
