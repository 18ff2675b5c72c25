/- module: TrackerGateway/Server/Commands
   source: src/command_api.py, src/console.py, src/services/command_service.py, src/tcp_server.py
   digest: The process with its command requests: threads that wait for coroutines on the loop. -/

import TrackerGateway.Server.CommandApi
import TrackerGateway.Server.History

set_option autoImplicit false
set_option relaxedAutoImplicit false

namespace TrackerGateway.Server.Commands

open Foundation.Transition (Reachable)
open Foundation.Wire (Text Bytes)
open TrackerGateway.Runtime
open Services (Registry)
open Services.CommandService
open CommandApi

inductive Progress
  | scheduled
  | draining
  | finished (outcome : Except Exn Unit)

/-- What the thread of a request does; a line of the console has no answer. -/
inductive Serving
  | console
  | waiting (imei command : Text)
  | answered (response : Response)
  | crashed (ex : Exn)

structure Request where
  serving : Serving
  sending : Option (Call × Progress)

structure Written where
  request : Nat
  conn : Conn
  payload : Bytes
  earlier : List Event

/-- The gateway, the serial number that is next, the requests and what was written for them. -/
structure System where
  gateway : Gateway
  serial : Nat
  requests : Nat → Option Request
  written : List Written

def System.start : System where
  gateway := .start
  serial := Utils.CommandBuilder.firstSerial
  requests := fun _ => none
  written := []

inductive Move
  /-- the gateway moves -/
  | gateway (i : Input)
  /-- a POST request is read and served up to its answer or its wait -/
  | post (id : Nat) (post : Post)
  /-- a line is typed on the console -/
  | typed (id : Nat) (line : Text)
  /-- the loop runs a coroutine up to its await; the writer takes the bytes or raises -/
  | begin_ (id : Nat) (writing : Except Exn Unit)
  /-- the writer has been drained, or draining it raised -/
  | drained (id : Nat) (outcome : Except Exn Unit)
  /-- the thread of a request receives the outcome of its coroutine -/
  | collect (id : Nat)
  /-- the wait of a request runs out -/
  | expire (id : Nat)

namespace System

def put (s : System) (id : Nat) (request : Request) : System :=
  { s with requests := Function.update s.requests id (some request) }

def deviceProtocol (s : System) (imei : Text) : Option Family :=
  (s.gateway.registry.getDevice imei).map Entry.protocol

def served : Except Exn Served → Request
  | .ok (.answer response) => ⟨.answered response, none⟩
  | .ok (.wait imei command call) => ⟨.waiting imei command, some (call, .scheduled)⟩
  | .error ex => ⟨.crashed ex, none⟩

def write (s : System) (id : Nat) (conn : Conn) (payload : Bytes) : System := { s with
  gateway := s.gateway.record (.pushed conn payload)
  written := ⟨id, conn, payload, s.gateway.history⟩ :: s.written }

/-- A coroutine up to its await: it has written and drains, or it has raised. -/
def begin_ (s : System) (id : Nat) (writing : Except Exn Unit) (serving : Serving) (call : Call) :
    System :=
  match call.start s.gateway.registry s.serial, writing with
  | (.ok (conn, payload), serial), .ok () =>
      ({ s with serial }.write id conn payload).put id ⟨serving, some (call, .draining)⟩
  | (.ok _, serial), .error ex =>
      { s with serial }.put id ⟨serving, some (call, .finished (.error ex))⟩
  | (.error ex, serial), _ =>
      { s with serial }.put id ⟨serving, some (call, .finished (.error ex))⟩

/-- One step. A wait that runs out leaves its coroutine on the loop; it may also run out when the
coroutine has ended and the thread has not heard of it yet. -/
def step (cfg : Config) (pipes : Family → Pipeline) (spell : Spelling) (expectedKey : Text)
    (s : System) : Move → Option System
  | .gateway (.push ..) => none
  | .gateway i => (s.gateway.step cfg pipes i).map fun gateway => { s with gateway }
  | .post id post =>
      match s.requests id with
      | none => some (s.put id (served (doPost spell expectedKey s.deviceProtocol post)))
      | some _ => none
  | .typed id line =>
      match s.requests id, consoleCall line with
      | none, some call => some (s.put id ⟨.console, some (call, .scheduled)⟩)
      | _, _ => none
  | .begin_ id writing =>
      match s.requests id with
      | some ⟨serving, some (call, .scheduled)⟩ =>
          if s.gateway.turn = none then some (s.begin_ id writing serving call) else none
      | _ => none
  | .drained id outcome =>
      match s.requests id with
      | some ⟨serving, some (call, .draining)⟩ =>
          if s.gateway.turn = none then
            some (s.put id ⟨serving, some (call, .finished outcome)⟩)
          else none
      | _ => none
  | .collect id =>
      match s.requests id with
      | some ⟨.waiting imei command, some (call, .finished outcome)⟩ =>
          some (s.put id
            ⟨.answered (respond imei command outcome), some (call, .finished outcome)⟩)
      | _ => none
  | .expire id =>
      match s.requests id with
      | some ⟨.waiting imei command, sending⟩ =>
          some (s.put id ⟨.answered (respond imei command (.error .timeoutError)), sending⟩)
      | _ => none

end System

inductive Chosen (spell : Spelling) : Call → Prop
  | post {protocol : Option Family} {imei command : Text} {params : Value} {call : Call}
      (chosen : callOf spell protocol imei command params = some (.ok call)) : Chosen spell call
  | console {line : Text} {call : Call} (chosen : consoleCall line = some call) :
      Chosen spell call

/-- A new request: it is answered without success, waits, has crashed, or comes from the console. -/
inductive Opened (spell : Spelling) : Request → Prop
  | answered {response : Response} (failed : response.status ≠ 200) :
      Opened spell ⟨.answered response, none⟩
  | waiting {protocol : Option Family} {imei command : Text} {params : Value} {call : Call}
      (chosen : callOf spell protocol imei command params = some (.ok call)) :
      Opened spell ⟨.waiting imei command, some (call, .scheduled)⟩
  | crashed (ex : Exn) : Opened spell ⟨.crashed ex, none⟩
  | console {line : Text} {call : Call} (chosen : consoleCall line = some call) :
      Opened spell ⟨.console, some (call, .scheduled)⟩

inductive Step (cfg : Config) (pipes : Family → Pipeline) (spell : Spelling) (s : System) :
    Move → System → Prop
  | gateway {i : Input} {gateway : Gateway} (moves : s.gateway.step cfg pipes i = some gateway)
      (internal : ∀ imei required payload, i ≠ .push imei required payload) :
      Step cfg pipes spell s (.gateway i) { s with gateway }
  | opened {move : Move} {id : Nat} {request : Request} (free : s.requests id = none)
      (opened : Opened spell request) : Step cfg pipes spell s move (s.put id request)
  | wrote {id : Nat} {serving : Serving} {call : Call} {conn : Conn} {payload : Bytes}
    {serial : Nat}
      (at_ : s.requests id = some ⟨serving, some (call, .scheduled)⟩) (turn : s.gateway.turn = none)
      (started : call.start s.gateway.registry s.serial = (.ok (conn, payload), serial)) :
      Step cfg pipes spell s (.begin_ id (.ok ()))
        (({ s with serial }.write id conn payload).put id ⟨serving, some (call, .draining)⟩)
  | raised {id : Nat} {writing : Except Exn Unit} {serving : Serving} {call : Call} {ex : Exn}
      {serial : Nat} (at_ : s.requests id = some ⟨serving, some (call, .scheduled)⟩)
      (started : call.start s.gateway.registry s.serial = (.error ex, serial) ∨
        writing = .error ex) :
      Step cfg pipes spell s (.begin_ id writing)
        ({ s with serial }.put id ⟨serving, some (call, .finished (.error ex))⟩)
  | drained {id : Nat} {serving : Serving} {call : Call} {outcome : Except Exn Unit}
      (at_ : s.requests id = some ⟨serving, some (call, .draining)⟩) :
      Step cfg pipes spell s (.drained id outcome)
        (s.put id ⟨serving, some (call, .finished outcome)⟩)
  | collect {id : Nat} {imei command : Text} {call : Call} {outcome : Except Exn Unit}
      (at_ : s.requests id = some ⟨.waiting imei command, some (call, .finished outcome)⟩) :
      Step cfg pipes spell s (.collect id) (s.put id
        ⟨.answered (respond imei command outcome), some (call, .finished outcome)⟩)
  | expire {id : Nat} {imei command : Text} {sending : Option (Call × Progress)}
      (at_ : s.requests id = some ⟨.waiting imei command, sending⟩) :
      Step cfg pipes spell s (.expire id) (s.put id
        ⟨.answered (respond imei command (.error .timeoutError)), sending⟩)

section Inversion

variable {cfg : Config} {pipes : Family → Pipeline} {spell : Spelling} {expectedKey : Text}
  {s s' : System}

theorem opened_served {protocolOf : Text → Option Family} {post : Post} :
    Opened spell (System.served (doPost spell expectedKey protocolOf post)) := by
  cases returned : doPost spell expectedKey protocolOf post with
  | error ex => exact .crashed ex
  | ok served =>
      have sound := doPost_sound returned
      cases served with
      | answer response => exact .answered sound
      | wait imei command call =>
          obtain ⟨params, chosen⟩ := sound
          exact .waiting chosen

private theorem begin_step {id : Nat} {writing : Except Exn Unit} {serving : Serving} {call : Call}
    (at_ : s.requests id = some ⟨serving, some (call, .scheduled)⟩)
    (turn : s.gateway.turn = none) :
    Step cfg pipes spell s (.begin_ id writing) (s.begin_ id writing serving call) := by
  unfold System.begin_
  split
  · next started => exact .wrote at_ turn started
  · exact .raised at_ (.inr rfl)
  · next started => exact .raised at_ (.inl started)

theorem step_cases {move : Move}
    (moves : System.step cfg pipes spell expectedKey s move = some s') :
    Step cfg pipes spell s move s' := by
  unfold System.step at moves
  split at moves
  · cases moves
  · next i external =>
      obtain ⟨gateway, ran, same⟩ := Option.map_eq_some_iff.mp moves
      cases same
      exact .gateway ran external
  · split at moves
    · next free =>
        cases moves
        exact .opened free opened_served
    · cases moves
  · split at moves
    · next call free chosen =>
        cases moves
        exact .opened free (.console chosen)
    · cases moves
  · split at moves
    · next serving call at_ =>
        obtain ⟨turn, moves⟩ := ite_eq_some moves
        cases moves
        exact begin_step at_ turn
    · cases moves
  · split at moves
    · next serving call at_ =>
        obtain ⟨turn, moves⟩ := ite_eq_some moves
        cases moves
        exact .drained at_
    · cases moves
  · split at moves
    · next at_ =>
        cases moves
        exact .collect at_
    · cases moves
  · split at moves
    · next at_ =>
        cases moves
        exact .expire at_
    · cases moves

end Inversion

section Parts

variable (s : System) (id : Nat) (request : Request)

@[simp] theorem put_gateway : (s.put id request).gateway = s.gateway := rfl
@[simp] theorem put_written : (s.put id request).written = s.written := rfl

@[simp] theorem put_requests_self : (s.put id request).requests id = some request :=
  Function.update_self ..

theorem put_requests_ne {other : Nat} (distinct : other ≠ id) :
    (s.put id request).requests other = s.requests other :=
  Function.update_of_ne distinct ..

end Parts

/-- The gateway is only pushed bytes that the coroutine of a request or a console line has built,
for the identity it sends to and on a connection of the family it is for. -/
def Commanded (spell : Spelling) : Gateway → Input → Prop
  | _, .push imei required payload => ∃ call, Chosen spell call ∧ imei = call.imei ∧
      required = some call.family ∧ call.Builds payload
  | _, _ => True

section Projection

variable {cfg : Config} {pipes : Family → Pipeline} {spell : Spelling} {expectedKey : Text}
  {permitted : System → Move → Prop} {s s' : System}

def System.Sound (spell : Spelling) (s : System) : Prop :=
  ∀ id request call progress, s.requests id = some request →
    request.sending = some (call, progress) → Chosen spell call

theorem Opened.chosen {request : Request} (opened : Opened spell request) {call : Call}
    {progress : Progress} (sending : request.sending = some (call, progress)) :
    Chosen spell call := by
  cases opened with
  | answered failed => cases sending
  | crashed ex => cases sending
  | waiting chosen =>
      cases sending
      exact .post chosen
  | console chosen =>
      cases sending
      exact .console chosen

theorem sound_step {move : Move} (sound : s.Sound spell) (moves : Step cfg pipes spell s move s') :
    s'.Sound spell := by
  have puts : ∀ {s₁ : System} {id request}, s₁.requests = s.requests →
      (∀ call progress, request.sending = some (call, progress) → Chosen spell call) →
      (s₁.put id request).Sound spell := by
    intro s₁ id request same new other request' call progress at_ sending
    by_cases here : other = id
    · subst here
      rw [put_requests_self] at at_
      cases at_
      exact new call progress sending
    · rw [put_requests_ne _ _ _ here, same] at at_
      exact sound other request' call progress at_ sending
  have moved : ∀ {s₁ : System} {id serving serving' call progress progress'},
      s₁.requests = s.requests → s.requests id = some ⟨serving, some (call, progress)⟩ →
      (s₁.put id ⟨serving', some (call, progress')⟩).Sound spell := by
    intro s₁ id serving serving' call progress progress' same at_
    apply puts same
    intro call' _ sending
    cases sending
    exact sound id _ call progress at_ rfl
  cases moves with
  | gateway moves internal => exact sound
  | opened free opened => exact puts rfl fun _ _ sending => opened.chosen sending
  | wrote at_ turn started => exact moved rfl at_
  | raised at_ started => exact moved rfl at_
  | drained at_ => exact moved rfl at_
  | collect at_ => exact moved rfl at_
  | expire at_ => exact puts rfl fun call progress sending => sound _ _ call progress at_ sending

theorem sound (reached : Reachable (System.step cfg pipes spell expectedKey) permitted .start s) :
    s.Sound spell := by
  refine reached.invariant ?_ fun _ _ _ sound _ moves =>
    sound_step sound (step_cases moves)
  intro _ _ _ _ at_
  cases at_

theorem push_of_start {call : Call} {conn : Conn} {payload : Bytes} {serial serial' : Nat}
    {g : Gateway} (turn : g.turn = none)
    (started : call.start g.registry serial = (.ok (conn, payload), serial')) :
    g.step cfg pipes (.push call.imei (some call.family) payload) =
      some (g.record (.pushed conn payload)) := by
  obtain ⟨_, entry, found, rfl, family⟩ := Call.start_ok (congrArg Prod.fst started)
  simp only [Gateway.step, if_pos turn, Gateway.push, found, Option.all_some, family,
    decide_true, if_true]

theorem gateway_reached
    (reached : Reachable (System.step cfg pipes spell expectedKey) permitted .start s) :
    Reachable (Gateway.step cfg pipes) (Commanded spell) .start s.gateway := by
  induction reached with
  | start => exact .start
  | @next s s' move before allowed moves ih =>
      cases step_cases moves with
      | @gateway i gateway ran internal =>
          refine ih.next ?_ ran
          cases i <;> trivial
      | opened free opened => exact ih
      | @wrote id serving call conn payload serial at_ turn started =>
          have built := (Call.start_ok (congrArg Prod.fst started)).1
          have chosen := sound before id _ call .scheduled at_ rfl
          have allowed : Commanded spell s.gateway
              (.push call.imei (some call.family) payload) := ⟨call, chosen, rfl, rfl, built⟩
          exact ih.next allowed (push_of_start turn started)
      | raised at_ started => exact ih
      | drained at_ => exact ih
      | collect at_ => exact ih
      | expire at_ => exact ih

end Projection

section Writes

variable {cfg : Config} {pipes : Family → Pipeline} {spell : Spelling} {expectedKey : Text}
  {permitted : System → Move → Prop} {s s' : System} {move : Move}

theorem history_moves (moves : Step cfg pipes spell s move s') :
    ∃ events, s'.gateway.history = events ++ s.gateway.history := by
  cases moves with
  | gateway ran internal => exact history_step (registry_step (Server.step_cases ran))
  | wrote at_ turn started => exact ⟨[_], rfl⟩
  | _ => exact ⟨[], rfl⟩

/-- What a step makes of one request: nothing, an answer to its wait, or a coroutine that has come
further. -/
inductive Advance (request : Request) : Request → Prop
  | same : Advance request request
  | answered {imei command : Text} (response : Response)
      (waiting : request.serving = .waiting imei command) :
      Advance request ⟨.answered response, request.sending⟩
  | ran {call : Call} {progress : Progress} (progress' : Progress)
      (sending : request.sending = some (call, progress)) :
      Advance request ⟨request.serving, some (call, progress')⟩

theorem request_step (moves : Step cfg pipes spell s move s') {id : Nat} {request : Request}
    (at_ : s.requests id = some request) :
    ∃ request', s'.requests id = some request' ∧ Advance request request' := by
  have put : ∀ {s₁ : System} {changed : Nat} {before after : Request},
      s₁.requests = s.requests → s.requests changed = some before → Advance before after →
      ∃ request', (s₁.put changed after).requests id = some request' ∧
        Advance request request' := by
    intro s₁ changed before after same was advance
    by_cases here : id = changed
    · subst here
      rw [at_] at was
      cases was
      exact ⟨after, put_requests_self .., advance⟩
    · rw [put_requests_ne _ _ _ here, same]
      exact ⟨request, at_, .same⟩
  cases moves with
  | gateway ran internal => exact ⟨request, at_, .same⟩
  | @opened _ changed opening free opened =>
      have other : id ≠ changed := by
        rintro rfl
        rw [free] at at_
        cases at_
      rw [put_requests_ne _ _ _ other]
      exact ⟨request, at_, .same⟩
  | wrote was turn started => exact put rfl was (.ran _ rfl)
  | raised was started => exact put rfl was (.ran _ rfl)
  | drained was => exact put rfl was (.ran _ rfl)
  | collect was => exact put rfl was (.answered _ rfl)
  | expire was => exact put rfl was (.answered _ rfl)

def System.callOf (s : System) (id : Nat) : Option Call :=
  (s.requests id).bind fun request => request.sending.map Prod.fst

theorem callOf_put {id : Nat} {request : Request} {call : Call} {progress : Progress}
    (sending : request.sending = some (call, progress)) :
    (s.put id request).callOf id = some call := by
  simp [System.callOf, sending]

theorem callOf_step (moves : Step cfg pipes spell s move s') {id : Nat} {call : Call}
    (sends : s.callOf id = some call) : s'.callOf id = some call := by
  obtain ⟨request, at_, sends⟩ := Option.bind_eq_some_iff.mp sends
  obtain ⟨request', at', advance⟩ := request_step moves at_
  rw [System.callOf, at', Option.bind_some]
  cases advance with
  | same => exact sends
  | answered response waiting => exact sends
  | ran progress' sending =>
      rw [sending] at sends
      exact sends

/-- A write comes from the coroutine of its request, and went to the connection that had registered
the identity last. -/
structure Genuine (s : System) (w : Written) : Prop where
  built : ∃ call deviceId, s.callOf w.request = some call ∧ call.Builds w.payload ∧
    registrant call.imei w.earlier = some (w.conn, deviceId)
  placed : ∃ later, s.gateway.history = later ++ .pushed w.conn w.payload :: w.earlier

theorem Genuine.step {w : Written} (genuine : Genuine s w)
    (moves : Step cfg pipes spell s move s') : Genuine s' w := by
  obtain ⟨call, deviceId, sends, built, last⟩ := genuine.built
  obtain ⟨later, placed⟩ := genuine.placed
  obtain ⟨events, grown⟩ := history_moves moves
  refine ⟨⟨call, deviceId, callOf_step moves sends, built, last⟩, events ++ later, ?_⟩
  rw [grown, placed, List.append_assoc]

theorem registrant_of_entry {g : Gateway} (traced : Traced g) {imei : Text} {entry : Entry}
    (found : g.registry.getDevice imei = some entry) :
    ∃ deviceId, registrant imei g.history = some (entry.socket, deviceId) := by
  have owned : g.registry.owner imei = some entry.socket := by
    rw [Registry.owner, found, Option.map_some]
  obtain ⟨deviceId, last, _⟩ := traced.entry imei entry.socket owned
  exact ⟨deviceId, last⟩

theorem genuine (reached : Reachable (System.step cfg pipes spell expectedKey) permitted .start s)
    {w : Written} (member : w ∈ s.written) : Genuine s w := by
  induction reached with
  | start => cases member
  | @next s s' move before allowed moves ih =>
      have step := step_cases moves
      have old : w ∈ s.written → Genuine s' w := fun member => (ih member).step step
      cases step with
      | @wrote id serving call conn payload serial at_ turn started =>
          rcases List.mem_cons.mp member with rfl | member
          · obtain ⟨built, entry, found, rfl, family⟩ := Call.start_ok (congrArg Prod.fst started)
            obtain ⟨deviceId, last⟩ :=
              registrant_of_entry (traced (gateway_reached before)) found
            exact ⟨⟨call, deviceId, callOf_put rfl, built, last⟩, [], rfl⟩
          · exact old member
      | gateway ran internal => exact old member
      | opened free opened => exact old member
      | raised at_ started => exact old member
      | drained at_ => exact old member
      | collect at_ => exact old member
      | expire at_ => exact old member

end Writes

def process : System → Move → Option System :=
  System.step defaults (pipelines defaults) (fun _ => []) "key".toList

def cut : Post where
  key := "key".toList
  path := "/command".toList
  contentLength := some "40".toList
  body := .ok (.dict [("imei".toList, .text ['1']), ("command".toList, .text "relay_off".toList)])

/-- A device of the V5 family logs in, and then the request arrives. -/
def requested : List Move :=
  (loginInputs 0 1 (calm ['d'])).map .gateway ++ [.post 0 cut]

def cutFrame : Bytes :=
  [0x78, 0x78, 0x14, 0x80, 0x0C, 0, 0, 0, 1, 0x52, 0x45, 0x4C, 0x41, 0x59, 0x2C, 0x31, 0x23, 0, 2,
    0, 1, 0xEE, 0x4D, 0x0D, 0x0A]

end TrackerGateway.Server.Commands
