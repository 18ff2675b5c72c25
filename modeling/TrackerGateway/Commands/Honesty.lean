/- module: TrackerGateway/Commands/Honesty
   source: src/command_api.py, src/services/command_service.py,
     src/services/gps103_command_service.py
   digest: What the answer to a command request tells about the bytes written for it. -/

import TrackerGateway.Server.Commands

set_option autoImplicit false
set_option relaxedAutoImplicit false

namespace TrackerGateway.Commands.Honesty

open Foundation.Transition (Reachable run reachable_of_run permittedRun)
open Foundation.Wire (Text Bytes)
open TrackerGateway.Runtime
open Server
open Server.Commands
open Server.CommandApi
open Services.CommandService

/-- Whether a coroutine that begins now writes: its device is connected with the family the
coroutine is for, and its command can be built. -/
def ready (s : System) (call : Call) : Bool :=
  (s.deviceProtocol call.imei = some call.family) &&
    match call with
    | .sendCommand _ build => (build s.serial).1.isOk
    | .sendGps103Command imei command =>
        (supported.lookup command).any fun builder => (builder imei).isOk

/-- A wait does not run out once the bytes are written, nothing is written once it has run out, and
draining does not raise. -/
def timely (s : System) : Move → Bool
  | .expire id =>
      match s.requests id with
      | some ⟨_, some (_, .draining)⟩ | some ⟨_, some (_, .finished (.ok ()))⟩ => false
      | _ => true
  | .begin_ id (.ok ()) =>
      match s.requests id with
      | some ⟨.answered _, some (call, .scheduled)⟩ => !ready s call
      | _ => true
  | .drained id (.error _) =>
      match s.requests id with
      | some ⟨.console, _⟩ => true
      | _ => false
  | _ => true

theorem ready_of_start {s : System} {call : Call} {sent : Conn × Bytes} {serial : Nat}
    (started : call.start s.gateway.registry s.serial = (.ok sent, serial)) :
    ready s call = true := by
  obtain ⟨conn, payload⟩ := sent
  obtain ⟨built, entry, found, _, family⟩ := Call.start_ok (congrArg Prod.fst started)
  have connected : s.deviceProtocol call.imei = some call.family := by
    rw [System.deviceProtocol, found, Option.map_some, family]
  cases call with
  | sendCommand imei build =>
      simp only [Call.start] at started
      split at started
      · next command later whole => simp [ready, connected, whole, Except.isOk, Except.toBool]
      · cases started
  | sendGps103Command imei command =>
      obtain ⟨builder, known, whole⟩ := built
      simp [ready, connected, known, whole, Except.isOk, Except.toBool]

def writes (s : System) (id : Nat) : List Written := s.written.filter (·.request = id)

/-- Nothing has been written for a request whose coroutine stands here. -/
def Unsent : Option (Call × Progress) → Prop
  | none | some (_, .scheduled) | some (_, .finished (.error _)) => True
  | _ => False

def Asks (spell : Spelling) (imei command : Text) (call : Call) : Prop :=
  ∃ protocol params, callOf spell protocol imei command params = some (.ok call)

/-- The states of a request and what was written for it. -/
inductive Standing (spell : Spelling) : Option Request → List Written → Prop
  | free : Standing spell none []
  | console (sending : Option (Call × Progress)) (written : List Written) :
      Standing spell (some ⟨.console, sending⟩) written
  | crashed (ex : Exn) : Standing spell (some ⟨.crashed ex, none⟩) []
  | unsent {imei command : Text} {call : Call} {progress : Progress}
      (asks : Asks spell imei command call) (unsent : Unsent (some (call, progress))) :
      Standing spell (some ⟨.waiting imei command, some (call, progress)⟩) []
  | sent {imei command : Text} {call : Call} {progress : Progress} (w : Written)
      (asks : Asks spell imei command call)
      (sent : progress = .draining ∨ progress = .finished (.ok ())) :
      Standing spell (some ⟨.waiting imei command, some (call, progress)⟩) [w]
  | refused {response : Response} {sending : Option (Call × Progress)}
      (failed : response.status ≠ 200) (unsent : Unsent sending) :
      Standing spell (some ⟨.answered response, sending⟩) []
  | confirmed {imei command : Text} {call : Call} {progress : Progress} (w : Written)
      (asks : Asks spell imei command call) :
      Standing spell (some ⟨.answered (respond imei command (.ok ())), some (call, progress)⟩) [w]

section Moves

variable {spell : Spelling} {serving : Serving} {call : Call} {imei command : Text}
  {written : List Written}

theorem not_success {ex : Exn} : (respond imei command (.error ex)).status ≠ 200 := by
  intro success
  cases respond_status.mp success

theorem Standing.unwritten (stands : Standing spell none written) : written = [] := by
  cases stands
  rfl

theorem standing_opened {request : Request} (opened : Opened spell request) :
    Standing spell (some request) [] := by
  cases opened with
  | answered failed => exact .refused failed trivial
  | waiting chosen => exact .unsent ⟨_, _, chosen⟩ trivial
  | crashed ex => exact .crashed ex
  | console chosen => exact .console _ _

theorem Standing.wrote (w : Written)
    (stands : Standing spell (some ⟨serving, some (call, .scheduled)⟩) written)
    (pending : ∀ response, serving ≠ .answered response) :
    Standing spell (some ⟨serving, some (call, .draining)⟩) (w :: written) := by
  cases stands with
  | console => exact .console _ _
  | unsent asks unsent => exact .sent w asks (.inl rfl)
  | sent _ asks sent => rcases sent with sent | sent <;> cases sent
  | refused failed unsent => exact (pending _ rfl).elim
  | confirmed => exact (pending _ rfl).elim

theorem Standing.raised (ex : Exn)
    (stands : Standing spell (some ⟨serving, some (call, .scheduled)⟩) written) :
    Standing spell (some ⟨serving, some (call, .finished (.error ex))⟩) written := by
  cases stands with
  | console => exact .console _ _
  | unsent asks unsent => exact .unsent asks trivial
  | sent _ asks sent => rcases sent with sent | sent <;> cases sent
  | refused failed unsent => exact .refused failed trivial
  | confirmed w asks => exact .confirmed w asks

theorem Standing.drained
    (stands : Standing spell (some ⟨serving, some (call, .draining)⟩) written) :
    Standing spell (some ⟨serving, some (call, .finished (.ok ()))⟩) written := by
  cases stands with
  | console => exact .console _ _
  | unsent asks unsent => exact unsent.elim
  | sent w asks sent => exact .sent w asks (.inr rfl)
  | refused failed unsent => exact unsent.elim
  | confirmed w asks => exact .confirmed w asks

theorem Standing.collect {outcome : Except Exn Unit}
    (stands : Standing spell (some ⟨.waiting imei command, some (call, .finished outcome)⟩)
      written) :
    Standing spell (some ⟨.answered (respond imei command outcome),
      some (call, .finished outcome)⟩) written := by
  cases stands with
  | unsent asks unsent =>
      cases outcome with
      | error ex => exact .refused not_success unsent
      | ok => exact unsent.elim
  | sent w asks sent =>
      rcases sent with sent | sent <;> cases sent
      exact .confirmed w asks

theorem Standing.expire {sending : Option (Call × Progress)} (still : Unsent sending)
    (stands : Standing spell (some ⟨.waiting imei command, sending⟩) written) :
    Standing spell (some ⟨.answered (respond imei command (.error .timeoutError)), sending⟩)
      written := by
  cases stands with
  | unsent asks unsent => exact .refused not_success unsent
  | sent w asks sent => rcases sent with rfl | rfl <;> exact still.elim

end Moves

section Steps

variable {cfg : Config} {pipes : Family → Pipeline} {spell : Spelling} {expectedKey : Text}
  {s s' : System} {move : Move}

/-- Only the request that moves has to be looked at. -/
theorem standing_put (s₁ : System) {changed : Nat} {request : Request}
    (stands : ∀ id, Standing spell (s.requests id) (writes s id))
    (same : s₁.requests = s.requests)
    (others : ∀ other, other ≠ changed → writes s₁ other = writes s other)
    (now : Standing spell (some request) (writes s₁ changed)) (id : Nat) :
    Standing spell ((s₁.put changed request).requests id) (writes (s₁.put changed request) id) := by
  have written : writes (s₁.put changed request) id = writes s₁ id := rfl
  by_cases here : id = changed
  · subst here
    rwa [put_requests_self, written]
  · rw [put_requests_ne _ _ _ here, written, same, others id here]
    exact stands id

theorem standing_step (stands : ∀ id, Standing spell (s.requests id) (writes s id))
    (allowed : timely s move = true) (moves : Step cfg pipes spell s move s') (id : Nat) :
    Standing spell (s'.requests id) (writes s' id) := by
  have before : ∀ {changed request}, s.requests changed = some request →
      Standing spell (some request) (writes s changed) := by
    intro changed request at_
    have standing := stands changed
    rwa [at_] at standing
  cases moves with
  | gateway ran internal => exact stands id
  | @opened _ changed request free opened =>
      have standing := stands changed
      rw [free] at standing
      refine standing_put s stands rfl (fun _ _ => rfl) ?_ id
      rw [standing.unwritten]
      exact standing_opened opened
  | @wrote changed serving call conn payload serial at_ turn started =>
      refine standing_put ({ s with serial }.write changed conn payload) stands rfl
        ?_ ?_ id
      · intro other distinct
        exact List.filter_cons_of_neg (by simpa using Ne.symm distinct)
      · have added : writes ({ s with serial }.write changed conn payload) changed =
            ⟨changed, conn, payload, s.gateway.history⟩ :: writes s changed :=
          List.filter_cons_of_pos (by simp)
        rw [added]
        apply (before at_).wrote _
        intro response answered
        subst answered
        simp [timely, at_, ready_of_start started] at allowed
  | @raised changed _ serving call ex serial at_ started =>
      exact standing_put _ stands rfl (fun _ _ => rfl) ((before at_).raised ex) id
  | @drained changed serving call outcome at_ =>
      refine standing_put _ stands rfl (fun _ _ => rfl) ?_ id
      cases outcome with
      | ok => exact (before at_).drained
      | error ex =>
          cases serving with
          | console => exact .console _ _
          | _ => simp [timely, at_] at allowed
  | @collect changed imei command call outcome at_ =>
      exact standing_put _ stands rfl (fun _ _ => rfl) (before at_).collect id
  | @expire changed imei command sending at_ =>
      refine standing_put _ stands rfl (fun _ _ => rfl) ((before at_).expire ?_) id
      simp only [timely, at_] at allowed
      split at allowed
      · cases allowed
      · cases allowed
      · next undrained unfinished =>
          rcases sending with _ | ⟨call, _ | _ | ex | _⟩
          · trivial
          · trivial
          · exact (undrained _ _ rfl).elim
          · trivial
          · exact (unfinished _ _ rfl).elim

theorem answered_step {id : Nat} {response : Response} {sending : Option (Call × Progress)}
    (answered : s.requests id = some ⟨.answered response, sending⟩)
    (moves : Step cfg pipes spell s move s') :
    ∃ sending', s'.requests id = some ⟨.answered response, sending'⟩ := by
  obtain ⟨request', now, advance⟩ := request_step moves answered
  cases advance with
  | same => exact ⟨sending, now⟩
  | answered _ waiting => cases waiting
  | ran progress' _ => exact ⟨_, now⟩

end Steps

/-- A command was written once, to the connection that had registered the identity last. -/
def WrittenOnce (spell : Spelling) (s : System) (id : Nat) (imei command : Text) : Prop :=
  ∃ w call deviceId later, writes s id = [w] ∧ Asks spell imei command call ∧
    call.Builds w.payload ∧ registrant imei w.earlier = some (w.conn, deviceId) ∧
    s.gateway.history = later ++ .pushed w.conn w.payload :: w.earlier

theorem Asks.imei {spell : Spelling} {imei command : Text} {call : Call}
    (asks : Asks spell imei command call) : call.imei = imei := by
  obtain ⟨protocol, params, chosen⟩ := asks
  rw [callOf] at chosen
  split at chosen
  · cases chosen
    rfl
  · split at chosen
    · cases chosen
      rfl
    · obtain ⟨built, _, same⟩ := Option.map_eq_some_iff.mp chosen
      cases built with
      | error ex => cases same
      | ok builder =>
          cases same
          rfl

section Runs

variable {cfg : Config} {pipes : Family → Pipeline} {spell : Spelling} {expectedKey : Text}
  {s s' : System}

theorem standing
    (reached : Reachable (System.step cfg pipes spell expectedKey) (timely · ·) .start s)
    (id : Nat) : Standing spell (s.requests id) (writes s id) := by
  refine reached.invariant (P := fun s => ∀ id, Standing spell (s.requests id) (writes s id))
    (fun _ => .free) ?_ id
  intro _ _ _ stands allowed moves
  exact standing_step stands allowed (step_cases moves)

/-- In every run whose steps are timely, an answer tells what was written for the request, now and
for ever: one write for success, none for anything else. -/
theorem outcome_honest
    (reached : Reachable (System.step cfg pipes spell expectedKey) (timely · ·) .start s)
    (later : Reachable (System.step cfg pipes spell expectedKey) (timely · ·) s s') {id : Nat}
    {response : Response} {sending : Option (Call × Progress)}
    (answered : s.requests id = some ⟨.answered response, sending⟩) :
    (response.status = 200 → ∃ imei command, response = respond imei command (.ok ()) ∧
      WrittenOnce spell s' id imei command) ∧
    (response.status ≠ 200 → writes s' id = []) := by
  have whole := reached.trans later
  obtain ⟨sending', kept⟩ := later.invariant
    (P := fun s => ∃ sending, s.requests id = some ⟨.answered response, sending⟩)
    ⟨sending, answered⟩
    fun _ _ _ ⟨_, answered⟩ _ moves => answered_step answered (step_cases moves)
  have stands := standing whole id
  have written : ∀ w, writes s' id = [w] → w ∈ s'.written ∧ w.request = id := by
    intro w only
    have member : w ∈ writes s' id := by
      rw [only]
      exact List.mem_singleton_self w
    simpa [writes] using member
  rw [kept] at stands
  generalize recorded : writes s' id = list at stands
  cases stands with
  | refused failed unsent => exact ⟨fun success => absurd success failed, fun _ => rfl⟩
  | @confirmed imei command call progress w asks =>
      refine ⟨fun _ => ⟨imei, command, rfl, ?_⟩, fun failed => absurd rfl failed⟩
      obtain ⟨member, same⟩ := written w recorded
      obtain ⟨⟨call', deviceId, sends, built, last⟩, history, placed⟩ := genuine whole member
      rw [same, System.callOf, kept] at sends
      cases sends
      rw [asks.imei] at last
      exact ⟨w, call, deviceId, history, recorded, asks, built, last, placed⟩

end Runs

def statusOf (s : System) (id : Nat) : Option Nat :=
  match s.requests id with
  | some ⟨.answered response, _⟩ => some response.status
  | _ => none

theorem answered_of_status {s : System} {id status : Nat} (shown : statusOf s id = some status) :
    ∃ response sending, s.requests id = some ⟨.answered response, sending⟩ ∧
      response.status = status := by
  rw [statusOf] at shown
  split at shown
  · next response sending answered =>
      cases shown
      exact ⟨response, sending, answered, rfl⟩
  · cases shown

/-- The status of the answer, and what was written where. -/
def seen (s : System) : Option Nat × List (Conn × Bytes) :=
  (statusOf s 0, (writes s 0).map fun w => (w.conn, w.payload))

/-- A wait that runs out while the writer drains, one that runs out before the loop comes to the
coroutine, and a drain that raises: each request is answered with a failure, and each cuts the
engine. -/
theorem failure_reported_engine_cut :
    (Utils.CommandBuilder.buildRelayOff 1).1 = .ok cutFrame ∧
    (run process .start (requested ++ [.begin_ 0 (.ok ()), .expire 0])).map seen =
      some (some 503, [(0, cutFrame)]) ∧
    (run process .start (requested ++ [.expire 0])).map seen = some (some 503, []) ∧
    (run process .start (requested ++ [.expire 0, .begin_ 0 (.ok ())])).map seen =
      some (some 503, [(0, cutFrame)]) ∧
    (run process .start (requested ++ [.begin_ 0 (.ok ()),
      .drained 0 (.error (.foreign "ConnectionResetError".toList "Connection lost".toList)),
      .collect 0])).map seen = some (some 500, [(0, cutFrame)]) := by
  refine ⟨?_, ?_, ?_, ?_, ?_⟩ <;> decide +kernel

/-- A request whose coroutine ends in time. -/
theorem outcome_honest_prompt : ∃ s imei command,
    run process .start
      (requested ++ [.begin_ 0 (.ok ()), .drained 0 (.ok ()), .collect 0]) = some s ∧
    statusOf s 0 = some 200 ∧ WrittenOnce (fun _ => []) s 0 imei command := by
  have shown : (run process .start (requested ++
      [.begin_ 0 (.ok ()), .drained 0 (.ok ()), .collect 0])).map (statusOf · 0) =
        some (some 200) := by
    decide +kernel
  obtain ⟨s, ran, status⟩ := Option.map_eq_some_iff.mp shown
  obtain ⟨response, sending, answered, success⟩ := answered_of_status status
  obtain ⟨imei, command, _, once⟩ :=
    (outcome_honest (reachable_of_run .start (by decide +kernel) ran) .start answered).1 success
  exact ⟨s, imei, command, ran, status, once⟩

end TrackerGateway.Commands.Honesty
