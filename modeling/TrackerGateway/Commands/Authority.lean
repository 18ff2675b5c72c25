/- module: TrackerGateway/Commands/Authority
   source: src/command_api.py, src/console.py, src/services/command_service.py,
     src/services/gps103_command_service.py
   digest: On whose word something is written to a device, how often and to which connection. -/

import TrackerGateway.Commands.Honesty
import TrackerGateway.Server.Queries

set_option autoImplicit false
set_option relaxedAutoImplicit false

namespace TrackerGateway.Commands.Authority

open Foundation.Transition (Reachable run run_induction reachable_of_free_run)
open Foundation.Wire (Text Bytes lowerText)
open TrackerGateway.Runtime
open Server
open Server.CommandApi
open Server.Commands
open Server.Queries (authorized_true)
open Services.CommandService
open Honesty

/-- A request that commands: it carries the key, and what it asks for leads to the coroutine. -/
structure Commissions (spell : Spelling) (expectedKey : Text) (post : Post) (call : Call) :
    Prop where
  key : expectedKey ≠ [] ∧ post.key = expectedKey
  path : post.path = "/command".toList
  asks : ∃ body named command params protocol, post.body = .ok body ∧
    body.get "imei".toList (.text []) = .ok named ∧ named.strip = .ok call.imei ∧
    (body.get "command".toList (.text []) >>= Value.strip) = .ok command ∧
    body.get "params".toList (.dict []) = .ok params ∧
    call.imei ≠ [] ∧ lowerText command ∈ knownCommands ∧
    callOf spell protocol call.imei (lowerText command) params = some (.ok call)

/-- A request or a line of the console that a coroutine was started for. -/
def Ordered (spell : Spelling) (expectedKey : Text) (moves : List Move) (id : Nat) (call : Call) :
    Prop :=
  (∃ post, .post id post ∈ moves ∧ Commissions spell expectedKey post call) ∨
    ∃ line, .typed id line ∈ moves ∧ consoleCall line = some call

section Requests

variable {spell : Spelling} {expectedKey : Text} {protocolOf : Text → Option Family}
  {imei command : Text} {call : Call}

theorem commissions_of_wait {post : Post}
    (waits : doPost spell expectedKey protocolOf post = .ok (.wait imei command call)) :
    Commissions spell expectedKey post call := by
  obtain ⟨admitted, key, waits⟩ := bind_eq_ok_iff.mp waits
  split at waits
  · cases waits
  · next holder =>
      obtain rfl : admitted = true := by simpa using holder
      split at waits
      · cases waits
      · next path =>
          obtain ⟨contentLength, _, waits⟩ := bind_eq_ok_iff.mp waits
          split at waits
          · cases waits
          · split at waits
            · next body read =>
                refine ⟨authorized_true key, not_not.mp path, ?_⟩
                obtain ⟨named, gotImei, waits⟩ := bind_eq_ok_iff.mp waits
                obtain ⟨imei', strippedImei, waits⟩ := bind_eq_ok_iff.mp waits
                obtain ⟨asked, gotCommand, waits⟩ := bind_eq_ok_iff.mp waits
                obtain ⟨command', strippedCommand, waits⟩ := bind_eq_ok_iff.mp waits
                obtain ⟨params, gotParams, waits⟩ := bind_eq_ok_iff.mp waits
                split at waits
                · cases waits
                · next some_ =>
                    split at waits
                    · cases waits
                    · split at waits
                      · cases waits
                      · next known =>
                          split at waits
                          · next call' chosen =>
                              cases waits
                              have same : call.imei = imei := Asks.imei ⟨_, params, chosen⟩
                              refine ⟨body, named, command', params, protocolOf imei, read,
                                gotImei, same ▸ strippedImei, ?_, gotParams, ?_, ?_, same ▸ chosen⟩
                              · rw [gotCommand]
                                exact strippedCommand
                              · rw [same]
                                rintro rfl
                                exact some_ rfl
                              · simpa using known
                          · cases waits
                          · cases waits
            · split at waits
              · cases waits
              · cases waits
            · cases waits

end Requests

section Steps

variable {cfg : Config} {pipes : Family → Pipeline} {spell : Spelling} {expectedKey : Text}
  {s s' : System}

theorem callOf_put_ne {id other : Nat} {request : Request} (distinct : other ≠ id) :
    (s.put id request).callOf other = s.callOf other := by
  rw [System.callOf, System.callOf, put_requests_ne _ _ _ distinct]

theorem callOf_moved {s₁ : System} {id id' : Nat} {serving serving' : Serving} {call : Call}
    {sending sending' : Option (Call × Progress)}
    (sends : (s₁.put id' ⟨serving', sending'⟩).callOf id = some call)
    (at_ : s.requests id' = some ⟨serving, sending⟩) (same : s₁.requests = s.requests)
    (kept : sending'.map Prod.fst = sending.map Prod.fst) : s.callOf id = some call := by
  by_cases here : id = id'
  · subst here
    rw [System.callOf, put_requests_self, Option.bind_some, kept] at sends
    rw [System.callOf, at_]
    exact sends
  · rw [callOf_put_ne here, System.callOf, same] at sends
    exact sends

theorem ordered_step {move : Move}
    (moves : System.step cfg pipes spell expectedKey s move = some s')
    {id : Nat} {call : Call} (sends : s'.callOf id = some call) :
    s.callOf id = some call ∨ Ordered spell expectedKey [move] id call := by
  have opened : ∀ {id' : Nat} {request : Request}, s.requests id' = none →
      s' = s.put id' request →
      (∀ call progress, request.sending = some (call, progress) →
        Ordered spell expectedKey [move] id' call) →
      s.callOf id = some call ∨ Ordered spell expectedKey [move] id call := by
    rintro id' request free rfl orders
    by_cases here : id = id'
    · subst here
      rw [System.callOf, put_requests_self, Option.bind_some] at sends
      obtain ⟨⟨call', progress⟩, sending, rfl⟩ := Option.map_eq_some_iff.mp sends
      exact .inr (orders call' progress sending)
    · exact .inl (callOf_put_ne here ▸ sends)
  cases move with
  | post id' post =>
      simp only [System.step] at moves
      split at moves
      · next free =>
          refine opened free (Option.some.inj moves).symm ?_
          intro call' progress sending
          cases returned : doPost spell expectedKey s.deviceProtocol post with
          | error ex => simp [System.served, returned] at sending
          | ok served =>
              cases served with
              | answer response => simp [System.served, returned] at sending
              | wait imei command call'' =>
                  simp only [System.served, returned, Option.some.injEq, Prod.mk.injEq] at sending
                  obtain ⟨rfl, -⟩ := sending
                  exact .inl ⟨post, List.mem_singleton_self _, commissions_of_wait returned⟩
      · cases moves
  | typed id' line =>
      simp only [System.step] at moves
      split at moves
      · next call' free chosen =>
          refine opened free (Option.some.inj moves).symm ?_
          intro call'' progress sending
          cases sending
          exact .inr ⟨line, List.mem_singleton_self _, chosen⟩
      · cases moves
  | gateway i =>
      left
      cases i with
      | push imei required payload => cases moves
      | _ =>
          obtain ⟨gateway, -, rfl⟩ := Option.map_eq_some_iff.mp moves
          exact sends
  | begin_ id' writing =>
      left
      simp only [System.step] at moves
      split at moves
      · next serving call' at_ =>
          obtain ⟨-, moves⟩ := ite_eq_some moves
          cases moves
          unfold System.begin_ at sends
          split at sends <;> exact callOf_moved sends at_ rfl rfl
      · cases moves
  | drained id' outcome =>
      left
      simp only [System.step] at moves
      split at moves
      · next at_ =>
          obtain ⟨-, moves⟩ := ite_eq_some moves
          cases moves
          exact callOf_moved sends at_ rfl rfl
      · cases moves
  | collect id' =>
      left
      simp only [System.step] at moves
      split at moves
      · next at_ =>
          cases moves
          exact callOf_moved sends at_ rfl rfl
      · cases moves
  | expire id' =>
      left
      simp only [System.step] at moves
      split at moves
      · next sending at_ =>
          cases moves
          exact callOf_moved sends at_ rfl rfl
      · cases moves

/-- A request has not been written for, or once, and then its coroutine is behind its write. -/
def Once (s : System) : Prop :=
  ∀ id, writes s id = [] ∨ ∃ w serving call progress, writes s id = [w] ∧
    s.requests id = some ⟨serving, some (call, progress)⟩ ∧ progress ≠ .scheduled

private theorem Once.put {s₁ : System} {id : Nat} {serving serving' : Serving} {call : Call}
    {progress progress' : Progress} (once : Once s) (same : s₁.requests = s.requests)
    (at_ : s.requests id = some ⟨serving, some (call, progress)⟩) (written : s₁.written = s.written)
    (further : progress ≠ .scheduled → progress' ≠ .scheduled) :
    Once (s₁.put id ⟨serving', some (call, progress')⟩) := by
  intro id'
  have kept : writes (s₁.put id ⟨serving', some (call, progress')⟩) id' = writes s id' := by
    rw [writes, writes, put_written, written]
  rw [kept]
  obtain none_ | ⟨w, serving₁, call₁, progress₁, one, at', behind⟩ := once id'
  · exact .inl none_
  · by_cases here : id' = id
    · subst here
      rw [at_] at at'
      cases at'
      exact .inr ⟨w, _, _, _, one, put_requests_self .., further behind⟩
    · refine .inr ⟨w, serving₁, call₁, progress₁, one, ?_, behind⟩
      rw [put_requests_ne _ _ _ here, same, at']

theorem once_step {move : Move} (once : Once s) (moves : Step cfg pipes spell s move s') :
    Once s' := by
  cases moves with
  | gateway ran internal => exact once
  | @opened _ id request free opened =>
      intro id'
      obtain none_ | ⟨w, serving, call, progress, one, at_, behind⟩ := once id'
      · exact .inl none_
      · have other : id' ≠ id := by
          rintro rfl
          rw [free] at at_
          cases at_
        exact .inr ⟨w, serving, call, progress, one, by rw [put_requests_ne _ _ _ other, at_],
          behind⟩
  | @wrote id serving call conn payload serial at_ turn started =>
      have before : writes s id = [] := by
        obtain none_ | ⟨w, serving', call', progress, one, at', behind⟩ := once id
        · exact none_
        · rw [at_] at at'
          cases at'
          exact absurd rfl behind
      intro id'
      by_cases here : id' = id
      · subst here
        refine .inr ⟨⟨id', conn, payload, s.gateway.history⟩, serving, call, .draining, ?_,
          put_requests_self .., by simp⟩
        have added : writes ({ s with serial }.write id' conn payload) id' =
            ⟨id', conn, payload, s.gateway.history⟩ :: writes s id' :=
          List.filter_cons_of_pos (by simp)
        rw [before] at added
        exact added
      · have kept : writes ({ s with serial }.write id conn payload) id' = writes s id' :=
          List.filter_cons_of_neg (by simpa using Ne.symm here)
        obtain none_ | ⟨w, serving', call', progress, one, at', behind⟩ := once id'
        · exact .inl (kept.trans none_)
        · refine .inr ⟨w, serving', call', progress, kept.trans one, ?_, behind⟩
          rw [put_requests_ne _ _ _ here]
          exact at'
  | raised at_ started => exact once.put rfl at_ rfl fun behind => absurd rfl behind
  | drained at_ => exact once.put rfl at_ rfl (by simp)
  | collect at_ => exact once.put rfl at_ rfl (by simp)
  | @expire id imei command sending at_ =>
      cases sending with
      | some sending => exact once.put rfl at_ rfl fun behind => behind
      | none =>
          intro id'
          obtain none_ | ⟨w, serving', call', progress, one, at', behind⟩ := once id'
          · exact .inl none_
          · have other : id' ≠ id := by
              rintro rfl
              rw [at_] at at'
              cases at'
            exact .inr ⟨w, serving', call', progress, one,
              by rw [put_requests_ne _ _ _ other, at'], behind⟩

/-- A write comes from a coroutine of its request, and went where the last change of the route of
its device had led, if that is of the family the coroutine is for. -/
def Steered (s : System) (w : Written) : Prop :=
  ∃ call, s.callOf w.request = some call ∧ call.Builds w.payload ∧
    lastRoute call.imei w.earlier = some (some (w.conn, call.family))

theorem route_of_start {g : Gateway} {serial serial' : Nat} {call : Call} {conn : Conn}
    {payload : Bytes} (routed : Routed g)
    (started : call.start g.registry serial = (.ok (conn, payload), serial')) :
    call.Builds payload ∧ lastRoute call.imei g.history = some (some (conn, call.family)) := by
  obtain ⟨built, entry, found, rfl, family⟩ := Call.start_ok (congrArg Prod.fst started)
  refine ⟨built, Option.join_eq_some_iff.mp ?_⟩
  rw [← routed call.imei, Services.Registry.route, found, Option.map_some, family]

theorem steered {permitted : System → Move → Prop}
    (reached : Reachable (System.step cfg pipes spell expectedKey) permitted .start s) :
    ∀ w ∈ s.written, Steered s w := by
  refine reached.invariant_of_reached (P := fun s => ∀ w ∈ s.written, Steered s w)
    (by simp [System.start]) ?_
  intro s move s' before steered _ moves w member
  have step := step_cases moves
  have old : w ∈ s.written → Steered s' w := by
    intro member
    obtain ⟨call, sends, built, last⟩ := steered w member
    exact ⟨call, callOf_step step sends, built, last⟩
  cases step with
  | @wrote id serving call conn payload serial at_ turn started =>
      rcases List.mem_cons.mp member with rfl | member
      · have last := route_of_start (routed (gateway_reached before)) started
        exact ⟨call, callOf_put rfl, last⟩
      · exact old member
  | gateway ran internal => exact old member
  | opened free opened => exact old member
  | raised at_ started => exact old member
  | drained at_ => exact old member
  | collect at_ => exact old member
  | expire at_ => exact old member

end Steps

section Runs

variable {cfg : Config} {pipes : Family → Pipeline} {spell : Spelling} {expectedKey : Text}
  {moves : List Move} {s : System}

theorem Ordered.mono {id : Nat} {call : Call} {moves' : List Move}
    (ordered : Ordered spell expectedKey moves id call) (wider : moves ⊆ moves') :
    Ordered spell expectedKey moves' id call := by
  obtain ⟨post, member, commissions⟩ | ⟨line, member, chosen⟩ := ordered
  · exact .inl ⟨post, wider member, commissions⟩
  · exact .inr ⟨line, wider member, chosen⟩

theorem ordered (ran : run (System.step cfg pipes spell expectedKey) .start moves = some s) :
    ∀ id call, s.callOf id = some call → Ordered spell expectedKey moves id call := by
  refine run_induction (P := fun moves s => ∀ id call, s.callOf id = some call →
    Ordered spell expectedKey moves id call) (by simp [System.callOf, System.start]) ?_ ran
  intro moves s move s' ordered step id call sends
  obtain before | now := ordered_step step sends
  · exact (ordered id call before).mono (List.subset_append_left _ _)
  · exact now.mono (List.subset_append_right _ _)

/-- In every run, whatever is written to a device by a command is written once, for a request that
carried the key or for a line of the console, as the coroutine for it has built it, and to the
connection that the device it names was registered on last, of the family that understands it. -/
theorem written_authorised
    (ran : run (System.step cfg pipes spell expectedKey) .start moves = some s) {w : Written}
    (member : w ∈ s.written) :
    writes s w.request = [w] ∧ ∃ call, Ordered spell expectedKey moves w.request call ∧
      call.Builds w.payload ∧
      lastRoute call.imei w.earlier = some (some (w.conn, call.family)) := by
  have reached := reachable_of_free_run .start ran
  have once : Once s := reached.invariant (fun _ => .inl rfl) fun _ _ _ once _ moves =>
    once_step once (step_cases moves)
  have own : w ∈ writes s w.request := List.mem_filter.mpr ⟨member, by simp⟩
  obtain ⟨call, sends, built, last⟩ := steered reached w member
  refine ⟨?_, call, ordered ran _ _ sends, built, last⟩
  obtain none_ | ⟨w', serving, call', progress, one, -⟩ := once w.request
  · rw [none_] at own
    cases own
  · rw [one] at own ⊢
    rw [List.mem_singleton.mp own]

end Runs

/-- A request cuts the engine of the device that it names. -/
theorem cut_authorised : ∃ s w,
    run process .start (requested ++ [.begin_ 0 (.ok ())]) = some s ∧ w ∈ s.written ∧
    writes s w.request = [w] ∧ ∃ call,
      Ordered (fun _ => []) "key".toList (requested ++ [.begin_ 0 (.ok ())]) w.request call ∧
      call.Builds w.payload ∧
      lastRoute call.imei w.earlier = some (some (w.conn, call.family)) := by
  have shown : (run process .start (requested ++ [.begin_ 0 (.ok ())])).map
      (·.written.length) = some 1 := by
    decide +kernel
  obtain ⟨s, ran, one⟩ := Option.map_eq_some_iff.mp shown
  obtain ⟨w, only⟩ := List.length_eq_one_iff.mp one
  have member : w ∈ s.written := by
    rw [only]
    exact List.mem_singleton_self w
  exact ⟨s, w, ran, member, written_authorised ran member⟩

end TrackerGateway.Commands.Authority
