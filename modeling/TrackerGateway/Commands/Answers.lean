/- module: TrackerGateway/Commands/Answers
   source: src/command_api.py (do_POST)
   digest: The requests that are answered once, and what a request without a command leads to. -/

import TrackerGateway.Commands.Honesty

set_option autoImplicit false
set_option relaxedAutoImplicit false

namespace TrackerGateway.Commands.Answers

open Foundation.Transition (Reachable)
open Foundation.Wire (Text lowerText stripText)
open TrackerGateway.Runtime
open Honesty (writes answered_step)
open Server
open Server.Commands
open Server.CommandApi

/-- A body is an object that names a device and a known command. -/
def Named (body : Except Exn Value) : Prop :=
  ∃ items imei command, body = .ok (.dict items) ∧
    items.lookup "imei".toList = some (.text imei) ∧ stripText imei ≠ [] ∧
    items.lookup "command".toList = some (.text command) ∧
    lowerText (stripText command) ∈ knownCommands

/-- The entry of an object is absent or a text. -/
def textual (items : List (Text × Value)) (key : String) : Bool :=
  match items.lookup key.toList with
  | none | some (.text _) => true
  | some _ => false

def decoded : Except Exn Value → Bool
  | .ok (.dict items) => textual items "imei" && textual items "command"
  | .error (.foreign name _) => name = "JSONDecodeError".toList
  | _ => false

/-- The length is absent or a numeral, and a body that is read is decoded. -/
def legible (post : Post) : Bool :=
  match post.contentLength.elim (.ok 0) fun header => (Value.text header).toInt with
  | .ok length => length = 0 || decoded post.body
  | .error _ => false

/-- Without a command there is a 400, and no coroutine. -/
def Turned (body : Except Exn Value) (served : Served) : Prop :=
  ¬ Named body → ∃ response, served = .answer response ∧ response.status = 400

section Requests

variable {spell : Spelling} {expectedKey : Text} {protocolOf : Text → Option Family}
  {items : List (Text × Value)} {post : Post}

end Requests

abbrev Later (cfg : Config) (pipes : Family → Pipeline) (spell : Spelling) (expectedKey : Text) :
    System → System → Prop :=
  Reachable (System.step cfg pipes spell expectedKey) fun _ _ => True

def answers (s : System) (id : Nat) : List Response :=
  match s.requests id with
  | some ⟨.answered response, _⟩ => [response]
  | _ => []

section Runs

variable {cfg : Config} {pipes : Family → Pipeline} {spell : Spelling} {expectedKey : Text}
  {s s' : System} {id : Nat}

theorem unwritten (reached : Later cfg pipes spell expectedKey .start s)
    (idle : s.callOf id = none) : writes s id = [] := by
  rw [writes, List.filter_eq_nil_iff]
  intro w member own
  obtain ⟨call, _, sends, _, _⟩ := (genuine reached member).built
  rw [of_decide_eq_true own, idle] at sends
  cases sends

end Runs

section Answers

variable {cfg : Config} {pipes : Family → Pipeline} {spell : Spelling} {expectedKey : Text}
  {s : System} {id : Nat} {body : Except Exn Value} {served : CommandApi.Served}

end Answers

end TrackerGateway.Commands.Answers
