/- module: TrackerGateway/Server/CommandApi
   source: src/command_api.py, src/console.py, src/services/command_service.py
   digest: What a POST request or a console line leads to: an answer at once, or a coroutine. -/

import TrackerGateway.Services.CommandService

set_option autoImplicit false
set_option relaxedAutoImplicit false

namespace TrackerGateway.Server.CommandApi

open Foundation.Wire
open TrackerGateway.Runtime
open Services.CommandService
open Utils.CommandBuilder

structure Response where
  status : Nat
  body : List (Text × Json)

def errorBody (message : Text) : List (Text × Json) := [("error".toList, .text message)]

def respond (imei command : Text) : Except Exn Unit → Response
  | .ok () => ⟨200, [("success".toList, .bool true), ("imei".toList, .text imei),
      ("command".toList, .text command), ("message".toList,
        .text ("Command '".toList ++ command ++ "' sent to device".toList))]⟩
  | .error (.foreign name message) =>
      if name = "UnsupportedCommandError".toList then ⟨501, failure message⟩
      else if name = "KeyError".toList then
        ⟨400, errorBody ("Missing required param: ".toList ++ message)⟩
      else failed message
  | .error .timeoutError => ⟨503, failure "Gateway busy — command timed out".toList⟩
  | .error ex => failed ex.text
where
  /-- The body of a request that failed. -/
  failure (message : Text) : List (Text × Json) :=
    ("success".toList, .bool false) :: errorBody message
  /-- A device that is offline is told from other failures by the text. -/
  failed (message : Text) : Response :=
    if occursIn "offline".toList (lower message) then ⟨503, failure "Device offline".toList⟩
    else ⟨500, failure message⟩

theorem respond_status {imei command : Text} {outcome : Except Exn Unit} :
    (respond imei command outcome).status = 200 ↔ outcome = .ok () := by
  constructor
  · intro success
    have failed : ∀ message, (respond.failed message).status ≠ 200 := by
      intro message
      rw [respond.failed]
      split <;> simp
    unfold respond at success
    split at success
    · rfl
    · split at success
      · cases success
      · split at success
        · cases success
        · exact absurd success (failed _)
    · cases success
    · exact absurd success (failed _)
  · rintro rfl
    rfl

/-- A POST request: the key and the length it carries in headers, its path, and what decoding its
body returns or raises. -/
structure Post where
  key : Text
  path : Text
  contentLength : Option Text
  body : Except Exn Value

def simpleCommands : List (Text × Builder) :=
  [("where".toList, buildWhere), ("status".toList, buildStatus),
    ("version".toList, buildVersion), ("imei".toList, buildImei),
    ("params".toList, buildParams), ("gprsset".toList, buildGprsset),
    ("url".toList, buildUrl), ("position".toList, buildPosition),
    ("fence_query".toList, buildFenceQuery), ("moving_query".toList, buildMovingQuery),
    ("speed_query".toList, buildSpeedQuery), ("sos_query".toList, buildSosQuery),
    ("timer_query".toList, buildTimerQuery), ("apn_query".toList, buildApnQuery),
    ("server_query".toList, buildServerQuery), ("reset".toList, buildReset),
    ("relay_on".toList, buildRelayOn), ("relay_off".toList, buildRelayOff),
    ("sos_delete".toList, buildSosDelete)]

def paramBuilder (spell : Spelling) (params : Value) (command : Text) :
    Option (Except Exn Builder) :=
  let item (key : String) := params.item key.toList
  let get (key : String) (default_ : Value) := params.get key.toList default_
  let flag (key : String) (default_ : Bool) := return (← get key (.bool default_)).truth
  let number (key : String) (default_ : ℤ) := do (← get key (.int default_)).toInt
  [("timer".toList, do
      return buildTimer (← (← item "t1").toInt) (← (← item "t2").toInt)),
    ("distance".toList, do return buildDistance (← (← item "meters").toInt)),
    ("speed_alarm".toList, do
      return buildSpeedAlarm (← flag "enabled" true) (← number "interval" 20)
        (← number "limit_kmh" 100) (← flag "sms" true)),
    ("moving_alarm".toList, do
      return buildMovingAlarm (← flag "enabled" true) (← number "radius_m" 300)
        (← flag "sms" true)),
    ("fence_circle".toList, do
      return buildFenceCircle spell (← flag "enabled" true) (← (← item "lat").toFloat)
        (← (← item "lon").toFloat) (← (← item "radius_100m").toInt) (← get "trigger" (.text []))
        (← flag "sms" true)),
    ("sos_add".toList, do
      return buildSosAdd (← get "phone1" (.text [])) (← get "phone2" (.text []))
        (← get "phone3" (.text []))),
    ("apn".toList, do
      return buildApn spell (← item "apn_name") (← get "user" (.text [])) (← get "pwd" (.text []))),
    ("server".toList, do
      return buildServer spell (← item "domain_or_ip") (← (← item "port").toInt)
        (← flag "use_domain" true) (← flag "udp" false)),
    ("batalm".toList, do return buildBatalm (← flag "enabled" true) (← flag "sms" true)),
    ("poweralm".toList, do return buildPoweralm (← flag "enabled" true) (← flag "sms" true))
  ].lookup command

def paramCommands : List Text :=
  ["timer".toList, "distance".toList, "speed_alarm".toList, "moving_alarm".toList,
    "fence_circle".toList, "sos_add".toList, "apn".toList, "server".toList, "batalm".toList,
    "poweralm".toList]

def knownCommands : List Text := simpleCommands.map Prod.fst ++ paramCommands

/-- The coroutine of a known command for a device of the given protocol; the parameters of a
command are only read for a device of another family than TK103. -/
def callOf (spell : Spelling) (protocol : Option Family) (imei command : Text) (params : Value) :
    Option (Except Exn Call) :=
  if protocol = some .gps103 then some (.ok (.sendGps103Command imei command))
  else match simpleCommands.lookup command with
    | some builder => some (.ok (.sendCommand imei builder))
    | none => (paramBuilder spell params command).map (Except.map (.sendCommand imei))

/-- What the thread of a request does: it answers, or it hands a coroutine to the event loop and
waits for its end. -/
inductive Served
  | answer (response : Response)
  | wait (imei command : Text) (call : Call)

/-- Comparing keys raises for a text that is not ASCII. -/
def authorized (expected provided : Text) : Except Exn Bool :=
  if expected.isEmpty then .ok false
  else if isAscii expected && isAscii provided then .ok (provided = expected)
  else .error (.typeMismatch
    "comparing strings with non-ASCII characters is not supported".toList)

def unknownCommand (command : Text) : Response :=
  ⟨400, errorBody ("Unknown command '".toList ++ command ++ "'".toList) ++
    [("hint".toList, .text "GET /commands for full list".toList)]⟩

def serveCommand (spell : Spelling) (protocolOf : Text → Option Family) (body : Value) :
    Except Exn Served := do
  let imei ← (← body.get "imei".toList (.text [])).strip
  let command := lowerText (← (← body.get "command".toList (.text [])).strip)
  let params ← body.get "params".toList (.dict [])
  if imei.isEmpty then return .answer ⟨400, errorBody "Missing 'imei' field".toList⟩
  else if command.isEmpty then return .answer ⟨400, errorBody "Missing 'command' field".toList⟩
  else if !knownCommands.contains command then return .answer (unknownCommand command)
  else match callOf spell (protocolOf imei) imei command params with
    | some (.ok call) => return .wait imei command call
    | some (.error ex) => return .answer (respond imei command (.error ex))
    | none => return .answer (unknownCommand command)

/-- `do_POST`, up to the answer or the wait. An exception that escapes leaves the request without an
answer. -/
def doPost (spell : Spelling) (expectedKey : Text) (protocolOf : Text → Option Family)
    (post : Post) : Except Exn Served := do
  if !(← authorized expectedKey post.key) then
    return .answer ⟨401, errorBody "Unauthorized".toList⟩
  else if post.path ≠ "/command".toList then
    return .answer ⟨404, errorBody "Not found".toList⟩
  else
    let contentLength ← post.contentLength.elim (.ok 0) fun header => (Value.text header).toInt
    if contentLength = 0 then return .answer ⟨400, errorBody "Empty request body".toList⟩
    else match post.body with
      | .ok body => serveCommand spell protocolOf body
      | .error (.foreign name message) =>
          if name = "JSONDecodeError".toList then
            return .answer ⟨400, errorBody "Invalid JSON".toList⟩
          else .error (.foreign name message)
      | .error ex => .error ex

/-- An answer at once reports no success, and a coroutine is the one of the command for the protocol
the device has. -/
def Served.Sound (spell : Spelling) (protocolOf : Text → Option Family) : Served → Prop
  | .answer response => response.status ≠ 200
  | .wait imei command call =>
      ∃ params, callOf spell (protocolOf imei) imei command params = some (.ok call)

section Sound

variable {spell : Spelling} {expectedKey : Text} {protocolOf : Text → Option Family}
  {served : Served}

theorem serveCommand_sound {body : Value}
    (returned : serveCommand spell protocolOf body = .ok served) :
    served.Sound spell protocolOf := by
  obtain ⟨_, _, returned⟩ := bind_eq_ok_iff.mp returned
  obtain ⟨imei, _, returned⟩ := bind_eq_ok_iff.mp returned
  obtain ⟨_, _, returned⟩ := bind_eq_ok_iff.mp returned
  obtain ⟨command, _, returned⟩ := bind_eq_ok_iff.mp returned
  obtain ⟨params, _, returned⟩ := bind_eq_ok_iff.mp returned
  split at returned
  · cases returned
    exact Nat.ne_of_beq_eq_false rfl
  · split at returned
    · cases returned
      exact Nat.ne_of_beq_eq_false rfl
    · split at returned
      · cases returned
        exact Nat.ne_of_beq_eq_false rfl
      · split at returned
        · next call chosen =>
            cases returned
            exact ⟨params, chosen⟩
        · cases returned
          intro success
          cases respond_status.mp success
        · cases returned
          exact Nat.ne_of_beq_eq_false rfl

theorem doPost_sound {post : Post}
    (returned : doPost spell expectedKey protocolOf post = .ok served) :
    served.Sound spell protocolOf := by
  obtain ⟨admitted, _, returned⟩ := bind_eq_ok_iff.mp returned
  split at returned
  · cases returned
    exact Nat.ne_of_beq_eq_false rfl
  · split at returned
    · cases returned
      exact Nat.ne_of_beq_eq_false rfl
    · obtain ⟨contentLength, _, returned⟩ := bind_eq_ok_iff.mp returned
      split at returned
      · cases returned
        exact Nat.ne_of_beq_eq_false rfl
      · split at returned
        · exact serveCommand_sound returned
        · split at returned
          · cases returned
            exact Nat.ne_of_beq_eq_false rfl
          · cases returned
        · cases returned

end Sound

def words (line : Text) : List Text := (line.splitOnP isWhiteSpace).filter (!·.isEmpty)

def consoleCommands : List (Text × Builder) :=
  [("where".toList, buildWhere), ("status".toList, buildStatus),
    ("version".toList, buildVersion), ("params".toList, buildParams),
    ("imei".toList, buildImei), ("reset".toList, buildReset),
    ("relay_on".toList, buildRelayOn), ("relay_off".toList, buildRelayOff)]

def consoleCall (line : Text) : Option Call :=
  match words line with
  | [action, imei] => (consoleCommands.lookup action).map (.sendCommand imei)
  | _ => none

end TrackerGateway.Server.CommandApi
