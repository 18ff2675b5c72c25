/- module: TrackerGateway/Commands/Injection
   source: src/utils/command_builder.py (build_timer to build_poweralm),
     src/command_api.py (do_POST)
   digest: The parameter values that the text of a command tells, and when it tells them. -/

import TrackerGateway.Commands.Frames
import TrackerGateway.Commands.Language
import TrackerGateway.Foundation.Wire.Delimited

set_option autoImplicit false
set_option relaxedAutoImplicit false

namespace TrackerGateway.Commands.Injection

open Foundation.Wire
open TrackerGateway.Runtime
open Frames (textOf)
open Server.CommandApi
open Services (Registry)
open Services.CommandService (Call)
open Utils.CommandBuilder

/-- The parameter values of a command: numbers and flags as converted, anything else as spelled. -/
inductive Parameters
  | timer (t1 t2 : ℤ)
  | distance (meters : ℤ)
  | speedAlarm (enabled : Bool) (interval limitKmh : ℤ) (sms : Bool)
  | movingAlarm (enabled : Bool) (radiusM : ℤ) (sms : Bool)
  | fenceCircle (enabled : Bool) (lat lon : Text) (radius100m : ℤ) (trigger : Text) (sms : Bool)
  | sosAdd (numbers : List Text) (given : [] ∉ numbers)
  | apn (apnName : Text) (credentials : Option (Text × Text))
  | server (domainOrIp : Text) (port : ℤ) (useDomain udp : Bool)
  | batalm (enabled sms : Bool)
  | poweralm (enabled sms : Bool)

def asText : Value → Option Text
  | .text t => some t
  | _ => none

def numbers (phones : List Value) : List Text := (phones.filterMap asText).filter (!·.isEmpty)

theorem numbers_given (phones : List Value) : [] ∉ numbers phones := by
  simp [numbers]

/-- User and password go together. -/
def credentials (spell : Spelling) (user pwd : Value) : Option (Text × Text) :=
  if user.truth || pwd.truth then some (user.str spell, pwd.str spell) else none

def requested (spell : Spelling) (params : Value) (command : Text) :
    Option (Except Exn Parameters) :=
  let item (key : String) := params.item key.toList
  let get (key : String) (default_ : Value) := params.get key.toList default_
  let flag (key : String) (default_ : Bool) := return (← get key (.bool default_)).truth
  let number (key : String) (default_ : ℤ) := do (← get key (.int default_)).toInt
  [("timer".toList, do
      return .timer (← (← item "t1").toInt) (← (← item "t2").toInt)),
    ("distance".toList, do return .distance (← (← item "meters").toInt)),
    ("speed_alarm".toList, do
      return .speedAlarm (← flag "enabled" true) (← number "interval" 20)
        (← number "limit_kmh" 100) (← flag "sms" true)),
    ("moving_alarm".toList, do
      return .movingAlarm (← flag "enabled" true) (← number "radius_m" 300)
        (← flag "sms" true)),
    ("fence_circle".toList, do
      return .fenceCircle (← flag "enabled" true) (spell (.float (← (← item "lat").toFloat)))
        (spell (.float (← (← item "lon").toFloat))) (← (← item "radius_100m").toInt)
        ((← get "trigger" (.text [])).str spell) (← flag "sms" true)),
    ("sos_add".toList, do
      let phones := [← get "phone1" (.text []), ← get "phone2" (.text []),
        ← get "phone3" (.text [])]
      return .sosAdd (numbers phones) (numbers_given phones)),
    ("apn".toList, do
      return .apn ((← item "apn_name").str spell)
        (credentials spell (← get "user" (.text [])) (← get "pwd" (.text [])))),
    ("server".toList, do
      return .server ((← item "domain_or_ip").str spell) (← (← item "port").toInt)
        (← flag "use_domain" true) (← flag "udp" false)),
    ("batalm".toList, do return .batalm (← flag "enabled" true) (← flag "sms" true)),
    ("poweralm".toList, do return .poweralm (← flag "enabled" true) (← flag "sms" true))
  ].lookup command

namespace Parameters

def name : Parameters → String
  | timer .. => "TIMER"
  | distance .. => "DISTANCE"
  | speedAlarm .. => "SPEED"
  | movingAlarm .. => "MOVING"
  | fenceCircle .. => "FENCE"
  | sosAdd .. => "SOS"
  | apn .. => "APN"
  | server .. => "SERVER"
  | batalm .. => "BATALM"
  | poweralm .. => "POWERALM"

/-- The fields behind the name; a list of no numbers is one empty field. -/
def fields : Parameters → List Text
  | timer t1 t2 => [decimalInt t1, decimalInt t2]
  | distance meters => [decimalInt meters]
  | speedAlarm enabled interval limitKmh sms =>
      [onOff enabled, decimalInt interval, decimalInt limitKmh, bit sms]
  | movingAlarm enabled radiusM sms => [onOff enabled, decimalInt radiusM, bit sms]
  | fenceCircle enabled lat lon radius100m trigger sms =>
      [onOff enabled, ['0'], lat, lon, decimalInt radius100m, trigger, bit sms]
  | sosAdd [] _ => [['A'], []]
  | sosAdd (first :: others) _ => ['A'] :: first :: others
  | apn apnName none => [apnName]
  | apn apnName (some (user, pwd)) => [apnName, user, pwd]
  | server domainOrIp port useDomain udp => [bit useDomain, domainOrIp, decimalInt port, bit udp]
  | batalm enabled sms => [onOff enabled, bit sms]
  | poweralm enabled sms => [onOff enabled, bit sms]

def size : Parameters → Nat
  | timer .. => 2
  | distance .. => 1
  | speedAlarm .. => 4
  | movingAlarm .. => 3
  | fenceCircle .. => 7
  | sosAdd numbers _ => 1 + max 1 numbers.length
  | apn _ credentials => if credentials.isSome then 3 else 1
  | server .. => 4
  | batalm .. => 2
  | poweralm .. => 2

/-- The values that go into the command as they are spelled. -/
def texts : Parameters → List Text
  | fenceCircle _ lat lon _ trigger _ => [lat, lon, trigger]
  | sosAdd numbers _ => numbers
  | apn apnName none => [apnName]
  | apn apnName (some (user, pwd)) => [apnName, user, pwd]
  | server domainOrIp _ _ _ => [domainOrIp]
  | _ => []

def separated (p : Parameters) : Bool := p.texts.all fun t => !t.contains ',' && !t.contains '#'

def words (p : Parameters) : List Text := p.name.toList :: p.fields

def text (p : Parameters) : Text := commandText p.name p.fields

end Parameters

/-- The text of a command ends at its only terminator, and splits into as many fields as the
template has, which are the name and the values asked for. -/
structure Faithful (p : Parameters) (text : Text) : Prop where
  recovered : Recovered ',' '#' p.words text
  count : (text.dropLast.splitOn ',').length = p.size + 1

section Written

variable {spell : Spelling} {params : Value} {command : Text}

/-- The frames of a builder are those of the text for the parameter values. -/
def Carries (p : Parameters) (build : Builder) : Prop :=
  ∀ serial frame, (build serial).1 = .ok frame → commandFrame p.text serial = .ok frame

def Matching (built : Except Exn Builder) (asked : Except Exn Parameters) : Prop :=
  ∀ build, built = .ok build → ∃ p, asked = .ok p ∧ Carries p build

theorem carries_buildCommand (p : Parameters) {build : Builder}
    (same : build = buildCommand p.text) : Carries p build := by
  intro serial frame built
  rwa [same] at built

theorem matching_return {build : Builder} {p : Parameters} (carries : Carries p build) :
    Matching (pure build) (pure p) := by
  intro build' same
  cases same
  exact ⟨p, rfl, carries⟩

theorem matching_bind {α : Type} {first : Except Exn α} {next : α → Except Exn Builder}
    {next' : α → Except Exn Parameters} (each : ∀ a, Matching (next a) (next' a)) :
    Matching (first >>= next) (first >>= next') := by
  intro build built
  obtain ⟨a, read, later⟩ := bind_eq_ok_iff.mp built
  obtain ⟨p, asked, carries⟩ := each a build later
  exact ⟨p, bind_eq_ok_iff.mpr ⟨a, read, asked⟩, carries⟩

theorem joinTexts_ok {items : List Value} {joined : Text} (ok : joinTexts items = .ok joined) :
    ∃ texts, items = texts.map Value.text ∧ joined = [','].intercalate texts := by
  obtain ⟨texts, read, same⟩ := bind_eq_ok_iff.mp ok
  cases same
  refine ⟨texts, ?_, rfl⟩
  clear ok
  generalize 0 = i at read
  induction items generalizing i texts with
  | nil =>
      cases read
      rfl
  | cons item items ih =>
      rw [List.zipIdx_cons, List.mapM_cons] at read
      obtain ⟨first, head, read⟩ := bind_eq_ok_iff.mp read
      obtain ⟨rest, tail, same⟩ := bind_eq_ok_iff.mp read
      cases same
      rw [List.map_cons, ← ih rest _ tail]
      cases item with
      | text t =>
          cases head
          rfl
      | _ => cases head

theorem numbers_eq {phones : List Value} {texts : List Text}
    (given : phones.filter Value.truth = texts.map Value.text) : numbers phones = texts := by
  have kept : ∀ phone : Value, (asText phone).filter (!·.isEmpty) =
      if phone.truth then asText phone else none := by
    intro phone
    cases phone with
    | text t => cases t <;> rfl
    | _ => simp [asText]
  have read : asText ∘ Value.text = some := rfl
  calc numbers phones
      = phones.filterMap fun phone => (asText phone).filter (!·.isEmpty) := List.filter_filterMap
    _ = phones.filterMap fun phone => if phone.truth then asText phone else none := by
        simp only [kept]
    _ = (phones.filter Value.truth).filterMap asText := List.filterMap_filter.symm
    _ = texts := by rw [given, List.filterMap_map, read, List.filterMap_some]

theorem carries_buildSosAdd (phone1 phone2 phone3 : Value) :
    Carries (.sosAdd (numbers [phone1, phone2, phone3]) (numbers_given _))
      (buildSosAdd phone1 phone2 phone3) := by
  intro serial frame built
  rw [buildSosAdd] at built
  split at built
  · cases built
  · next joined ok =>
      obtain ⟨texts, given, rfl⟩ := joinTexts_ok ok
      have whole : commandText "SOS" [['A'], [','].intercalate texts] =
          Parameters.text (.sosAdd (numbers [phone1, phone2, phone3]) (numbers_given _)) := by
        simp only [numbers_eq given]
        cases texts with
        | nil => rfl
        | cons first others =>
            rw [intercalate_cons]
            simp [Parameters.text, Parameters.fields, Parameters.name, commandText]
      rw [← whole]
      exact built

theorem buildApn_eq (apnName user pwd : Value) : buildApn spell apnName user pwd =
    buildCommand (Parameters.apn (apnName.str spell) (credentials spell user pwd)).text := by
  rw [buildApn, credentials]
  split <;> rfl

theorem lookup_forall₂ {α β : Type} {R : α → β → Prop} {l : List (Text × α)}
    {l' : List (Text × β)} (alike : List.Forall₂ (fun a b => a.1 = b.1 ∧ R a.2 b.2) l l')
    {key : Text} {a : α} (found : l.lookup key = some a) :
    ∃ b, l'.lookup key = some b ∧ R a b := by
  induction alike with
  | nil => cases found
  | @cons first first' rest rest' same _ ih =>
      obtain ⟨key', value⟩ := first
      obtain ⟨key'', value'⟩ := first'
      obtain ⟨rfl, related⟩ := same
      simp only [List.lookup_cons] at found ⊢
      cases here : key == key' with
      | true =>
          rw [here] at found
          cases found
          exact ⟨value', rfl, related⟩
      | false =>
          rw [here] at found
          exact ih found

theorem matching_param {built : Except Exn Builder}
    (known : paramBuilder spell params command = some built) :
    ∃ asked, requested spell params command = some asked ∧ Matching built asked := by
  refine lookup_forall₂ ?_ known
  refine .cons ⟨rfl, ?_⟩ (.cons ⟨rfl, ?_⟩ (.cons ⟨rfl, ?_⟩ (.cons ⟨rfl, ?_⟩ (.cons ⟨rfl, ?_⟩
    (.cons ⟨rfl, ?_⟩ (.cons ⟨rfl, ?_⟩ (.cons ⟨rfl, ?_⟩ (.cons ⟨rfl, ?_⟩ (.cons ⟨rfl, ?_⟩
      .nil)))))))))
  case refine_6 =>
    apply matching_bind
    intro phone1
    apply matching_bind
    intro phone2
    apply matching_bind
    intro phone3
    exact matching_return (carries_buildSosAdd phone1 phone2 phone3)
  case refine_7 =>
    apply matching_bind
    intro apnName
    apply matching_bind
    intro user
    apply matching_bind
    intro pwd
    exact matching_return (carries_buildCommand _ (buildApn_eq apnName user pwd))
  all_goals repeat apply matching_bind; intro
  all_goals exact matching_return (carries_buildCommand _ rfl)

end Written

theorem onOff_injective : Function.Injective onOff := by decide

theorem bit_injective : Function.Injective bit := by decide

namespace Parameters

variable {p p' : Parameters}

theorem length_fields : p.fields.length = p.size := by
  cases p with
  | sosAdd numbers given =>
      cases numbers with
      | nil => rfl
      | cons first others =>
          simp only [fields, size, List.length_cons]
          omega
  | apn apnName credentials => cases credentials <;> rfl
  | _ => rfl

def Clean (t : Text) : Prop := ',' ∉ t ∧ '#' ∉ t

theorem clean_decimalInt (n : ℤ) : Clean (decimalInt n) := by
  constructor <;> intro member <;> exact absurd (mem_decimalInt member) (by decide)

theorem clean_onOff (enabled : Bool) : Clean (onOff enabled) := by
  cases enabled <;> constructor <;> decide

theorem clean_bit (flag : Bool) : Clean (bit flag) := by
  cases flag <;> constructor <;> decide

theorem clean_name : Clean p.name.toList := by
  cases p <;> simp only [name] <;> constructor <;> decide

theorem separated_iff : p.separated = true ↔ ∀ t ∈ p.texts, Clean t := by
  simp [separated, Clean]

theorem words_clean_iff : (∀ word ∈ p.words, Clean word) ↔ ∀ t ∈ p.texts, Clean t := by
  have zero : Clean ['0'] := by constructor <;> decide
  have letter : Clean ['A'] := by constructor <;> decide
  have empty : Clean [] := ⟨List.not_mem_nil, List.not_mem_nil⟩
  rw [words, List.forall_mem_cons, and_iff_right clean_name]
  cases p with
  | sosAdd numbers given =>
      cases numbers <;> simp [fields, texts, letter, empty]
  | apn apnName credentials =>
      cases credentials with
      | none => rfl
      | some pair => rfl
  | _ => simp [fields, texts, clean_decimalInt, clean_onOff, clean_bit, zero]

theorem text_eq : p.text = delimited ',' '#' p.words := by
  rw [delimited, words, intercalate_cons]
  rfl

theorem words_injective (same : p.words = p'.words) : p = p' := by
  obtain ⟨names, values⟩ := List.cons.inj same
  have named := String.toList_injective names
  clear same names
  cases p with
  | sosAdd numbers given =>
      cases p' with
      | sosAdd numbers' given' =>
          -- The numbers are no empty texts, so one empty field stands for no number.
          cases numbers with
          | nil =>
              cases numbers' with
              | nil => rfl
              | cons first others =>
                  cases values
                  exact absurd List.mem_cons_self given'
          | cons first others =>
              cases numbers' with
              | nil =>
                  cases values
                  exact absurd List.mem_cons_self given
              | cons first' others' =>
                  cases values
                  rfl
      | _ => exact absurd named (by simp [name])
  | apn apnName credentials =>
      cases p' with
      | apn apnName' credentials' =>
          rcases credentials with _ | ⟨user, pwd⟩ <;> rcases credentials' with _ | ⟨user', pwd'⟩ <;>
            cases values <;> rfl
      | _ => exact absurd named (by simp [name])
  | _ =>
      cases p' <;> first
        | (simp [name] at named; done)
        | simp_all [fields, decimalInt_injective.eq_iff, onOff_injective.eq_iff,
            bit_injective.eq_iff]

end Parameters

theorem faithful_iff {p : Parameters} : Faithful p p.text ↔ p.separated = true := by
  have told : Recovered ',' '#' p.words p.text ↔ p.separated = true := by
    have some_ : p.words ≠ [] := List.cons_ne_nil _ _
    rw [Parameters.text_eq, recovered_iff some_ (by decide), Parameters.separated_iff,
      ← Parameters.words_clean_iff]
    rfl
  constructor
  · intro faithful
    exact told.mp faithful.recovered
  · intro clean
    have recovered := told.mpr clean
    exact ⟨recovered, by rw [recovered.split, Parameters.words, List.length_cons,
      Parameters.length_fields]⟩

def paramsOf (post : Post) : Value :=
  match post.body with
  | .ok body => (body.get "params".toList (.dict [])).toOption.getD .null
  | .error _ => .null

/-- A request for a command with parameters that was served with a coroutine for a V5 device, and
the frame that the coroutine has written. -/
inductive Sent (spell : Spelling) (expectedKey : Text) (post : Post) (command : Text)
    (frame : Bytes) : Prop
  | intro {protocolOf : Text → Option Family} {registry : Registry} {imei : Text} {build : Builder}
      {conn : Conn} {serial later : Nat}
      (served : doPost spell expectedKey protocolOf post =
        .ok (.wait imei command (.sendCommand imei build)))
      (parametrised : command ∈ paramCommands)
      (written : (Call.sendCommand imei build).start registry serial = (.ok (conn, frame), later)) :
      Sent spell expectedKey post command frame

section Requests

variable {spell : Spelling} {expectedKey : Text} {protocolOf : Text → Option Family}
  {post : Post} {imei command : Text} {frame : Bytes}

theorem serveCommand_wait {body : Value} {call : Call}
    (served : serveCommand spell protocolOf body = .ok (.wait imei command call)) :
    ∃ params, body.get "params".toList (.dict []) = .ok params ∧
      callOf spell (protocolOf imei) imei command params = some (.ok call) := by
  obtain ⟨_, _, served⟩ := bind_eq_ok_iff.mp served
  obtain ⟨imei, _, served⟩ := bind_eq_ok_iff.mp served
  obtain ⟨_, _, served⟩ := bind_eq_ok_iff.mp served
  obtain ⟨command, _, served⟩ := bind_eq_ok_iff.mp served
  obtain ⟨params, read, served⟩ := bind_eq_ok_iff.mp served
  split at served
  · cases served
  · split at served
    · cases served
    · split at served
      · cases served
      · split at served
        · next chosen =>
            cases served
            exact ⟨params, read, chosen⟩
        · cases served
        · cases served

theorem doPost_wait {call : Call}
    (served : doPost spell expectedKey protocolOf post = .ok (.wait imei command call)) :
    callOf spell (protocolOf imei) imei command (paramsOf post) = some (.ok call) := by
  obtain ⟨_, _, served⟩ := bind_eq_ok_iff.mp served
  split at served
  · cases served
  · split at served
    · cases served
    · obtain ⟨_, _, served⟩ := bind_eq_ok_iff.mp served
      split at served
      · cases served
      · split at served
        · next body decoded =>
            obtain ⟨params, read, chosen⟩ := serveCommand_wait served
            have same : paramsOf post = params := by
              simp only [paramsOf, decoded, read, Except.toOption, Option.getD_some]
            rwa [same]
        · split at served <;> cases served
        · cases served

theorem param_of_callOf {protocol : Option Family} {params : Value} {build : Builder}
    (parametrised : command ∈ paramCommands)
    (chosen : callOf spell protocol imei command params = some (.ok (.sendCommand imei build))) :
    paramBuilder spell params command = some (.ok build) := by
  have simple : simpleCommands.lookup command = none := by
    have none_ : ∀ command ∈ paramCommands, (simpleCommands.lookup command).isNone = true := by
      decide
    exact Option.isNone_iff_eq_none.mp (none_ command parametrised)
  rw [callOf, simple] at chosen
  split at chosen
  · cases chosen
  · obtain ⟨built, known, same⟩ := Option.map_eq_some_iff.mp chosen
    cases built with
    | error ex => cases same
    | ok builder =>
        cases same
        exact known

theorem Sent.text (sent : Sent spell expectedKey post command frame) :
    ∃ p, requested spell (paramsOf post) command = some (.ok p) ∧ textOf frame = some p.text := by
  obtain ⟨served, parametrised, written⟩ := sent
  have chosen := param_of_callOf parametrised (doPost_wait served)
  obtain ⟨asked, known, matching⟩ := matching_param chosen
  obtain ⟨p, rfl, carries⟩ := matching _ rfl
  refine ⟨p, known, ?_⟩
  rw [Call.start] at written
  split at written
  · next frame' later' built =>
      cases (Services.CommandService.sendCommand_ok (congrArg Prod.fst written)).1
      exact Frames.textOf_of_commandFrame (carries _ _ (congrArg Prod.fst built))
  · cases congrArg Prod.fst written

/-- Every frame that is written for a request with parameters tells the values asked for, apart
from those of any other request, if none of them holds a separator or a terminator; it does not tell
them if one does. -/
theorem values_told_iff (sent : Sent spell expectedKey post command frame) :
    ∃ p text, requested spell (paramsOf post) command = some (.ok p) ∧
      textOf frame = some text ∧ (Faithful p text ↔ p.separated = true) ∧
      ∀ post' command' frame' p', Sent spell expectedKey post' command' frame' →
        requested spell (paramsOf post') command' = some (.ok p') → textOf frame' = some text →
          p.separated = true → p'.separated = true → p' = p := by
  obtain ⟨p, asked, told⟩ := sent.text
  refine ⟨p, p.text, asked, told, faithful_iff, ?_⟩
  intro post' command' frame' p' sent' asked' told' clean clean'
  obtain ⟨p'', again, text⟩ := sent'.text
  rw [asked'] at again
  cases again
  rw [told'] at text
  have faithful' : Faithful p' p.text := by
    rw [Option.some.inj text]
    exact faithful_iff.mpr clean'
  exact Parameters.words_injective
    (faithful'.recovered.unique (faithful_iff.mpr clean).recovered)

end Requests

def apnPost (apnName user pwd : String) : Post where
  key := "key".toList
  path := "/command".toList
  contentLength := some "99".toList
  body := .ok (.dict [("imei".toList, .text ['1']), ("command".toList, .text "apn".toList),
    ("params".toList, .dict [("apn_name".toList, .text apnName.toList),
      ("user".toList, .text user.toList), ("pwd".toList, .text pwd.toList)])])

def apnOf (apnName user pwd : String) : Parameters :=
  .apn apnName.toList (credentials (fun _ => []) (.text user.toList) (.text pwd.toList))

def devices : Registry := Registry.empty.register id ['1'] [] ['d'] 0 .gt06 0 0

theorem sent_apn (apnName user pwd : String) (ascii : isAscii (apnOf apnName user pwd).text = true)
    (short : (apnOf apnName user pwd).text.length ≤ Lifetime.maxCommand) :
    Sent (fun _ => []) "key".toList (apnPost apnName user pwd) "apn".toList
      (Frames.frameOf (apnOf apnName user pwd).text 1) := by
  have served : doPost (fun _ => []) "key".toList (fun _ => some .gt06)
      (apnPost apnName user pwd) = .ok (.wait ['1'] "apn".toList (.sendCommand ['1']
        (buildApn (fun _ => []) (.text apnName.toList) (.text user.toList) (.text pwd.toList)))) :=
    rfl
  have built : buildApn (fun _ => []) (.text apnName.toList) (.text user.toList)
      (.text pwd.toList) 1 = (.ok (Frames.frameOf (apnOf apnName user pwd).text 1), 2) := by
    rw [buildApn_eq, buildCommand]
    exact Prod.ext (Frames.commandFrame_eq ascii short (by decide)) rfl
  have written : (Call.sendCommand ['1'] (buildApn (fun _ => []) (.text apnName.toList)
      (.text user.toList) (.text pwd.toList))).start devices 1 =
        (.ok (0, Frames.frameOf (apnOf apnName user pwd).text 1), 2) := by
    rw [Call.start, built]
    rfl
  exact .intro served (by decide) written

/-- The access point of a provider is told as it was asked for, and no other request whose values
hold no separators leads to its text. -/
theorem values_told_provider : Faithful (apnOf "dialogbb" "" "") "APN,dialogbb#".toList ∧
    ∀ post command frame p, Sent (fun _ => []) "key".toList post command frame →
      requested (fun _ => []) (paramsOf post) command = some (.ok p) →
      textOf frame = some "APN,dialogbb#".toList → p.separated = true →
        p = apnOf "dialogbb" "" "" := by
  obtain ⟨p, text, asked, told, faithful, apart⟩ :=
    values_told_iff (sent_apn "dialogbb" "" "" (by decide) (by decide))
  have known : requested (fun _ => []) (paramsOf (apnPost "dialogbb" "" "")) "apn".toList =
      some (.ok (apnOf "dialogbb" "" "")) := rfl
  rw [known] at asked
  cases asked
  rw [Frames.textOf_eq (by decide) (by decide)] at told
  obtain rfl : "APN,dialogbb#".toList = text := Option.some.inj told
  refine ⟨faithful.mpr (by decide), ?_⟩
  intro post command frame p sent asked told clean
  exact apart post command frame p sent asked told (by decide) clean

/-- An access point with a second command behind it is written as it is, and one with two commas
cannot be told from an access point with user and password. -/
theorem engine_cut_injected :
    (∃ frame,
      Sent (fun _ => []) "key".toList (apnPost "internet#RELAY,1" "" "") "apn".toList frame ∧
      textOf frame = some "APN,internet#RELAY,1#".toList) ∧
    requested (fun _ => []) (paramsOf (apnPost "internet#RELAY,1" "" "")) "apn".toList =
      some (.ok (.apn "internet#RELAY,1".toList none)) ∧
    ¬ Faithful (.apn "internet#RELAY,1".toList none) "APN,internet#RELAY,1#".toList ∧
    (∃ frame, Sent (fun _ => []) "key".toList (apnPost "a,b,c" "" "") "apn".toList frame ∧
      Sent (fun _ => []) "key".toList (apnPost "a" "b" "c") "apn".toList frame) ∧
    requested (fun _ => []) (paramsOf (apnPost "a,b,c" "" "")) "apn".toList =
      some (.ok (.apn "a,b,c".toList none)) ∧
    requested (fun _ => []) (paramsOf (apnPost "a" "b" "c")) "apn".toList =
      some (.ok (.apn ['a'] (some (['b'], ['c'])))) := by
  refine ⟨⟨_, sent_apn _ _ _ (by decide) (by decide), ?_⟩, rfl, ?_,
    ⟨_, sent_apn _ _ _ (by decide) (by decide), sent_apn _ _ _ (by decide) (by decide)⟩, rfl, rfl⟩
  · exact Frames.textOf_eq (by decide) (by decide)
  · intro faithful
    exact absurd faithful.recovered.once (by decide)

end TrackerGateway.Commands.Injection
