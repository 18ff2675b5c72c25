/- module: TrackerGateway/Commands/Language
   source: src/command_api.py, src/console.py, src/services/command_service.py,
     src/services/gps103_command_service.py, src/utils/gps103_command_builder.py
   digest: Every byte string written to a device is in the language of its family. -/

import TrackerGateway.Server.Commands
import TrackerGateway.Server.Frames
import TrackerGateway.Services.Language

set_option autoImplicit false
set_option relaxedAutoImplicit false

namespace TrackerGateway.Commands.Language

open Foundation.Coroutine
open Foundation.Transition (Reachable Throughout run reachable_of_free_run)
open Foundation.Wire (Text Bytes Instant bigEndianBytes asciiBytes)
open TrackerGateway.Runtime
open Server
open Server.Commands
open Server.CommandApi
open Services.CommandService
open Services.Language
open Utils.CommandBuilder
open Utils.Gps103CommandBuilder

def IsCommand (build : Builder) : Prop :=
  ∀ serial payload, (build serial).1 = .ok payload →
    ∃ command serial', (buildCommand command serial').1 = .ok payload

/-- A builder that is only known when the parameters of a request have been read. -/
def Commanding (built : Except Exn Builder) : Prop := ∀ build, built = .ok build → IsCommand build

theorem isCommand_buildCommand (command : Text) : IsCommand (buildCommand command) :=
  fun serial _ built => ⟨command, serial, built⟩

theorem commanding_return {build : Builder} (is : IsCommand build) :
    Commanding (pure build) := by
  intro build' same
  cases same
  exact is

theorem commanding_bind {α : Type} {first : Except Exn α} {next : α → Except Exn Builder}
    (is : ∀ a, Commanding (next a)) : Commanding (first >>= next) := by
  intro build built
  obtain ⟨a, _, later⟩ := bind_eq_ok_iff.mp built
  exact is a build later

theorem isCommand_buildSosAdd (phone1 phone2 phone3 : Value) :
    IsCommand (buildSosAdd phone1 phone2 phone3) := by
  intro serial payload built
  rw [buildSosAdd] at built
  split at built
  · cases built
  · exact ⟨_, serial, built⟩

theorem isCommand_buildApn (spell : Spelling) (apnName user pwd : Value) :
    IsCommand (buildApn spell apnName user pwd) := by
  rw [buildApn]
  split <;> exact isCommand_buildCommand _

theorem of_lookup {α : Type} {P : α → Prop} {table : List (Text × α)} {key : Text} {a : α}
    (all : ∀ entry ∈ table, P entry.2) (found : table.lookup key = some a) : P a := by
  obtain ⟨before, after, rfl, _⟩ := List.lookup_eq_some_iff.mp found
  exact all (key, a) (by simp)

theorem isCommand_simple {command : Text} {build : Builder}
    (known : simpleCommands.lookup command = some build) : IsCommand build := by
  refine of_lookup ?_ known
  simp only [simpleCommands, List.forall_mem_cons]
  and_intros
  all_goals first | exact isCommand_buildCommand _ | simp

theorem isCommand_console {command : Text} {build : Builder}
    (known : consoleCommands.lookup command = some build) : IsCommand build := by
  refine of_lookup ?_ known
  simp only [consoleCommands, List.forall_mem_cons]
  and_intros
  all_goals first | exact isCommand_buildCommand _ | simp

theorem commanding_param (spell : Spelling) {params : Value} {command : Text}
    {built : Except Exn Builder} (known : paramBuilder spell params command = some built) :
    Commanding built := by
  refine of_lookup ?_ known
  simp only [List.forall_mem_cons]
  and_intros
  all_goals repeat apply commanding_bind; intro
  all_goals first
    | exact commanding_return (isCommand_buildCommand _)
    | exact commanding_return (isCommand_buildSosAdd _ _ _)
    | exact commanding_return (isCommand_buildApn _ _ _ _)
    | simp

/-- What a coroutine for a V5 device writes is a frame of `build_command`. -/
theorem isCommand_of_chosen {spell : Spelling} {imei : Text} {build : Builder}
    (chosen : Chosen spell (.sendCommand imei build)) : IsCommand build := by
  cases chosen with
  | @post protocol imei' command params _ chosen =>
      rw [callOf] at chosen
      split at chosen
      · cases chosen
      · split at chosen
        · next builder known =>
            cases chosen
            exact isCommand_simple known
        · obtain ⟨built, known, same⟩ := Option.map_eq_some_iff.mp chosen
          cases built with
          | error ex => cases same
          | ok builder =>
              cases same
              exact commanding_param spell known _ rfl
  | @console line _ chosen =>
      rw [consoleCall] at chosen
      split at chosen
      · obtain ⟨builder, known, same⟩ := Option.map_eq_some_iff.mp chosen
        cases same
        exact isCommand_console known
      · cases chosen

/-- A builder of position requests or of the code that lets the engine run again. -/
def IsFrame (imei : Text) (builder : Text → Except Exn Bytes) : Prop :=
  ∀ payload, builder imei = .ok payload →
    ∃ code, (code = 'B' ∨ code = 'K') ∧ frame imei code = .ok payload

theorem isFrame_supported {imei command : Text} {builder : Text → Except Exn Bytes}
    (known : supported.lookup command = some builder) : IsFrame imei builder := by
  refine of_lookup ?_ known
  simp only [supported, List.forall_mem_cons]
  and_intros
  · exact fun _ built => ⟨'B', .inl rfl, built⟩
  · exact fun _ built => ⟨'B', .inl rfl, built⟩
  · exact fun _ built => ⟨'B', .inl rfl, built⟩
  · exact fun _ built => ⟨'K', .inr rfl, built⟩
  · simp

/-- What a coroutine for a TK103 device writes is a frame for its identity. -/
theorem frame_of_builds {imei command : Text} {payload : Bytes}
    (built : (Call.sendGps103Command imei command).Builds payload) :
    isCommandImei imei = true ∧ ∃ code, (code = 'B' ∨ code = 'K') ∧
      payload = asciiBytes (frameText imei code) := by
  obtain ⟨builder, known, whole⟩ := built
  obtain ⟨code, one, framed⟩ := isFrame_supported known payload whole
  obtain ⟨valid, same⟩ := frame_eq_ok framed
  exact ⟨valid, code, one, same⟩

/-- A push comes from a request or a line of the console, and goes to the connection its identity is
registered for with the family of the command. -/
def Ordered (spell : Spelling) : Event → List Event → Prop
  | .pushed c payload, earlier => ∃ call, Chosen spell call ∧ call.Builds payload ∧
      lastRoute call.imei earlier = some (some (c, call.family))
  | _, _ => True

section Runs

variable {cfg : Config} {spell : Spelling} {expectedKey : Text}

private theorem ordered_step {pipes : Family → Pipeline} {g g' : Gateway} {i : Input}
    (routed : Routed g) (ordered : Throughout (Ordered spell) g.history)
    (allowed : Commanded spell g i) (moves : Server.Step cfg pipes g i g') :
    Throughout (Ordered spell) g'.history := by
  cases moves with
  | quiet turn move => exact ordered
  | finish turn at_ => exact ordered
  | lose turn => exact ordered
  | operate turn at_ => exact ⟨trivial, by simpa using ordered⟩
  | crash turn at_ => exact ⟨trivial, trivial, ordered⟩
  | release turn at_ => exact ⟨trivial, trivial, ordered⟩
  | @push imei required payload device turn found family =>
      obtain ⟨call, chosen, rfl, rfl, built⟩ := allowed
      have protocol : call.family = device.protocol := by simpa using family
      have last : (lastRoute call.imei g.history).join = some (device.socket, call.family) := by
        rw [← routed call.imei, Services.Registry.route, found, Option.map_some, protocol]
      exact ⟨⟨call, chosen, built, Option.join_eq_some_iff.mp last⟩, ordered⟩
  | _ => exact ⟨trivial, ordered⟩

theorem ordered {pipes : Family → Pipeline} {g : Gateway}
    (reached : Reachable (Gateway.step cfg pipes) (Commanded spell) .start g) :
    Throughout (Ordered spell) g.history :=
  reached.invariant_of_reached trivial fun _ _ _ before ordered allowed moves =>
    ordered_step (routed before) ordered allowed (Server.step_cases moves)

def sends : Event → Option (Conn × Bytes)
  | .performed c ⟨.write payload, _⟩ => some (c, payload)
  | .pushed c payload => some (c, payload)
  | _ => none

def LoggedIn (c : Conn) (imei : Text) (h : List Event) : Prop :=
  ∃ ip deviceId protocol connectedAt lastSeen, .performed c
    ⟨.registerDevice imei ip deviceId protocol connectedAt lastSeen, ()⟩ ∈ h

/-- What may be written to a connection of a family after a history: to a V5 device the
acknowledgements and commands; to a TK103 device the two replies, and the confirmation of an alarm,
the position request and the release of the engine for an identity of ten to seventeen digits that
has logged in there; to an FMB device one byte or a count of four. -/
def InLanguage (family : Family) (c : Conn) (earlier : List Event) (payload : Bytes) : Prop :=
  match family with
  | .gt06 => (∃ packet, Parsers.V5.buildAck packet = .ok payload) ∨
      ∃ command serial, (buildCommand command serial).1 = .ok payload
  | .gps103 => payload = asciiBytes "LOAD".toList ∨ payload = asciiBytes "ON".toList ∨
      ∃ imei code, isCommandImei imei = true ∧ LoggedIn c imei earlier ∧
        (code = 'E' ∨ code = 'B' ∨ code = 'K') ∧ payload = asciiBytes (frameText imei code)
  | .teltonika => payload = [0x01] ∨ ∃ count, payload = bigEndianBytes 4 count

/-- Every handler keeps to the language of its family. -/
theorem handlers_speak (family : Family) (ip : Text) (raw : Bytes) :
    Guarded (Speaks family) (fun _ _ => True) ((pipelines cfg family).handler ip raw) [] := by
  have handled : Keeps (Speaks family) always ((pipelines cfg family).handler ip raw) := by
    cases family with
    | gt06 => exact keeps_processPacket cfg ip
    | gps103 => exact keeps_processGps103Message cfg ip raw
    | teltonika => exact keeps_processTeltonikaFrame cfg ip raw
  exact handled.guarded trivial fun _ _ _ => trivial

def Spoken : Event → List Event → Prop :=
  Obeys (fun family _ => Speaks family) fun _ _ _ _ => True

theorem spoken {permitted : Gateway → Input → Prop} {g : Gateway}
    (reached : Reachable (Gateway.step cfg (pipelines cfg)) permitted .start g) :
    Throughout Spoken g.history :=
  (overseen (fun family ip raw => handlers_speak family ip raw) reached).obeys

section History

variable {h : List Event} {c : Conn} {imei ip deviceId : Text} {protocol : Family}
  {connectedAt lastSeen : Instant}

theorem detected_of_login (obeys : Throughout Spoken h)
    (login :
      .performed c ⟨.registerDevice imei ip deviceId protocol connectedAt lastSeen, ()⟩ ∈ h) :
    .detected c protocol ∈ h ∧ (protocol = .gps103 → isCommandImei imei = true) := by
  obtain ⟨later, earlier, rfl, family, raw, detected, _, same, valid⟩ := obeys.exists_of_mem login
  subst same
  exact ⟨by simp [detected], valid⟩

theorem LoggedIn.of_registrant (last : registrant imei h = some (c, deviceId)) :
    LoggedIn c imei h := by
  obtain ⟨e, member, is⟩ := registrant_mem last
  obtain ⟨ip, protocol, connectedAt, lastSeen, rfl⟩ := Event.eq_of_registration is
  exact ⟨ip, deviceId, protocol, connectedAt, lastSeen, member⟩

theorem LoggedIn.valid (obeys : Throughout Spoken h) (detected : .detected c .gps103 ∈ h)
    (login : LoggedIn c imei h) : isCommandImei imei = true := by
  obtain ⟨ip, deviceId, protocol, connectedAt, lastSeen, member⟩ := login
  obtain ⟨here, valid⟩ := detected_of_login obeys member
  exact valid (detected_unique obeys here detected)

end History

theorem inLanguage_of_reply {h : List Event} {c : Conn} {family : Family} {payload : Bytes}
    (obeys : Throughout Spoken h) (truthful : Throughout Truthful h)
    (detected : .detected c family ∈ h) (reply : Reply family (ownTrace c h) payload) :
    InLanguage family c h payload := by
  cases family with
  | gt06 => exact .inl reply
  | teltonika => exact reply
  | gps103 =>
      rcases reply with rfl | rfl | ⟨imei, found, rfl⟩
      · exact .inl rfl
      · exact .inr (.inl rfl)
      · obtain ⟨later, earlier, split, answer⟩ :=
          truthful.exists_of_mem (mem_of_mem_ownTrace found)
        obtain ⟨deviceId, last⟩ := answer imei rfl
        obtain ⟨ip, deviceId, protocol, connectedAt, lastSeen, member⟩ :=
          LoggedIn.of_registrant last
        have login : LoggedIn c imei h :=
          ⟨ip, deviceId, protocol, connectedAt, lastSeen, by simp [split, member]⟩
        exact .inr (.inr ⟨imei, 'E', login.valid obeys detected, login, .inl rfl, rfl⟩)

theorem inLanguage_of_call {h : List Event} {c : Conn} {call : Call} {payload : Bytes}
    (chosen : Chosen spell call) (built : call.Builds payload) (login : LoggedIn c call.imei h) :
    InLanguage call.family c h payload := by
  cases call with
  | sendCommand imei build =>
      obtain ⟨serial, built⟩ := built
      exact .inr (isCommand_of_chosen chosen serial payload built)
  | sendGps103Command imei command =>
      obtain ⟨valid, code, one, same⟩ := frame_of_builds built
      exact .inr (.inr ⟨imei, code, valid, login, .inr one, same⟩)

/-- In every run of the gateway with its requests and console lines, every byte string written to a
connection is in the language of the family the connection was detected as. -/
theorem written_in_language {permitted : System → Move → Prop} {s : System}
    (reached : Reachable (System.step cfg (pipelines cfg) spell expectedKey) permitted .start s)
    {later earlier : List Event} {e : Event} {c : Conn} {payload : Bytes} {family : Family}
    (split : s.gateway.history = later ++ e :: earlier) (sent : sends e = some (c, payload))
    (detected : .detected c family ∈ s.gateway.history) : InLanguage family c earlier payload := by
  have gateway := gateway_reached reached
  have obeys : Throughout Spoken s.gateway.history := spoken gateway
  have ordered : Throughout (Ordered spell) s.gateway.history := ordered gateway
  have truthful : Throughout Truthful s.gateway.history := truthful gateway
  have sameFamily : ∀ family', .detected c family' ∈ earlier → family' = family := by
    intro family' here
    refine detected_unique obeys ?_ detected
    simp [split, here]
  rw [split] at obeys ordered truthful
  have before := obeys.of_append.2
  unfold sends at sent
  split at sent
  · next c' payload' answer =>
      cases sent
      obtain ⟨family', raw, here, _, reply⟩ := obeys.at
      obtain rfl := sameFamily family' here
      exact inLanguage_of_reply before truthful.of_append.2 here reply
  · next c' payload' =>
      cases sent
      obtain ⟨call, chosen, built, last⟩ := ordered.at
      obtain ⟨ip, deviceId, connectedAt, lastSeen, member⟩ := registered_of_lastRoute last
      obtain rfl := sameFamily call.family (detected_of_login before member).1
      exact inLanguage_of_call chosen built
        ⟨ip, deviceId, call.family, connectedAt, lastSeen, member⟩
  · cases sent

end Runs

/-- The newest write of a history, and whether a connection is known to be of a family. -/
private def newest (h : List Event) (c : Conn) (family : Family) : Option (Conn × Bytes) × Bool :=
  (h.head?.bind sends, h.any fun e => match e with
    | .detected c' family' => c' = c && family' = family
    | _ => false)

/-- The frame that cuts the engine is in the language of the V5 device it is written to. -/
theorem cut_in_language : ∃ s e earlier,
    run process .start (requested ++ [.begin_ 0 (.ok ())]) = some s ∧
      s.gateway.history = e :: earlier ∧
    sends e = some (0, cutFrame) ∧ InLanguage .gt06 0 earlier cutFrame := by
  have shown : (run process .start (requested ++ [.begin_ 0 (.ok ())])).map
      (fun s => newest s.gateway.history 0 .gt06) = some (some (0, cutFrame), true) := by
    decide +kernel
  obtain ⟨s, ran, seen⟩ := Option.map_eq_some_iff.mp shown
  obtain ⟨last, known⟩ := Prod.mk.inj seen
  obtain ⟨e, head, sent⟩ := Option.bind_eq_some_iff.mp last
  obtain ⟨earlier, split⟩ := List.head?_eq_some_iff.mp head
  obtain ⟨event, member, same⟩ := List.any_eq_true.mp known
  have detected : .detected 0 .gt06 ∈ s.gateway.history := by
    split at same
    · obtain ⟨rfl, rfl⟩ : _ = 0 ∧ _ = Family.gt06 := by simpa using same
      exact member
    · cases same
  have whole : s.gateway.history = [] ++ e :: earlier := split
  exact ⟨s, e, earlier, ran, split, sent,
    written_in_language (reachable_of_free_run .start ran) whole sent detected⟩

end TrackerGateway.Commands.Language
