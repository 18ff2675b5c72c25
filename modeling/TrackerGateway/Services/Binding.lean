/- module: TrackerGateway/Services/Binding
   source: src/services/gps103_handler.py (_handle_login, _authenticated_imei),
     src/services/teltonika_handler.py (_handle_login), src/docs/multi-protocol.md
   digest: A message that names an identity its connection cannot have only closes it. -/

import TrackerGateway.Foundation.Coroutine.Discipline
import TrackerGateway.Services.Gps103Handler
import TrackerGateway.Services.TeltonikaHandler

set_option autoImplicit false
set_option relaxedAutoImplicit false

namespace TrackerGateway.Services.Binding

open Foundation.Coroutine
open Foundation.Wire (Text Bytes strip)
open TrackerGateway.Runtime

def trackerImei (text : Text) : Option Text :=
  let imei := strip (((text.splitOn ',').headD []).drop 5)
  if Parsers.Gps103.isImei imei then some imei else none

def namedImei (family : Family) (raw : Bytes) : Option Text :=
  match family with
  | .gt06 => none
  | .gps103 =>
      match Parsers.Gps103.classify raw with
      | (.login, text) => (Parsers.Gps103.parseLogin text).toOption
      | (.heartbeat, text) => (Parsers.Gps103.parseHeartbeat text).toOption
      | (.tracker, text) => trackerImei text
      | (.unknown, _) => none
  | .teltonika =>
      if Parsers.Teltonika.isLoginFrame raw then (Parsers.Teltonika.parseLogin raw).toOption
      else none

/-- The identity that the handler gets to see: of a report, only if the rest can be decoded. -/
def readImei (cfg : Config) (family : Family) (raw : Bytes) : Option Text :=
  match family, Parsers.Gps103.classify raw with
  | .gps103, (.tracker, text) => (Parsers.Gps103.parseTracker cfg text).toOption.map (·.imei)
  | _, _ => namedImei family raw

theorem parseTracker_imei {cfg : Config} {text : Text} {report : Parsers.Gps103.Report}
    (parsed : Parsers.Gps103.parseTracker cfg text = .ok report) :
    trackerImei text = some report.imei := by
  rw [Parsers.Gps103.parseTracker] at parsed
  unfold trackerImei
  dsimp only at parsed ⊢
  generalize strip (((text.splitOn ',').headD []).drop 5) = imei at parsed ⊢
  split at parsed
  · cases parsed
  · split at parsed
    · cases parsed
    · next valid =>
        rw [if_pos (by simpa using valid)]
        split at parsed
        · cases fixed : Parsers.Gps103.parseFix cfg (text.splitOn ',') with
          | error e => simp [fixed, Except.map] at parsed
          | ok fix =>
              rw [fixed] at parsed
              cases parsed
              rfl
        · cases parsed
          rfl

theorem namedImei_of_readImei {cfg : Config} {family : Family} {raw : Bytes} {imei : Text}
    (read : readImei cfg family raw = some imei) : namedImei family raw = some imei := by
  unfold readImei at read
  split at read
  · next text classified =>
      rw [namedImei]
      rw [classified]
      cases parsed : Parsers.Gps103.parseTracker cfg text with
      | error e => simp [parsed, Except.toOption] at read
      | ok report =>
          obtain rfl : report.imei = imei := by simpa [parsed, Except.toOption] using read
          exact parseTracker_imei parsed
  · exact read

/-- The identity is named, its lookups find no device and the connection is not found under it. -/
def Excluded (named : Option Text) (past : List Answered) : Prop :=
  ∃ imei, named = some imei ∧ (⟨.getImeiBySocket, some imei⟩ : Answered) ∉ past ∧
    ∀ protocolType model answer, protocolType ≠ .gt06 →
      (⟨.getDeviceByImei imei protocolType model, answer⟩ : Answered) ∈ past →
      ∃ deviceId, answer = .ok deviceId ∧ truthy deviceId = none

def binds : Op → Bool
  | .registerDevice .. | .write _ | .execute _ => true
  | _ => false

def Idle (named : Option Text) (past : List Answered) (o : Op) : Prop :=
  Excluded named past → binds o = false

def Closed (named : Option Text) (past : List Answered) (outcome : Except Exn (Option Text)) :
    Prop :=
  Excluded named past → (⟨.close, ()⟩ : Answered) ∈ past ∧ outcome = .ok none

section Exclusion

variable {named : Option Text} {past : List Answered}

theorem not_excluded_none : ¬ Excluded none past := by
  rintro ⟨imei, nothing, -⟩
  cases nothing

theorem not_excluded_cons (a : Answered) (never : ¬ Excluded named past) :
    ¬ Excluded named (a :: past) := by
  rintro ⟨imei, rfl, unfound, refused⟩
  refine never ⟨imei, rfl, fun member => unfound (List.mem_cons_of_mem a member), ?_⟩
  intro protocolType model answer foreign member
  exact refused protocolType model answer foreign (List.mem_cons_of_mem a member)

theorem guarded_of_not_excluded (never : ¬ Excluded named past) (p : Handler (Option Text)) :
    Guarded (Idle named) (Closed named) p past := by
  have persists : ∀ past a, ¬ Excluded named past → ¬ Excluded named (a :: past) :=
    fun _ a never => not_excluded_cons a never
  have kept : Keeps (Idle named) (fun past => ¬ Excluded named past) p :=
    keeps_of_permissive persists (fun _ _ never excluded => absurd excluded never) p
  exact kept.guarded never fun _ _ never excluded => absurd excluded never

/-- An exception means that there was no exclusion, so whatever recovers from it is free. -/
theorem guarded_recover {p : Handler (Option Text)} {recover : Exn → Handler (Option Text)}
    (handled : Guarded (Idle named) (Closed named) p past) :
    Guarded (Idle named) (Closed named) (p.rescue recover) past := by
  rw [guarded_rescue]
  refine guarded_mono (fun _ _ allow => allow) ?_ handled
  intro past r closed
  cases r with
  | ok imei? => exact closed
  | error e =>
      refine guarded_of_not_excluded ?_ _
      intro excluded
      have impossible := (closed excluded).2
      cases impossible

theorem not_excluded_of_found {imei : Text}
    (found : (⟨.getImeiBySocket, some imei⟩ : Answered) ∈ past) : ¬ Excluded (some imei) past := by
  rintro ⟨imei', same, unfound, -⟩
  cases same
  exact unfound found

theorem guarded_lookup {imei model : Text} {family : Family} (foreign : family ≠ .gt06)
    {next : Option Text → Handler (Option Text)}
    (refused : ∀ answer, truthy answer = none →
      Guarded (Idle (some imei)) (Closed (some imei)) (next answer)
        (⟨.getDeviceByImei imei family model, .ok answer⟩ :: past)) :
    Guarded (Idle (some imei)) (Closed (some imei)) ((getDeviceByImei imei family model).bind next)
      past := by
  refine ⟨fun _ => rfl, ?_⟩
  intro answer
  cases answer with
  | error e =>
      rintro ⟨imei', same, -, lookups⟩
      cases same
      obtain ⟨deviceId, is, -⟩ := lookups family model _ foreign List.mem_cons_self
      cases is
  | ok deviceId? =>
      cases real : truthy deviceId? with
      | none => exact refused deviceId? real
      | some deviceId =>
          refine guarded_of_not_excluded ?_ _
          rintro ⟨imei', same, -, lookups⟩
          cases same
          obtain ⟨found, is, untrue⟩ := lookups family model _ foreign List.mem_cons_self
          cases is
          rw [real] at untrue
          cases untrue

end Exclusion

section Gps103

open Gps103Handler

variable (cfg : Config)

theorem guarded_authenticated {imei : Text} {past : List Answered}
    {next : Option Text → Handler (Option Text)}
    (refused : ∀ past, (⟨.close, ()⟩ : Answered) ∈ past →
      Guarded (Idle (some imei)) (Closed (some imei)) (next none) past) :
    Guarded (Idle (some imei)) (Closed (some imei)) ((authenticatedImei imei).bind next) past := by
  refine ⟨fun _ => rfl, ?_⟩
  intro found
  dsimp only [Program.bind_eq, Program.bind_pure]
  cases real : truthy found with
  | none => exact ⟨fun _ => rfl, fun _ => ⟨fun _ => rfl, fun _ => refused _ List.mem_cons_self⟩⟩
  | some connectionImei =>
      obtain ⟨rfl, -⟩ := truthy_eq_some_iff.mp real
      dsimp only
      split
      · exact ⟨fun _ => rfl, fun _ => ⟨fun _ => rfl, fun _ => refused _ List.mem_cons_self⟩⟩
      · next same =>
          obtain rfl := not_not.mp same
          exact guarded_of_not_excluded (not_excluded_of_found List.mem_cons_self) _

private theorem guarded_dispatchGps103 (ip : Text) (raw : Bytes) (kind : Parsers.Gps103.Kind)
    (text : Text) (classified : Parsers.Gps103.classify raw = (kind, text)) :
    Guarded (Idle (readImei cfg .gps103 raw)) (Closed (readImei cfg .gps103 raw))
      (dispatch cfg ip raw kind text) [] := by
  unfold readImei namedImei
  rw [classified]
  cases kind with
  | login =>
      dsimp only
      rw [dispatch, handleLogin]
      cases Parsers.Gps103.parseLogin text with
      | error e => exact guarded_of_not_excluded not_excluded_none _
      | ok imei =>
          refine ⟨fun _ => rfl, fun _ => guarded_lookup (by decide) ?_⟩
          intro answer untrue
          simp only [untrue]
          refine ⟨fun _ => rfl, fun _ => ⟨fun _ => rfl, ?_⟩⟩
          intro _ _
          exact ⟨List.mem_cons_self, rfl⟩
  | heartbeat =>
      dsimp only
      rw [dispatch, handleHeartbeat]
      cases Parsers.Gps103.parseHeartbeat text with
      | error e => exact guarded_of_not_excluded not_excluded_none _
      | ok imei => exact guarded_authenticated fun past closed _ => ⟨closed, rfl⟩
  | tracker =>
      dsimp only
      rw [dispatch, handleTracker]
      cases Parsers.Gps103.parseTracker cfg text with
      | error e => exact guarded_of_not_excluded not_excluded_none _
      | ok report => exact guarded_authenticated fun past closed _ => ⟨closed, rfl⟩
  | unknown => exact guarded_of_not_excluded not_excluded_none _

theorem guarded_processGps103Message (ip : Text) (raw : Bytes) :
    Guarded (Idle (readImei cfg .gps103 raw)) (Closed (readImei cfg .gps103 raw))
      (processGps103Message cfg ip raw) [] := by
  rw [processGps103Message]
  generalize classified : Parsers.Gps103.classify raw = pair
  obtain ⟨kind, text⟩ := pair
  exact guarded_recover (guarded_dispatchGps103 cfg ip raw kind text classified)

end Gps103

section Teltonika

open TeltonikaHandler
open Parsers.Teltonika (isLoginFrame)

variable (cfg : Config)

theorem guarded_processTeltonikaFrame (ip : Text) (raw : Bytes) :
    Guarded (Idle (readImei cfg .teltonika raw)) (Closed (readImei cfg .teltonika raw))
      (processTeltonikaFrame cfg ip raw) [] := by
  unfold readImei namedImei processTeltonikaFrame
  dsimp only
  by_cases login : isLoginFrame raw
  · rw [if_pos login, if_pos login]
    cases parsed : Parsers.Teltonika.parseLogin raw with
    | error e => exact guarded_of_not_excluded not_excluded_none _
    | ok imei =>
        apply guarded_recover
        rw [handleLogin]
        simp only [parsed]
        apply guarded_lookup (by decide)
        intro answer untrue
        simp only [untrue]
        exact ⟨fun _ => rfl, fun _ _ => ⟨List.mem_cons_self, rfl⟩⟩
  · rw [if_neg login, if_neg login]
    exact guarded_of_not_excluded not_excluded_none _

end Teltonika

end TrackerGateway.Services.Binding
