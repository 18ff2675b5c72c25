/- module: TrackerGateway/Invariants/OneImei
   source: src/services/gps103_handler.py, src/services/teltonika_handler.py,
     src/services/packet_handler.py, src/docs/multi-protocol.md
   digest: A connection keeps the identity it logged in with, unless a second login is accepted. -/

import TrackerGateway.Invariants.Attribution
import TrackerGateway.Services.Binding

set_option autoImplicit false
set_option relaxedAutoImplicit false

namespace TrackerGateway.Invariants.OneImei

open Foundation.Coroutine
open Foundation.Transition (Reachable Throughout run permittedRun reachable_of_run)
open Foundation.Wire (Text Bytes asciiBytes)
open TrackerGateway.Runtime
open TrackerGateway.Server
open Services.Binding
open Attribution (rules outcomes overseen_rules)

def attributes : Event → Option (Conn × Text)
  | .performed c ⟨.registerDevice imei .., _⟩ => some (c, imei)
  | .performed c ⟨.getImeiBySocket, some imei⟩ => some (c, imei)
  | .returned c (.ok (some imei)) => some (c, imei)
  | _ => none

def logins (c : Conn) (h : List Event) : List Text :=
  h.filterMap fun e => e.registration.bind fun r => if r.1 = c then some r.2.1 else none

/-- The connection's current frame names another identity than one registered before the frame. -/
def Foreign (c : Conn) (h : List Event) : Prop :=
  ∃ family raw imei named, .detected c family ∈ h ∧ frame c h = some raw ∧
    namedImei family raw = some named ∧ imei ∈ logins c (atBegin c h) ∧ named ≠ imei

structure Bound (g : Gateway) : Prop where
  /-- All a connection is ever attributed to is one identity. -/
  single : ∀ c imei imei', ∀ e ∈ g.history, ∀ e' ∈ g.history, attributes e = some (c, imei) →
    attributes e' = some (c, imei') → imei = imei'
  /-- While a message names another identity nothing is registered, answered or stored. -/
  untouched : ∀ c a later earlier, g.history = later ++ .performed c a :: earlier →
    Foreign c earlier → binds a.1 = false
  /-- A message that named another identity has closed the connection. -/
  closed : ∀ c outcome later earlier, g.history = later ++ .returned c outcome :: earlier →
    Foreign c earlier → (⟨.close, ()⟩ : Answered) ∈ ownTrace c earlier ∧ outcome = .ok none

/-- A lookup found no device; for a V5 login it may also have raised. -/
def refused (protocolType : Family) : Except Exn (Option Text) → Bool
  | .ok deviceId => (truthy deviceId).isNone
  | .error _ => protocolType = .gt06

/-- Once a connection has registered an identity, its lookups of other identities find no device,
and its reports that name another one can be decoded. -/
def steadfast (cfg : Config) (g : Gateway) : Input → Bool
  | .resume c answers =>
      match (g.tasks c).phase with
      | .handling _ (.call (.getDeviceByImei imei protocolType model) _) _ =>
          (logins c g.history).all (· = imei) ||
            refused protocolType (answers (.getDeviceByImei imei protocolType model))
      | .batch s (raw :: _) =>
          (namedImei s.protocol raw).all fun named =>
            (logins c g.history).all (· = named) || (readImei cfg s.protocol raw).isSome
      | _ => true
  | _ => true

def Steadfast (cfg : Config) : Event → List Event → Prop
  | .performed c ⟨.getDeviceByImei imei protocolType _, answer⟩, earlier =>
      ∀ other ∈ logins c earlier, other ≠ imei → refused protocolType answer = true
  | .began c raw, earlier => ∃ family, .detected c family ∈ earlier ∧
      ∀ named, namedImei family raw = some named → ∀ other ∈ logins c earlier, other ≠ named →
        (readImei cfg family raw).isSome = true
  | _, _ => True

theorem mem_logins {c : Conn} {imei : Text} {h : List Event} :
    imei ∈ logins c h ↔ ∃ e ∈ h, ∃ deviceId, e.registration = some (c, imei, deviceId) := by
  rw [logins]
  rw [List.mem_filterMap]
  constructor
  · rintro ⟨e, member, found⟩
    obtain ⟨⟨c', i, deviceId⟩, is, same⟩ := Option.bind_eq_some_iff.mp found
    split at same
    · next here =>
        cases same
        obtain rfl : c' = c := here
        exact ⟨e, member, deviceId, is⟩
    · cases same
  · rintro ⟨e, member, deviceId, is⟩
    exact ⟨e, member, by simp [is]⟩

private theorem all_logins {c : Conn} {imei : Text} {h : List Event}
    (all : (logins c h).all (· = imei) = true) : ∀ other ∈ logins c h, other = imei := by
  simpa using all

private theorem steadfast_step {cfg : Config} {pipes : Family → Pipeline} {g g' : Gateway}
    {i : Input} (watched : ∀ c, Watched rules outcomes c g.history (g.tasks c).phase)
    (steady : Throughout (Steadfast cfg) g.history) (allowed : steadfast cfg g i = true)
    (moves : Step cfg pipes g i g') : Throughout (Steadfast cfg) g'.history := by
  cases moves with
  | quiet turn move => exact steady
  | finish turn at_ => exact steady
  | lose turn => exact steady
  | @begin_ c answers s raw packets turn at_ open_ =>
      have promised := watched c
      rw [at_] at promised
      refine ⟨⟨s.protocol, promised, ?_⟩, steady⟩
      intro named names other registered distinct
      simp only [steadfast, at_, names, Option.all_some, Bool.or_eq_true] at allowed
      rcases allowed with all | read
      · exact absurd (all_logins all other registered) distinct
      · exact read
  | @operate c answers s o next packets turn at_ =>
      refine ⟨?_, by simpa using steady⟩
      simp only [Gateway.perform_history]
      cases o with
      | getDeviceByImei imei protocolType model =>
          intro other registered distinct
          simp only [steadfast, at_, Bool.or_eq_true] at allowed
          rcases allowed with all | untold
          · exact absurd (all_logins all other registered) distinct
          · exact untold
      | _ => trivial
  | crash turn at_ => exact ⟨trivial, trivial, steady⟩
  | release turn at_ => exact ⟨trivial, trivial, steady⟩
  | _ => exact ⟨trivial, steady⟩

theorem steadfast_history {cfg : Config} {g : Gateway}
    (reached : Reachable (Gateway.step cfg (pipelines cfg))
      (fun g i => steadfast cfg g i) .start g) :
    Throughout (Steadfast cfg) g.history :=
  reached.invariant_of_reached trivial fun _ _ _ before steady allowed moves =>
    steadfast_step (overseen_rules before).watched steady allowed (step_cases moves)

section History

variable {cfg : Config} {h : List Event} (obeys : Throughout (Obeys rules outcomes) h)
  (steady : Throughout (Steadfast cfg) h)

include obeys steady

omit obeys in
private theorem registers_same {c : Conn} {imei deviceId other : Text}
    (accepted : Services.Discipline.Accepted imei deviceId (ownTrace c h))
    (first : ∀ a ∈ ownTrace c h, Services.Discipline.isLogin a.1 = false)
    (registered : other ∈ logins c h) : other = imei := by
  by_contra distinct
  obtain ⟨real, protocolType, model, looked⟩ := accepted
  obtain ⟨after, before, trace⟩ := List.append_of_mem looked
  obtain ⟨later, earlier, whole, -, begun⟩ := split_ownTrace trace
  have held : other ∈ logins c earlier := by
    obtain ⟨e, member, deviceId', is⟩ := mem_logins.mp registered
    obtain ⟨ip, protocol, connectedAt, lastSeen, rfl⟩ := Event.eq_of_registration is
    rcases mem_ownTrace_or_atBegin member with now | before
    · have := first _ now
      cases this
    · rw [← begun] at before
      exact mem_logins.mpr ⟨_, (atBegin_suffix c earlier).subset before, deviceId', is⟩
  rw [whole] at steady
  have untold := steady.at other held distinct
  simp [refused, truthy, real] at untold

theorem logins_single {c : Conn} {imei imei' : Text} (one : imei ∈ logins c h)
    (other : imei' ∈ logins c h) : imei = imei' := by
  induction h with
  | nil => simp [logins] at one
  | cons e h ih =>
      obtain ⟨obeyed, obeys⟩ := obeys
      -- The newest registration agrees with every earlier one.
      have newest : ∀ i i', (∃ deviceId, e.registration = some (c, i, deviceId)) →
          i' ∈ logins c h → i' = i := by
        rintro i i' ⟨deviceId, is⟩ before
        obtain ⟨ip, protocol, connectedAt, lastSeen, rfl⟩ := Event.eq_of_registration is
        obtain ⟨family, raw, -, -, accepted, first⟩ := obeyed
        exact registers_same steady.2 accepted first before
      have cases_ : ∀ i, i ∈ logins c (e :: h) →
          (∃ deviceId, e.registration = some (c, i, deviceId)) ∨ i ∈ logins c h := by
        intro i member
        obtain ⟨e', member', deviceId, is⟩ := mem_logins.mp member
        rcases List.mem_cons.mp member' with rfl | before
        · exact .inl ⟨deviceId, is⟩
        · exact .inr (mem_logins.mpr ⟨e', before, deviceId, is⟩)
      rcases cases_ imei one with now | before <;> rcases cases_ imei' other with now' | before'
      · obtain ⟨deviceId, is⟩ := now
        obtain ⟨deviceId', is'⟩ := now'
        rw [is] at is'
        cases is'
        rfl
      · exact (newest imei imei' now before').symm
      · exact newest imei' imei now' before
      · exact ih obeys steady.2 before before'

omit steady in
theorem attributes_logins (truthful : Throughout Truthful h) {e : Event} {c : Conn} {imei : Text}
    (member : e ∈ h) (is : attributes e = some (c, imei)) : imei ∈ logins c h := by
  have found : ∀ h', Throughout Truthful h' →
      .performed c ⟨.getImeiBySocket, some imei⟩ ∈ h' → imei ∈ logins c h' := by
    intro h' truthful member
    obtain ⟨later, earlier, rfl, traced⟩ := truthful.exists_of_mem member
    obtain ⟨deviceId, last⟩ := traced imei rfl
    obtain ⟨e', member', registered⟩ := registrant_mem last
    exact mem_logins.mpr ⟨e', by simp [member'], deviceId, registered⟩
  unfold attributes at is
  split at is
  · cases is
    exact mem_logins.mpr ⟨_, member, _, rfl⟩
  · cases is
    exact found h truthful member
  · cases is
    obtain ⟨later, earlier, rfl, family, raw, -, -, named⟩ := obeys.exists_of_mem member
    have earlier_logins : imei ∈ logins c earlier := by
      rcases named with looked | ⟨deviceId, ip, protocol, connectedAt, lastSeen, registered⟩
      · exact found earlier truthful.of_append.2 (mem_of_mem_ownTrace looked)
      · exact mem_logins.mpr ⟨_, mem_of_mem_ownTrace registered, deviceId, rfl⟩
    obtain ⟨e', member', deviceId, registered⟩ := mem_logins.mp earlier_logins
    exact mem_logins.mpr ⟨e', by simp [member'], deviceId, registered⟩
  · cases is

theorem excluded_of_foreign (truthful : Throughout Truthful h) {c : Conn} {family : Family}
    {raw : Bytes} (detected : .detected c family ∈ h) (current : frame c h = some raw)
    (foreign : Foreign c h) : Excluded (readImei cfg family raw) (ownTrace c h) := by
  obtain ⟨family', raw', imei, named, detected', current', names, held, distinct⟩ := foreign
  obtain rfl := detected_unique obeys detected detected'
  obtain rfl : raw = raw' := Option.some.inj (current.symm.trans current')
  have registered : imei ∈ logins c h := by
    obtain ⟨e, member, deviceId, is⟩ := mem_logins.mp held
    exact mem_logins.mpr ⟨e, (atBegin_suffix c h).subset member, deviceId, is⟩
  have read : readImei cfg family raw = some named := by
    obtain ⟨later, whole⟩ := began_of_frame current
    rw [whole] at steady
    obtain ⟨family', before, legible⟩ := steady.at
    have before : .detected c family' ∈ h := (atBegin_suffix c h).subset before
    obtain rfl := detected_unique obeys detected before
    obtain ⟨seen, found⟩ :=
      Option.isSome_iff_exists.mp (legible named names imei held distinct.symm)
    rw [found, ← names, namedImei_of_readImei found]
  refine ⟨named, read, ?_, ?_⟩
  · intro looked
    have same := attributes_logins obeys truthful (mem_of_mem_ownTrace looked) rfl
    exact distinct (logins_single obeys steady same registered)
  · intro protocolType model answer v5 looked
    obtain ⟨after, before, trace⟩ := List.append_of_mem looked
    obtain ⟨later, earlier, whole, -, begun⟩ := split_ownTrace trace
    rw [← begun] at held
    rw [whole] at steady
    have untold := steady.at imei (by
      obtain ⟨e, member, deviceId, is⟩ := mem_logins.mp held
      exact mem_logins.mpr ⟨e, (atBegin_suffix c earlier).subset member, deviceId, is⟩)
      distinct.symm
    cases answer with
    | error e => simp [refused, v5] at untold
    | ok deviceId => exact ⟨deviceId, rfl, by simpa [refused] using untold⟩

end History

/-- In every run in which a second identity is never accepted on a connection, a connection has one
identity, and a message that names another one only closes it. -/
theorem one_imei (cfg : Config) {g : Gateway}
    (reached : Reachable (Gateway.step cfg (pipelines cfg))
      (fun g i => steadfast cfg g i) .start g) :
    Bound g := by
  have obeys := (overseen_rules reached).obeys
  have truthful := truthful reached
  have steady := steadfast_history reached
  have strict : Throughout (Obeys (fun family raw => Idle (readImei cfg family raw))
      fun family raw => Closed (readImei cfg family raw)) g.history := by
    refine (overseen ?_ reached).obeys
    intro family ip raw
    cases family with
    | gt06 => exact guarded_of_not_excluded not_excluded_none _
    | gps103 => exact guarded_processGps103Message cfg ip raw
    | teltonika => exact guarded_processTeltonikaFrame cfg ip raw
  refine ⟨?_, ?_, ?_⟩
  · intro c imei imei' e member e' member' is is'
    exact logins_single obeys steady (attributes_logins obeys truthful member is)
      (attributes_logins obeys truthful member' is')
  · intro c a later earlier whole foreign
    rw [whole] at obeys truthful steady strict
    obtain ⟨family, raw, detected, current, idle⟩ := strict.at
    exact idle (excluded_of_foreign obeys.of_append.2 steady.of_append.2 truthful.of_append.2
      detected current foreign)
  · intro c outcome later earlier whole foreign
    rw [whole] at obeys truthful steady strict
    obtain ⟨family, raw, detected, current, closed⟩ := strict.at
    exact closed (excluded_of_foreign obeys.of_append.2 steady.of_append.2 truthful.of_append.2
      detected current foreign)

def textLogin (imei : String) : Bytes := asciiBytes ("##,imei:" ++ imei ++ ",A;").toList

/-- A device logs in, and then names another identity on the same connection. -/
def twoLogins (answers : (o : Op) → Res o) (first second : Nat) : List Input :=
  [.connect 0 [], .arrive 0 (.data (textLogin "1000000001"))] ++
    List.replicate first (.resume 0 answers) ++
    [.arrive 0 (.data (textLogin "1000000002"))] ++ List.replicate second (.resume 0 answers)

def selective (imei : Text) : (o : Op) → Res o
  | .getDeviceByImei named _ _ => .ok (if named = imei then some ['d'] else none)
  | o => calm ['d'] o

/-- A second identity that the repository knows takes the connection over. -/
theorem second_login_accepted : ∃ g,
    run (Gateway.step defaults (pipelines defaults)) .start (twoLogins (calm ['d']) 19 7) = some g ∧
    logins 0 g.history = ["1000000002".toList, "1000000001".toList] ∧ ¬ Bound g := by
  have seen : (run (Gateway.step defaults (pipelines defaults)) .start
      (twoLogins (calm ['d']) 19 7)).map (fun g => logins 0 g.history) =
      some ["1000000002".toList, "1000000001".toList] := by decide +kernel
  obtain ⟨g, ran, registered⟩ := Option.map_eq_some_iff.mp seen
  refine ⟨g, ran, registered, ?_⟩
  intro bound
  have attributed : ∀ imei ∈ logins 0 g.history,
      ∃ e ∈ g.history, attributes e = some (0, imei) := by
    intro imei member
    obtain ⟨e, member, deviceId, is⟩ := mem_logins.mp member
    obtain ⟨ip, protocol, connectedAt, lastSeen, rfl⟩ := Event.eq_of_registration is
    exact ⟨_, member, rfl⟩
  rw [registered] at attributed
  obtain ⟨e, member, is⟩ := attributed "1000000001".toList (by simp)
  obtain ⟨e', member', is'⟩ := attributed "1000000002".toList (by simp)
  have same := bound.single 0 _ _ e member e' member' is is'
  revert same
  decide

theorem one_imei_refused : ∃ g,
    run (Gateway.step defaults (pipelines defaults)) .start
      (twoLogins (selective "1000000001".toList) 19 7) = some g ∧
    logins 0 g.history = ["1000000001".toList] ∧ (g.tasks 0).writerClosed = true ∧ Bound g := by
  have seen : (run (Gateway.step defaults (pipelines defaults)) .start
      (twoLogins (selective "1000000001".toList) 19 7)).map
      (fun g => (logins 0 g.history, (g.tasks 0).writerClosed)) =
      some (["1000000001".toList], true) := by decide +kernel
  obtain ⟨g, ran, shown⟩ := Option.map_eq_some_iff.mp seen
  obtain ⟨registered, shut⟩ := Prod.mk.inj shown
  exact ⟨g, ran, registered, shut,
    one_imei defaults (reachable_of_run .start (by decide +kernel) ran)⟩

end TrackerGateway.Invariants.OneImei
