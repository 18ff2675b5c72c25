/- module: TrackerGateway/Invariants/Attribution
   source: src/services/packet_handler.py, src/services/gps103_handler.py,
     src/services/teltonika_handler.py, src/services/device_registry.py
   digest: Every write is for the device the connection has logged in as. -/

import TrackerGateway.Server.Frames
import TrackerGateway.Services.Discipline

set_option autoImplicit false
set_option relaxedAutoImplicit false

namespace TrackerGateway.Invariants.Attribution

open Foundation.Coroutine
open Foundation.Transition (Reachable Throughout run permittedRun reachable_of_run)
open Foundation.Wire (Text Bytes)
open TrackerGateway.Runtime
open TrackerGateway.Server
open Services (Registry)
open Services.Discipline

def told : Event → Option (Conn × Text × Text)
  | .performed c ⟨.getDeviceByImei imei _ _, .ok (some deviceId)⟩ => some (c, imei, deviceId)
  | _ => none

/-- The connection looked the identity up, and the repository returned the device. -/
def Told (c : Conn) (imei deviceId : Text) (h : List Event) : Prop :=
  (c, imei, deviceId) ∈ h.filterMap told

def Consistent (h : List Event) : Prop :=
  ∀ c c' imei deviceId deviceId', Told c imei deviceId h → Told c' imei deviceId' h →
    deviceId = deviceId'

/-- The connection was told the device of the identity, and registered last for it. -/
def LoggedIn (c : Conn) (imei deviceId : Text) (h : List Event) : Prop :=
  Told c imei deviceId h ∧ registrant imei h = some (c, deviceId)

def HasLoggedIn (c : Conn) (h : List Event) : Prop :=
  ∃ imei deviceId, Told c imei deviceId h ∧ ∃ e ∈ h, e.registration = some (c, imei, deviceId)

structure Sound (g : Gateway) : Prop where
  /-- A write is for the device of a login of the same connection: one that still stood when the
  frame was begun, or the one of this very frame. -/
  writes : ∀ c statement outcome later earlier,
    g.history = later ++ .performed c ⟨.execute statement, outcome⟩ :: earlier →
    ∃ imei, LoggedIn c imei statement.device (atBegin c earlier) ∨
      Told c imei statement.device earlier ∧
        Registered imei statement.device (ownTrace c earlier)
  /-- One connection at most is found under an identity. -/
  single : ∀ imei c c', g.registry.getImeiBySocket id c = some imei →
    g.registry.getImeiBySocket id c' = some imei → c = c'
  /-- Outside the V5 family nothing is written to a connection before its login. -/
  silent : ∀ c protocol, protocol ≠ .gt06 → .detected c protocol ∈ g.history →
    ∀ e later earlier, g.history = later ++ e :: earlier →
      ((∃ payload outcome, e = .performed c ⟨.write payload, outcome⟩) ∨
        ∃ payload, e = .pushed c payload) → HasLoggedIn c earlier

section

variable {h : List Event}

theorem Told.mono {c : Conn} {imei deviceId : Text} {h' : List Event}
    (is : Told c imei deviceId h) (sub : h ⊆ h') : Told c imei deviceId h' := by
  obtain ⟨e, member, found⟩ := List.mem_filterMap.mp is
  exact List.mem_filterMap.mpr ⟨e, sub member, found⟩

private theorem earlier_subset (later earlier : List Event) (e : Event) :
    earlier ⊆ later ++ e :: earlier := by
  intro e' member
  simp [member]

theorem told_of_accepted {c : Conn} {imei deviceId : Text}
    (accepted : Accepted imei deviceId (ownTrace c h)) : Told c imei deviceId h := by
  obtain ⟨-, protocolType, defaultModel, member⟩ := accepted
  exact List.mem_filterMap.mpr ⟨_, mem_of_mem_ownTrace member, rfl⟩

theorem quiet_of_isLogin {c : Conn} {a : Answered} (quiet : isLogin a.1 = false) :
    (Event.performed c a).registration = none := by
  obtain ⟨o, x⟩ := a
  cases o <;> first | rfl | cases quiet

abbrev rules (family : Family) (_ : Bytes) : List Answered → Op → Prop := Allowed family

abbrev outcomes (_ : Family) (_ : Bytes) : List Answered → Except Exn (Option Text) → Prop := Named

theorem told_of_registration (obeys : Throughout (Obeys rules outcomes) h) {e : Event} {c : Conn}
    {imei deviceId : Text} (member : e ∈ h) (is : e.registration = some (c, imei, deviceId)) :
    Told c imei deviceId h := by
  obtain ⟨ip, protocol, connectedAt, lastSeen, rfl⟩ := Event.eq_of_registration is
  obtain ⟨later, earlier, rfl, obeyed⟩ := obeys.exists_of_mem member
  obtain ⟨family, raw, -, -, accepted, -⟩ := obeyed
  exact (told_of_accepted accepted).mono (earlier_subset _ _ _)

theorem loggedIn_of_registrant (obeys : Throughout (Obeys rules outcomes) h) {c : Conn}
    {imei deviceId : Text} (last : registrant imei h = some (c, deviceId)) :
    LoggedIn c imei deviceId h := by
  obtain ⟨e, member, is⟩ := registrant_mem last
  exact ⟨told_of_registration obeys member is, last⟩

theorem LoggedIn.has {c : Conn} {imei deviceId : Text} (loggedIn : LoggedIn c imei deviceId h) :
    HasLoggedIn c h :=
  ⟨imei, deviceId, loggedIn.1, registrant_mem loggedIn.2⟩

theorem HasLoggedIn.mono {c : Conn} {h' : List Event} (has : HasLoggedIn c h) (sub : h ⊆ h') :
    HasLoggedIn c h' := by
  obtain ⟨imei, deviceId, is, e, member, registered⟩ := has
  exact ⟨imei, deviceId, is.mono sub, e, sub member, registered⟩

/-- An identity found before the first login of a frame was held when the frame was begun. -/
theorem loggedIn_of_resolved (obeys : Throughout (Obeys rules outcomes) h)
    (truthful : Throughout Truthful h) {c : Conn} {imei : Text}
    (resolved : Resolved imei (ownTrace c h)) :
    ∃ deviceId, LoggedIn c imei deviceId (atBegin c h) := by
  obtain ⟨after, before, trace, quiet⟩ := resolved
  obtain ⟨later, earlier, rfl, rest, begun⟩ := split_ownTrace trace
  obtain ⟨deviceId, last⟩ := truthful.at imei rfl
  have held : registrant imei (atBegin c earlier) = some (c, deviceId) := by
    apply registrant_atBegin last
    intro a member
    rw [rest] at member
    exact quiet_of_isLogin (quiet a member)
  rw [begun] at held
  obtain ⟨prefix_, whole⟩ :=
    atBegin_suffix c (later ++ .performed c ⟨.getImeiBySocket, some imei⟩ :: earlier)
  rw [← whole] at obeys
  exact ⟨deviceId, loggedIn_of_registrant obeys.of_append held⟩

theorem hasLoggedIn_of_authentic (obeys : Throughout (Obeys rules outcomes) h)
    (truthful : Throughout Truthful h) {c : Conn} (authentic : Authentic (ownTrace c h)) :
    HasLoggedIn c h := by
  rcases authentic with ⟨imei, resolved⟩ | ⟨imei, deviceId, registered⟩
  · obtain ⟨deviceId, loggedIn⟩ := loggedIn_of_resolved obeys truthful resolved
    exact loggedIn.has.mono (atBegin_suffix c h).subset
  · obtain ⟨ip, protocol, connectedAt, lastSeen, member⟩ := registered
    have member := mem_of_mem_ownTrace member
    exact ⟨imei, deviceId, told_of_registration obeys member rfl, _, member, rfl⟩

theorem write_sound (obeys : Throughout (Obeys rules outcomes) h)
    (truthful : Throughout Truthful h) (consistent : Consistent h) {c : Conn} {deviceId : Text}
    (attributed : Attributed deviceId (ownTrace c h)) :
    ∃ imei, LoggedIn c imei deviceId (atBegin c h) ∨
      Told c imei deviceId h ∧ Registered imei deviceId (ownTrace c h) := by
  rcases attributed with ⟨imei, device, ⟨resolved, found⟩, rfl⟩ | ⟨imei, registered⟩
  · obtain ⟨deviceId, loggedIn⟩ := loggedIn_of_resolved obeys truthful resolved
    -- The entry may be of a later login of another connection, for the same device.
    obtain ⟨later, earlier, whole, entry⟩ :=
      truthful.exists_of_mem (mem_of_mem_ownTrace found)
    obtain ⟨e, member, is⟩ := registrant_mem (entry device rfl)
    have listed : Told device.socket imei device.deviceId h := by
      refine told_of_registration obeys ?_ is
      rw [whole]
      exact earlier_subset _ _ _ member
    have same : deviceId = device.deviceId :=
      consistent _ _ _ _ _ (loggedIn.1.mono (atBegin_suffix c h).subset) listed
    rw [same] at loggedIn
    exact ⟨imei, .inl loggedIn⟩
  · obtain ⟨ip, protocol, connectedAt, lastSeen, member⟩ := registered
    have is := told_of_registration obeys (mem_of_mem_ownTrace member) rfl
    exact ⟨imei, .inr ⟨is, ip, protocol, connectedAt, lastSeen, member⟩⟩

end

theorem overseen_rules {cfg : Config} {permitted : Gateway → Input → Prop} {g : Gateway}
    (reached : Reachable (Gateway.step cfg (pipelines cfg)) permitted .start g) :
    Overseen rules outcomes g := by
  refine overseen ?_ reached
  intro family ip raw
  cases family with
  | gt06 => exact guarded_processPacket cfg ip raw
  | gps103 => exact guarded_processGps103Message cfg ip raw
  | teltonika => exact guarded_processTeltonikaFrame cfg ip raw

/-- In every run in which the repository returns one device for an identity, a connection writes
only for a device it has logged in as. -/
theorem attribution_sound (cfg : Config) {g : Gateway}
    (reached : Reachable (Gateway.step cfg (pipelines cfg)) (fun _ _ => True) .start g)
    (consistent : Consistent g.history) : Sound g := by
  have obeys := (overseen_rules reached).obeys
  have truthful := truthful reached
  refine ⟨?_, ?_, ?_⟩
  · intro c statement outcome later earlier whole
    rw [whole] at obeys truthful consistent
    obtain ⟨family, raw, -, -, attributed⟩ := obeys.at
    refine write_sound obeys.of_append.2 truthful.of_append.2 ?_ attributed
    intro c₁ c₂ imei d d' one other
    exact consistent c₁ c₂ imei d d' (one.mono (earlier_subset _ _ _))
      (other.mono (earlier_subset _ _ _))
  · intro imei c c' one other
    have owned := (traced reached).reverse c imei one
    rw [(traced reached).reverse c' imei other] at owned
    exact (Option.some.inj owned).symm
  · intro c protocol foreign detected e later earlier whole sends
    rw [whole] at obeys truthful
    rcases sends with ⟨payload, outcome, rfl⟩ | ⟨payload, rfl⟩
    · obtain ⟨family, raw, detected', -, allow⟩ := obeys.at
      rw [whole] at detected
      have same := detected_unique obeys detected (earlier_subset _ _ _ detected')
      rcases allow with v5 | authentic
      · exact absurd (same.trans v5) foreign
      · exact hasLoggedIn_of_authentic obeys.of_append.2 truthful.of_append.2 authentic
    · obtain ⟨imei, deviceId, last⟩ := truthful.at
      exact (loggedIn_of_registrant obeys.of_append.2 last).has

def statusInputs : List Input :=
  loginInputs 0 1 (calm ['d']) ++
    [.arrive 0 (.data [0x78, 0x78, 0x0A, 0x13, 0x40, 4, 3, 0, 1, 0, 2, 0, 0, 0x0D, 0x0A])] ++
    List.replicate 12 (.resume 0 (calm ['d']))

def writtenFor (h : List Event) : List Text :=
  h.filterMap fun e =>
    match e with
    | .performed _ ⟨.execute statement, _⟩ => some statement.device
    | _ => none

theorem attribution_sound_status : ∃ g,
    run (Gateway.step defaults (pipelines defaults)) .start statusInputs = some g ∧
    writtenFor g.history = [['d'], ['d'], ['d'], ['d']] ∧ Sound g := by
  have seen : (run (Gateway.step defaults (pipelines defaults)) .start statusInputs).map
      (fun g => (writtenFor g.history, g.history.filterMap told)) =
      some ([['d'], ['d'], ['d'], ['d']], [(0, ['1'], ['d'])]) := by decide +kernel
  obtain ⟨g, ran, shown⟩ := Option.map_eq_some_iff.mp seen
  obtain ⟨written, lookups⟩ := Prod.mk.inj shown
  have consistent : Consistent g.history := by
    intro c c' imei deviceId deviceId' one other
    simp only [Told, lookups, List.mem_singleton, Prod.mk.injEq] at one other
    rw [one.2.2, other.2.2]
  have permitted : Reachable (Gateway.step defaults (pipelines defaults))
      (fun _ _ => (true : Bool) = true) .start g :=
    reachable_of_run .start (by decide +kernel) ran
  exact ⟨g, ran, written,
    attribution_sound defaults (permitted.mono fun _ _ _ => trivial) consistent⟩

end TrackerGateway.Invariants.Attribution
