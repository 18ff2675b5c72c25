/- module: TrackerGateway/Invariants/Admission
   source: src/repositories/device_repository.py, src/services/device_registry.py, src/tcp_server.py
   digest: Who is registered or written for was admitted by the tables during a login, whoever
     changes the tables meanwhile. -/

import TrackerGateway.Foundation.Coroutine.Amid
import TrackerGateway.Invariants.Attribution
import TrackerGateway.Invariants.FirstLogins

set_option autoImplicit false
set_option relaxedAutoImplicit false

namespace TrackerGateway.Invariants.Admission

open Foundation.Coroutine
open Foundation.Transition (Reachable Throughout run reachable_of_free_run)
open Foundation.Wire (Text)
open TrackerGateway.Runtime (Exn Conn)
open Repositories
open Server
open Attribution (Told told_of_registration loggedIn_of_registrant overseen_rules rules outcomes)
open FirstLogins (Activated mem_registered mem_devicesOf)

/-- The device is the identity's, and it has no setup row or one that is activated or unset. -/
def Vouches (db : Database) (imei deviceId : Text) : Prop :=
  ∃ row ∈ db.gpsDevices, row.imeiNumber = imei ∧ row.deviceId = deviceId ∧
    (db.setupOf imei = [] ∨ ∃ setup ∈ db.setupDevices, setup.imeiNumber = imei ∧
      (setup.status = none ∨ setup.status = some activated))

/-- In one of the states, newest first, the tables vouch for the device; or the identity is
activated in one of them, and the device is its own in a later one. -/
def Admits (seen : List Database) (imei deviceId : Text) : Prop :=
  (∃ db ∈ seen, Vouches db imei deviceId) ∨
    ∃ db before, db :: before <:+ seen ∧ deviceId ∈ db.devicesOf imei ∧
      ∃ earlier ∈ before, Activated earlier imei

/-- A row that a call may insert: it is made of an activated setup row. -/
def Made (l : Login) (seen : List Database) (row : GpsDevice) : Prop :=
  ∃ db ∈ seen, ∃ setup ∈ db.setupDevices, setup.imeiNumber = l.imei ∧
    setup.status = some activated ∧
    row = registration row.deviceId l.imei setup l.protocolType l.defaultModel

/-- What a call may do: it inserts no other rows. -/
def Allows (l : Login) (seen : List Database) (o : Op) : Prop :=
  ∀ row, o = .insertDevice row → Made l seen row

/-- What a call may come to: nothing, or an admitted device. -/
def Comes (l : Login) (seen : List Database) (r : Except Exn (Option Text)) : Prop :=
  ∀ deviceId, r = .ok (some deviceId) → Admits seen l.imei deviceId

theorem Admits.mono {past now : List Database} {imei deviceId : Text}
    (admits : Admits past imei deviceId) (later : past <:+ now) : Admits now imei deviceId := by
  rcases admits with ⟨db, met, vouches⟩ | ⟨db, before, since, rest⟩
  · exact .inl ⟨db, later.mem met, vouches⟩
  · exact .inr ⟨db, before, since.trans later, rest⟩

theorem lasting_comes (l : Login) : Lasting (Comes l) :=
  fun _ _ _ later comes deviceId same => (comes deviceId same).mono later

theorem comes_none {l : Login} {seen : List Database} : Comes l seen (.ok none) := by
  intro deviceId same
  cases same

theorem comes_error {l : Login} {seen : List Database} (e : Exn) : Comes l seen (.error e) := by
  intro deviceId same
  cases same

section Parts

variable {α : Type} {allow : List Database → Op → Prop}
  {post : List Database → Except Exn α → Prop} {past : List Database}

def Harmless (allow : List Database → Op → Prop) : Prop :=
  ∀ seen o, (∀ row, o ≠ .insertDevice row) → allow seen o

theorem harmless_allows (l : Login) : Harmless (Allows l) := by
  intro seen o other row same
  exact absurd same (other row)

variable (harmless : Harmless allow)

include harmless

theorem meets_getDbConnection :
    Meets Effect allow (fun _ _ => True) getDbConnection past := by
  refine fun m before more => ⟨harmless _ _ (by simp), ?_⟩
  intro x m' _
  exact meets_demand trivial

theorem meets_releaseDbConnection :
    Meets Effect allow (fun _ _ => True) releaseDbConnection past := by
  refine fun m before more => ⟨harmless _ _ (by simp), ?_⟩
  intro x m' _
  exact meets_demand trivial

theorem meets_logged {a : α} (lasting : Lasting post) (right : post past (.ok a)) (line : Text) :
    Meets Effect allow post ((log line).bind fun _ => .pure a) past := by
  refine fun m before more => ⟨harmless _ _ (by simp), ?_⟩
  intro x m' _
  exact lasting _ _ _ (more.trans (List.suffix_cons m' _)) right

theorem meets_managedConnection {body : Query α} (lasting : Lasting post)
    (fails : ∀ now e, post now (.error e)) (meets : Meets Effect allow post body past) :
    Meets Effect allow post (managedConnection body) past := by
  apply (meets_getDbConnection harmless).bind
  rintro now (e | conn) later -
  · exact fails now e
  have covered : Meets Effect allow post
      (body.rescue fun e => releaseDbConnection.bind fun _ => .throw e) now := by
    apply (meets.mono lasting later).rescue
    rintro then_ (e | result) - right
    · apply (meets_releaseDbConnection harmless).bind
      rintro last (e | released) - -
      · exact fails last e
      · exact fails last _
    · exact right
  apply covered.bind
  rintro then_ (e | result) - right
  · exact fails then_ e
  · apply (meets_releaseDbConnection harmless).bind
    rintro last (e | released) since -
    · exact fails last e
    · exact lasting _ _ _ since right

end Parts

section Calls

variable {l : Login} {past : List Database}

/-- What the first connection is asked for: a device the tables vouch for, or an activated row. -/
def Found (l : Login) (seen : List Database) : Except Exn Lookup → Prop
  | .ok (.returns (some deviceId)) => ∃ db ∈ seen, Vouches db l.imei deviceId
  | .ok (.goesOn setup) => ∃ db ∈ seen, setup ∈ db.setupDevices ∧ setup.imeiNumber = l.imei ∧
      setup.status = some activated
  | _ => True

theorem found_none {seen : List Database} : Found l seen (.ok (.returns none)) := trivial

theorem lasting_found (l : Login) : Lasting (Found l) := by
  rintro past now (e | (_ | deviceId) | setup) later found
  · trivial
  · trivial
  · obtain ⟨db, met, vouches⟩ := found
    exact ⟨db, later.mem met, vouches⟩
  · obtain ⟨db, met, rest⟩ := found
    exact ⟨db, later.mem met, rest⟩

theorem vouches_of_registered {db : Database} {imei deviceId : Text} {status : Option Text}
    (found : (deviceId, status) ∈ db.registered imei)
    (accepted : ¬(status ≠ none ∧ status ≠ some activated)) : Vouches db imei deviceId := by
  obtain ⟨row, member, own, named, alternatives⟩ := mem_registered.mp found
  refine ⟨row, member, own, named, ?_⟩
  rcases alternatives with ⟨empty, -⟩ | ⟨setup, stored, same, reads⟩
  · exact .inl empty
  · refine .inr ⟨setup, stored, same, ?_⟩
    rw [reads]
    tauto

theorem meets_lookup : Meets Effect (Allows l) (Found l) (lookup l.imei) past := by
  have quiet : Harmless (Allows l) := harmless_allows l
  refine fun m before more => ⟨quiet _ _ (by simp), ?_⟩
  intro x m' happens
  cases x with
  | error e => exact trivial
  | ok result =>
      have answered := happens.2 result rfl
      rcases result with _ | ⟨deviceId, status⟩
      · refine fun m before more => ⟨quiet _ _ (by simp), ?_⟩
        intro x m' happens
        cases x with
        | error e => exact trivial
        | ok setup? =>
            have answered := happens.2 setup? rfl
            rcases setup? with _ | setup
            · exact meets_logged quiet (lasting_found l) found_none _
            obtain ⟨stored, own⟩ := List.mem_filter.mp answered
            by_cases active : setup.status = some activated
            · dsimp
              rw [if_neg (not_not.mpr active)]
              exact ⟨m, List.mem_cons_of_mem _ List.mem_cons_self, stored, of_decide_eq_true own,
                active⟩
            · dsimp
              rw [if_pos active]
              exact meets_logged quiet (lasting_found l) found_none _
      · by_cases refused : status ≠ none ∧ status ≠ some activated
        · dsimp
          rw [if_pos refused]
          exact meets_logged quiet (lasting_found l) found_none _
        · dsimp
          rw [if_neg refused]
          exact ⟨m, List.mem_cons_of_mem _ List.mem_cons_self,
            vouches_of_registered answered refused⟩

theorem meets_insertAndFetch {row : GpsDevice} (own : row.imeiNumber = l.imei)
    (made : Made l past row) :
    Meets Effect (Allows l) (Comes l) (insertAndFetch row) past := by
  obtain ⟨db, met, setup, stored, same, status, whole⟩ := made
  refine fun m before more => ⟨?_, ?_⟩
  · intro row' same'
    cases same'
    exact ⟨db, more.mem met, setup, stored, same, status, whole⟩
  intro x m' happens
  cases x with
  | error e => exact comes_error e
  | ok done =>
      refine fun now between since => ⟨harmless_allows l _ _ (by simp), ?_⟩
      intro x m'' happens
      cases x with
      | error e => exact comes_error e
      | ok found? =>
          intro deviceId same'
          obtain rfl : found? = some deviceId := Except.ok.inj same'
          have answered : deviceId ∈ now.devicesOf row.imeiNumber := happens.2 _ rfl
          rw [own] at answered
          refine .inr ⟨now, between, List.suffix_cons _ _, answered, db, ?_, setup, stored, same,
            status⟩
          -- The setup row was read before the insertion, which comes before what is seen now.
          have read : db ∈ m :: before := more.mem met
          rcases List.suffix_cons_iff.mp since with same | earlier
          · cases same
            exact read
          · exact earlier.mem (List.mem_cons_of_mem _ read)

theorem meets_register {row : GpsDevice} (own : row.imeiNumber = l.imei)
    (made : Made l past row) : Meets Effect (Allows l) (Comes l) (register row) past := by
  apply (meets_managedConnection (harmless_allows l) (lasting_comes l) (fun _ => comes_error)
    (meets_insertAndFetch own made)).bind
  rintro now (e | _ | deviceId) - comes
  · exact comes
  · exact comes
  · exact meets_logged (harmless_allows l) (lasting_comes l) comes _

theorem meets_autoRegister {setup : SetupDevice} {db : Database} (met : db ∈ past)
    (stored : setup ∈ db.setupDevices) (own : setup.imeiNumber = l.imei)
    (active : setup.status = some activated) :
    Meets Effect (Allows l) (Comes l)
      (autoRegister l.imei setup l.protocolType l.defaultModel) past := by
  refine fun m before more => ⟨harmless_allows l _ _ (by simp), fun _ m' _ => ?_⟩
  refine fun now between since => ⟨harmless_allows l _ _ (by simp), ?_⟩
  intro deviceId now' _
  have met' : db ∈ now' :: now :: between :=
    List.mem_cons_of_mem _ (since.mem (List.mem_cons_of_mem _ (more.mem met)))
  have registered : Meets Effect (Allows l) (Comes l)
      (register (registration deviceId l.imei setup l.protocolType l.defaultModel))
      (now' :: now :: between) :=
    meets_register rfl ⟨db, met', setup, stored, own, active, rfl⟩
  apply registered.rescue
  rintro last (e | deviceId?) - comes
  · exact meets_logged (harmless_allows l) (lasting_comes l) comes_none _
  · exact comes

/-- Whatever a call meets, it inserts rows of activated identities only, and the device it returns
was admitted. -/
theorem meets_call (l : Login) (past : List Database) :
    Meets Effect (Allows l) (Comes l) l.call past := by
  apply (meets_getDbConnection (harmless_allows l)).bind
  rintro now (e | conn) - -
  · exact comes_error e
  have looked : Meets Effect (Allows l) (Found l)
      ((lookup l.imei).rescue fun e =>
        (log ("❌ Device lookup error for ".toList ++ l.imei ++ ": ".toList ++ e.text)).bind
          fun _ => .pure (.returns none)) now := by
    apply meets_lookup.rescue
    rintro then_ (e | looked) - found
    · exact meets_logged (harmless_allows l) (lasting_found l) found_none _
    · exact found
  apply looked.bind
  rintro then_ (e | looked) - found
  · exact comes_error e
  apply (meets_releaseDbConnection (harmless_allows l)).bind
  rintro last (e | released) since -
  · exact comes_error e
  rcases looked with (_ | deviceId) | setup
  · exact comes_none
  · intro deviceId' same
    cases same
    exact .inl (lasting_found l _ _ (.ok (.returns (some deviceId))) since found)
  · obtain ⟨db, met, stored, own, active⟩ := found
    exact meets_autoRegister (since.mem met) stored own active

end Calls

/-- The calls of the process on tables that anyone changes as they like. -/
abbrev Calls := Scene Repositories.Op Repositories.Res Database Login Exn (Option Text)

/-- The device was returned by a call for the identity, during which the tables admitted it. -/
def AdmittedBy (calls : Calls) (imei deviceId : Text) : Prop :=
  ∃ l seen, (l, seen, .ok (some deviceId)) ∈ calls.ended ∧ l.imei = imei ∧
    Admits seen imei deviceId

def asked : Event → Option (Login × Except Exn (Option Text))
  | .performed _ ⟨.getDeviceByImei imei protocol model, r⟩ => some (⟨imei, protocol.name, model⟩, r)
  | _ => none

/-- What the handlers were told about identities is what calls have come to. -/
def Honest (calls : Calls) (h : List Event) : Prop :=
  ∀ l r, (l, r) ∈ h.filterMap asked → ∃ seen, (l, seen, r) ∈ calls.ended

theorem admitted_of_told {calls : Calls} {h : List Event} {c : Conn} {imei deviceId : Text}
    (comes : ∀ l seen r, (l, seen, r) ∈ calls.ended → Comes l seen r)
    (honest : Honest calls h) (told : Told c imei deviceId h) : AdmittedBy calls imei deviceId := by
  obtain ⟨e, member, is⟩ := List.mem_filterMap.mp told
  unfold Attribution.told at is
  split at is
  · next c' imei' protocol model deviceId' =>
      cases is
      obtain ⟨seen, ended⟩ := honest ⟨imei, protocol.name, model⟩ (.ok (some deviceId))
        (List.mem_filterMap.mpr ⟨_, member, rfl⟩)
      exact ⟨_, seen, ended, rfl, comes _ seen _ ended deviceId rfl⟩
  · cases is

theorem told_of_attributed {h : List Event} (obeys : Throughout (Obeys rules outcomes) h)
    (truthful : Throughout Truthful h) {c : Conn} {deviceId : Text}
    (attributed : Services.Discipline.Attributed deviceId (ownTrace c h)) :
    ∃ c' imei, Told c' imei deviceId h := by
  rcases attributed with ⟨imei, device, ⟨-, found⟩, rfl⟩ | ⟨imei, registered⟩
  · obtain ⟨later, earlier, rfl, entry⟩ := truthful.exists_of_mem (mem_of_mem_ownTrace found)
    obtain ⟨e, member, is⟩ := registrant_mem (entry device rfl)
    refine ⟨device.socket, imei, told_of_registration obeys ?_ is⟩
    exact List.mem_append_right _ (List.mem_cons_of_mem _ member)
  · obtain ⟨ip, protocol, connectedAt, lastSeen, member⟩ := registered
    exact ⟨c, imei, told_of_registration obeys (mem_of_mem_ownTrace member) rfl⟩

/-- In every run in which the handlers are told what calls come to, in every order of the statements
of these calls and of any changes of the tables: a registered identity, and a device that a
statement is for, was admitted by the tables during a call that returned the device; and a call
inserts a row only if it has seen the setup row that the row is made of, activated. -/
theorem registered_admitted (cfg : Config) {edits : Database → Database → Prop} {start : Database}
    {calls : Calls} (lives : Scene.Reaches Effect Login.call edits start calls) {g : Gateway}
    (reached : Reachable (Gateway.step cfg (pipelines cfg)) (fun _ _ => True) .start g)
    (honest : Honest calls g.history) :
    (∀ imei entry, g.registry.getDevice imei = some entry →
      AdmittedBy calls imei entry.deviceId) ∧
    (∀ c statement outcome, .performed c ⟨.execute statement, outcome⟩ ∈ g.history →
      ∃ imei, AdmittedBy calls imei statement.device) ∧
    ∀ l seen row k, (l, seen, .call (.insertDevice row) k) ∈ calls.running → Made l seen row := by
  have kept : (∀ l seen o k, (l, seen, .call o k) ∈ calls.running → Allows l seen o) ∧
      ∀ l seen r, (l, seen, r) ∈ calls.ended → Comes l seen r :=
    lives.right lasting_comes meets_call
  have obeys := (overseen_rules reached).obeys
  have truthful := truthful reached
  refine ⟨?_, ?_, ?_⟩
  · intro imei entry found
    have last := (traced reached).getDevice found
    exact admitted_of_told kept.2 honest (loggedIn_of_registrant obeys last).1
  · intro c statement outcome member
    obtain ⟨later, earlier, whole⟩ := List.append_of_mem member
    rw [whole] at obeys truthful
    obtain ⟨family, raw, -, -, attributed⟩ := obeys.at
    obtain ⟨c', imei, told⟩ :=
      told_of_attributed obeys.of_append.2 truthful.of_append.2 attributed
    refine ⟨imei, admitted_of_told kept.2 honest (told.mono ?_)⟩
    rw [whole]
    exact fun e there => List.mem_append_right _ (List.mem_cons_of_mem _ there)
  · intro l seen row k member
    exact kept.1 l seen _ k member row rfl

def stocked : Database where
  gpsDevices := []
  setupDevices := [⟨['1'], none, none, some activated⟩]

def firstRow : GpsDevice := registration ['d'] ['1'] ⟨['1'], none, none, some activated⟩
  "GT06".toList "V5".toList

/-- An activated device logs in for the first time, whoever may change the tables. -/
theorem login_admitted : ∃ g calls,
    run (Gateway.step defaults (pipelines defaults)) .start (loginInputs 0 1 (calm ['d'])) =
      some g ∧
    Scene.Reaches Effect Login.call (fun _ _ => True) stocked calls ∧
    (∀ imei entry, g.registry.getDevice imei = some entry →
      AdmittedBy calls imei entry.deviceId) ∧
    (∀ c statement outcome, .performed c ⟨.execute statement, outcome⟩ ∈ g.history →
      ∃ imei, AdmittedBy calls imei statement.device) ∧
    ∀ l seen row k, (l, seen, .call (.insertDevice row) k) ∈ calls.running → Made l seen row := by
  have shown : (run (Gateway.step defaults (pipelines defaults)) .start
      (loginInputs 0 1 (calm ['d']))).map (fun g => g.history.filterMap asked) =
      some [(⟨['1'], "GT06".toList, "V5".toList⟩, .ok (some ['d']))] := by decide +kernel
  obtain ⟨g, ran, lookups⟩ := Option.map_eq_some_iff.mp shown
  have alone : Alone Effect (Login.call ⟨['1'], "GT06".toList, "V5".toList⟩) stocked
      (stocked.insert firstRow) (.ok (some ['d'])) := by
    refine ⟨.ok (), stocked, rfl, .ok none, stocked, ⟨rfl, ?_⟩, .ok (some ⟨['1'], none, none,
      some activated⟩), stocked, ⟨rfl, ?_⟩, .ok (), stocked, rfl, (), stocked, rfl, ['d'], stocked,
      rfl, .ok (), stocked, rfl, .ok (), stocked.insert firstRow, ⟨?_, rfl⟩, .ok (some ['d']),
      stocked.insert firstRow, ⟨rfl, ?_⟩, .ok (), _, rfl, (), _, rfl, rfl, rfl⟩
    · rintro row same
      cases same
      exact rfl
    · rintro row same
      cases same
      exact List.mem_singleton_self _
    · exact .inr (by simp [stocked])
    · rintro row same
      cases same
      exact List.mem_singleton_self _
  obtain ⟨seen, lives⟩ := Scene.reaches_of_alone (fun _ _ => True) Login.call alone
  have honest : Honest ⟨stocked.insert firstRow, [],
      [(⟨['1'], "GT06".toList, "V5".toList⟩, seen, .ok (some ['d']))]⟩ g.history := by
    intro l r member
    rw [lookups, List.mem_singleton] at member
    cases member
    exact ⟨seen, List.mem_singleton_self _⟩
  exact ⟨g, _, ran, lives,
    registered_admitted defaults lives (reachable_of_free_run .start ran) honest⟩

end TrackerGateway.Invariants.Admission
