/- module: TrackerGateway/Invariants/FirstLogins
   source: src/repositories/device_repository.py, src/README.md
   digest: Concurrent lookups agree on one id, unless a registered device has an unset status. -/

import TrackerGateway.Repositories.DeviceRepository

set_option autoImplicit false
set_option relaxedAutoImplicit false

namespace TrackerGateway.Invariants.FirstLogins

open Foundation.Coroutine
open Foundation.Table (insertNew)
open Foundation.Wire (Text)
open TrackerGateway.Runtime (Exn)
open TrackerGateway.Repositories

/-- An identity has at most one row in either table. -/
structure Unique (db : Database) : Prop where
  gps : Foundation.Table.Unique GpsDevice.imeiNumber db.gpsDevices
  setup : Foundation.Table.Unique SetupDevice.imeiNumber db.setupDevices

def Activated (db : Database) (imei : Text) : Prop :=
  ∃ setup ∈ db.setupDevices, setup.imeiNumber = imei ∧ setup.status = some activated

/-- The setup row of the identity, if there is one, says that it is activated. -/
def Admitted (db : Database) (imei : Text) : Prop :=
  ∀ setup ∈ db.setupDevices, setup.imeiNumber = imei → setup.status = some activated

structure Agree (before : Database) (crew : Crew Op Res Database Login Exn (Option Text)) :
    Prop where
  /-- An identity has at most one row. -/
  oneRow : ∀ imei, (crew.shared.devicesOf imei).length ≤ 1
  /-- Calls for one identity return one id, -/
  oneId : ∀ l l' deviceId deviceId', (l, .ok (some deviceId)) ∈ crew.ended →
    (l', .ok (some deviceId')) ∈ crew.ended → l.imei = l'.imei → deviceId = deviceId'
  /-- which is the id of its row. -/
  itsRow : ∀ l deviceId, (l, .ok (some deviceId)) ∈ crew.ended →
    deviceId ∈ crew.shared.devicesOf l.imei
  /-- A row is created for an activated identity only. -/
  created : ∀ row ∈ crew.shared.gpsDevices, row ∉ before.gpsDevices →
    Activated before row.imeiNumber
  /-- An id is returned only where no setup row is against it. -/
  admitted : ∀ l deviceId, (l, .ok (some deviceId)) ∈ crew.ended → Admitted before l.imei

/-- No registered device has a setup row without a status. -/
def Stated (db : Database) : Prop :=
  ∀ row ∈ db.gpsDevices, ∀ setup ∈ db.setupDevices, setup.imeiNumber = row.imeiNumber →
    setup.status ≠ none

/-- Only rows of activated identities are added, at most one for each identity. -/
structure Extends (db db' : Database) : Prop where
  setup : db'.setupDevices = db.setupDevices
  kept : ∀ row ∈ db.gpsDevices, row ∈ db'.gpsDevices
  added : ∀ row ∈ db'.gpsDevices, row ∈ db.gpsDevices ∨ Activated db row.imeiNumber
  unique : Unique db → Unique db'

section Evolution

variable {a b c db db' : Database} {imei deviceId : Text}

theorem Extends.activated_iff (extend : Extends a b) : Activated b imei ↔ Activated a imei := by
  rw [Activated]
  rw [extend.setup]
  rfl

theorem Extends.admitted_iff (extend : Extends a b) : Admitted b imei ↔ Admitted a imei := by
  rw [Admitted]
  rw [extend.setup]
  rfl

theorem extends_refl (db : Database) : Extends db db :=
  ⟨rfl, fun _ member => member, fun _ member => .inl member, id⟩

theorem Extends.trans (one : Extends a b) (two : Extends b c) : Extends a c where
  setup := two.setup.trans one.setup
  kept := by
    intro row member
    exact two.kept row (one.kept row member)
  added := by
    intro row member
    rcases two.added row member with earlier | activated
    · exact one.added row earlier
    · exact .inr (one.activated_iff.mp activated)
  unique := by
    intro unique
    exact two.unique (one.unique unique)

theorem mem_insert {row row' : GpsDevice} (member : row' ∈ (db.insert row).gpsDevices) :
    row' ∈ db.gpsDevices ∨ row' = row := by
  rw [Database.insert] at member
  dsimp only at member
  rw [insertNew] at member
  split at member
  · exact .inl member
  · rcases List.mem_append.mp member with earlier | new
    · exact .inl earlier
    · exact .inr (List.mem_singleton.mp new)

theorem extends_insert {row : GpsDevice} (activated : Activated db row.imeiNumber) :
    Extends db (db.insert row) where
  setup := rfl
  kept := by
    intro row' member
    rw [Database.insert]
    dsimp only
    rw [insertNew]
    split
    · exact member
    · exact List.mem_append_left _ member
  added := by
    intro row' member
    rcases mem_insert member with earlier | rfl
    · exact .inl earlier
    · exact .inr activated
  unique := by
    intro unique
    exact ⟨unique.gps.insertNew, unique.setup⟩

/-- What the lookup relies on: unique rows, and no registered device with an unset status. -/
structure Sound (db : Database) : Prop where
  unique : Unique db
  stated : Stated db

theorem Sound.extends (sound : Sound a) (extend : Extends a b) : Sound b := by
  refine ⟨extend.unique sound.unique, ?_⟩
  intro row member setup setupMember same
  rw [extend.setup] at setupMember
  rcases extend.added row member with earlier | ⟨other, otherMember, otherSame, status⟩
  · exact sound.stated row earlier setup setupMember same
  · have one : setup = other :=
      List.inj_on_of_nodup_map sound.unique.setup setupMember otherMember
        (same.trans otherSame.symm)
    rw [one]
    rw [status]
    exact Option.some_ne_none _

/-- The id is the one of the identity's row, and no setup row is against it. -/
def Assigned (db : Database) (imei deviceId : Text) : Prop :=
  deviceId ∈ db.devicesOf imei ∧ Admitted db imei

theorem mem_devicesOf : deviceId ∈ db.devicesOf imei ↔
    ∃ row ∈ db.gpsDevices, row.imeiNumber = imei ∧ row.deviceId = deviceId := by
  rw [Database.devicesOf]
  simp only [List.mem_map, List.mem_filter, decide_eq_true_eq, and_assoc]

theorem Assigned.extends (assigned : Assigned a imei deviceId) (extend : Extends a b) :
    Assigned b imei deviceId := by
  obtain ⟨stored, admitted⟩ := assigned
  obtain ⟨row, member, same, named⟩ := mem_devicesOf.mp stored
  constructor
  · exact mem_devicesOf.mpr ⟨row, extend.kept row member, same, named⟩
  · exact extend.admitted_iff.mpr admitted

theorem Activated.admitted (activated : Activated db imei) (unique : Unique db) :
    Admitted db imei := by
  obtain ⟨setup, member, same, status⟩ := activated
  intro other otherMember otherSame
  have one : other = setup :=
    List.inj_on_of_nodup_map unique.setup otherMember member (otherSame.trans same.symm)
  rw [one]
  exact status

end Evolution

theorem mem_registered {db : Database} {imei deviceId : Text} {status : Option Text} :
    (deviceId, status) ∈ db.registered imei ↔
      ∃ row ∈ db.gpsDevices, row.imeiNumber = imei ∧ row.deviceId = deviceId ∧
        ((db.setupOf imei = [] ∧ status = none) ∨
          ∃ setup ∈ db.setupDevices, setup.imeiNumber = imei ∧ setup.status = status) := by
  rw [Database.registered]
  simp only [List.mem_flatMap, List.mem_filter, decide_eq_true_eq, and_assoc]
  refine exists_congr fun row => and_congr_right fun _ => and_congr_right ?_
  intro same
  subst same
  have mem_setupOf : ∀ setup, setup ∈ db.setupOf row.imeiNumber ↔
      setup ∈ db.setupDevices ∧ setup.imeiNumber = row.imeiNumber := by
    intro setup
    rw [Database.setupOf]
    simp
  rw [← Database.setupOf]
  cases rows : db.setupOf row.imeiNumber with
  | nil =>
      rw [rows] at mem_setupOf
      have nobody : ¬∃ setup ∈ db.setupDevices, setup.imeiNumber = row.imeiNumber ∧
          setup.status = status := by
        rintro ⟨setup, member, same, -⟩
        exact absurd ((mem_setupOf setup).mpr ⟨member, same⟩) List.not_mem_nil
      simp only [List.mem_singleton, Prod.mk.injEq, true_and, nobody, or_false]
      constructor
      · rintro ⟨named, unset⟩
        exact ⟨named.symm, unset⟩
      · rintro ⟨named, unset⟩
        exact ⟨named.symm, unset⟩
  | cons first rest =>
      rw [rows] at mem_setupOf
      simp only [List.mem_map, Prod.mk.injEq, reduceCtorEq, false_and, false_or]
      constructor
      · rintro ⟨setup, member, named, same⟩
        obtain ⟨stored, own⟩ := (mem_setupOf setup).mp member
        exact ⟨named, setup, stored, own, same⟩
      · rintro ⟨named, setup, stored, own, same⟩
        exact ⟨setup, (mem_setupOf setup).mpr ⟨stored, own⟩, named, same⟩

/-- A registered device that step 1 accepts has no setup row against it. -/
theorem assigned_of_registered {db : Database} {imei deviceId : Text} {status : Option Text}
    (sound : Sound db) (found : (deviceId, status) ∈ db.registered imei)
    (accepted : ¬(status ≠ none ∧ status ≠ some activated)) : Assigned db imei deviceId := by
  obtain ⟨row, member, same, named, alternatives⟩ := mem_registered.mp found
  refine ⟨mem_devicesOf.mpr ⟨row, member, same, named⟩, ?_⟩
  rcases alternatives with ⟨empty, -⟩ | ⟨setup, stored, own, reads⟩
  · intro setup stored own
    have listed : setup ∈ db.setupOf imei := List.mem_filter.mpr ⟨stored, decide_eq_true own⟩
    rw [empty] at listed
    cases listed
  · have stated : status ≠ none := by
      rw [← reads]
      exact sound.stated row member setup stored (own.trans same.symm)
    have active : status = some activated := by
      by_contra other
      exact accepted ⟨stated, other⟩
    have activated : Activated db imei := ⟨setup, stored, own, reads.trans active⟩
    exact activated.admitted sound.unique

def Lasts (fact : Database → Prop) : Prop := ∀ a b, Extends a b → fact a → fact b

def Quiet (o : Op) : Prop := ∀ db x db', Effect db ⟨o, x⟩ db' → db' = db

section Parts

variable {α : Type} {db : Database} {imei : Text} {fact : Database → Prop}
  {post : Database → Except Exn α → Prop}

theorem guarantees_ask {o : Op} {k : Res o → Query α} (quiet : Quiet o) (lasts : Lasts fact)
    (holds : fact db)
    (continues : ∀ m x, fact m → Effect m ⟨o, x⟩ m → Guarantees Effect Extends post (k x) m) :
    Guarantees Effect Extends post (.call o k) db := by
  intro m extend x m' happens
  have same : m' = m := quiet m x m' happens
  subst same
  have still : fact m' := lasts db m' extend holds
  exact ⟨extends_refl m', continues m' x still happens⟩

theorem guarantees_log (lasts : Lasts fact) (holds : fact db) (line : Text) :
    Guarantees Effect Extends (fun m _ => fact m) (log line) db :=
  guarantees_ask (fun _ _ _ same => same) lasts holds fun _ _ still _ => still

theorem guarantees_getDbConnection (lasts : Lasts fact) (holds : fact db) :
    Guarantees Effect Extends (fun m _ => fact m) getDbConnection db := by
  refine guarantees_ask (fun _ _ _ same => same) lasts holds ?_
  intro m x still happens
  cases x <;> exact still

theorem guarantees_releaseDbConnection (lasts : Lasts fact) (holds : fact db) :
    Guarantees Effect Extends (fun m _ => fact m) releaseDbConnection db := by
  refine guarantees_ask (fun _ _ _ same => same) lasts holds ?_
  intro m x still happens
  cases x <;> exact still

def Found (imei : Text) (db : Database) : Except Exn Lookup → Prop
  | .ok (.returns (some deviceId)) => Assigned db imei deviceId
  | .ok (.goesOn _) => Activated db imei
  | _ => True

theorem lasts_sound : Lasts Sound := fun _ _ extend sound => sound.extends extend

theorem lasts_found (r : Except Exn Lookup) : Lasts (Found imei · r) := by
  intro a b extend found
  rcases r with e | (deviceId | deviceId) | setup
  · trivial
  · trivial
  · exact Assigned.extends found extend
  · exact extend.activated_iff.mpr found

theorem guarantees_refusal (sound : Sound db) (line : Text) :
    Guarantees Effect Extends (fun m r => Sound m ∧ Found imei m r)
      ((log line).bind fun _ => .pure (.returns none)) db := by
  apply (guarantees_log lasts_sound sound line).bind
  intro m r sound
  cases r with
  | error e => exact ⟨sound, trivial⟩
  | ok logged => exact ⟨sound, trivial⟩

theorem guarantees_lookup (sound : Sound db) :
    Guarantees Effect Extends (fun m r => Sound m ∧ Found imei m r) (lookup imei) db := by
  refine guarantees_ask (fun _ _ _ happens => happens.1) lasts_sound sound ?_
  intro m x sound happens
  cases x with
  | error e => exact ⟨sound, trivial⟩
  | ok result =>
      have answered := happens.2 result rfl
      rcases result with _ | ⟨deviceId, status⟩
      · refine guarantees_ask (fun _ _ _ happens => happens.1) lasts_sound sound ?_
        intro m x sound happens
        cases x with
        | error e => exact ⟨sound, trivial⟩
        | ok setup? =>
            have answered := happens.2 setup? rfl
            rcases setup? with _ | setup
            · exact guarantees_refusal sound _
            obtain ⟨stored, own⟩ := List.mem_filter.mp answered
            by_cases active : setup.status = some activated
            · have goesOn : Activated m imei := ⟨setup, stored, of_decide_eq_true own, active⟩
              dsimp
              rw [if_neg (not_not.mpr active)]
              exact ⟨sound, goesOn⟩
            · dsimp
              rw [if_pos active]
              exact guarantees_refusal sound _
      · by_cases refused : status ≠ none ∧ status ≠ some activated
        · dsimp
          rw [if_pos refused]
          exact guarantees_refusal sound _
        · dsimp
          rw [if_neg refused]
          exact ⟨sound, assigned_of_registered sound answered refused⟩

def Right (imei : Text) (db : Database) : Except Exn (Option Text) → Prop
  | .ok (some deviceId) => Assigned db imei deviceId
  | _ => True

theorem lasts_right (r : Except Exn (Option Text)) : Lasts (Right imei · r) := by
  intro a b extend right
  rcases r with e | _ | deviceId
  · trivial
  · trivial
  · exact Assigned.extends right extend

/-- A borrowed connection changes nothing in what its body guarantees, unless it makes it fail. -/
theorem guarantees_managedConnection {body : Query α} (lasts : ∀ r, Lasts (post · r))
    (fails : ∀ m e, post m (.error e)) (guarantees : ∀ m, Extends db m →
      Guarantees Effect Extends post body m) :
    Guarantees Effect Extends post (managedConnection body) db := by
  have borrowed : Lasts (Extends db) := fun a b extend before => before.trans extend
  apply (guarantees_getDbConnection borrowed (extends_refl db)).bind
  intro m r extend
  cases r with
  | error e => exact fails m e
  | ok conn =>
      have covered : Guarantees Effect Extends post
          (body.rescue fun e => releaseDbConnection.bind fun _ => .throw e) m := by
        apply (guarantees m extend).rescue
        intro m r holds
        cases r with
        | ok result => exact holds
        | error e =>
            apply (guarantees_releaseDbConnection (lasts (.error e)) holds).bind
            intro m r _
            cases r with
            | error e => exact fails m e
            | ok released => exact fails m e
      apply covered.bind
      intro m r holds
      cases r with
      | error e => exact holds
      | ok result =>
          apply (guarantees_releaseDbConnection (lasts (.ok result)) holds).bind
          intro m r still
          cases r with
          | error e => exact fails m e
          | ok released => exact still

def Ready (imei : Text) (db : Database) : Prop := Sound db ∧ Activated db imei

theorem lasts_ready : Lasts (Ready imei) := fun _ _ extend ready =>
  ⟨ready.1.extends extend, extend.activated_iff.mpr ready.2⟩

/-- The id that is read back is the one stored, whoever stored it. -/
theorem guarantees_insertAndFetch {row : GpsDevice} (ready : Ready row.imeiNumber db) :
    Guarantees Effect Extends (Right row.imeiNumber) (insertAndFetch row) db := by
  intro m extend x m' happens
  have ready : Ready row.imeiNumber m := lasts_ready db m extend ready
  have inserted : Extends m (m.insert row) := extends_insert ready.2
  have grown : Extends m m' := by
    cases x with
    | ok done =>
        obtain ⟨-, rfl⟩ := happens
        exact inserted
    | error e =>
        rcases happens with rfl | ⟨-, rfl⟩
        · exact extends_refl m'
        · exact inserted
  refine ⟨grown, ?_⟩
  have ready : Ready row.imeiNumber m' := lasts_ready m m' grown ready
  cases x with
  | error e => trivial
  | ok done =>
      refine guarantees_ask (fun _ _ _ happens => happens.1) lasts_ready ready ?_
      intro m x ready happens
      cases x with
      | error e => trivial
      | ok found? =>
          have answered := happens.2 found? rfl
          cases found? with
          | none => trivial
          | some deviceId => exact ⟨answered, ready.2.admitted ready.1.unique⟩

theorem guarantees_register (row : GpsDevice) (ready : Ready row.imeiNumber db) :
    Guarantees Effect Extends (Right row.imeiNumber) (register row) db := by
  have stored : Guarantees Effect Extends (Right row.imeiNumber)
      (managedConnection (insertAndFetch row)) db := by
    apply guarantees_managedConnection lasts_right (fun _ _ => trivial)
    intro m extend
    exact guarantees_insertAndFetch (lasts_ready db m extend ready)
  apply stored.bind
  rintro m (e | _ | deviceId) right
  · trivial
  · trivial
  · apply (guarantees_log (lasts_right (.ok (some deviceId))) right _).bind
    rintro m (e | _) right
    · trivial
    · exact right

theorem guarantees_failure (line : Text) :
    Guarantees Effect Extends (Right imei) ((log line).bind fun _ => .pure none) db := by
  have lasts : Lasts fun _ => True := fun _ _ _ _ => trivial
  apply (guarantees_log lasts trivial line).bind
  rintro m (e | _) _
  · trivial
  · trivial

theorem guarantees_autoRegister {setup : SetupDevice} {protocolType defaultModel : Text}
    (ready : Ready imei db) :
    Guarantees Effect Extends (Right imei) (autoRegister imei setup protocolType defaultModel)
      db := by
  apply (guarantees_log lasts_ready ready _).bind
  rintro m (e | _) ready
  · trivial
  refine guarantees_ask (fun _ _ _ same => same) lasts_ready ready ?_
  intro m deviceId ready _
  have registered : Guarantees Effect Extends (Right imei)
      (register (registration deviceId imei setup protocolType defaultModel)) m :=
    guarantees_register (registration deviceId imei setup protocolType defaultModel) ready
  apply registered.rescue
  rintro m (e | deviceId?) right
  · exact guarantees_failure _
  · exact right

/-- In sound tables a call returns nothing, or the id assigned to its identity, whatever the other
calls do meanwhile. -/
theorem guarantees_getDeviceByImei {protocolType defaultModel : Text} (sound : Sound db) :
    Guarantees Effect Extends (Right imei) (getDeviceByImei imei protocolType defaultModel) db := by
  apply (guarantees_getDbConnection lasts_sound sound).bind
  rintro m (e | _) sound
  · trivial
  have looked : Guarantees Effect Extends (fun m r => Sound m ∧ Found imei m r)
      ((lookup imei).rescue fun e =>
        (log ("❌ Device lookup error for ".toList ++ imei ++ ": ".toList ++ e.text)).bind
          fun _ => .pure (.returns none)) m := by
    apply (guarantees_lookup sound).rescue
    rintro m (e | looked) found
    · exact guarantees_refusal found.1 _
    · exact found
  apply looked.bind
  rintro m (e | looked) found
  · trivial
  have lasts : Lasts fun m => Sound m ∧ Found imei m (.ok looked) := by
    intro a b extend found
    exact ⟨found.1.extends extend, lasts_found (.ok looked) a b extend found.2⟩
  apply (guarantees_releaseDbConnection lasts found).bind
  rintro m (e | _) found
  · trivial
  rcases looked with (_ | deviceId) | setup
  · trivial
  · exact found.2
  · exact guarantees_autoRegister found

end Parts

/-- Calls on sound tables agree in every order of their statements. -/
theorem Sound.agree {before : Database} (sound : Sound before)
    {crew : Crew Op Res Database Login Exn (Option Text)}
    (reached : Reaches Effect Login.call before crew) : Agree before crew := by
  have coherent : Coherent Effect Extends (fun l => Right l.imei) before crew := by
    refine reached.coherent extends_refl (fun one two => one.trans two) ?_ ?_
    · intro l m m' r right extend
      exact lasts_right r m m' extend right
    · intro l m extend
      exact guarantees_getDeviceByImei (sound.extends extend)
  obtain ⟨extend, -, right⟩ := coherent
  have unique : Unique crew.shared := extend.unique sound.unique
  constructor
  case oneRow =>
    intro imei
    rw [Database.devicesOf]
    rw [List.length_map]
    exact unique.gps.at_most_one
  case oneId =>
    intro l l' deviceId deviceId' returned returned' same
    obtain ⟨row, member, own, named⟩ := mem_devicesOf.mp (right l _ returned).1
    obtain ⟨row', member', own', named'⟩ := mem_devicesOf.mp (right l' _ returned').1
    have one : row = row' :=
      List.inj_on_of_nodup_map unique.gps member member' (own.trans (same.trans own'.symm))
    rw [← named, ← named', one]
  case itsRow =>
    intro l deviceId returned
    exact (right l _ returned).1
  case created =>
    intro row member new
    exact (extend.added row member).resolve_left new
  case admitted =>
    intro l deviceId returned
    exact extend.admitted_iff.mp (right l _ returned).2

theorem returns_unset {before : Database} {row : GpsDevice} {setup : SetupDevice}
    (member : row ∈ before.gpsDevices) (stored : setup ∈ before.setupDevices)
    (same : setup.imeiNumber = row.imeiNumber) (unset : setup.status = none)
    (protocolType defaultModel : Text) :
    Reaches Effect Login.call before ⟨before, [],
      [(⟨row.imeiNumber, protocolType, defaultModel⟩, .ok (some row.deviceId))]⟩ := by
  have registered : (row.deviceId, none) ∈ before.registered row.imeiNumber :=
    mem_registered.mpr ⟨row, member, rfl, rfl, .inr ⟨setup, stored, same, unset⟩⟩
  have answered : Effect before
      ⟨.fetchRegistered row.imeiNumber, .ok (some (row.deviceId, none))⟩ before := by
    refine ⟨rfl, ?_⟩
    intro found reads
    obtain rfl := Except.ok.inj reads
    exact registered
  have alone : Alone Effect (Login.call ⟨row.imeiNumber, protocolType, defaultModel⟩) before before
      (.ok (some row.deviceId)) :=
    ⟨.ok (), before, rfl, .ok (some (row.deviceId, none)), before, answered, .ok (), before, rfl,
      rfl, rfl⟩
  exact alone.reaches

/-- Where an identity has one row in each table, calls agree in every order of their statements
exactly if no registered device has a setup row without a status. -/
theorem concurrent_lookups_agree_iff {before : Database} (unique : Unique before) :
    (∀ crew, Reaches Effect Login.call before crew → Agree before crew) ↔ Stated before := by
  constructor
  · intro agree row member setup stored same unset
    have reached := returns_unset member stored same unset [] []
    have status : setup.status = some activated :=
      (agree _ reached).admitted _ _ List.mem_cons_self setup stored same
    rw [unset] at status
    cases status
  · intro stated crew reached
    exact Sound.agree ⟨unique, stated⟩ reached

/-- A new device and a registered one, both activated, and one without a setup row. -/
def fleet : Database where
  gpsDevices := [
    ⟨"5f0c6d3e-3b1a-4c52-9c0e-6a4f0d2b7e11".toList, "355172106043788".toList,
      some "94700000001".toList, some "V5".toList, some "GT06".toList, some 1⟩,
    ⟨"b7d2f8a4-1c9e-4f60-8a35-2e7c5d9b0f42".toList, "355172106043789".toList, none,
      some "V5".toList, some "GT06".toList, some 1⟩]
  setupDevices := [
    ⟨"355172106043787".toList, some "V5".toList, some "94700000000".toList, some activated⟩,
    ⟨"355172106043788".toList, some "V5".toList, some "94700000001".toList, some activated⟩]

theorem concurrent_lookups_agree_fleet : Unique fleet ∧ Stated fleet ∧
    ∀ crew, Reaches Effect Login.call fleet crew → Agree fleet crew := by
  have unique : Unique fleet := by
    constructor
    · show (fleet.gpsDevices.map GpsDevice.imeiNumber).Nodup
      decide
    · show (fleet.setupDevices.map SetupDevice.imeiNumber).Nodup
      decide
  have stated : Stated fleet := by
    rw [Stated]
    decide
  exact ⟨unique, stated, (concurrent_lookups_agree_iff unique).mpr stated⟩

def unsetFleet : Database where
  gpsDevices := [
    ⟨"5f0c6d3e-3b1a-4c52-9c0e-6a4f0d2b7e11".toList, "355172106043787".toList,
      some "94700000000".toList, some "V5".toList, some "GT06".toList, some 1⟩]
  setupDevices := [⟨"355172106043787".toList, some "V5".toList, some "94700000000".toList, none⟩]

theorem unset_status_admitted : Unique unsetFleet ∧ ∃ crew,
    Reaches Effect Login.call unsetFleet crew ∧
      crew.ended = [(⟨"355172106043787".toList, "GT06".toList, "V5".toList⟩,
        .ok (some "5f0c6d3e-3b1a-4c52-9c0e-6a4f0d2b7e11".toList))] ∧ ¬Agree unsetFleet crew := by
  have unique : Unique unsetFleet := ⟨List.nodup_singleton _, List.nodup_singleton _⟩
  have member : unsetFleet.gpsDevices.head (List.cons_ne_nil _ _) ∈ unsetFleet.gpsDevices :=
    List.head_mem _
  have stored : unsetFleet.setupDevices.head (List.cons_ne_nil _ _) ∈ unsetFleet.setupDevices :=
    List.head_mem _
  have reached := returns_unset member stored rfl rfl "GT06".toList "V5".toList
  refine ⟨unique, _, reached, rfl, ?_⟩
  intro agree
  have status := agree.admitted _ _ List.mem_cons_self _ stored rfl
  cases status

end TrackerGateway.Invariants.FirstLogins
