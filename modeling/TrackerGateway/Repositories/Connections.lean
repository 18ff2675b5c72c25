/- module: TrackerGateway/Repositories/Connections
   source: src/database.py, src/repositories, src/services/tracking_service.py,
     src/services/health_service.py, src/tcp_server.py
   digest: The work of the gateway down to its pooled connections, and that all of them go back. -/

import TrackerGateway.Foundation.Coroutine.Borrowing
import TrackerGateway.Repositories.DeviceRepository
import TrackerGateway.Server.HandleDevice

set_option autoImplicit false
set_option relaxedAutoImplicit false

namespace TrackerGateway.Repositories.Connections

open Foundation.Coroutine
open Foundation.Wire (Text Bytes Number Instant)
open TrackerGateway.Runtime (Exn Handler DbWrite Conn)
open Server (pipelines)

/-- What the work asks of the pool, of a borrowed connection and of the rest of the gateway. -/
inductive Ask
  /-- the pool, and the statements of the login -/
  | repository (o : Op)
  | fetchVehicle (deviceId : Text)
  | statement (w : DbWrite)
  | markOffline (deviceId : Text) (now : Instant)
  | selectOne
  /-- what concerns no connection to the database -/
  | outside (o : Runtime.Op)

@[reducible] def Ask.Res : Ask → Type
  | .repository o => Repositories.Res o
  | .fetchVehicle _ => Except Exn (Option Text)
  | .statement _ => Except Exn Bool
  | .markOffline .. | .selectOne => Except Exn Unit
  | .outside o => Runtime.Res o

abbrev Work := Program Ask Ask.Res Exn

def lending : Borrowing Op Res where
  use
    | .acquire => .acquires
    | .release => .releases
    | .fetchRegistered _ | .fetchSetup _ | .insertDevice _ | .fetchDevice _ => .needs
    | .uuid4 | .log _ => .free
  granted
    | .acquire, answer => answer.isOk
    | _, _ => false

def pool : Borrowing Ask Ask.Res where
  use
    | .repository o => lending.use o
    | .fetchVehicle _ | .statement _ | .markOffline .. | .selectOne => .needs
    | .outside _ => .free
  granted
    | .repository o, answer => lending.granted o answer
    | _, _ => false

def pooled {α : Type} : Query α → Work α
  | .pure a => .pure a
  | .throw e => .throw e
  | .call o k => .call (.repository o) fun x => pooled (k x)

def getDbConnection : Work Unit := pooled Repositories.getDbConnection

def releaseDbConnection : Work Unit := pooled Repositories.releaseDbConnection

def managedConnection {α : Type} (body : Work α) : Work α := do
  getDbConnection
  let result ← body.rescue fun e => do
    releaseDbConnection
    .throw e
  releaseDbConnection
  return result

def execute (w : DbWrite) : Work Bool := managedConnection ((request (.statement w)).bind demand)

def getVehicleByDevice (deviceId : Text) : Work (Option Text) := do
  getDbConnection
  let vehicle ← ((request (Ask.fetchVehicle deviceId)).bind demand).rescue fun e => do
    request (Ask.repository (.log ("❌ get_vehicle_by_device error: ".toList ++ e.text)))
    return none
  releaseDbConnection
  return vehicle

/-- `save_location`: its numbers are cleaned when the connection is already borrowed. -/
def saveLocation (deviceId : Text) (latitude longitude speed heading : Number) (satellites : Nat)
    (eventTime : Instant) : Work Bool :=
  managedConnection do
    let latitude ← demand (Services.cleanDecimal latitude 6)
    let longitude ← demand (Services.cleanDecimal longitude 6)
    let speed ← demand (Services.cleanDecimal speed 2)
    let heading ← demand (Services.cleanDecimal heading 2)
    (request (.statement (.saveLocation deviceId latitude longitude speed heading satellites
      eventTime))).bind demand

def setDeviceOffline (deviceId : Text) : Work Unit := do
  let now ← request (Ask.outside .utcNow)
  managedConnection ((request (.markOffline deviceId now)).bind demand)

def dbPing : Work Unit := managedConnection ((request .selectOne).bind demand)

/-- What a computation returns or raises, as a value. -/
def attempt {α : Type} (p : Work α) : Work (Except Exn α) :=
  (p.bind fun a => .pure (.ok a)).rescue fun e => .pure (.error e)

/-- How an operation of a packet handler is carried out. -/
def serve : (o : Runtime.Op) → Work (Runtime.Res o)
  | .execute w => attempt (execute w)
  | .getDeviceByImei imei protocolType defaultModel =>
      attempt (pooled (getDeviceByImei imei protocolType.name defaultModel))
  | .getVehicleByDevice deviceId => attempt (getVehicleByDevice deviceId)
  | o => request (Ask.outside o)

def expand {α : Type} : Handler α → Work α
  | .pure a => .pure a
  | .throw e => .throw e
  | .call o k => (serve o).bind fun x => expand (k x)

/-- What the gateway has under way: packets, offline marks, health probes; and positions of any
numbers, which a packet's handler refuses before it borrows. -/
inductive Call
  | packet (protocol : Family) (ip : Text) (raw : Bytes)
  | position (deviceId : Text) (latitude longitude speed heading : Number) (satellites : Nat)
      (eventTime : Instant)
  | offline (deviceId : Text)
  | ping

def Call.body (cfg : Config) : Call → Work Unit
  | .packet protocol ip raw =>
      (expand ((pipelines cfg protocol).handler ip raw)).bind fun _ => .pure ()
  | .position deviceId latitude longitude speed heading satellites eventTime =>
      (saveLocation deviceId latitude longitude speed heading satellites eventTime).bind fun _ =>
        .pure ()
  | .offline deviceId => setDeviceOffline deviceId
  | .ping => dbPing

section Login

theorem borrows_lookup (imei : Text) : lending.Borrows (lookup imei) := by
  have registered : lending.Borrows ((request (.fetchRegistered imei)).bind demand : Query _) :=
    (Borrowing.borrows_request (.inl rfl)).bind keeps_demand
  have setUp : lending.Borrows ((request (.fetchSetup imei)).bind demand : Query _) :=
    (Borrowing.borrows_request (.inl rfl)).bind keeps_demand
  have line : ∀ text : Text, lending.Borrows (log text) := fun text =>
    Borrowing.borrows_request (.inr rfl)
  refine registered.bind fun row => ?_
  obtain _ | ⟨deviceId, status⟩ := row
  · refine setUp.bind fun setup => ?_
    obtain _ | setup := setup
    · exact (line _).bind fun _ => keeps_pure _
    · exact keeps_ite ((line _).bind fun _ => keeps_pure _) (keeps_pure _)
  · exact keeps_ite ((line _).bind fun _ => keeps_pure _) (keeps_pure _)

theorem tidy_log (text : Text) : lending.Tidy (log text) := Borrowing.tidy_free rfl

theorem acquires_getDbConnection : lending.Acquires Repositories.getDbConnection := by
  intro past none_
  refine ⟨none_, ?_⟩
  rintro (e | value) <;> rfl

theorem releases_releaseDbConnection :
    lending.Releases Repositories.releaseDbConnection := by
  intro past open_
  refine ⟨open_, ?_⟩
  rintro (e | value) <;> rfl

theorem tidy_managed {α : Type} {body : Query α} (borrows : lending.Borrows body) :
    lending.Tidy (Repositories.managedConnection body) :=
  Borrowing.tidy_bracket acquires_getDbConnection releases_releaseDbConnection borrows

theorem tidy_register (row : GpsDevice) : lending.Tidy (register row) := by
  have inserted : lending.Borrows ((request (.insertDevice row)).bind demand : Query _) :=
    (Borrowing.borrows_request (.inl rfl)).bind keeps_demand
  have stored : lending.Borrows ((request (.fetchDevice row.imeiNumber)).bind demand : Query _) :=
    (Borrowing.borrows_request (.inl rfl)).bind keeps_demand
  refine (tidy_managed (inserted.bind fun _ => stored)).bind fun deviceId => ?_
  obtain _ | deviceId := deviceId
  · exact keeps_pure _
  · exact (tidy_log _).bind fun _ => keeps_pure _

theorem tidy_autoRegister (imei : Text) (setup : SetupDevice) (protocolType defaultModel : Text) :
    lending.Tidy (autoRegister imei setup protocolType defaultModel) := by
  have fresh : lending.Tidy (request Op.uuid4 : Query Text) := Borrowing.tidy_free rfl
  refine (tidy_log _).bind fun _ => fresh.bind fun deviceId => ?_
  exact (tidy_register _).rescue fun e => (tidy_log _).bind fun _ => keeps_pure _

/-- The first connection is returned before the second is asked for. -/
theorem tidy_getDeviceByImei (imei protocolType defaultModel : Text) :
    lending.Tidy (getDeviceByImei imei protocolType defaultModel) := by
  have release := releases_releaseDbConnection
  intro past none_
  refine acquires_getDbConnection.andThen none_ ?_ fun _ _ none_ => none_
  intro past' open_
  rw [Program.bind_eq, guarded_bind, guarded_rescue]
  apply (borrows_lookup imei).guarded open_
  intro past'' r held
  cases r with
  | ok looked =>
      refine release.andThen held ?_ fun _ _ none_ => none_
      cases looked with
      | returns deviceId => exact keeps_pure _
      | goesOn setup => exact tidy_autoRegister imei setup protocolType defaultModel
  | error e =>
      refine ⟨trivial, fun x => ?_⟩
      exact release.andThen held (keeps_pure _) fun _ _ none_ => none_

end Login

section Pooled

variable {α : Type} {q : Query α}

theorem guarded_pooled {done : List (Sigma Res) → Except Exn α → Prop}
    {done' : List (Sigma Ask.Res) → Except Exn α → Prop} {past : List (Sigma Res)}
    {past' : List (Sigma Ask.Res)}
    (finish : ∀ h h' r, pool.holding h' = lending.holding h → done h r → done' h' r)
    (same : pool.holding past' = lending.holding past)
    (guarded : Guarded lending.Rule done q past) : Guarded pool.Rule done' (pooled q) past' := by
  induction q generalizing past past' with
  | pure a => exact finish _ _ _ same guarded
  | throw e => exact finish _ _ _ same guarded
  | call o k ih =>
      obtain ⟨allowed, later⟩ := guarded
      constructor
      · change pool.Fits (pool.holding past') (.repository o)
        rw [same]
        exact allowed
      · intro x
        refine ih x ?_ (later x)
        change pool.after (pool.holding past') ⟨.repository o, x⟩ = _
        rw [same]
        rfl

def borrowed : List (Sigma Res) := [⟨.acquire, .ok ()⟩]

theorem tidy_pooled (tidy : lending.Tidy q) : pool.Tidy (pooled q) := by
  intro past none_
  have before : pool.holding past = lending.holding [] := none_
  exact guarded_pooled (fun _ _ _ same closed => same.trans closed) before (tidy [] rfl)

theorem acquires_pooled (acquires : lending.Acquires q) : pool.Acquires (pooled q) := by
  intro past none_
  have before : pool.holding past = lending.holding [] := none_
  exact guarded_pooled (fun _ _ _ same held => same.trans held) before (acquires [] rfl)

theorem releases_pooled (releases : lending.Releases q) : pool.Releases (pooled q) := by
  intro past open_
  have before : pool.holding past = lending.holding borrowed := open_
  exact guarded_pooled (fun _ _ _ same closed => same.trans closed) before (releases borrowed rfl)

end Pooled

section Upkeep

theorem acquires_connection : pool.Acquires getDbConnection :=
  acquires_pooled acquires_getDbConnection

theorem releases_connection : pool.Releases releaseDbConnection :=
  releases_pooled releases_releaseDbConnection

theorem tidy_managedConnection {α : Type} {body : Work α} (borrows : pool.Borrows body) :
    pool.Tidy (managedConnection body) :=
  Borrowing.tidy_bracket acquires_connection releases_connection borrows

theorem tidy_attempt {α : Type} {p : Work α} (tidy : pool.Tidy p) : pool.Tidy (attempt p) :=
  (tidy.bind fun _ => keeps_pure _).rescue fun _ => keeps_pure _

theorem tidy_execute (w : DbWrite) : pool.Tidy (execute w) :=
  tidy_managedConnection ((Borrowing.borrows_request (.inl rfl)).bind keeps_demand)

theorem tidy_getVehicleByDevice (deviceId : Text) : pool.Tidy (getVehicleByDevice deviceId) := by
  have release := releases_connection
  have fetched : pool.Borrows ((request (Ask.fetchVehicle deviceId)).bind demand : Work _) :=
    (Borrowing.borrows_request (.inl rfl)).bind keeps_demand
  intro past none_
  refine acquires_connection.andThen none_ ?_ fun _ _ none_ => none_
  intro past' open_
  rw [Program.bind_eq, guarded_bind, guarded_rescue]
  apply fetched.guarded open_
  intro past'' r held
  cases r with
  | ok vehicle => exact release.andThen held (keeps_pure _) fun _ _ none_ => none_
  | error e =>
      refine ⟨trivial, fun x => ?_⟩
      exact release.andThen held (keeps_pure _) fun _ _ none_ => none_

/-- A number that is refused is refused while the connection is borrowed, and it goes back. -/
theorem tidy_saveLocation (deviceId : Text) (latitude longitude speed heading : Number)
    (satellites : Nat) (eventTime : Instant) :
    pool.Tidy (saveLocation deviceId latitude longitude speed heading satellites eventTime) := by
  apply tidy_managedConnection
  refine (keeps_demand _).bind fun latitude => (keeps_demand _).bind fun longitude => ?_
  refine (keeps_demand _).bind fun speed => (keeps_demand _).bind fun heading => ?_
  exact (Borrowing.borrows_request (.inl rfl)).bind keeps_demand

theorem tidy_setDeviceOffline (deviceId : Text) : pool.Tidy (setDeviceOffline deviceId) :=
  (Borrowing.tidy_free rfl).bind fun _ =>
    tidy_managedConnection ((Borrowing.borrows_request (.inl rfl)).bind keeps_demand)

theorem tidy_dbPing : pool.Tidy dbPing :=
  tidy_managedConnection ((Borrowing.borrows_request (.inl rfl)).bind keeps_demand)

theorem tidy_serve (o : Runtime.Op) : pool.Tidy (serve o) := by
  cases o with
  | execute w => exact tidy_attempt (tidy_execute w)
  | getDeviceByImei imei protocolType defaultModel =>
      exact tidy_attempt (tidy_pooled (tidy_getDeviceByImei imei protocolType.name defaultModel))
  | getVehicleByDevice deviceId => exact tidy_attempt (tidy_getVehicleByDevice deviceId)
  | _ => exact Borrowing.tidy_free rfl

theorem tidy_expand {α : Type} (p : Handler α) : pool.Tidy (expand p) := by
  induction p with
  | pure a => exact keeps_pure a
  | throw e => exact keeps_throw e
  | call o k ih => exact (tidy_serve o).bind ih

theorem tidy_body (cfg : Config) (call : Call) : pool.Tidy (call.body cfg) := by
  cases call with
  | packet protocol ip raw => exact (tidy_expand _).bind fun _ => keeps_pure _
  | position deviceId latitude longitude speed heading satellites eventTime =>
      exact (tidy_saveLocation _ _ _ _ _ _ _).bind fun _ => keeps_pure _
  | offline deviceId => exact tidy_setDeviceOffline deviceId
  | ping => exact tidy_dbPing

end Upkeep

def obliging : (o : Ask) → o.Res
  | .repository .acquire | .repository .release | .repository (.insertDevice _) => .ok ()
  | .repository (.fetchRegistered _) | .repository (.fetchSetup _)
  | .repository (.fetchDevice _) => .ok none
  | .repository .uuid4 => []
  | .repository (.log _) => ()
  | .fetchVehicle _ => .ok none
  | .statement _ => .ok true
  | .markOffline .. | .selectOne => .ok ()
  | .outside o => Server.calm [] o

/-- The work of the gateway under way on a pool. -/
abbrev Workforce := Crew Ask Ask.Res Nat Call Exn Unit

/-- No run of a packet, an offline mark or a probe uses a connection it has not borrowed, asks for
one while it has one, or ends, returning or raising, before it has returned what it borrowed. -/
theorem loans_returned {cfg : Config} {call : Call} {trace : List (Sigma Ask.Res)}
    {outcome : Except Exn Unit} (ran : Executes (call.body cfg) trace outcome) :
    (∀ front a back, trace = front ++ a :: back → pool.Rule front.reverse a.1) ∧
      pool.grants trace = pool.returns trace :=
  (tidy_body cfg call).executes ran

def failedProbe : List (Sigma Ask.Res) :=
  [⟨.repository .acquire, .ok ()⟩, ⟨.selectOne, .error .timeoutError⟩,
    ⟨.repository .release, .ok ()⟩]

theorem failed_probe_returned :
    (∀ front a back, failedProbe = front ++ a :: back → pool.Rule front.reverse a.1) ∧
      pool.grants failedProbe = pool.returns failedProbe := by
  have ran : Executes (Call.ping.body defaults) failedProbe (.error .timeoutError) :=
    ⟨.ok (), _, rfl, .error .timeoutError, _, rfl, .ok (), [], rfl, rfl, rfl⟩
  exact loans_returned ran

/-- Any number of packets, offline marks and probes take turns on one pool. What is lent is within
its size and with those under way, nothing is lent if all of them wait for the pool, and if no more
are started, all can come to their end with every connection returned. -/
theorem pool_sound {cfg : Config} {size : Nat} {crew : Workforce}
    (reached : Reaches (pool.Lends size) (Call.body cfg) 0 crew) :
    crew.shared ≤ size ∧ crew.shared ≤ crew.running.length ∧
      ((∀ m ∈ crew.running, pool.Waits m.2) → crew.shared = 0) ∧
      (0 < size → ∃ ended,
        Relation.ReflTransGen (Turn (pool.Lends size) (Call.body cfg)) crew ⟨0, [], ended⟩ ∧
        (ended.map Prod.fst).Perm (Borrowing.labels crew)) := by
  have tidy := tidy_body cfg
  obtain ⟨tagged, accounted⟩ := Borrowing.accounted tidy reached
  refine ⟨accounted.capped, accounted.shared_le, accounted.waiting, ?_⟩
  intro some_
  have grants : ∀ o, pool.use o = .acquires → pool.granted o (obliging o) = true := by
    intro o use
    cases o with
    | repository o => cases o <;> first | rfl | cases use
    | _ => cases use
  exact accounted.drains tidy some_ grants

def lent : Program Ask Ask.Res Exn Unit :=
  (((request Ask.selectOne).bind demand).rescue fun e => do
    releaseDbConnection
    .throw e).bind fun result => releaseDbConnection.bind fun _ => .pure result

def storing : Call := .position ['d'] (.finite 7) (.finite 80) (.finite 30) (.finite 90) 9 0

/-- The probe holds the only connection, and another probe and the position wait for it. -/
def probing : Workforce where
  shared := 1
  running := [(.ping, dbPing), (.ping, lent), (storing, storing.body defaults)]
  ended := []

theorem probing_sound :
    pool.Waits dbPing ∧ pool.Waits (storing.body defaults) ∧
      probing.shared ≤ 1 ∧ probing.shared ≤ probing.running.length ∧
      ((∀ m ∈ probing.running, pool.Waits m.2) → probing.shared = 0) ∧
      (0 < 1 → ∃ ended,
        Relation.ReflTransGen (Turn (pool.Lends 1) (Call.body defaults)) probing ⟨0, [], ended⟩ ∧
        (ended.map Prod.fst).Perm (Borrowing.labels probing)) := by
  have lends : pool.Lends 1 0 ⟨.repository .acquire, .ok ()⟩ 1 := ⟨Nat.one_pos, rfl⟩
  let waiting : Workforce :=
    ⟨0, [(.ping, dbPing), (.ping, dbPing), (storing, storing.body defaults)], []⟩
  have started : Reaches (pool.Lends 1) (Call.body defaults) 0 waiting :=
    ((Relation.ReflTransGen.single (.starts storing 0 [] [])).tail (.starts Call.ping 0 _ [])).tail
      (.starts Call.ping 0 _ [])
  have borrows : Turn (pool.Lends 1) (Call.body defaults) waiting probing :=
    .performs lends Call.ping _ [(.ping, dbPing)] [(storing, storing.body defaults)] []
  exact ⟨⟨_, _, rfl, rfl⟩, ⟨_, _, rfl, rfl⟩, pool_sound (started.tail borrows)⟩

end TrackerGateway.Repositories.Connections
