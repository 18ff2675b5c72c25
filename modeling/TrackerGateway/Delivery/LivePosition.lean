/- module: TrackerGateway/Delivery/LivePosition
   source: src/services/tracking_service.py
   digest: When the live row of a device carries its newest position. -/

import TrackerGateway.Services.Tables

set_option autoImplicit false
set_option relaxedAutoImplicit false

namespace TrackerGateway.Delivery.LivePosition

open Foundation.Coroutine
open Foundation.Table
open Foundation.Wire
open TrackerGateway.Runtime
open Services

structure Call where
  deviceId : Text
  latitude : Number
  longitude : Number
  speed : Number
  heading : Number
  satellites : Nat
  eventTime : Instant

def Call.program (c : Call) : Handler Bool :=
  saveLocation c.deviceId c.latitude c.longitude c.speed c.heading c.satellites c.eventTime

def statementOfRow (row : TrackingRow) : DbWrite :=
  .saveLocation row.deviceId row.latitude row.longitude row.speed row.heading row.satellites
    row.eventTime

/-- A call that succeeds: it runs the statement of one row, is told what the statement returns, and
leaves the tables as the statement does. -/
def Saved (idempotent : Bool) (c : Call) (t t' : Tables) : Prop :=
  ∃ row, Executes c.program [⟨.execute (statementOfRow row),
    .ok (saveLocationSql idempotent row t).1⟩]
    (.ok (saveLocationSql idempotent row t).1) ∧ t' = (saveLocationSql idempotent row t).2

inductive SavedAll (idempotent : Bool) (t : Tables) : List Call → Tables → Prop
  | nothing : SavedAll idempotent t [] t
  | call {calls : List Call} {c : Call} {before after : Tables} :
      SavedAll idempotent t calls before → Saved idempotent c before after →
      SavedAll idempotent t (calls ++ [c]) after

def own (d : Text) (calls : List Call) : List Call := calls.filter fun c => c.deviceId = d

def Shows (live : LiveRow) (c : Call) : Prop :=
  cleanDecimal c.latitude 6 = .ok live.latitude ∧ cleanDecimal c.longitude 6 = .ok live.longitude ∧
    live.lastUpdate = c.eventTime

/-- No call of the list has a later event time. -/
def Newest (calls : List Call) (c : Call) : Prop := ∀ c' ∈ calls, c'.eventTime ≤ c.eventTime

/-- The live row of the device shows a newest one of its calls. -/
def CarriesNewest (d : Text) (calls : List Call) (t : Tables) : Prop :=
  ∃ live, lookup LiveRow.deviceId d t.currentLocations = some live ∧
    ∃ c ∈ own d calls, Newest (own d calls) c ∧ Shows live c

def EndsNewest (d : Text) (calls : List Call) : Prop :=
  ∃ c, (own d calls).getLast? = some c ∧ Newest (own d calls) c

section Calls

variable {idempotent : Bool} {d vehicleId : Text}

theorem bound_of_executes {c : Call} {row : TrackingRow} {b : Bool}
    (runs : Executes c.program [⟨.execute (statementOfRow row), .ok b⟩] (.ok b)) :
    row.deviceId = c.deviceId ∧ cleanDecimal c.latitude 6 = .ok row.latitude ∧
      cleanDecimal c.longitude 6 = .ok row.longitude ∧ row.eventTime = c.eventTime := by
  rw [Call.program, saveLocation] at runs
  cases latitude : cleanDecimal c.latitude 6 with
  | error e =>
      rw [latitude] at runs
      cases runs.1
  | ok lat =>
      cases longitude : cleanDecimal c.longitude 6 with
      | error e =>
          rw [latitude, longitude] at runs
          cases runs.1
      | ok lon =>
          cases speed : cleanDecimal c.speed 2 with
          | error e =>
              rw [latitude, longitude, speed] at runs
              cases runs.1
          | ok v =>
              cases heading : cleanDecimal c.heading 2 with
              | error e =>
                  rw [latitude, longitude, speed, heading] at runs
                  cases runs.1
              | ok h =>
                  rw [latitude, longitude, speed, heading] at runs
                  obtain ⟨x, rest, same, -⟩ := runs
                  obtain ⟨first, -⟩ := List.cons.inj same
                  have statement := Op.execute.inj (congrArg Sigma.fst first)
                  obtain ⟨device, lat_eq, lon_eq, -, -, -, time⟩ :=
                    DbWrite.saveLocation.inj statement
                  exact ⟨device, by rw [lat_eq], by rw [lon_eq], time⟩

theorem activeVehicle_saveLocationSql (row : TrackingRow) (t : Tables) (d : Text) :
    (saveLocationSql idempotent row t).2.activeVehicle d = t.activeVehicle d := by
  rw [saveLocationSql]
  dsimp only
  split <;> rfl

theorem live_saveLocationSql {row : TrackingRow} {t : Tables}
    (assigned : t.activeVehicle row.deviceId = some vehicleId) :
    lookup LiveRow.deviceId row.deviceId (saveLocationSql idempotent row t).2.currentLocations =
      some (row.live vehicleId (t.deviceStatuses.lookup row.deviceId)) := by
  rw [saveLocationSql]
  dsimp only
  rw [assigned]
  dsimp only
  let live := row.live vehicleId (t.deviceStatuses.lookup row.deviceId)
  have replaced : lookup LiveRow.deviceId live.deviceId
      (upsert LiveRow.deviceId (fun _ new => new) live t.currentLocations) = _ :=
    lookup_upsert_self fun _ _ => rfl
  apply replaced.trans
  split <;> rfl

theorem live_saveLocationSql_ne {row : TrackingRow} {t : Tables} (other : d ≠ row.deviceId) :
    lookup LiveRow.deviceId d (saveLocationSql idempotent row t).2.currentLocations =
      lookup LiveRow.deviceId d t.currentLocations := by
  rw [saveLocationSql]
  dsimp only
  split
  · rfl
  · exact lookup_upsert_ne (fun _ _ => rfl) other

theorem activeVehicle_savedAll {t t' : Tables} {calls : List Call}
    (saved : SavedAll idempotent t calls t') : t'.activeVehicle d = t.activeVehicle d := by
  induction saved with
  | nothing => rfl
  | call _ last ih =>
      obtain ⟨row, -, rfl⟩ := last
      rw [activeVehicle_saveLocationSql, ih]

theorem own_append_self {calls : List Call} {c : Call} (mine : c.deviceId = d) :
    own d (calls ++ [c]) = own d calls ++ [c] := by
  rw [own]
  rw [List.filter_append, List.filter_singleton, decide_eq_true mine]
  rfl

theorem own_append_ne {calls : List Call} {c : Call} (other : c.deviceId ≠ d) :
    own d (calls ++ [c]) = own d calls := by
  rw [own]
  rw [List.filter_append, List.filter_singleton, decide_eq_false other]
  exact List.append_nil _

theorem live_shows_last {t t' : Tables} {calls : List Call} {c : Call}
    (assigned : t.activeVehicle d = some vehicleId) (saved : SavedAll idempotent t calls t')
    (last : (own d calls).getLast? = some c) :
    ∃ live, lookup LiveRow.deviceId d t'.currentLocations = some live ∧ Shows live c := by
  induction saved with
  | nothing => cases last
  | @call calls c' before after front saved ih =>
      obtain ⟨row, runs, rfl⟩ := saved
      obtain ⟨device, latitude, longitude, time⟩ := bound_of_executes runs
      by_cases mine : c'.deviceId = d
      · rw [own_append_self mine, List.getLast?_append, List.getLast?_singleton] at last
        cases last
        have now : before.activeVehicle row.deviceId = some vehicleId := by
          rw [activeVehicle_savedAll front, device, mine, assigned]
        have live : lookup LiveRow.deviceId row.deviceId
            (saveLocationSql idempotent row before).2.currentLocations = _ :=
          live_saveLocationSql now
        rw [device, mine] at live
        exact ⟨_, live, latitude, longitude, time⟩
      · rw [own_append_ne mine] at last
        obtain ⟨live, found, shows⟩ := ih last
        have other : d ≠ row.deviceId := fun same => mine (by rw [← device, ← same])
        exact ⟨live, (live_saveLocationSql_ne other).trans found, shows⟩

/-- The live row carries a newest position exactly after a call of greatest event time. -/
theorem live_newest_iff (idempotent : Bool) (d vehicleId : Text) (calls : List Call)
    (t t' : Tables) (assigned : t.activeVehicle d = some vehicleId)
    (saved : SavedAll idempotent t calls t') : CarriesNewest d calls t' ↔ EndsNewest d calls := by
  constructor
  · rintro ⟨live, found, c, member, newest, shows⟩
    have some_ : own d calls ≠ [] := List.ne_nil_of_mem member
    have last := List.getLast?_eq_some_getLast some_
    obtain ⟨live', found', shows'⟩ := live_shows_last assigned saved last
    rw [found] at found'
    cases found'
    have same : ((own d calls).getLast some_).eventTime = c.eventTime := by
      rw [← shows'.2.2, shows.2.2]
    refine ⟨_, last, ?_⟩
    intro c' member'
    rw [same]
    exact newest c' member'
  · rintro ⟨c, last, newest⟩
    obtain ⟨live, found, shows⟩ := live_shows_last assigned saved last
    exact ⟨live, found, c, List.mem_of_getLast? last, newest, shows⟩

end Calls

/-- The device stands at another latitude at each time. -/
def callAt (time : Instant) : Call :=
  ⟨['d'], .finite time, .finite 80, .finite 30, .finite 90, 9, time⟩

def rowAt (time : Instant) : TrackingRow := ⟨['d'], cleaned 6 time, cleaned 6 80, cleaned 2 30,
  cleaned 2 90, 9, time⟩

def assigned : Tables := ⟨[], [], [⟨['d'], ['v'], 1⟩], []⟩

theorem saved_callAt (idempotent : Bool) (time : Instant) (t : Tables) :
    Saved idempotent (callAt time) t (saveLocationSql idempotent (rowAt time) t).2 :=
  ⟨rowAt time, ⟨_, [], rfl, rfl, rfl⟩, rfl⟩

def after (idempotent : Bool) (times : List Instant) : Tables :=
  times.foldl (fun t time => (saveLocationSql idempotent (rowAt time) t).2) assigned

theorem savedAll_after (idempotent : Bool) (times : List Instant) :
    SavedAll idempotent assigned (times.map callAt) (after idempotent times) := by
  induction times using List.reverseRecOn with
  | nil => exact .nothing
  | append_singleton times time ih =>
      rw [List.map_append]
      rw [after]
      rw [List.foldl_append]
      exact .call ih (saved_callAt idempotent time _)

/-- The first position arrives a second time after a newer one: the history ignores it in the
idempotent mode, the live row goes back to it in both modes. -/
theorem resent_position_overwrites :
    SavedAll true assigned ([1, 2, 1].map callAt) (after true [1, 2, 1]) ∧
    (after true [1, 2, 1]).gpsTrackings.map TrackingRow.eventTime = [1, 2] ∧
    (after true [1, 2, 1]).currentLocations.map LiveRow.lastUpdate = [1] ∧
    ¬ CarriesNewest ['d'] ([1, 2, 1].map callAt) (after true [1, 2, 1]) ∧
    SavedAll false assigned ([2, 1].map callAt) (after false [2, 1]) ∧
    ¬ CarriesNewest ['d'] ([2, 1].map callAt) (after false [2, 1]) := by
  have stale : ∀ (idempotent : Bool) (times : List Instant), 2 ∈ times →
      (lookup LiveRow.deviceId ['d'] (after idempotent times).currentLocations).map
        LiveRow.lastUpdate = some 1 →
      ¬ CarriesNewest ['d'] (times.map callAt) (after idempotent times) := by
    rintro idempotent times early back ⟨live, found, c, -, newest, -, -, time⟩
    rw [found] at back
    have late : (callAt 2).eventTime ≤ c.eventTime := by
      refine newest _ (List.mem_filter.mpr ⟨List.mem_map_of_mem early, rfl⟩)
    have shown : live.lastUpdate = 1 := Option.some.inj back
    have two : (callAt 2).eventTime = 2 := rfl
    rw [← time, shown, two] at late
    exact absurd late (by decide)
  refine ⟨savedAll_after _ _, by decide +kernel, by decide +kernel, ?_, savedAll_after _ _, ?_⟩
  · exact stale true [1, 2, 1] (by decide) (by decide +kernel)
  · exact stale false [2, 1] (by decide) (by decide +kernel)

theorem live_newest_ordered :
    CarriesNewest ['d'] ([1, 2].map callAt) (after true [1, 2]) := by
  refine (live_newest_iff true ['d'] ['v'] _ assigned _ (by decide +kernel)
    (savedAll_after true [1, 2])).mpr ⟨callAt 2, rfl, ?_⟩
  intro c member
  have listed : c ∈ [callAt 1, callAt 2] := member
  simp only [List.mem_cons, List.not_mem_nil, or_false] at listed
  rcases listed with rfl | rfl
  · decide
  · exact le_refl _

end TrackerGateway.Delivery.LivePosition
