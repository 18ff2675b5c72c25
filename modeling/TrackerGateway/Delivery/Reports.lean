/- module: TrackerGateway/Delivery/Reports
   source: src/services/gps103_handler.py, src/services/event_service.py,
     src/services/tracking_service.py, src/services/raw_packet_policy.py
   digest: What a report of the TK103 family leads to, whichever of its writes fail. -/

import TrackerGateway.Foundation.Coroutine.Plans
import TrackerGateway.Packets.Fixes
import TrackerGateway.Services.Gps103Handler

set_option autoImplicit false
set_option relaxedAutoImplicit false

namespace TrackerGateway.Delivery.Reports

open Foundation.Coroutine
open Foundation.Wire
open TrackerGateway.Runtime
open Parsers.Gps103
open Services Services.Gps103Handler
open Packets.Fixes (Coordinate FixBlock Identified Letter Overlong parseTracker_ok
  parseTracker_error_iff parseTracker_imei_nonempty parseTracker_unidentified)

/-- A reply to the device or a call to the database. What a clock or an earlier call answered is
left out. -/
inductive Attempt
  | reply (payload : Bytes)
  | rawSave (deviceId rawHex : Text)
  | ignitionUpdate (deviceId : Text) (ignition : Bool)
  | vehicleLookup (deviceId : Text)
  | locationSave (deviceId : Text) (latitude longitude : ℚ)
  | eventInsert (deviceId eventType : Text) (latitude longitude : Option ℚ)
  | other

def attempt : Op → Option Attempt
  | .write payload => some (.reply payload)
  | .getVehicleByDevice deviceId => some (.vehicleLookup deviceId)
  | .getDeviceByImei .. => some .other
  | .execute (.rawPacket deviceId _ rawHex ..) => some (.rawSave deviceId rawHex)
  | .execute (.ignition deviceId ignition _) => some (.ignitionUpdate deviceId ignition)
  | .execute (.saveLocation deviceId latitude longitude ..) =>
      some (.locationSave deviceId latitude longitude)
  | .execute (.event row) =>
      some (.eventInsert row.deviceId row.eventType row.latitude row.longitude)
  | .execute _ => some .other
  | _ => none

/-- The connection has this identity and the identity this device. Every call may fail. -/
def Steady (imei : Text) (device : Entry) (sample : ℚ) : Answered → Prop
  | ⟨.getImeiBySocket, found⟩ => found = some imei
  | ⟨.getDevice _, found⟩ => found = some device
  | ⟨.random, drawn⟩ => drawn = sample
  | _ => True

def rawKept (cfg : Config) (always : Bool) (sample : ℚ) : Bool :=
  match cfg.rawPacketMode with
  | .off => false
  | .all => true
  | .selective => always || sample < cfg.rawPacketSampleRate

def position (report : Report) : Option Fix :=
  report.fix.filter fun fix =>
    locationIsValid fix.latitude fix.longitude fix.speed fix.heading

def plan (cfg : Config) (raw : Bytes) (deviceId : Text) (sample : ℚ) (report : Report) :
    List Attempt :=
  (if report.alarmName = some "SOS".toList then [.reply (buildHelpMeAck report.imei)] else []) ++
  (if rawKept cfg (report.alarmName.isSome || !report.knownKeyword) sample then
    [.rawSave deviceId (hex raw)] else []) ++
  (report.ignition.map (.ignitionUpdate deviceId)).toList ++
  (report.alarmName.map fun _ => .vehicleLookup deviceId).toList ++
  ((position report).map fun fix =>
    .locationSave deviceId (cleaned 6 fix.latitude) (cleaned 6 fix.longitude)).toList ++
  (report.alarmName.map fun alarm => .eventInsert deviceId alarm
    ((position report).map fun fix => cleaned 6 fix.latitude)
    ((position report).map fun fix => cleaned 6 fix.longitude)).toList

section Handlers

variable {cfg : Config} {ip imei deviceId : Text} {raw : Bytes} {device : Entry} {sample : ℚ}
  {report : Report}

abbrev Does (imei : Text) (device : Entry) (sample : ℚ) {α : Type} (p : Handler α)
    (attempts : List Attempt) (post : α → Prop) : Prop :=
  Plans (Steady imei device sample) attempt p attempts post

theorem does_log (line : List LogPart) : Does imei device sample (log line) [] fun _ => True :=
  (plans_request (Op.log line)).mono fun _ _ => trivial

theorem does_clock : Does imei device sample (request Op.utcNow : Handler Instant) []
    fun _ => True :=
  (plans_request Op.utcNow).mono fun _ _ => trivial

theorem does_safely {label : String} {write : Handler Unit} {attempts : List Attempt}
    (tried : Attempts (Steady imei device sample) attempt write attempts) :
    Does imei device sample (safely label write) attempts fun _ => True :=
  tried.rescue fun _ => does_log _

theorem attempts_execute (statement : DbWrite) :
    Attempts (Steady imei device sample) attempt (execute statement)
      (attempt (.execute statement)).toList := by
  have asked : Does imei device sample (request (Op.execute statement))
      (attempt (.execute statement)).toList fun _ => True :=
    (plans_request (Op.execute statement)).mono fun _ _ => trivial
  have seen : Attempts (Steady imei device sample) attempt (execute statement)
      ((attempt (.execute statement)).toList ++ []) :=
    asked.andThen fun answer _ => attempts_demand answer
  rwa [List.append_nil] at seen

theorem does_send (payload : Bytes) :
    Does imei device sample (send payload) [.reply payload] fun _ => True := by
  have written : Attempts (Steady imei device sample) attempt (writeSocket payload)
      [.reply payload] :=
    (plans_request (Op.write payload)).andThen fun answer _ => attempts_demand answer
  have drained : Attempts (Steady imei device sample) attempt drainSocket [] :=
    (plans_request Op.drain).andThen fun answer _ => attempts_demand answer
  have sent := written.andQuiet fun _ => drained.andQuiet fun _ =>
    (does_log [say "📤 Reply sent: ", .text (asciiReplace payload)]).attempts
  exact sent.rescue fun ex => does_log [say "❌ Reply error: ", .text ex.text]

theorem does_shouldStoreRaw (always : Bool) :
    Does imei device sample (shouldStoreRaw cfg always) []
      fun kept => kept = rawKept cfg always sample := by
  rw [shouldStoreRaw]
  cases mode : cfg.rawPacketMode with
  | off => exact plans_pure (by rw [rawKept, mode])
  | all => exact plans_pure (by rw [rawKept, mode])
  | selective =>
      cases always with
      | true => exact plans_pure (by rw [rawKept, mode]; rfl)
      | false =>
          apply (plans_request Op.random).bind
          intro drawn same
          apply plans_pure
          change drawn = sample at same
          rw [rawKept, mode, same]
          rfl

theorem attempts_saveRawMessage (always : Bool) :
    Attempts (Steady imei device sample) attempt (saveRawMessage cfg deviceId raw always)
      (if rawKept cfg always sample then [.rawSave deviceId (hex raw)] else []) := by
  apply (does_shouldStoreRaw always).andThen
  rintro _ rfl
  cases rawKept cfg always sample with
  | false => exact attempts_pure ()
  | true =>
      apply does_clock.andThen
      intro now _
      exact (attempts_execute _).andQuiet fun _ => attempts_pure ()

theorem attempts_setIgnition (ignition : Bool) :
    Attempts (Steady imei device sample) attempt (setIgnition deviceId ignition)
      [.ignitionUpdate deviceId ignition] :=
  does_clock.andThen fun now _ =>
    (attempts_execute (.ignition deviceId ignition now)).andQuiet fun _ => attempts_pure ()

theorem attempts_createEvent (vehicleId : Option Text) (eventType : Text) (severity : Severity)
    {latitude longitude : Option Number} {lat lon : Option ℚ}
    (clean : cleanCoordinates latitude longitude = (lat, lon)) (description : Text)
    (metadata : List (Text × Json)) :
    Attempts (Steady imei device sample) attempt
      (createEvent deviceId vehicleId eventType severity latitude longitude description metadata)
      [.eventInsert deviceId eventType lat lon] := by
  rw [createEvent, clean]
  exact does_clock.andThen fun _ _ => (attempts_execute _).andQuiet fun _ => attempts_pure ()

theorem attempts_saveLocation (latitude longitude speed heading : ℚ) (satellites : Nat)
    (eventTime : Instant) :
    Attempts (Steady imei device sample) attempt
      (saveLocation deviceId (.finite latitude) (.finite longitude) (.finite speed)
        (.finite heading) satellites eventTime)
      [.locationSave deviceId (cleaned 6 latitude) (cleaned 6 longitude)] :=
  attempts_execute _

theorem does_noteKeyword : Does imei device sample (noteKeyword imei report) []
    fun _ => True := by
  rw [noteKeyword]
  split
  · exact plans_pure trivial
  · exact does_log _

theorem does_usableFix : Does imei device sample (usableFix imei report) []
    fun fix => fix = position report := by
  rw [usableFix]
  cases found : report.fix with
  | none =>
      refine (does_log _).bind fun _ _ => plans_pure ?_
      rw [position, found]
      rfl
  | some fix =>
      have filtered : position report = if locationIsValid fix.latitude fix.longitude fix.speed
          fix.heading then some fix else none := by
        rw [position, found, Option.filter_some]
      dsimp only
      split
      case isTrue valid =>
        exact plans_pure (by rw [filtered, if_pos valid])
      case isFalse invalid =>
        exact (does_log _).bind fun _ _ => plans_pure (by rw [filtered, if_neg invalid])

theorem does_confirmSos : Does imei device sample (confirmSos imei report)
    (if report.alarmName = some "SOS".toList then [.reply (buildHelpMeAck imei)] else [])
    fun _ => True := by
  rw [confirmSos]
  split
  · exact does_send _
  · exact plans_pure trivial

theorem does_storeIgnition (ignition : Option Bool) :
    Does imei device sample (storeIgnition deviceId ignition)
      (ignition.map (.ignitionUpdate deviceId)).toList fun _ => True := by
  cases ignition with
  | none => exact plans_pure trivial
  | some ignition => exact does_safely (attempts_setIgnition ignition)

theorem does_alarmVehicle (alarm : Option Text) :
    Does imei device sample (alarmVehicle deviceId alarm)
      (alarm.map fun _ => .vehicleLookup deviceId).toList fun _ => True := by
  cases alarm with
  | none => exact plans_pure trivial
  | some alarm =>
      have looked : Attempts (Steady imei device sample) attempt (getVehicleByDevice deviceId)
          [.vehicleLookup deviceId] :=
        (plans_request (Op.getVehicleByDevice deviceId)).andThen fun answer _ =>
          attempts_demand answer
      exact looked.rescue fun ex => (does_log _).bind fun _ _ => plans_pure trivial

theorem does_eventTimeOf (fix : Fix) :
    Does imei device sample (eventTimeOf fix) [] fun _ => True := by
  rw [eventTimeOf]
  split
  · exact plans_pure trivial
  · exact does_clock.bind fun _ _ => (does_log _).bind fun _ _ => plans_pure trivial

theorem finite_of_between {low high : ℚ} {x : Number} (within : x.between low high = true) :
    ∃ q, x = .finite q := by
  cases x with
  | finite q => exact ⟨q, rfl⟩
  | infinite negative => cases within
  | nan => cases within

theorem position_valid {fix : Fix} (stored : position report = some fix) :
    locationIsValid fix.latitude fix.longitude fix.speed fix.heading = true :=
  (Option.filter_eq_some_iff.mp stored).2

theorem does_storeFix :
    Does imei device sample (storeFix imei deviceId (position report))
      ((position report).map fun fix =>
        .locationSave deviceId (cleaned 6 fix.latitude) (cleaned 6 fix.longitude)).toList
      fun _ => True := by
  cases stored : position report with
  | none => exact plans_pure trivial
  | some fix =>
      have valid := position_valid stored
      rw [locationIsValid, Bool.and_eq_true, Bool.and_eq_true] at valid
      obtain ⟨speed, fast⟩ := finite_of_between valid.1.2
      obtain ⟨heading, course⟩ := finite_of_between valid.2
      apply (does_eventTimeOf fix).bind
      intro eventTime _
      rw [fast, course]
      have saved : Attempts (Steady imei device sample) attempt
          ((saveLocation deviceId (.finite fix.latitude) (.finite fix.longitude) (.finite speed)
            (.finite heading) 0 eventTime).bind fun _ => .pure ())
          [.locationSave deviceId (cleaned 6 fix.latitude) (cleaned 6 fix.longitude)] :=
        (attempts_saveLocation _ _ _ _ _ _).andQuiet fun _ => attempts_pure ()
      apply (does_safely saved).bind
      intro _ _
      apply does_clock.bind
      intro now _
      exact (plans_request (Op.notePosition imei (.finite speed) now)).mono fun _ _ => trivial

theorem cleanCoordinates_position (report : Report) :
    cleanCoordinates ((position report).map fun fix => .finite fix.latitude)
      ((position report).map fun fix => .finite fix.longitude) =
      ((position report).map fun fix => cleaned 6 fix.latitude,
        (position report).map fun fix => cleaned 6 fix.longitude) := by
  cases stored : position report with
  | none => rfl
  | some fix =>
      have valid := position_valid stored
      simp only [locationIsValid, Bool.and_eq_true, decide_eq_true_eq] at valid
      exact if_pos ⟨valid.1.1.1.1.1.2, valid.1.1.1.1.2, valid.1.1.1.2, valid.1.1.2⟩

theorem does_recordAlarm (vehicleId alarm : Option Text) :
    Does imei device sample (recordAlarm deviceId vehicleId report (position report) alarm)
      (alarm.map fun alarm => .eventInsert deviceId alarm
        ((position report).map fun fix => cleaned 6 fix.latitude)
        ((position report).map fun fix => cleaned 6 fix.longitude)).toList fun _ => True := by
  cases alarm with
  | none => exact plans_pure trivial
  | some alarm =>
      have clean := cleanCoordinates_position report
      exact (does_safely (attempts_createEvent _ _ _ clean _ _)).bind fun _ _ => does_log _

/-- Whatever fails, a report of the connection's device leads to the same attempts. -/
theorem does_processReport (own : report.imei = imei) :
    Does imei device sample (processReport cfg raw imei deviceId report)
      (plan cfg raw deviceId sample report) fun _ => True := by
  rw [plan, own]
  simp only [List.append_assoc]
  apply does_noteKeyword.bind
  intro _ _
  apply does_usableFix.bind
  rintro _ rfl
  apply does_confirmSos.bind
  intro _ _
  apply (does_safely (attempts_saveRawMessage _)).bind
  intro _ _
  apply (does_storeIgnition report.ignition).bind
  intro _ _
  apply (does_alarmVehicle report.alarmName).bind
  intro vehicleId _
  apply does_storeFix.bind
  intro _ _
  exact does_recordAlarm vehicleId report.alarmName

theorem does_authenticatedImei (nonempty : imei ≠ []) :
    Does imei device sample (authenticatedImei imei) [] fun found => found = some imei := by
  apply (plans_request Op.getImeiBySocket).bind
  intro found known
  change found = some imei at known
  have real : truthy found = some imei := truthy_eq_some_iff.mpr ⟨known, nonempty⟩
  rw [real]
  dsimp only
  rw [if_neg (by simp)]
  exact plans_pure rfl

theorem does_message {text : Text} (tracker : classify raw = (.tracker, text))
    (parsed : parseTracker cfg text = .ok report) (own : report.imei = imei)
    (nonempty : imei ≠ []) :
    Does imei device sample (processGps103Message cfg ip raw)
      (plan cfg raw device.deviceId sample report) fun bound => bound = some imei := by
  have handled : Does imei device sample (handleTracker cfg text raw)
      (plan cfg raw device.deviceId sample report) fun bound => bound = some imei := by
    have real : truthy (some imei) = some imei := truthy_eq_some_iff.mpr ⟨rfl, nonempty⟩
    rw [handleTracker, parsed, demand_ok]
    change Plans _ _ ((authenticatedImei report.imei).bind _) _ _
    rw [own]
    apply (does_authenticatedImei nonempty).bind
    rintro _ rfl
    rw [real]
    apply (plans_request (Op.getDevice imei)).bind
    rintro _ rfl
    have returned : Does imei device sample
        ((processReport cfg raw imei device.deviceId report).bind fun _ => .pure (some imei))
        (plan cfg raw device.deviceId sample report ++ []) fun bound => bound = some imei :=
      (does_processReport own).bind fun _ _ => plans_pure rfl
    rwa [List.append_nil] at returned
  rw [processGps103Message, tracker]
  exact handled.rescue

theorem attempts_unread {assumed : Answered → Prop} {text : Text} {e : Exn}
    (tracker : classify raw = (.tracker, text)) (parsed : parseTracker cfg text = .error e) :
    Attempts assumed attempt (processGps103Message cfg ip raw) [] := by
  have raised : handleTracker cfg text raw = .throw e := by
    rw [handleTracker, parsed]
    rfl
  rw [processGps103Message, tracker]
  change Attempts _ _ ((handleTracker cfg text raw).rescue _) _
  rw [raised, Program.rescue_throw]
  have asked : ∀ line, Attempts assumed attempt
      ((log line).bind fun _ => (request Op.getImeiBySocket : Handler (Option Text))) [] :=
    fun line => (plans_request (Op.log line)).andThen fun _ _ =>
      (plans_request Op.getImeiBySocket).attempts
  cases e <;> exact asked _

end Handlers

/-- On the connection of its identity a report leads to the same attempts in every run, and these
are the ones of its plan, whichever replies and calls fail. -/
theorem writes_independent (cfg : Config) (ip : Text) (raw : Bytes) {text : Text} {report : Report}
    (tracker : classify raw = (.tracker, text)) (parsed : parseTracker cfg text = .ok report)
    (device : Entry) (sample : ℚ) {trace flawless : List Answered}
    {outcome returned : Except Exn (Option Text)}
    (ran : Executes (processGps103Message cfg ip raw) trace outcome)
    (answers : ∀ a ∈ trace, Steady report.imei device sample a)
    (compared : Executes (processGps103Message cfg ip raw) flawless returned)
    (answered : ∀ a ∈ flawless, Steady report.imei device sample a) :
    attempted attempt trace = attempted attempt flawless ∧
      attempted attempt trace = plan cfg raw device.deviceId sample report := by
  have does : Does report.imei device sample (processGps103Message cfg ip raw)
      (plan cfg raw device.deviceId sample report) fun bound => bound = some report.imei :=
    does_message tracker parsed rfl (parseTracker_imei_nonempty parsed)
  have seen := (does trace outcome ran answers).1
  have seen' := (does flawless returned compared answered).1
  exact ⟨seen.trans seen'.symm, seen⟩

/-- The connection of a device, where every call succeeds or every call fails. -/
def answering (imei : Text) (device : Entry) (works : Bool) : (o : Op) → Res o
  | .getImeiBySocket => some imei
  | .getDevice _ => some device
  | .lastAlive _ => none
  | .lastIgnition _ => none
  | .write _ | .drain => if works then .ok () else .error (.foreign [] [])
  | .utcNow => 0
  | .monotonic | .random => 0
  | .getDeviceByImei .. | .getVehicleByDevice _ =>
      if works then .ok none else .error (.foreign [] [])
  | .execute _ => if works then .ok true else .error (.foreign [] [])
  | .registerDevice .. | .notePosition .. | .setLastAlive .. | .setLastIgnition ..
  | .forgetStatus _ | .close | .log _ => ()

theorem steady_answering {imei : Text} {device : Entry} {works : Bool} {α : Type}
    (p : Handler α) : ∀ a ∈ (play (answering imei device works) p).1, Steady imei device 0 a := by
  intro a member
  rw [answered_play _ p a member]
  obtain ⟨o, -⟩ := a
  cases o <;> trivial

def sosReport : Text :=
  "imei:359586015829802,help me,0809231929,,F,112909.000,A,0656.2000,N,07951.2000,E,0.00,0".toList

def sosDevice : Entry := ⟨['d'], [], .gps103, 0, 0, 0, none, none, none⟩

def sosRun (imei : Text) (works : Bool) : List Answered × Except Exn (Option Text) :=
  play (answering imei sosDevice works) (processGps103Message defaults [] (asciiBytes sosReport))

theorem writes_independent_sos : ∃ report, parseTracker defaults sosReport = .ok report ∧
    attempted attempt (sosRun report.imei false).1 =
      attempted attempt (sosRun report.imei true).1 ∧
    attempted attempt (sosRun report.imei false).1 =
      plan defaults (asciiBytes sosReport) sosDevice.deviceId 0 report := by
  obtain ⟨report, parsed, -⟩ := Packets.Fixes.reads_of_isSome sosReport (by decide +kernel)
  have tracker : classify (asciiBytes sosReport) = (.tracker, sosReport) := by decide +kernel
  exact ⟨report, parsed, writes_independent defaults [] (asciiBytes sosReport) tracker parsed
    sosDevice 0 (executes_play _ _) (steady_answering _) (executes_play _ _) (steady_answering _)⟩

theorem reply_mem_plan {cfg : Config} {raw : Bytes} {deviceId : Text} {sample : ℚ}
    {report : Report} (sos : report.alarmName = some "SOS".toList) :
    .reply (buildHelpMeAck report.imei) ∈ plan cfg raw deviceId sample report := by
  simp only [plan, if_pos sos, List.append_assoc]
  exact List.mem_append_left _ (List.mem_singleton_self _)

theorem event_mem_plan {cfg : Config} {raw : Bytes} {deviceId : Text} {sample : ℚ}
    {report : Report} {alarm : Text} (named : report.alarmName = some alarm) :
    ∃ latitude longitude,
      .eventInsert deviceId alarm latitude longitude ∈ plan cfg raw deviceId sample report := by
  refine ⟨(position report).map fun fix => cleaned 6 fix.latitude,
    (position report).map fun fix => cleaned 6 fix.longitude, ?_⟩
  simp only [plan, named, Option.map_some, Option.toList_some]
  exact List.mem_append_right _ (List.mem_singleton_self _)

/-- The alarm of a report is read and delivered. -/
def Survives (cfg : Config) (ip text : Text) : Prop :=
  ∃ report, parseTracker cfg text = .ok report ∧
    report.imei = strip (((text.splitOn ',').headD []).drop 5) ∧
    report.alarmName = (alarmNames.lookup (lower (field (text.splitOn ',') 1))).join ∧
    (¬FixBlock Coordinate Letter Letter (text.splitOn ',') → report.fix = none) ∧
    ∀ raw device sample trace outcome, classify raw = (.tracker, text) →
      Executes (processGps103Message cfg ip raw) trace outcome →
      (∀ a ∈ trace, Steady report.imei device sample a) →
      ∀ alarm, report.alarmName = some alarm →
        (alarm = "SOS".toList → .reply (buildHelpMeAck report.imei) ∈ attempted attempt trace) ∧
        ∃ latitude longitude,
          .eventInsert device.deviceId alarm latitude longitude ∈ attempted attempt trace

theorem survives_of_parsed {cfg : Config} {ip text : Text} {report : Report}
    (identified : Identified text) (parsed : parseTracker cfg text = .ok report) :
    Survives cfg ip text := by
  obtain ⟨fix, rfl, found⟩ := parseTracker_ok identified parsed
  refine ⟨_, parsed, rfl, rfl, ?_, ?_⟩
  · intro unusable
    cases fix with
    | none => rfl
    | some fix => exact absurd (found.mp rfl).coordinates unusable
  · intro raw device sample trace outcome tracker ran answers alarm named
    have nonempty := parseTracker_imei_nonempty parsed
    have seen := (does_message tracker parsed rfl nonempty trace outcome ran answers).1
    rw [seen]
    constructor
    · rintro rfl
      exact reply_mem_plan named
    · exact event_mem_plan named

/-- A report survives whatever stands in its fields, and only a missing identity is refused, exactly
when no coordinate of a report with an identity is overlong. -/
theorem alarm_survives_iff (cfg : Config) (ip text : Text) :
    ((Identified text → Survives cfg ip text) ∧
      ∀ e, parseTracker cfg text = .error e → ∃ message, e = .gps103ParseError message) ↔
      (Identified text → ¬Overlong (text.splitOn ',')) := by
  constructor
  · rintro ⟨survives, -⟩ identified overlong
    obtain ⟨e, raised⟩ := (parseTracker_error_iff cfg identified).mpr overlong
    obtain ⟨report, parsed, -⟩ := survives identified
    rw [raised] at parsed
    cases parsed
  · intro short
    constructor
    · intro identified
      cases parsed : parseTracker cfg text with
      | error e =>
          exact absurd ((parseTracker_error_iff cfg identified).mp ⟨e, parsed⟩) (short identified)
      | ok report => exact survives_of_parsed identified parsed
    · intro e raised
      by_cases identified : Identified text
      · exact absurd ((parseTracker_error_iff cfg identified).mp ⟨e, raised⟩) (short identified)
      · obtain ⟨message, refused⟩ := parseTracker_unidentified cfg identified
        rw [raised] at refused
        exact ⟨message, Except.error.inj refused⟩

theorem silent_of_unread {cfg : Config} {ip text : Text} {raw : Bytes} {e : Exn}
    (tracker : classify raw = (.tracker, text)) (raised : parseTracker cfg text = .error e)
    (trace : List Answered) (outcome : Except Exn (Option Text))
    (ran : Executes (processGps103Message cfg ip raw) trace outcome) :
    attempted attempt trace = [] := by
  have quiet : Attempts (fun _ => True) attempt (processGps103Message cfg ip raw) [] :=
    attempts_unread tracker raised
  exact quiet trace outcome ran fun _ _ => trivial

/-- An SOS whose latitude has four hundred digits of degrees. -/
def overlongSos : Text :=
  "imei:359586015829802,help me,,,F,,A,".toList ++ List.replicate 400 '9' ++
    "00.0,N,07951.0,E".toList

theorem overlong_alarm_lost :
    classify (asciiBytes overlongSos) = (.tracker, overlongSos) ∧ Identified overlongSos ∧
      parseTracker defaults overlongSos = .error .overflowError ∧
      ¬Survives defaults [] overlongSos ∧
      ∀ trace outcome,
        Executes (processGps103Message defaults [] (asciiBytes overlongSos)) trace outcome →
        attempted attempt trace = [] := by
  have tracker : classify (asciiBytes overlongSos) = (.tracker, overlongSos) := by decide +kernel
  have raised : parseTracker defaults overlongSos = .error .overflowError := by
    have failed :
        (parseTracker defaults overlongSos).map (fun _ => ()) = .error .overflowError := by
      decide +kernel
    cases parsed : parseTracker defaults overlongSos with
    | error e =>
        rw [parsed] at failed
        cases failed
        rfl
    | ok report =>
        rw [parsed] at failed
        cases failed
  refine ⟨tracker, ⟨by decide +kernel, by decide +kernel⟩, raised, ?_, ?_⟩
  · rintro ⟨report, parsed, -⟩
    rw [raised] at parsed
    cases parsed
  · exact silent_of_unread tracker raised

end TrackerGateway.Delivery.Reports
