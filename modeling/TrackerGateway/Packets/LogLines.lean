/- module: TrackerGateway/Packets/LogLines
   source: src/services/gps103_handler.py, src/docs/multi-protocol.md (Security properties)
   digest: What the log lines about a text message are made of, and which messages get into them
     unescaped. -/

import TrackerGateway.Foundation.Coroutine.Discipline
import TrackerGateway.Foundation.Wire.Quoting
import TrackerGateway.Packets.Fixes
import TrackerGateway.Services.Gps103Handler

set_option autoImplicit false
set_option relaxedAutoImplicit false

namespace TrackerGateway.Packets.LogLines

open Foundation.Coroutine
open Foundation.Wire
open TrackerGateway.Runtime
open Fixes (identified_of_ok parseTracker_ok parseTracker_imei_nonempty)
open Parsers.Gps103
open Services
open Services.Gps103Handler

def isControl (c : Char) : Bool := c.toNat < 32 || (127 ≤ c.toNat && c.toNat < 160)

/-- The longest that 120 characters can become when each of them is escaped. -/
def cap : Nat := 1202

/-- A text without control characters that is not longer than the cap. -/
def harmless (t : Text) : Bool := t.all (!isControl ·) && t.length ≤ cap

def raised : Answered → Option Exn
  | ⟨.write _, .error ex⟩ | ⟨.drain, .error ex⟩ => some ex
  | ⟨.getDeviceByImei .., .error ex⟩ | ⟨.getVehicleByDevice _, .error ex⟩ => some ex
  | ⟨.execute _, .error ex⟩ => some ex
  | _ => none

/-- A text that is not from the message: the address of the peer, and what operations answered. -/
inductive Foreign (ip : Text) (past : List Answered) : Text → Prop
  | address : Foreign ip past ip
  | identity {imei : Text} (found : (⟨.getImeiBySocket, some imei⟩ : Answered) ∈ past) :
      Foreign ip past imei
  | device {imei model deviceId : Text} {family : Family}
      (found : (⟨.getDeviceByImei imei family model, .ok (some deviceId)⟩ : Answered) ∈ past) :
      Foreign ip past deviceId
  | failure {a : Answered} {ex : Exn} (member : a ∈ past) (raises : raised a = some ex) :
      Foreign ip past ex.text

/-- The interpreter's words for a numeral of too many digits, which tell how many. -/
def tooLong (count : Nat) : Text :=
  "Exceeds the limit (4300 digits) for integer string conversion: value has ".toList ++
    decimal count ++ " digits; use sys.set_int_max_str_digits() to increase the limit".toList

/-- A part of a log line that brings no control character of the message into it, nor more of the
message than the cap. -/
inductive Contained (ip : Text) (past : List Answered) : LogPart → Prop
  | number (x : Number) : Contained ip past (.number x)
  | own {t : Text} (plain : harmless t = true) : Contained ip past (.text t)
  | counted (count : Nat) : Contained ip past (.text (tooLong count))
  | foreign {t : Text} (from_ : Foreign ip past t) : Contained ip past (.text t)

/-- Every log line that handling the message leads to is contained, in every state of the gateway
and with every failure. -/
def LinesContained (cfg : Config) (raw : Bytes) : Prop :=
  ∀ ip trace outcome, Executes (processGps103Message cfg ip raw) trace outcome →
    ∀ front line back, trace = front ++ ⟨.log line, ()⟩ :: back →
      ∀ part ∈ line, Contained ip front part

/-- The fix type of a report without a position, which goes into the log as it is, is harmless. -/
def tidy (cfg : Config) (raw : Bytes) : Bool :=
  match classify raw with
  | (.tracker, text) =>
      match parseTracker cfg text with
      | .ok report => report.fix.isSome || report.fixType.all harmless
      | .error _ => true
  | _ => true

section Harmless

variable {t : Text}

theorem harmless_iff : harmless t = true ↔ (∀ c ∈ t, isControl c = false) ∧ t.length ≤ cap := by
  simp [harmless]

theorem isControl_of_isVisible {c : Char} (visible : isVisible c = true) : isControl c = false := by
  simp only [isVisible, Bool.and_eq_true, decide_eq_true_iff] at visible
  simp only [isControl, Bool.or_eq_false_iff, Bool.and_eq_false_iff, decide_eq_false_iff_not]
  omega

theorem harmless_quoted {limit : Nat} (capped : limit ≤ 120) :
    harmless (quoted (t.take limit)) = true := by
  rw [harmless_iff]
  constructor
  · intro c member
    exact isControl_of_isVisible (isVisible_of_mem_quoted member)
  · have length : (quoted (t.take limit)).length ≤ 10 * (t.take limit).length + 2 :=
      length_quoted_le
    have taken := List.length_take_le limit t
    have whole : cap = 1202 := rfl
    omega

def Identity (t : Text) : Prop := (∀ c ∈ t, c.isDigit = true) ∧ t.length ≤ 17

theorem Identity.visible (identity : Identity t) : ∀ c ∈ t, isVisible c = true := by
  intro c member
  have digit := identity.1 c member
  simp only [Char.isDigit, Bool.and_eq_true, decide_eq_true_iff] at digit
  have low : 48 ≤ c.toNat := digit.1
  have high : c.toNat ≤ 57 := digit.2
  simp only [isVisible, Bool.and_eq_true, decide_eq_true_iff]
  omega

theorem Identity.harmless (identity : Identity t) : harmless t = true := by
  rw [harmless_iff]
  exact ⟨fun c member => isControl_of_isVisible (identity.visible c member),
    identity.2.trans (by decide)⟩

theorem getLast_trim {α : Type} {p : α → Bool} {l : List α} {a : α}
    (last : a ∈ (trim p l).getLast?) : p a = false := by
  rw [trim, List.getLast?_reverse] at last
  have head := List.head?_dropWhile_not p (l.dropWhile p).reverse
  rw [Option.mem_def.mp last] at head
  simpa using head

theorem identity_isImei (imei : isImei (strip t) = true) : Identity (strip t) := by
  have unbroken : (strip t).getLast? ≠ some '\n' := by
    intro last
    have solid : isSpace '\n' = false := getLast_trim (Option.mem_def.mpr last)
    exact absurd solid (by decide)
  rw [isImei, if_neg unbroken] at imei
  simp only [Bool.and_eq_true, decide_eq_true_iff, isDigits] at imei
  exact ⟨List.all_eq_true.mp imei.1.1.2, imei.2⟩

end Harmless

section Quiet

variable {ip : Text} {past : List Answered} {α β : Type}

theorem Foreign.mono {past' : List Answered} (more : ∀ a ∈ past, a ∈ past') {t : Text}
    (from_ : Foreign ip past t) : Foreign ip past' t := by
  cases from_ with
  | address => exact .address
  | identity found => exact .identity (more _ found)
  | device found => exact .device (more _ found)
  | failure member raises => exact .failure (more _ member) raises

theorem Contained.mono {past' : List Answered} (more : ∀ a ∈ past, a ∈ past') {part : LogPart}
    (contained : Contained ip past part) : Contained ip past' part := by
  cases contained with
  | number x => exact .number x
  | own plain => exact .own plain
  | counted count => exact .counted count
  | foreign from_ => exact .foreign (from_.mono more)

def Told (ip : Text) (past : List Answered) : Op → Prop
  | .log line => ∀ part ∈ line, Contained ip past part
  | _ => True

def Ended (ip : Text) (past : List Answered) : Except Exn α → Prop
  | .ok _ => True
  | .error ex => Contained ip past (.text ex.text)

/-- The computation logs contained lines, and raises what may be logged. -/
def Quiet (ip : Text) (p : Handler α) : Prop := ∀ past, Guarded (Told ip) (Ended ip) p past

theorem quiet_pure (a : α) : Quiet ip (.pure a : Handler α) := fun _ => trivial

theorem quiet_demand {r : Except Exn α}
    (plain : ∀ ex, r = .error ex → ∀ past, Contained ip past (.text ex.text)) :
    Quiet ip (demand r) := by
  intro past
  cases r with
  | ok a => exact trivial
  | error ex => exact plain ex rfl past

theorem quiet_request {o : Op} (told : ∀ past, Told ip past o) :
    Quiet ip (request o : Handler (Res o)) := fun past => ⟨told past, fun _ => trivial⟩

theorem quiet_log {line : List LogPart} (told : ∀ past, ∀ part ∈ line, Contained ip past part) :
    Quiet ip (log line) := quiet_request told

theorem Quiet.bind {p : Handler α} {next : α → Handler β} (first : Quiet ip p)
    (later : ∀ a, Quiet ip (next a)) : Quiet ip (p.bind next) := by
  intro past
  rw [guarded_bind]
  refine guarded_mono (fun _ _ told => told) ?_ (first past)
  intro past' r ended
  cases r with
  | ok a => exact later a past'
  | error ex => exact ended

theorem Quiet.rescue {p : Handler α} {recover : Exn → Handler α} (first : Quiet ip p)
    (later : ∀ ex past, Contained ip past (.text ex.text) →
      Guarded (Told ip) (Ended ip) (recover ex) past) : Quiet ip (p.rescue recover) := by
  intro past
  rw [guarded_rescue]
  refine guarded_mono (fun _ _ told => told) ?_ (first past)
  intro past' r ended
  cases r with
  | ok a => exact trivial
  | error ex => exact later ex past' ended

theorem quiet_answer (o : Op) (read : Res o → Except Exn α) (told : ∀ past, Told ip past o)
    (raises : ∀ x ex, read x = .error ex → raised ⟨o, x⟩ = some ex) :
    Quiet ip ((request o).bind fun x => demand (read x) : Handler α) := by
  intro past
  refine ⟨told past, ?_⟩
  intro x
  change Guarded (Told ip) (Ended ip) (demand (read x)) (⟨o, x⟩ :: past)
  cases outcome : read x with
  | ok a => exact trivial
  | error ex => exact Contained.foreign (.failure List.mem_cons_self (raises x ex outcome))

theorem quiet_write (payload : Bytes) : Quiet ip (writeSocket payload) :=
  quiet_answer (.write payload) id (fun _ => trivial) fun _ _ same => by cases same; rfl

theorem quiet_drain : Quiet ip drainSocket :=
  quiet_answer .drain id (fun _ => trivial) fun _ _ same => by cases same; rfl

theorem quiet_vehicle (deviceId : Text) : Quiet ip (getVehicleByDevice deviceId) :=
  quiet_answer (.getVehicleByDevice deviceId) id (fun _ => trivial) fun _ _ same => by
    cases same
    rfl

theorem quiet_execute (statement : DbWrite) : Quiet ip (execute statement) :=
  quiet_answer (.execute statement) id (fun _ => trivial) fun _ _ same => by cases same; rfl

theorem quiet_utcNow : Quiet ip (request Op.utcNow : Handler Instant) :=
  quiet_request fun _ => trivial

theorem contained_cons {part : LogPart} {line : List LogPart} (first : Contained ip past part)
    (rest : ∀ part ∈ line, Contained ip past part) :
    ∀ part' ∈ part :: line, Contained ip past part' := List.forall_mem_cons.mpr ⟨first, rest⟩

theorem contained_say {s : String} {line : List LogPart} (plain : harmless s.toList = true)
    (rest : ∀ part ∈ line, Contained ip past part) :
    ∀ part ∈ say s :: line, Contained ip past part := contained_cons (.own plain) rest

end Quiet

section Bookkeeping

variable {ip : Text} (cfg : Config) (deviceId : Text)

theorem quiet_send {payload : Bytes} (plain : harmless (asciiReplace payload) = true) :
    Quiet ip (send payload) := by
  have sent : Quiet ip (log [say "📤 Reply sent: ", .text (asciiReplace payload)]) :=
    quiet_log fun _ => contained_say (by decide)
      (contained_cons (.own plain) (List.forall_mem_nil _))
  refine Quiet.rescue ((quiet_write payload).bind fun _ => quiet_drain.bind fun _ => sent) ?_
  intro ex past contained
  exact ⟨contained_say (by decide) (contained_cons contained (List.forall_mem_nil _)),
    fun _ => trivial⟩

theorem quiet_safely {label : String} {write : Handler Unit} (plain : harmless label.toList = true)
    (quiet : Quiet ip write) : Quiet ip (safely label write) := by
  apply quiet.rescue
  intro ex past contained
  exact ⟨contained_say (by decide) (contained_say plain
    (contained_say (by decide) (contained_cons contained (List.forall_mem_nil _)))),
    fun _ => trivial⟩

theorem quiet_saveRaw (raw : Bytes) (always : Bool) :
    Quiet ip (saveRawMessage cfg deviceId raw always) := by
  have policy : Quiet ip (shouldStoreRaw cfg always) := by
    rw [shouldStoreRaw]
    split
    · exact quiet_pure _
    · exact quiet_pure _
    · split
      · exact quiet_pure _
      · exact (quiet_request (o := .random) fun _ => trivial).bind fun _ => quiet_pure _
  apply policy.bind
  intro store
  split
  · exact quiet_utcNow.bind fun _ => (quiet_execute _).bind fun _ => quiet_pure _
  · exact quiet_pure _

theorem quiet_markDeviceAlive (heartbeat : Bool) : Quiet ip (markDeviceAlive deviceId heartbeat) :=
  quiet_utcNow.bind fun _ => (quiet_execute _).bind fun _ => quiet_pure _

theorem quiet_setIgnition (ignition : Bool) : Quiet ip (setIgnition deviceId ignition) :=
  quiet_utcNow.bind fun _ => (quiet_execute _).bind fun _ => quiet_pure _

theorem quiet_createEvent (vehicleId : Option Text) (eventType : Text) (severity : Severity)
    (latitude longitude : Option Number) (description : Text) (metadata : List (Text × Json)) :
    Quiet ip (createEvent deviceId vehicleId eventType severity latitude longitude description
      metadata) :=
  quiet_utcNow.bind fun _ => (quiet_execute _).bind fun _ => quiet_pure _

theorem quiet_saveLocation (latitude longitude speed heading : Number) (satellites : Nat)
    (eventTime : Instant) :
    Quiet ip (saveLocation deviceId latitude longitude speed heading satellites eventTime) := by
  have cleaned : ∀ value places, Quiet ip (demand (cleanDecimal value places) : Handler ℚ) := by
    intro value places
    apply quiet_demand
    intro ex failed past
    unfold cleanDecimal at failed
    split at failed
    · cases failed
    all_goals
      cases failed
      exact .own (by decide)
  exact (cleaned _ _).bind fun _ => (cleaned _ _).bind fun _ => (cleaned _ _).bind fun _ =>
    (cleaned _ _).bind fun _ => quiet_execute _

end Bookkeeping

section Parsed

variable {text imei : Text} {ip : Text} {cfg : Config} {past : List Answered}

theorem identity_login (parsed : parseLogin text = .ok imei) : Identity imei := by
  unfold parseLogin at parsed
  split at parsed
  · next found =>
      cases parsed
      obtain ⟨rest, run⟩ := exists_of_searchAfter found
      unfold imeiRun at run
      dsimp only at run
      split at run
      · cases run
        constructor
        · intro c member
          exact List.mem_takeWhile_imp (List.mem_of_mem_take member)
        · exact List.length_take_le 17 _
      · cases run
  · cases parsed

theorem identity_heartbeat {raw : Bytes} (classified : classify raw = (.heartbeat, text))
    (parsed : parseHeartbeat text = .ok imei) : Identity imei := by
  unfold parseHeartbeat at parsed
  split at parsed
  · next valid =>
      cases parsed
      unfold classify at classified
      split at classified
      · cases classified
      · dsimp only at classified
        split at classified
        · cases classified
        · split at classified
          · cases classified
            exact identity_isImei valid
          · split at classified <;> cases classified
  · cases parsed

theorem contained_nmea {value hemisphere : Text} {ex : Exn}
    (failed : nmeaToDegrees value hemisphere = .error ex) :
    Contained ip past (.text ex.text) := by
  unfold nmeaToDegrees at failed
  dsimp only at failed
  split at failed
  · cases failed
  · split at failed
    · cases failed
    · split at failed
      · cases failed
        exact .counted _
      · split at failed
        · cases failed
        · split at failed
          · cases failed
            exact .own (by decide)
          · cases failed

theorem contained_parseFix {fields : List Text} {ex : Exn}
    (failed : parseFix cfg fields = .error ex) : Contained ip past (.text ex.text) := by
  rw [parseFix] at failed
  cases read : nmeaToDegrees (field fields 7) (upper (field fields 8)) with
  | error first =>
      rw [read] at failed
      cases failed
      exact contained_nmea read
  | ok latitude =>
      rw [read] at failed
      cases second : nmeaToDegrees (field fields 9) (upper (field fields 10)) with
      | error other =>
          rw [second] at failed
          cases failed
          exact contained_nmea second
      | ok longitude =>
          rw [second] at failed
          dsimp only [bind, Except.bind] at failed
          split at failed
          · split at failed <;> cases failed
          · cases failed

theorem contained_tracker {ex : Exn} (failed : parseTracker cfg text = .error ex) :
    Contained ip past (.text ex.text) := by
  unfold parseTracker at failed
  dsimp only at failed
  split at failed
  · cases failed
    exact .own (by decide)
  · split at failed
    · cases failed
      exact .own (by decide)
    · split at failed
      · cases fixed : parseFix cfg (text.splitOn ',') with
        | error first =>
            rw [fixed] at failed
            cases failed
            exact contained_parseFix fixed
        | ok fix =>
            rw [fixed] at failed
            cases failed
      · cases failed

theorem identity_tracker {report : Report} (parsed : parseTracker cfg text = .ok report) :
    Identity report.imei := by
  have identified := identified_of_ok parsed
  obtain ⟨fix, rfl, -⟩ := parseTracker_ok identified parsed
  exact identity_isImei identified.imei

/-- The names of alarms are constants. -/
theorem harmless_alarm {report : Report} (parsed : parseTracker cfg text = .ok report) :
    ∀ name ∈ report.alarmName, harmless name = true := by
  have names : ∀ entry ∈ alarmNames, ∀ name ∈ entry.2, harmless name = true := by decide
  obtain ⟨fix, rfl, -⟩ := parseTracker_ok (identified_of_ok parsed) parsed
  intro name member
  have found := Option.join_eq_some_iff.mp member
  obtain ⟨before, after, table, _⟩ := List.lookup_eq_some_iff.mp found
  have entry : (lower (field (text.splitOn ',') 1), some name) ∈ alarmNames := by
    rw [table]
    exact List.mem_append_right before List.mem_cons_self
  exact names _ entry name rfl

theorem toUpper_ne (c : Char) : c.toUpper ≠ 'x' := by
  intro small
  unfold Char.toUpper at small
  split at small
  · next letter =>
      have shifted := congrArg Char.val small
      dsimp only at shifted
      have value : c.val = 'x'.val - ('A'.val - 'a'.val) := by
        rw [← shifted]
        exact (UInt32.add_sub_cancel _ _).symm
      rw [value] at letter
      exact absurd letter (by decide)
  · next other =>
      subst small
      exact other (by decide)

theorem fixType_upper {report : Report} (parsed : parseTracker cfg text = .ok report) {t : Text}
    (typed : report.fixType = some t) : 'x' ∉ t := by
  obtain ⟨fix, rfl, -⟩ := parseTracker_ok (identified_of_ok parsed) parsed
  have whole : t = upper (field (text.splitOn ',') 4) := by
    dsimp only [reportOf] at typed
    split at typed
    · cases typed
    · exact (Option.some.inj typed).symm
  rw [whole, upper, List.mem_map]
  rintro ⟨c, _, small⟩
  exact toUpper_ne c small

end Parsed

section Branches

variable {ip : Text} {α : Type}

theorem guarded_line {line : List LogPart} {next : Unit → Handler α} {past : List Answered}
    (told : ∀ part ∈ line, Contained ip past part) (later : Quiet ip (next ())) :
    Guarded (Told ip) (Ended ip) ((log line).bind next) past := ⟨told, fun _ => later _⟩

/-- The identity of a message is logged if the connection has another one; what is returned is the
identity of the message. -/
theorem quiet_authenticated {imei : Text} (plain : harmless imei = true)
    {next : Option Text → Handler α}
    (later : ∀ imei?, imei? = none ∨ imei? = some imei → Quiet ip (next imei?)) :
    Quiet ip ((authenticatedImei imei).bind next) := by
  intro past
  refine ⟨trivial, ?_⟩
  intro found
  dsimp only [Program.bind_eq, Program.bind_pure]
  cases real : truthy found with
  | none =>
      refine ⟨contained_say (by decide) (List.forall_mem_nil _), fun _ => ⟨trivial, ?_⟩⟩
      exact fun _ => later none (.inl rfl) _
  | some connectionImei =>
      obtain ⟨rfl, -⟩ := truthy_eq_some_iff.mp real
      have known : Contained ip (⟨.getImeiBySocket, some connectionImei⟩ :: past)
          (.text connectionImei) := .foreign (.identity List.mem_cons_self)
      dsimp only
      split
      · refine ⟨contained_say (by decide) (contained_cons known (contained_say (by decide)
          (contained_cons (.own plain) (contained_say (by decide) (List.forall_mem_nil _))))),
          fun _ => ⟨trivial, ?_⟩⟩
        exact fun _ => later none (.inl rfl) _
      · next same =>
          obtain rfl := not_not.mp same
          exact later (some imei) (.inr rfl) _

theorem quiet_handleLogin (cfg : Config) (text : Text) (raw : Bytes) :
    Quiet ip (handleLogin cfg ip text raw) := by
  rw [handleLogin]
  cases parsed : parseLogin text with
  | error ex =>
      intro past
      unfold parseLogin at parsed
      split at parsed
      · cases parsed
      · cases parsed
        exact Contained.own (by decide)
  | ok imei =>
      have plain := (identity_login parsed).harmless
      intro past
      refine guarded_line (contained_say (by decide) (contained_cons (.own plain)
        (List.forall_mem_nil _))) ?_
      intro past
      refine ⟨trivial, ?_⟩
      intro answer
      cases answer with
      | error ex => exact Contained.foreign (.failure List.mem_cons_self rfl)
      | ok deviceId? =>
          dsimp only [demand_ok, Program.bind_eq, Program.bind_pure]
          cases real : truthy deviceId? with
          | none =>
              refine ⟨contained_say (by decide) (contained_cons (.own plain)
                (contained_say (by decide) (contained_cons (.foreign .address)
                  (List.forall_mem_nil _)))), fun _ => ⟨trivial, fun _ => trivial⟩⟩
          | some deviceId =>
              obtain ⟨rfl, -⟩ := truthy_eq_some_iff.mp real
              refine guarded_line (contained_say (by decide) (contained_cons
                (.own plain) (contained_say (by decide) (contained_cons
                  (.foreign (.device List.mem_cons_self)) (List.forall_mem_nil _))))) ?_
              have bookkeeping : Quiet ip ((getVehicleByDevice deviceId).rescue fun _ =>
                  (return none : Handler (Option Text))) :=
                (quiet_vehicle deviceId).rescue fun _ _ _ => trivial
              have registered : Quiet ip (registerDevice imei ip deviceId .gps103) :=
                quiet_utcNow.bind fun _ => quiet_utcNow.bind fun _ => quiet_request fun _ => trivial
              exact registered.bind fun _ => (quiet_send (by decide)).bind fun _ =>
                (quiet_safely (by decide) (quiet_saveRaw cfg deviceId raw true)).bind fun _ =>
                  (quiet_safely (by decide) (quiet_markDeviceAlive deviceId false)).bind fun _ =>
                    bookkeeping.bind fun _ => (quiet_safely (by decide)
                      (quiet_createEvent deviceId _ _ _ _ _ _ _)).bind fun _ => quiet_pure _

theorem quiet_handleHeartbeat {raw : Bytes} {text : Text}
    (classified : classify raw = (.heartbeat, text)) : Quiet ip (handleHeartbeat text) := by
  rw [handleHeartbeat]
  cases parsed : parseHeartbeat text with
  | error ex =>
      intro past
      unfold parseHeartbeat at parsed
      split at parsed
      · cases parsed
      · cases parsed
        exact Contained.own (by decide)
  | ok imei =>
      apply quiet_authenticated (identity_heartbeat classified parsed).harmless
      intro imei? _
      cases truthy imei? with
      | none => exact quiet_pure _
      | some connectionImei =>
          apply (quiet_send (by decide)).bind
          intro _ past
          refine ⟨trivial, ?_⟩
          intro device?
          cases device? with
          | none => exact Contained.own (by decide)
          | some device =>
              exact ((quiet_safely (by decide) (quiet_markDeviceAlive device.deviceId true)).bind
                fun _ => quiet_pure _) _

theorem quiet_usableFix (imei : Text) (plain : harmless imei = true) (report : Report)
    (shown : report.fix.isSome = true ∨ report.fixType.all harmless = true) :
    Quiet ip (usableFix imei report) := by
  unfold usableFix
  cases found : report.fix with
  | some fix =>
      dsimp only
      split
      · exact quiet_pure _
      · refine (quiet_log fun past => ?_).bind fun _ => quiet_pure _
        exact contained_say (by decide) (contained_cons (.number _)
          (contained_say (by decide) (contained_cons (.number _)
            (contained_say (by decide) (contained_cons (.number _)
              (contained_say (by decide) (contained_cons (.number _)
                (List.forall_mem_nil _))))))))
  | none =>
      have fixType : harmless (report.fixType.getD "None".toList) = true := by
        rcases shown with fixed | shown
        · rw [found] at fixed
          cases fixed
        · cases typed : report.fixType with
          | none => decide
          | some t =>
              rw [typed] at shown
              exact shown
      refine (quiet_log fun past => ?_).bind fun _ => quiet_pure _
      exact contained_say (by decide) (contained_cons (.own plain)
        (contained_say (by decide) (contained_cons (.own fixType)
          (contained_say (by decide) (List.forall_mem_nil _)))))

theorem quiet_noteKeyword (imei : Text) (plain : harmless imei = true) (report : Report) :
    Quiet ip (noteKeyword imei report) := by
  unfold noteKeyword
  split
  · exact quiet_pure _
  · exact quiet_log fun past => contained_say (by decide) (contained_cons
      (.own (harmless_quoted (by decide))) (contained_say (by decide)
        (contained_cons (.own plain) (contained_say (by decide) (List.forall_mem_nil _)))))

theorem quiet_confirmSos {imei : Text} (identity : Identity imei) (report : Report) :
    Quiet ip (confirmSos imei report) := by
  unfold confirmSos
  split
  · apply quiet_send
    have visible : ∀ c ∈ "**,imei:".toList ++ imei ++ ",E;".toList, isVisible c = true := by
      intro c member
      rcases List.mem_append.mp member with member | member
      · rcases List.mem_append.mp member with member | member
        · exact List.all_eq_true.mp (by decide : "**,imei:".toList.all isVisible = true) c member
        · exact identity.visible c member
      · exact List.all_eq_true.mp (by decide : ",E;".toList.all isVisible = true) c member
    have ascii : ∀ c ∈ "**,imei:".toList ++ imei ++ ",E;".toList, c.toNat < 128 := by
      intro c member
      have shown := visible c member
      simp only [isVisible, Bool.and_eq_true, decide_eq_true_iff] at shown
      omega
    rw [buildHelpMeAck, asciiReplace_asciiBytes ascii, harmless_iff]
    refine ⟨fun c member => isControl_of_isVisible (visible c member), ?_⟩
    have short := identity.2
    have front : "**,imei:".toList.length = 8 := rfl
    have back : ",E;".toList.length = 3 := rfl
    have whole : cap = 1202 := rfl
    rw [List.length_append, List.length_append]
    omega
  · exact quiet_pure _

theorem quiet_alarmVehicle (deviceId : Text) (alarm : Option Text) :
    Quiet ip (alarmVehicle deviceId alarm) := by
  unfold alarmVehicle
  cases alarm with
  | none => exact quiet_pure _
  | some _ =>
      apply (quiet_vehicle deviceId).rescue
      intro ex past contained
      exact ⟨contained_say (by decide) (contained_cons contained (List.forall_mem_nil _)),
        fun _ => trivial⟩

theorem quiet_storeIgnition (deviceId : Text) (ignition : Option Bool) :
    Quiet ip (storeIgnition deviceId ignition) := by
  cases ignition with
  | none => exact quiet_pure _
  | some ignition => exact quiet_safely (by decide) (quiet_setIgnition deviceId ignition)

theorem quiet_storeFix (imei deviceId : Text) (fix : Option Fix) :
    Quiet ip (storeFix imei deviceId fix) := by
  cases fix with
  | none => exact quiet_pure _
  | some fix =>
      have timed : Quiet ip (eventTimeOf fix) := by
        unfold eventTimeOf
        split
        · exact quiet_pure _
        · exact quiet_utcNow.bind fun _ => (quiet_log fun past =>
            contained_say (by decide) (List.forall_mem_nil _)).bind fun _ => quiet_pure _
      exact timed.bind fun _ => (quiet_safely (by decide) ((quiet_saveLocation deviceId _ _ _ _ _
        _).bind fun _ => quiet_pure _)).bind fun _ => quiet_utcNow.bind fun _ =>
          quiet_request fun _ => trivial

theorem quiet_recordAlarm (deviceId : Text) (vehicleId : Option Text) (report : Report)
    (fix : Option Fix) (alarm : Option Text) (plain : ∀ name ∈ alarm, harmless name = true) :
    Quiet ip (recordAlarm deviceId vehicleId report fix alarm) := by
  cases alarm with
  | none => exact quiet_pure _
  | some name =>
      exact (quiet_safely (by decide) (quiet_createEvent deviceId _ _ _ _ _ _ _)).bind fun _ =>
        quiet_log fun past => contained_say (by decide)
          (contained_cons (.own (plain name rfl)) (List.forall_mem_nil _))

theorem quiet_processReport (cfg : Config) (raw : Bytes) {imei : Text} (deviceId : Text)
    {report : Report} (identity : Identity imei)
    (alarm : ∀ name ∈ report.alarmName, harmless name = true)
    (shown : report.fix.isSome = true ∨ report.fixType.all harmless = true) :
    Quiet ip (processReport cfg raw imei deviceId report) := by
  have plain := identity.harmless
  exact (quiet_noteKeyword imei plain report).bind fun _ =>
    (quiet_usableFix imei plain report shown).bind fun fix =>
      (quiet_confirmSos identity report).bind fun _ =>
        (quiet_safely (by decide) (quiet_saveRaw cfg deviceId raw _)).bind fun _ =>
          (quiet_storeIgnition deviceId report.ignition).bind fun _ =>
            (quiet_alarmVehicle deviceId report.alarmName).bind fun vehicleId =>
              (quiet_storeFix imei deviceId fix).bind fun _ =>
                quiet_recordAlarm deviceId vehicleId report fix report.alarmName alarm

theorem quiet_handleTracker {cfg : Config} {text : Text} {raw : Bytes}
    (shown : ∀ report, parseTracker cfg text = .ok report →
      report.fix.isSome = true ∨ report.fixType.all harmless = true) :
    Quiet ip (handleTracker cfg text raw) := by
  rw [handleTracker]
  cases parsed : parseTracker cfg text with
  | error ex => exact fun past => contained_tracker parsed
  | ok report =>
      have identity := identity_tracker parsed
      apply quiet_authenticated identity.harmless
      intro imei? is
      cases real : truthy imei? with
      | none => exact quiet_pure _
      | some imei =>
          obtain rfl : imei = report.imei := by
            obtain ⟨rfl, -⟩ := truthy_eq_some_iff.mp real
            rcases is with is | is <;> cases is
            rfl
          intro past
          refine ⟨trivial, ?_⟩
          intro device?
          cases device? with
          | none => exact Contained.own (by decide)
          | some device =>
              exact ((quiet_processReport cfg raw device.deviceId identity (harmless_alarm parsed)
                (shown report parsed)).bind fun _ => quiet_pure _) _

theorem quiet_processGps103Message {cfg : Config} {raw : Bytes} (clean : tidy cfg raw = true) :
    Quiet ip (processGps103Message cfg ip raw) := by
  unfold tidy at clean
  rw [processGps103Message]
  cases classified : classify raw with
  | mk kind text =>
      rw [classified] at clean
      have branch : Quiet ip (dispatch cfg ip raw kind text) := by
        cases kind with
        | login => exact quiet_handleLogin cfg text raw
        | heartbeat => exact quiet_handleHeartbeat classified
        | tracker =>
            apply quiet_handleTracker
            intro report parsed
            dsimp only at clean
            rw [parsed] at clean
            simpa using clean
        | unknown =>
            exact (quiet_log fun past => contained_say (by decide)
              (contained_cons (.foreign .address) (contained_say (by decide)
                (contained_cons (.own (harmless_quoted (by decide)))
                  (List.forall_mem_nil _))))).bind fun _ => quiet_pure _
      have kinds : ∀ kind : Kind, harmless kind.name = true := by
        intro kind
        cases kind <;> decide
      apply branch.rescue
      intro ex past contained
      cases ex with
      | gps103ParseError message =>
          exact ⟨contained_say (by decide) (contained_cons (.own (kinds kind))
            (contained_say (by decide) (contained_cons contained (contained_say (by decide)
              (contained_cons (.own (harmless_quoted (by decide))) (List.forall_mem_nil _)))))),
            fun _ => ⟨trivial, fun _ => trivial⟩⟩
      | _ =>
          exact ⟨contained_say (by decide) (contained_cons (.own (kinds kind))
            (contained_say (by decide) (contained_cons contained (List.forall_mem_nil _)))),
            fun _ => ⟨trivial, fun _ => trivial⟩⟩

end Branches

/-! ### Messages that are not tidy -/

section Converse

variable {cfg : Config} {raw : Bytes}

/-- Answers that bring no text into a log line but a given identity. -/
def Mild (imei : Text) (a : Answered) : Prop :=
  a = ⟨.getImeiBySocket, some imei⟩ ∨ (∃ other entry, a = ⟨.getDevice other, entry⟩) ∨
    ∃ line, a = ⟨.log line, ()⟩

theorem not_contained {imei t : Text} {past : List Answered} (mild : ∀ a ∈ past, Mild imei a)
    (plain : harmless imei = true) (harmful : harmless t = false) (upper_ : 'x' ∉ t) :
    ¬ Contained [] past (.text t) := by
  intro contained
  cases contained with
  | own plain => rw [plain] at harmful; cases harmful
  | counted count =>
      have small : 'x' ∈
          "Exceeds the limit (4300 digits) for integer string conversion: value has ".toList := by
        decide
      exact upper_ (List.mem_append_left _ (List.mem_append_left _ small))
  | foreign from_ =>
      cases from_ with
      | address => cases harmful
      | identity found =>
          rcases mild _ found with same | ⟨_, _, same⟩ | ⟨_, same⟩
          · cases same
            rw [plain] at harmful
            cases harmful
          · cases same
          · cases same
      | device found =>
          rcases mild _ found with same | ⟨_, _, same⟩ | ⟨_, same⟩ <;> cases same
      | failure member raises =>
          rcases mild _ member with rfl | ⟨_, _, rfl⟩ | ⟨_, rfl⟩ <;> cases raises

theorem shown_usableFix {imei t : Text} {report : Report} {past : List Answered} {α : Type}
    {next : Option Fix → Handler α} (unfixed : report.fix = none)
    (typed : report.fixType = some t)
    (guarded : Guarded (Told []) (fun _ _ => True) ((usableFix imei report).bind next) past) :
    Contained [] past (.text t) := by
  rw [usableFix, unfixed] at guarded
  apply guarded.1
  simp [typed]

def attended (imei : Text) (entry : Entry) : (o : Op) → Res o
  | .getImeiBySocket => some imei
  | .getDevice _ => some entry
  | .lastAlive _ | .lastIgnition _ => none
  | .write _ | .drain => .ok ()
  | .utcNow => (0 : ℤ)
  | .monotonic | .random => (0 : ℚ)
  | .getDeviceByImei .. | .getVehicleByDevice _ => .ok none
  | .execute _ => .ok true
  | .registerDevice .. | .notePosition .. | .setLastAlive .. | .setLastIgnition ..
  | .forgetStatus _ | .close | .log _ => ()

def device : Entry := ⟨['d'], [], .gps103, 0, 0, 0, none, none, none⟩

/-- What a run must not do, the program cannot do. -/
theorem guarded_of_lines (contained : LinesContained cfg raw) (ip : Text) :
    Guarded (Told ip) (fun _ _ => True) (processGps103Message cfg ip raw) [] := by
  apply guarded_of_executes (attended [] device)
  intro trace outcome ran front a back whole
  obtain ⟨o, x⟩ := a
  cases o with
  | log line =>
      intro part member
      refine (contained ip trace outcome ran front line back whole part member).mono ?_
      simp
  | _ => exact trivial

theorem shown_tracker {text t : Text} {report : Report}
    (parsed : parseTracker cfg text = .ok report) (unfixed : report.fix = none)
    (typed : report.fixType = some t)
    (guarded : Guarded (Told []) (fun _ _ => True) (handleTracker cfg text raw) []) :
    ∃ past, (∀ a ∈ past, Mild report.imei a) ∧ Contained [] past (.text t) := by
  have real : truthy (some report.imei) = some report.imei :=
    truthy_eq_some_iff.mpr ⟨rfl, parseTracker_imei_nonempty parsed⟩
  rw [handleTracker, parsed] at guarded
  have found := guarded.2 (some report.imei)
  simp only [Program.bind_eq, Program.pure_eq, Program.bind_pure, real, ne_eq, not_true_eq_false,
    if_false] at found
  have entered := found.2 (some device)
  dsimp only [Program.bind_pure] at entered
  rw [guarded_bind, processReport, noteKeyword] at entered
  have handled := guarded_mono (fun _ _ told => told) (fun _ _ _ => trivial) entered
  have mild : ∀ a ∈ [(⟨.getDevice report.imei, some device⟩ : Answered),
      ⟨.getImeiBySocket, some report.imei⟩], Mild report.imei a := by
    intro a member
    simp only [List.mem_cons, List.not_mem_nil, or_false] at member
    rcases member with rfl | rfl
    · exact .inr (.inl ⟨_, _, rfl⟩)
    · exact .inl rfl
  split at handled
  · exact ⟨_, mild, shown_usableFix unfixed typed handled⟩
  · refine ⟨_, ?_, shown_usableFix unfixed typed (handled.2 ())⟩
    exact List.forall_mem_cons.mpr ⟨.inr (.inr ⟨_, rfl⟩), mild⟩

theorem exists_of_untidy (untidy : tidy cfg raw = false) : ∃ text report t,
    classify raw = (.tracker, text) ∧ parseTracker cfg text = .ok report ∧ report.fix = none ∧
      report.fixType = some t ∧ harmless t = false := by
  unfold tidy at untidy
  split at untidy
  · next text classified =>
      split at untidy
      · next report parsed =>
          rw [Bool.or_eq_false_iff, Option.isSome_eq_false_iff, Option.isNone_iff_eq_none] at untidy
          obtain ⟨unfixed, shown⟩ := untidy
          cases typed : report.fixType with
          | none =>
              rw [typed] at shown
              cases shown
          | some t =>
              rw [typed] at shown
              exact ⟨text, report, t, classified, parsed, unfixed, typed, shown⟩
      · cases untidy
  · cases untidy

theorem tidy_of_lines (contained : LinesContained cfg raw) : tidy cfg raw = true := by
  by_contra untidy
  rw [Bool.not_eq_true] at untidy
  obtain ⟨text, report, t, classified, parsed, unfixed, typed, harmful⟩ := exists_of_untidy untidy
  have guarded := guarded_of_lines contained []
  rw [processGps103Message, classified] at guarded
  dsimp only at guarded
  rw [guarded_rescue, dispatch] at guarded
  have branch := guarded_mono (fun _ _ told => told) (fun _ _ _ => trivial) guarded
  obtain ⟨past, mild, inside⟩ := shown_tracker parsed unfixed typed branch
  exact not_contained mild (identity_tracker parsed).harmless harmful (fixType_upper parsed typed)
    inside

end Converse

/-- The log lines about a message are contained, in every state and with every failure, exactly if
its fix type does not get into them or is harmless. -/
theorem lines_contained_iff (cfg : Config) (raw : Bytes) :
    LinesContained cfg raw ↔ tidy cfg raw = true := by
  constructor
  · exact tidy_of_lines
  · intro clean ip trace outcome ran front line back whole
    have told := ((quiet_processGps103Message clean []).executes ran).1 front ⟨.log line, ()⟩ back
      whole
    intro part member
    refine (told part member).mono ?_
    simp

/-- A report whose fix type ends the line and begins another. -/
def forgedReport : Bytes :=
  asciiBytes "imei:868683022801132,tracker,,,L\r\n[2026-01-01 00:00:00.000] FORGED,".toList

theorem line_forged : extractMessages defaults (forgedReport ++ [terminator]) =
      .ok ([forgedReport], []) ∧
    (∃ trace outcome line, Executes (processGps103Message defaults [] forgedReport) trace outcome ∧
      (⟨.log line, ()⟩ : Answered) ∈ trace ∧ line.length = 5 ∧
      .text "L\r\n[2026-01-01 00:00:00.000] FORGED".toList ∈ line) ∧
    ¬ LinesContained defaults forgedReport := by
  refine ⟨by decide +kernel, ?_, ?_⟩
  · have ran := executes_play (attended "868683022801132".toList device)
      (processGps103Message defaults [] forgedReport)
    refine ⟨_, _, [say "ℹ️ No GPS fix in report from ", .text "868683022801132".toList,
      say " (fix_type=", .text "L\r\n[2026-01-01 00:00:00.000] FORGED".toList,
      say ") — position skipped"], ran, ?_, rfl, by simp⟩
    exact List.mem_of_getElem? (i := 2) rfl
  · intro contained
    exact absurd (tidy_of_lines contained) (by decide +kernel)

end TrackerGateway.Packets.LogLines
