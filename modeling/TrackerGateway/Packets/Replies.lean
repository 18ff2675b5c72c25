/- module: TrackerGateway/Packets/Replies
   source: src/parsers/command_response_parser.py, src/services/packet_handler.py,
     src/services/command_response_service.py
   digest: Which command replies of the V5 family are parsed and stored. -/

import TrackerGateway.Foundation.Coroutine.Plans
import TrackerGateway.Runtime.Conversions
import TrackerGateway.Services.PacketHandler
import TrackerGateway.Services.Upkeep

set_option autoImplicit false
set_option relaxedAutoImplicit false

namespace TrackerGateway.Packets.Replies

open Foundation.Coroutine
open Foundation.Wire
open TrackerGateway.Runtime
open Parsers.V5
open Parsers.CommandResponse
open Services Services.PacketHandler

/-- A row of the two tables that replies and configurations are inserted into. -/
inductive Insert
  | reply (deviceId command rawText : Text) (data : Json)
  | event (deviceId eventType : Text) (metadata : Option Json)

def inserted : Op → Option Insert
  | .execute (.commandResponse deviceId command rawText data) =>
      some (.reply deviceId command rawText data)
  | .execute (.event row) => some (.event row.deviceId row.eventType row.metadata)
  | _ => none

def Serving (imei : Text) (device : Entry) : Answered → Prop
  | ⟨.getImeiBySocket, found⟩ => found = some imei
  | ⟨.getDevice _, found⟩ => found = some device
  | ⟨.getDeviceByImei .., outcome⟩ | ⟨.getVehicleByDevice _, outcome⟩ => outcome.isOk = true
  | ⟨.execute _, outcome⟩ => outcome.isOk = true
  | _ => True

/-- A packet of the V5 family with this protocol byte. -/
def Bears (packet : Bytes) (protocol : UInt8) : Prop :=
  (packet.take 2 = shortMarker ∨ packet.take 2 = longMarker) ∧
    packet[protocolIndex packet]? = some protocol

section Serving

variable {imei : Text} {device : Entry} {deviceId : Text}

abbrev Inserts (imei : Text) (device : Entry) {α : Type} (p : Handler α) (plan : List Insert) :
    Prop := Plans (Serving imei device) inserted p plan fun _ => True

theorem inserts_behind {α β : Type} {p : Handler α} {next : α → Handler β} {plan : List Insert}
    (first : Inserts imei device p []) (rest : ∀ a, Inserts imei device (next a) plan) :
    Inserts imei device (p.bind next) plan :=
  first.bind fun a _ => rest a

theorem inserts_pure {α : Type} (a : α) : Inserts imei device (.pure a) [] := plans_pure trivial

theorem inserts_before {α β : Type} {p : Handler α} {next : α → Handler β} {plan : List Insert}
    (first : Inserts imei device p plan) (rest : ∀ a, Inserts imei device (next a) []) :
    Inserts imei device (p.bind next) plan := by
  rw [← List.append_nil plan]
  exact first.bind fun a _ => rest a

theorem inserts_request {o : Op} (unseen : inserted o = none) :
    Inserts imei device (request o : Handler (Res o)) [] := by
  have asked : Plans (Serving imei device) inserted (request o : Handler (Res o))
      (inserted o).toList fun answer => Serving imei device ⟨o, answer⟩ := plans_request o
  rw [unseen] at asked
  exact asked.mono fun _ _ => trivial

theorem inserts_execute (statement : DbWrite) :
    Inserts imei device (execute statement) (inserted (.execute statement)).toList := by
  rw [← List.append_nil (inserted (.execute statement)).toList]
  apply (plans_request (Op.execute statement)).bind
  intro outcome answers
  cases outcome with
  | ok returned => exact inserts_pure returned
  | error e => cases answers

theorem inserts_vehicle : Inserts imei device (getVehicleByDevice deviceId) [] := by
  apply (plans_request (Op.getVehicleByDevice deviceId)).bind
  intro outcome answers
  cases outcome with
  | ok vehicleId => exact inserts_pure vehicleId
  | error e => cases answers

theorem inserts_saveRaw (cfg : Config) (protocol hexData : Text) (always parsed : Bool) :
    Inserts imei device (saveRaw cfg deviceId protocol hexData always parsed) [] := by
  have policy : Inserts imei device (shouldStoreRaw cfg always) [] := by
    rw [shouldStoreRaw]
    split
    · exact inserts_pure _
    · exact inserts_pure _
    · split
      · exact inserts_pure _
      · exact inserts_behind (inserts_request (o := .random) rfl) fun _ => inserts_pure _
  apply inserts_behind policy
  intro kept
  cases kept with
  | false => exact inserts_pure ()
  | true =>
      apply inserts_behind (inserts_request (o := .utcNow) rfl)
      intro now
      exact inserts_before (inserts_execute _) fun _ => inserts_pure ()

theorem inserts_processPacket {cfg : Config} {ip : Text} {packet : Bytes} {protocol : UInt8}
    {plan : List Insert} (bears : Bears packet protocol)
    (branch : Inserts imei device (dispatch cfg ip packet protocol (some imei)) plan) :
    Inserts imei device (processPacket cfg ip packet) plan := by
  rw [processPacket, if_pos bears.1, index_eq_ok_iff.mpr bears.2]
  have looked : Plans (Serving imei device) inserted
      (request Op.getImeiBySocket : Handler (Option Text)) [] fun found => found = some imei :=
    plans_request Op.getImeiBySocket
  apply looked.bind
  rintro _ rfl
  have handled : Inserts imei device
      ((dispatch cfg ip packet protocol (some imei)).rescue fun _ => .pure none) plan :=
    branch.rescue
  apply inserts_before handled
  intro currentImei
  have acknowledged : Inserts imei device (acknowledge packet) [] := by
    refine Attempts.rescue ?_ fun _ => inserts_pure ()
    apply Attempts.andQuiet (attempts_demand _)
    intro ack
    refine Attempts.andQuiet ?_ fun _ => ?_
    · exact (inserts_request (o := .write ack) rfl).andThen fun answer _ => attempts_demand answer
    · exact (inserts_request (o := .drain) rfl).andThen fun answer _ => attempts_demand answer
  exact inserts_behind acknowledged fun _ => inserts_pure currentImei

theorem inserts_withDevice {body : Entry → Handler Unit} {plan : List Insert} (real : imei ≠ [])
    (does : Inserts imei device (body device) plan) :
    Inserts imei device (withDevice (some imei) body) plan := by
  rw [withDevice, getConnectedDevice, truthy_eq_some_iff.mpr ⟨rfl, real⟩]
  have found : Plans (Serving imei device) inserted
      (request (Op.getDevice imei) : Handler (Option Entry)) [] fun entry => entry = some device :=
    plans_request (Op.getDevice imei)
  apply found.bind
  rintro _ rfl
  exact inserts_before does fun _ => inserts_pure (some imei)

end Serving

/-- A text of digits and points that is a number. -/
def numeral (t : Text) : Bool := t.count '.' ≤ 1 && t.any Char.isDigit

/-- Whether the numbers of a position reply can be converted; other replies have none. -/
def legible (packet : Bytes) : Bool :=
  let text := replyText packet
  !occursIn "position!".toList (lower text) ||
    (searchAfter "Lat:".toList (hemisphere 'N' 'S') text).all (fun found => numeral found.2) &&
    (searchAfter "Lon:".toList (hemisphere 'E' 'W') text).all (fun found => numeral found.2) &&
    (searchAfter "Course:".toList (leading Char.isDigit) text).all (·.length ≤ intMaxDigits) &&
    (searchAfter "Speed:".toList (leading Char.isDigit) text).all (·.length ≤ intMaxDigits)

/-- The reply is parsed, without a zero character, and exactly one insertion is attempted, of what
was parsed. -/
def Kept (packet : Bytes) : Prop :=
  ∃ response, parseCommandResponse packet = .ok response ∧ Char.ofNat 0 ∉ response.rawText ∧
    ∀ cfg ip imei device trace outcome, imei ≠ [] →
      Executes (processPacket cfg ip packet) trace outcome →
      (∀ a ∈ trace, Serving imei device a) →
      attempted inserted trace =
        [.reply device.deviceId response.command response.rawText (.object response.data)]

section Parsing

variable {packet : Bytes} {text : Text}

theorem leading_eq_some {p : Char → Bool} {t run : Text} (found : leading p t = some run) :
    run ≠ [] ∧ ∀ c ∈ run, p c = true := by
  rw [leading] at found
  split at found
  · cases found
  · next nonempty =>
      cases found
      exact ⟨nonempty, fun c member => List.mem_takeWhile_imp member⟩

theorem numeric_of_hemisphere {label : Text} {positive negative : Char} {found : Bool × Text}
    (search : searchAfter label (hemisphere positive negative) text = some found) :
    Numeric found.2 := by
  obtain ⟨rest, accepted⟩ := exists_of_searchAfter search
  unfold hemisphere at accepted
  split at accepted
  · split at accepted
    · obtain ⟨run, leads, rfl⟩ := Option.map_eq_some_iff.mp accepted
      intro c member
      simpa using (leading_eq_some leads).2 c member
    · cases accepted
  · cases accepted

theorem coordinate_isOk_iff (label : String) (positive negative : Char) :
    (coordinate label positive negative text).isOk =
      (searchAfter label.toList (hemisphere positive negative) text).all
        fun found => numeral found.2 := by
  rw [coordinate]
  cases search : searchAfter label.toList (hemisphere positive negative) text with
  | none => rfl
  | some found =>
      obtain ⟨negated, digits⟩ := found
      have converts : (parseFloat digits).isSome = numeral digits := by
        rw [Bool.eq_iff_iff, (numeric_of_hemisphere search).parseFloat_isSome_iff, numeral,
          Bool.and_eq_true, decide_eq_true_eq, List.any_eq_true]
      rw [Option.all_some, ← converts]
      dsimp only
      cases parseFloat digits with
      | none => rfl
      | some value => cases value <;> rfl

theorem number_isOk_iff (label : String) :
    (number label text).isOk =
      (searchAfter label.toList (leading Char.isDigit) text).all (·.length ≤ intMaxDigits) := by
  rw [number]
  cases search : searchAfter label.toList (leading Char.isDigit) text with
  | none => rfl
  | some digits =>
      obtain ⟨rest, accepted⟩ := exists_of_searchAfter search
      have converts : (parseInt digits).isSome = decide (digits.length ≤ intMaxDigits) := by
        rw [Bool.eq_iff_iff, parseInt_isSome_iff (isDigits_iff.mpr (leading_eq_some accepted)),
          decide_eq_true_eq]
      rw [Option.all_some, ← converts]
      dsimp only
      cases parseInt digits <;> rfl

theorem whereData_isOk : (whereData text).isOk =
    ((coordinate "Lat:" 'N' 'S' text).isOk && (coordinate "Lon:" 'E' 'W' text).isOk &&
      (number "Course:" text).isOk && (number "Speed:" text).isOk) := by
  rw [whereData]
  cases coordinate "Lat:" 'N' 'S' text with
  | error e => rfl
  | ok latitude =>
      cases coordinate "Lon:" 'E' 'W' text with
      | error e => rfl
      | ok longitude =>
          cases number "Course:" text with
          | error e => rfl
          | ok course => cases number "Speed:" text <;> rfl

theorem parse_isOk : (parseCommandResponse packet).isOk = legible packet := by
  rw [parseCommandResponse, legible]
  split
  · next position =>
      rw [position]
      simp only [← coordinate_isOk_iff, ← number_isOk_iff, Bool.not_true, Bool.false_or]
      rw [← whereData_isOk]
      cases whereData (replyText packet) <;> rfl
  · next other =>
      rw [Bool.eq_false_iff.mpr other]
      split
      · rfl
      · split
        · rfl
        · split <;> rfl

theorem mem_of_mem_trim {α : Type} {p : α → Bool} {l : List α} {a : α} (member : a ∈ trim p l) :
    a ∈ l := by
  rw [trim, List.mem_reverse] at member
  have inside := List.dropWhile_subset _ member
  rw [List.mem_reverse] at inside
  exact List.dropWhile_subset _ inside

theorem rawText_eq {response : Response} (parsed : parseCommandResponse packet = .ok response) :
    response.rawText = replyText packet := by
  rw [parseCommandResponse] at parsed
  split at parsed
  · obtain ⟨data, -, same⟩ := Runtime.bind_eq_ok_iff.mp parsed
    cases same
    rfl
  · split at parsed
    · cases parsed
      rfl
    · split at parsed
      · cases parsed
        rfl
      · split at parsed <;> (cases parsed; rfl)

theorem zero_notMem : Char.ofNat 0 ∉ replyText packet := by
  intro member
  have kept := List.mem_filter.mp (mem_of_mem_trim member)
  cases kept.2

theorem inserts_commandReply {cfg : Config} {imei protocol : Text} {device : Entry}
    {response : Response} (real : imei ≠ []) (parsed : parseCommandResponse packet = .ok response) :
    Inserts imei device (handleCommandReply cfg packet protocol (some imei))
      [.reply device.deviceId response.command response.rawText (.object response.data)] := by
  apply inserts_withDevice real
  apply inserts_behind (inserts_saveRaw cfg _ _ _ _)
  intro _
  rw [parsed]
  have clean : response.rawText.filter (· != Char.ofNat 0) = response.rawText := by
    rw [List.filter_eq_self]
    intro c member
    rw [bne_iff_ne]
    rintro rfl
    rw [rawText_eq parsed] at member
    exact zero_notMem member
  change Inserts imei device (handleCommandResponse device.deviceId response.command
    response.rawText (.object response.data)) _
  rw [handleCommandResponse, clean]
  exact inserts_before (inserts_execute _) fun _ => inserts_pure ()

end Parsing

/-- A command reply is parsed, and one insertion of it is attempted, exactly if it is no position
reply or the numbers of the position can be converted. -/
theorem reply_kept_iff {packet : Bytes} (bears : Bears packet 0x21) :
    Kept packet ↔ legible packet = true := by
  rw [← parse_isOk]
  constructor
  · rintro ⟨response, parsed, -⟩
    rw [parsed]
    rfl
  · intro parses
    cases parsed : parseCommandResponse packet with
    | error e =>
        rw [parsed] at parses
        cases parses
    | ok response =>
        refine ⟨response, parsed, ?_, ?_⟩
        · rw [rawText_eq parsed]
          exact zero_notMem
        · intro cfg ip imei device trace outcome real ran answers
          have branch : Inserts imei device (dispatch cfg ip packet 0x21 (some imei)) _ :=
            inserts_commandReply real parsed
          exact (inserts_processPacket bears branch trace outcome ran answers).1

def replyFrame (text : String) : Bytes :=
  [0x78, 0x78, UInt8.ofNat (text.length + 5), 0x21] ++ asciiBytes text.toList ++
    [0, 1, 0, 0, 0x0D, 0x0A]

/-- A latitude with two points raises, and the reply is not stored. -/
theorem malformed_lost : Bears (replyFrame "Last position! Lat:N6.9.1") 0x21 ∧
    extractPackets (replyFrame "Last position! Lat:N6.9.1") =
      ([replyFrame "Last position! Lat:N6.9.1"], []) ∧
    ¬ Kept (replyFrame "Last position! Lat:N6.9.1") := by
  refine ⟨⟨.inl rfl, rfl⟩, by decide +kernel, ?_⟩
  rintro ⟨response, parsed, -⟩
  have refused : (parseCommandResponse (replyFrame "Last position! Lat:N6.9.1")).isOk = false := by
    decide +kernel
  rw [parsed] at refused
  cases refused

theorem reply_kept_position :
    Kept (replyFrame "Last position! Lat:N6.9101,Lon:E79.8612,Course:90,Speed:0") :=
  (reply_kept_iff ⟨.inl rfl, rfl⟩).mpr (by decide +kernel)

end TrackerGateway.Packets.Replies
