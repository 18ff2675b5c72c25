/- module: TrackerGateway/Packets/Configuration
   source: src/decoders, src/parsers/v5_parser.py (parse_information_packet),
     src/services/packet_handler.py
   digest: Which information and configuration packets of the V5 family become an event. -/

import TrackerGateway.Packets.Replies

set_option autoImplicit false
set_option relaxedAutoImplicit false

namespace TrackerGateway.Packets.Configuration

open Foundation.Coroutine
open Foundation.Wire
open TrackerGateway.Runtime
open Decoders
open Parsers.V5
open Replies
open Services Services.PacketHandler

/-- A decoder of some keys, and the members of the configuration it makes of their values. -/
structure SubDecoder where
  keys : List String
  decode : List (Text × Text) → Except Exn (List (Text × Json))

def copying (name : String) (keys : List String) (f : List (Text × Text) → Json) : SubDecoder :=
  ⟨keys, fun values => .ok [(name.toList, f values)]⟩

/-- The eight decoders in the order of `decode_information`. -/
def subDecoders : List SubDecoder :=
  [copying "upload_mode" ["DYD"] fun values => decodeUploadMode (reported values "DYD"),
    ⟨["FENCE"], fun values =>
      (decodeGeofence (reported values "FENCE")).map fun fence => [("geofence".toList, fence)]⟩,
    ⟨["SOS", "CENTER"], fun values => .ok (decodePhoneNumbers values)⟩,
    copying "network" ["APN", "APNUSER", "APNPWD", "IP", "DOMAIN", "PORT", "DNS", "PROTOCOL"]
      decodeNetworkConfiguration,
    copying "device_settings" ["GMT", "LANG", "MODE", "ACC", "SLEEP", "LED", "HEART", "UPLOAD"]
      decodeDeviceSettings,
    copying "sim" ["ICCID", "IMSI", "OP", "PHONE"] decodeSimInformation,
    copying "gps" ["FILTER", "GPSACC", "INTERVAL"] decodeGpsConfiguration,
    ⟨["ALM1", "ALM2", "ALM3"], fun values => (decodeAlarmConfiguration values).map fun alarms =>
      [("alarm_configuration".toList, alarms)]⟩]

/-- The result of a decoder is the same for all values that agree on its keys. -/
def SubDecoder.Local (d : SubDecoder) : Prop :=
  ∀ values values', (∀ key ∈ d.keys, reported values key = reported values' key) →
    d.decode values = d.decode values'

section Locality

variable {values values' : List (Text × Text)}

theorem member_congr {name key : String} (same : reported values key = reported values' key) :
    member values name key = member values' name key := by
  rw [member, member, same]

theorem alarmMask_congr {key : String} (same : reported values key = reported values' key) :
    alarmMask values key = alarmMask values' key := by
  rw [alarmMask, alarmMask, same]

theorem copying_local {name : String} {keys : List String} {f : List (Text × Text) → Json}
    (same : ∀ values values', (∀ key ∈ keys, reported values key = reported values' key) →
      f values = f values') : (copying name keys f).Local := by
  intro values values' agree
  simp only [copying, same values values' agree]

theorem subDecoders_local : ∀ d ∈ subDecoders, d.Local := by
  simp only [subDecoders, List.forall_mem_cons, List.not_mem_nil, false_implies, implies_true,
    and_true]
  refine ⟨?_, ?_, ?_, ?_, ?_, ?_, ?_, ?_⟩
  · apply copying_local
    intro values values' agree
    rw [agree "DYD" (by simp)]
  · intro values values' agree
    simp only [agree "FENCE" (by simp)]
  · intro values values' agree
    simp only [decodePhoneNumbers]
    rw [member_congr (agree "SOS" (by simp)), member_congr (agree "CENTER" (by simp))]
  · apply copying_local
    intro values values' agree
    simp only [decodeNetworkConfiguration]
    rw [member_congr (agree "APN" (by simp)), member_congr (agree "APNUSER" (by simp)),
      member_congr (agree "APNPWD" (by simp)), member_congr (agree "IP" (by simp)),
      member_congr (agree "DOMAIN" (by simp)), member_congr (agree "PORT" (by simp)),
      member_congr (agree "DNS" (by simp)), member_congr (agree "PROTOCOL" (by simp))]
  · apply copying_local
    intro values values' agree
    simp only [decodeDeviceSettings]
    rw [member_congr (agree "GMT" (by simp)), member_congr (agree "LANG" (by simp)),
      member_congr (agree "MODE" (by simp)), member_congr (agree "ACC" (by simp)),
      member_congr (agree "SLEEP" (by simp)), member_congr (agree "LED" (by simp)),
      member_congr (agree "HEART" (by simp)), member_congr (agree "UPLOAD" (by simp))]
  · apply copying_local
    intro values values' agree
    simp only [decodeSimInformation]
    rw [member_congr (agree "ICCID" (by simp)), member_congr (agree "IMSI" (by simp)),
      member_congr (agree "OP" (by simp)), member_congr (agree "PHONE" (by simp))]
  · apply copying_local
    intro values values' agree
    simp only [decodeGpsConfiguration]
    rw [member_congr (agree "FILTER" (by simp)), member_congr (agree "GPSACC" (by simp)),
      member_congr (agree "INTERVAL" (by simp))]
  · intro values values' agree
    simp only [decodeAlarmConfiguration]
    rw [alarmMask_congr (agree "ALM1" (by simp)), alarmMask_congr (agree "ALM2" (by simp)),
      alarmMask_congr (agree "ALM3" (by simp))]

/-- The configuration is what the sub-decoders make of the values, one after the other. -/
theorem decodeInformation_eq (values : List (Text × Text)) :
    decodeInformation values =
      (subDecoders.mapM fun d : SubDecoder => d.decode values).map List.flatten := by
  simp only [decodeInformation, subDecoders, List.mapM_cons, List.mapM_nil, copying]
  cases decodeGeofence (reported values "FENCE") with
  | error e => rfl
  | ok geofence =>
      cases decodeAlarmConfiguration values with
      | error e => rfl
      | ok alarms => rfl

end Locality

def eventTypeOf (protocol : UInt8) : Text :=
  if protocol = 0x94 then "DEVICE_INFORMATION".toList else "DEVICE_CONFIGURATION".toList

/-- The payload is printable ASCII with at least one `key=value` item. -/
def Itemised (packet : Bytes) (text : Text) : Prop :=
  (asciiStrict (payload packet)).map (trim (· = Char.ofNat 0)) = some text ∧
    text.all isPrintable = true ∧ ∃ item ∈ text.splitOn ';', '=' ∈ item

/-- The packet is parsed and decoded, by sub-decoders that look at their own keys only, and exactly
one insertion is attempted, of the event with what was decoded. -/
def Recorded (packet : Bytes) (protocol : UInt8) : Prop :=
  ∃ info decoded, parseInformationPacket packet = some info ∧
    decodeInformation info.values = .ok decoded ∧
    (∃ parts, subDecoders.mapM (fun d : SubDecoder => d.decode info.values) = .ok parts ∧
      decoded = parts.flatten ∧ ∀ d ∈ subDecoders, d.Local) ∧
    ∀ cfg ip imei device trace outcome, imei ≠ [] →
      Executes (processPacket cfg ip packet) trace outcome →
      (∀ a ∈ trace, Serving imei device a) →
      attempted inserted trace =
        [.event device.deviceId (eventTypeOf protocol) (some (.object decoded))]

def convertibleFence (fence : Text) : Bool :=
  match fence.splitOn ',' with
  | _ :: _ :: radius :: latitude :: longitude :: _ :: _ :: number :: _ =>
      (parseInt radius).isSome && (parseFloat latitude).isSome && (parseFloat longitude).isSome &&
        (parseInt number).isSome
  | _ => true

/-- Whether the alarm masks that were reported are hexadecimal numbers, and the parts of the
geofence that are converted are numbers. -/
def convertible (values : List (Text × Text)) : Bool :=
  (truthy (reported values "FENCE")).all convertibleFence &&
    ["ALM1", "ALM2", "ALM3"].all fun key =>
      (reported values key).all fun mask => (parseHex mask).isSome

section Decoding

variable {values : List (Text × Text)}

theorem intOf_isOk (t : Text) : (intOf t).isOk = (parseInt t).isSome := by
  rw [intOf]
  cases parseInt t <;> rfl

theorem floatOf_isOk (t : Text) : (floatOf t).isOk = (parseFloat t).isSome := by
  rw [floatOf]
  cases parseFloat t <;> rfl

theorem alarmMask_isOk (key : String) : (alarmMask values key).isOk =
    (reported values key).all fun mask => (parseHex mask).isSome := by
  rw [alarmMask]
  cases reported values key with
  | none => decide +kernel
  | some mask =>
      rw [Option.getD_some, Option.all_some]
      cases parseHex mask <;> rfl

theorem alarms_isOk : (decodeAlarmConfiguration values).isOk =
    ["ALM1", "ALM2", "ALM3"].all fun key =>
      (reported values key).all fun mask => (parseHex mask).isSome := by
  simp only [List.all_cons, List.all_nil, Bool.and_true, ← alarmMask_isOk]
  rw [decodeAlarmConfiguration]
  cases alarmMask values "ALM1" with
  | error e => rfl
  | ok one =>
      cases alarmMask values "ALM2" with
      | error e => rfl
      | ok two => cases alarmMask values "ALM3" <;> rfl

theorem geofence_isOk (fence : Option Text) :
    (decodeGeofence fence).isOk = (truthy fence).all convertibleFence := by
  rw [decodeGeofence]
  cases truthy fence with
  | none => rfl
  | some text =>
      rw [Option.all_some, convertibleFence]
      dsimp only
      -- both read the same parts, of which there are fewer than eight or there are enough
      generalize text.splitOn ',' = parts
      obtain _ | ⟨_, _ | ⟨_, _ | ⟨radius, _ | ⟨latitude, _ | ⟨longitude, _ | ⟨_, _ | ⟨_, _ |
        ⟨number, _⟩⟩⟩⟩⟩⟩⟩⟩ := parts
      iterate 8 exact rfl
      dsimp only
      simp only [← intOf_isOk, ← floatOf_isOk]
      cases intOf radius with
      | error e => rfl
      | ok r =>
          cases floatOf latitude with
          | error e => rfl
          | ok x =>
              cases floatOf longitude with
              | error e => rfl
              | ok y => cases intOf number <;> rfl

theorem decode_isOk : (decodeInformation values).isOk = convertible values := by
  rw [convertible, ← geofence_isOk, ← alarms_isOk, decodeInformation]
  cases decodeGeofence (reported values "FENCE") with
  | error e => rfl
  | ok fence => cases decodeAlarmConfiguration values <;> rfl

theorem mapM_of_decoded {values : List (Text × Text)} {decoded : List (Text × Json)}
    (decodes : decodeInformation values = .ok decoded) :
    ∃ parts, subDecoders.mapM (fun d : SubDecoder => d.decode values) = .ok parts ∧
      decoded = parts.flatten := by
  rw [decodeInformation_eq] at decodes
  cases each : subDecoders.mapM (fun d : SubDecoder => d.decode values) with
  | error e =>
      rw [each] at decodes
      cases decodes
  | ok parts =>
      rw [each] at decodes
      cases decodes
      exact ⟨parts, rfl, rfl⟩

end Decoding

section Recording

variable {packet : Bytes} {text : Text}

theorem assign_ne_nil {β : Type} (key : Text) (value : β) (l : List (Text × β)) :
    assign key value l ≠ [] := by
  cases l with
  | nil => simp [assign]
  | cons first rest =>
      rw [assign]
      split <;> simp

/-- A fold over a list with an element that brings a property about, which every step keeps. -/
theorem foldl_reaches {α β : Type} {P : β → Prop} {Q : α → Prop} {f : β → α → β}
    (keeps : ∀ b a, P b → P (f b a)) (makes : ∀ b a, Q a → P (f b a)) {l : List α} :
    ∀ {b : β}, (P b ∨ ∃ a ∈ l, Q a) → P (l.foldl f b) := by
  induction l with
  | nil =>
      rintro b (already | ⟨a, member, -⟩)
      · exact already
      · cases member
  | cons first rest ih =>
      intro b given
      rw [List.foldl_cons]
      apply ih
      rcases given with already | ⟨a, member, brings⟩
      · exact .inl (keeps b first already)
      · rcases List.mem_cons.mp member with rfl | later
        · exact .inl (makes b a brings)
        · exact .inr ⟨a, later, brings⟩

theorem parseItems_ne_nil (item : ∃ item ∈ text.splitOn ';', '=' ∈ item) :
    parseItems text ≠ [] := by
  rw [parseItems]
  refine foldl_reaches (P := fun values => values ≠ []) ?_ ?_ (.inr item)
  · intro values item some_
    rcases partition_cases '=' item with ⟨-, split⟩ | ⟨head, tail, -, -, split⟩
    · rw [split]
      exact some_
    · rw [split]
      exact assign_ne_nil _ _ _
  · intro values item equals
    rcases partition_cases '=' item with ⟨without, -⟩ | ⟨head, tail, -, -, split⟩
    · exact absurd equals without
    · rw [split]
      exact assign_ne_nil _ _ _

theorem parse_of_itemised (itemised : Itemised packet text) :
    parseInformationPacket packet = some ⟨text, parseItems text⟩ := by
  obtain ⟨decoded, printable, -⟩ := itemised
  obtain ⟨raw, strict, rfl⟩ := Option.map_eq_some_iff.mp decoded
  rw [parseInformationPacket, strict]
  exact if_pos printable

theorem decoded_ne_nil {values : List (Text × Text)} {decoded : List (Text × Json)}
    (decodes : decodeInformation values = .ok decoded) : decoded ≠ [] := by
  rw [decodeInformation] at decodes
  obtain ⟨geofence, -, rest⟩ := Runtime.bind_eq_ok_iff.mp decodes
  obtain ⟨alarms, -, same⟩ := Runtime.bind_eq_ok_iff.mp rest
  cases same
  simp

theorem inserts_createEvent {imei deviceId eventType description : Text} {device : Entry}
    {vehicleId : Option Text} {decoded : List (Text × Json)} (some_ : decoded ≠ []) :
    Inserts imei device
      (createEvent deviceId vehicleId eventType .low none none description decoded)
      [.event deviceId eventType (some (.object decoded))] := by
  rw [createEvent, List.isEmpty_eq_false_iff.mpr some_]
  apply inserts_behind (inserts_request (o := .utcNow) rfl)
  intro now
  exact inserts_before (inserts_execute _) fun _ => inserts_pure ()

theorem inserts_information {cfg : Config} {imei protocol eventType description : Text}
    {device : Entry} {info : Information} {decoded : List (Text × Json)} (real : imei ≠ [])
    (parsed : parseInformationPacket packet = some info) (some_ : info.values ≠ [])
    (decodes : decodeInformation info.values = .ok decoded) :
    Inserts imei device
      (handleInformation cfg packet protocol (some imei) eventType description)
      [.event device.deviceId eventType (some (.object decoded))] := by
  apply inserts_withDevice real
  apply inserts_behind (inserts_saveRaw cfg _ _ _ _)
  intro _
  rw [parsed]
  simp only [List.isEmpty_eq_false_iff.mpr some_, Bool.false_eq_true, if_false, decodes]
  change Inserts imei device ((getVehicleByDevice device.deviceId).bind _) _
  apply inserts_behind inserts_vehicle
  intro vehicleId
  exact inserts_createEvent (decoded_ne_nil decodes)

end Recording

/-- A packet with items is recorded as one event exactly if what is converted of them can be. -/
theorem packet_recorded_iff {packet : Bytes} {protocol : UInt8} {text : Text}
    (bears : Bears packet protocol) (kind : protocol = 0x94 ∨ protocol = 0x6e)
    (itemised : Itemised packet text) :
    Recorded packet protocol ↔ convertible (parseItems text) = true := by
  have parsed := parse_of_itemised itemised
  have some_ : parseItems text ≠ [] := parseItems_ne_nil itemised.2.2
  rw [← decode_isOk]
  constructor
  · rintro ⟨info, decoded, parsed', decodes, -⟩
    rw [parsed] at parsed'
    cases parsed'
    rw [decodes]
    rfl
  · intro decodable
    cases decodes : decodeInformation (parseItems text) with
    | error e =>
        rw [decodes] at decodable
        cases decodable
    | ok decoded =>
        obtain ⟨parts, each, whole⟩ := mapM_of_decoded decodes
        refine ⟨_, decoded, parsed, decodes, ⟨parts, each, whole, subDecoders_local⟩, ?_⟩
        intro cfg ip imei device trace outcome real ran answers
        have branch : Inserts imei device (dispatch cfg ip packet protocol (some imei))
            [.event device.deviceId (eventTypeOf protocol) (some (.object decoded))] := by
          rcases kind with rfl | rfl
          · exact inserts_information real parsed some_ decodes
          · exact inserts_information real parsed some_ decodes
        exact (inserts_processPacket bears branch trace outcome ran answers).1

def itemsFrame (protocol : UInt8) (text : String) : Bytes :=
  [0x78, 0x78, UInt8.ofNat (text.length + 5), protocol] ++ asciiBytes text.toList ++
    [0, 1, 0, 0, 0x0D, 0x0A]

/-- An alarm mask that is no number raises, and nothing of the configuration is recorded. -/
theorem mask_lost : Bears (itemsFrame 0x94 "APN=internet;ALM1=ZZ") 0x94 ∧
    extractPackets (itemsFrame 0x94 "APN=internet;ALM1=ZZ") =
      ([itemsFrame 0x94 "APN=internet;ALM1=ZZ"], []) ∧
    Itemised (itemsFrame 0x94 "APN=internet;ALM1=ZZ") "APN=internet;ALM1=ZZ".toList ∧
    ¬ Recorded (itemsFrame 0x94 "APN=internet;ALM1=ZZ") 0x94 := by
  have itemised : Itemised (itemsFrame 0x94 "APN=internet;ALM1=ZZ")
      "APN=internet;ALM1=ZZ".toList := by
    refine ⟨by decide +kernel, by decide +kernel, by decide +kernel⟩
  refine ⟨⟨.inl rfl, rfl⟩, by decide +kernel, itemised, ?_⟩
  rintro ⟨info, decoded, parsed, decodes, -⟩
  rw [parse_of_itemised itemised] at parsed
  cases parsed
  have refused : (decodeInformation (parseItems "APN=internet;ALM1=ZZ".toList)).isOk = false := by
    decide +kernel
  rw [decodes] at refused
  cases refused

theorem packet_recorded_fence :
    Recorded (itemsFrame 0x6e "FENCE=0,ON,200,6.91,79.86,x,IN,1;ALM1=1F") 0x6e := by
  have itemised : Itemised (itemsFrame 0x6e "FENCE=0,ON,200,6.91,79.86,x,IN,1;ALM1=1F")
      "FENCE=0,ON,200,6.91,79.86,x,IN,1;ALM1=1F".toList :=
    ⟨by decide +kernel, by decide +kernel, by decide +kernel⟩
  exact (packet_recorded_iff ⟨.inl rfl, rfl⟩ (.inr rfl) itemised).mpr (by decide +kernel)

end TrackerGateway.Packets.Configuration
