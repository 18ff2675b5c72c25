/- module: TrackerGateway/Packets/LongFrames
   source: src/services/packet_handler.py, src/parsers/v5_parser.py
   digest: When a payload is handled alike in a short and in a long frame. -/

import TrackerGateway.Packets.Erasure
import TrackerGateway.Packets.Fields

set_option autoImplicit false
set_option relaxedAutoImplicit false

namespace TrackerGateway.Packets.LongFrames

open Foundation.Coroutine
open Foundation.Wire
open TrackerGateway.Runtime
open Parsers.V5
open Parsers.CommandResponse (Response parseCommandResponse replyText)
open Services
open Services.PacketHandler

def shortFrame (protocol : UInt8) (behind : Bytes) : Bytes :=
  0x78 :: 0x78 :: UInt8.ofNat (behind.length - 1) :: protocol :: behind

def longFrame (protocol : UInt8) (behind : Bytes) : Bytes :=
  0x79 :: 0x79 :: UInt8.ofNat ((behind.length - 1) / 256) :: UInt8.ofNat (behind.length - 1) ::
    protocol :: behind

/-- What stands behind the protocol byte: payload, serial number, checksum and stop bytes. -/
def behind (body serial checksum : Bytes) : Bytes := body ++ serial ++ checksum ++ [0x0D, 0x0A]

inductive Decoded
  | login (fields : Login)
  | location (fields : Option Location)
  | status (fields : Option TerminalStatus)
  | alarm (fields : Option Alarm)
  | information (fields : Option Information)
  | acknowledgement (fields : Option (Text × Text))
  | reply (fields : Option Response)
  | unknown

/-- What the decoder of a protocol byte returns for a frame, if it does not raise. -/
def decode (protocol : UInt8) (raw : Bytes) : Decoded :=
  match protocol.toNat with
  | 0x01 => .login (parseLoginPacket raw)
  | 0x12 | 0x22 => .location (parseLocationPacket raw).toOption
  | 0x13 | 0x23 => .status (parseTerminalStatus raw).toOption
  | 0x26 => .alarm (parseAlarmPacket raw).toOption
  | 0x94 | 0x6e => .information (parseInformationPacket raw)
  | 0x8a => .acknowledgement (parseCommandAck raw).toOption
  | 0x21 => .reply (parseCommandResponse raw).toOption
  | _ => .unknown

/-- Both frames are decoded to the same fields, and handled by the same operations apart from the
raw bytes that are stored. -/
structure Alike (cfg : Config) (ip : Text) (protocol : UInt8) (short long : Bytes) : Prop where
  fields : decode protocol short = decode protocol long
  operations : erase (processPacket cfg ip short) = erase (processPacket cfg ip long)

def windowDate (window : Bytes) : Option Civil :=
  civil? (byteAt window 0 + 2000) (byteAt window 1) (byteAt window 2) (byteAt window 3)
    (byteAt window 4) (byteAt window 5)

/-- The window is too short, or does not start with a date. -/
def Undecodable (size : Nat) (window : Bytes) : Prop :=
  window.length < size ∨ windowDate window = none

/-- The decoders with fixed places read the short frame from its payload on and the long frame from
its protocol byte on; the condition compares these windows. -/
def Agreeing (protocol : UInt8) (short long : Bytes) : Prop :=
  match protocol.toNat with
  | 0x01 => bigEndian (short.take 8) = bigEndian (long.take 8)
  | 0x12 | 0x22 => Undecodable 16 short ∧ Undecodable 16 long
  | 0x13 | 0x23 => byteAt short 0 &&& 0xC7 = byteAt long 0 &&& 0xC7 ∧
      byteAt short 1 = byteAt long 1 ∧ byteAt short 2 = byteAt long 2
  | 0x26 => Undecodable 30 short ∧ Undecodable 30 long
  | 0x8a => short.take 3 = (long.drop 1).take 3
  | _ => True

section Frames

variable {protocol : UInt8} {b : Bytes}

theorem short_marker : (shortFrame protocol b).take 2 = shortMarker := rfl

theorem long_marker : (longFrame protocol b).take 2 = longMarker := rfl

theorem protocolIndex_short : protocolIndex (shortFrame protocol b) = 3 := by
  unfold protocolIndex
  rw [short_marker]
  rfl

theorem protocolIndex_long : protocolIndex (longFrame protocol b) = 4 := by
  unfold protocolIndex
  rw [long_marker]
  rfl

theorem payload_short (long : 6 ≤ b.length) :
    payload (shortFrame protocol b) = slice b 0 (b.length - 6) := by
  have stop : (shortFrame protocol b).length - 6 = b.length - 6 + 4 := by
    simp only [shortFrame, List.length_cons]
    omega
  unfold payload
  rw [short_marker, stop]
  rfl

theorem payload_long (long : 6 ≤ b.length) :
    payload (longFrame protocol b) = slice b 0 (b.length - 6) := by
  have stop : (longFrame protocol b).length - 6 = b.length - 6 + 5 := by
    simp only [longFrame, List.length_cons]
    omega
  unfold payload
  rw [long_marker, stop]
  rfl

theorem serialBytes_short (long : 6 ≤ b.length) :
    serialBytes (shortFrame protocol b) = slice b (b.length - 6) (b.length - 4) := by
  have start : (shortFrame protocol b).length - 6 = b.length - 6 + 4 := by
    simp only [shortFrame, List.length_cons]
    omega
  have stop : (shortFrame protocol b).length - 4 = b.length - 4 + 4 := by
    simp only [shortFrame, List.length_cons]
    omega
  unfold serialBytes
  rw [start, stop]
  rfl

theorem serialBytes_long (long : 6 ≤ b.length) :
    serialBytes (longFrame protocol b) = slice b (b.length - 6) (b.length - 4) := by
  have start : (longFrame protocol b).length - 6 = b.length - 6 + 5 := by
    simp only [longFrame, List.length_cons]
    omega
  have stop : (longFrame protocol b).length - 4 = b.length - 4 + 5 := by
    simp only [longFrame, List.length_cons]
    omega
  unfold serialBytes
  rw [start, stop]
  rfl

end Frames

/-- The frame is a header of four bytes and a window. -/
def Windowed (raw window : Bytes) : Prop :=
  ∃ h₀ h₁ h₂ h₃ : UInt8, raw = h₀ :: h₁ :: h₂ :: h₃ :: window

theorem windowed_short (protocol : UInt8) (b : Bytes) : Windowed (shortFrame protocol b) b :=
  ⟨_, _, _, _, rfl⟩

theorem windowed_long (protocol : UInt8) (b : Bytes) :
    Windowed (longFrame protocol b) (protocol :: b) := ⟨_, _, _, _, rfl⟩

/-- A decoder takes the windows that are long enough and start with a date, which it returns. -/
structure Dated {α : Type} (parse : Bytes → Except Exn α) (size : Nat) (stamp : α → Civil) :
    Prop where
  of_date : ∀ {raw d}, size + 4 ≤ raw.length → dateAt raw 3 = some d →
    ∃ a, parse raw = .ok a ∧ stamp a = d
  raises : ∀ {raw}, raw.length < size + 4 ∨ dateAt raw 3 = none → (parse raw).toOption = none

theorem dated_location : Dated parseLocationPacket 16 Location.timestamp where
  of_date := by
    intro raw d long valid
    obtain ⟨location, parsed, stamped, -⟩ := parseLocationPacket_of_date long valid
    exact ⟨location, parsed, stamped⟩
  raises := parseLocationPacket_raises

theorem dated_alarm : Dated parseAlarmPacket 30 fun alarm => alarm.location.timestamp where
  of_date := by
    intro raw d long valid
    obtain ⟨alarm, parsed, stamped, -⟩ := parseAlarmPacket_of_date long valid
    exact ⟨alarm, parsed, stamped⟩
  raises := parseAlarmPacket_raises

section Windows

variable {raw window : Bytes} (windowed : Windowed raw window) {α : Type}
  {parse : Bytes → Except Exn α} {size : Nat} {stamp : α → Civil}

include windowed

theorem Windowed.length : raw.length = window.length + 4 := by
  obtain ⟨h₀, h₁, h₂, h₃, rfl⟩ := windowed
  rfl

theorem Windowed.date : dateAt raw 3 = windowDate window := by
  obtain ⟨h₀, h₁, h₂, h₃, rfl⟩ := windowed
  rfl

theorem Windowed.imei :
    (parseLoginPacket raw).imei = (hex (window.take 8)).dropWhile (· = '0') := by
  obtain ⟨h₀, h₁, h₂, h₃, rfl⟩ := windowed
  rfl

/-- The decoder raises exactly on the windows that are too short or without a date. -/
theorem Windowed.raises_iff (decoder : Dated parse size stamp) :
    (parse raw).toOption = none ↔ Undecodable size window := by
  have length := windowed.length
  constructor
  · intro raises
    by_contra decodable
    obtain ⟨long, dated⟩ := not_or.mp decodable
    obtain ⟨d, valid⟩ := Option.ne_none_iff_exists'.mp dated
    obtain ⟨a, parsed, -⟩ := decoder.of_date (by omega) (windowed.date.trans valid)
    rw [parsed] at raises
    cases raises
  · rintro (short | undated)
    · exact decoder.raises (.inl (by omega))
    · exact decoder.raises (.inr (windowed.date.trans undated))

theorem Windowed.date_of_parsed (decoder : Dated parse size stamp) {a : α}
    (parsed : (parse raw).toOption = some a) : windowDate window = some (stamp a) := by
  have alive : ¬ Undecodable size window := by
    rw [← windowed.raises_iff decoder, parsed]
    exact Option.some_ne_none a
  obtain ⟨enough, dated⟩ := not_or.mp alive
  obtain ⟨d, valid⟩ := Option.ne_none_iff_exists'.mp dated
  have length := windowed.length
  obtain ⟨a', parsed', stamped⟩ := decoder.of_date (by omega) (windowed.date.trans valid)
  rw [parsed'] at parsed
  cases parsed
  rw [valid, stamped]

theorem Windowed.status (long : 3 ≤ window.length) : parseTerminalStatus raw =
    .ok ⟨byteAt window 1, byteAt window 2, terminalInfo (window.getD 0 0)⟩ := by
  have size := windowed.length
  rw [parseTerminalStatus_of_length (by omega)]
  obtain ⟨h₀, h₁, h₂, h₃, rfl⟩ := windowed
  rfl

end Windows

/-- Two windows with one date start with the same two bytes. -/
theorem dates_agree {a b : Bytes} {d : Civil} (one : windowDate a = some d)
    (other : windowDate b = some d) :
    byteAt a 0 = byteAt b 0 ∧ byteAt a 1 = byteAt b 1 ∧ byteAt a 1 ≤ 12 := by
  obtain ⟨year, month⟩ := civil?_components one
  obtain ⟨year', month'⟩ := civil?_components other
  have bound := d.month_le
  omega

theorem terminalInfo_eq_iff (x y : UInt8) :
    terminalInfo x = terminalInfo y ↔ x.toNat &&& 0xC7 = y.toNat &&& 0xC7 := by
  constructor
  · intro same
    have flags := TerminalInfo.mk.inj same
    obtain ⟨ignition, power, gps, charge, active⟩ := flags
    apply Nat.eq_of_testBit_eq
    intro i
    rw [Nat.testBit_and, Nat.testBit_and]
    by_cases low : i < 8
    · interval_cases i
      · rw [active]
      · rw [ignition]
      · rw [charge]
      · rw [show (0xC7 : Nat).testBit 3 = false by decide, Bool.and_false, Bool.and_false]
      · rw [show (0xC7 : Nat).testBit 4 = false by decide, Bool.and_false, Bool.and_false]
      · rw [show (0xC7 : Nat).testBit 5 = false by decide, Bool.and_false, Bool.and_false]
      · rw [gps]
      · rw [power]
    · have above : (0xC7 : Nat).testBit i = false :=
        Nat.testBit_lt_two_pow (lt_of_lt_of_le (by decide) (Nat.pow_le_pow_right (by decide)
          (show 8 ≤ i by omega)))
      rw [above, Bool.and_false, Bool.and_false]
  · intro same
    have bit : ∀ i, (0xC7 : Nat).testBit i = true → x.toNat.testBit i = y.toNat.testBit i := by
      intro i masked
      have here := congrArg (fun n => n.testBit i) same
      simpa only [Nat.testBit_and, masked, Bool.and_true] using here
    unfold terminalInfo
    rw [bit 0 (by decide), bit 1 (by decide), bit 2 (by decide), bit 6 (by decide),
      bit 7 (by decide)]

section Bodies

variable (body serial checksum checksum' : Bytes)

theorem behind_length (size : serial.length = 2) (size' : checksum.length = 2) :
    (behind body serial checksum).length = body.length + 6 := by
  simp only [behind, List.length_append, size, size', List.length_cons, List.length_nil]

theorem behind_front {i : Nat} (inside : i < body.length + serial.length) :
    (behind body serial checksum)[i]? = (behind body serial checksum')[i]? := by
  have front : ∀ c : Bytes, (behind body serial c)[i]? = (body ++ serial)[i]? := by
    intro c
    rw [behind, List.append_assoc, List.getElem?_append_left (by rw [List.length_append]; omega)]
  rw [front, front]

theorem slice_behind (start n : Nat) (small : n ≤ body.length + serial.length) :
    slice (behind body serial checksum) start n = slice (behind body serial checksum') start n :=
  slice_congr (fun _ inside => behind_front _ _ _ _ (by omega)) (le_refl n)

end Bodies

section Operations

variable (cfg : Config) (ip : Text) {a b : Bytes}

theorem blur_handleLogin (name : Text)
    (same : (parseLoginPacket a).imei = (parseLoginPacket b).imei) :
    blur (handleLogin cfg ip a name) = blur (handleLogin cfg ip b name) := by
  unfold handleLogin
  dsimp only
  rw [same]
  apply blur_bind_congr rfl
  intro deviceId?
  cases truthy deviceId? with
  | none => rfl
  | some deviceId =>
      apply blur_bind_congr rfl
      intro _
      exact blur_bind_congr (blur_saveRaw _ _ _ _ _ _ _) fun _ => rfl

theorem blur_handleLocation (name : Text) (connectionImei : Option Text)
    (same : (parseLocationPacket a).toOption = (parseLocationPacket b).toOption) :
    blur (handleLocation cfg a name connectionImei) =
      blur (handleLocation cfg b name connectionImei) := by
  apply blur_demand_bind same
  intro location
  split
  · apply blur_withDevice
    intro device
    exact blur_bind_congr (blur_saveRaw _ _ _ _ _ _ _) fun _ => rfl
  · rfl

theorem blur_handleStatus (name : Text) (connectionImei : Option Text)
    (same : (parseTerminalStatus a).toOption = (parseTerminalStatus b).toOption) :
    blur (handleStatus cfg a name connectionImei) =
      blur (handleStatus cfg b name connectionImei) := by
  refine blur_withDevice fun device => blur_demand_bind same ?_
  intro status
  exact blur_bind_congr (blur_saveRaw _ _ _ _ _ _ _) fun _ => rfl

theorem blur_handleHeartbeat (name : Text) (connectionImei : Option Text)
    (same : (parseTerminalStatus a).toOption = (parseTerminalStatus b).toOption) :
    blur (handleHeartbeat cfg a name connectionImei) =
      blur (handleHeartbeat cfg b name connectionImei) := by
  refine blur_withDevice fun device => blur_demand_bind same ?_
  intro heartbeat
  exact blur_bind_congr (blur_saveRaw _ _ _ _ _ _ _) fun _ => rfl

theorem blur_handleAlarm (name : Text) (connectionImei : Option Text)
    (same : (parseAlarmPacket a).toOption = (parseAlarmPacket b).toOption) :
    blur (handleAlarm cfg a name connectionImei) =
      blur (handleAlarm cfg b name connectionImei) := by
  refine blur_withDevice fun device => blur_demand_bind same ?_
  intro alarm
  exact blur_bind_congr (blur_saveRaw _ _ _ _ _ _ _) fun _ => rfl

theorem blur_handleInformation (name : Text) (connectionImei : Option Text)
    (eventType description : Text) (same : parseInformationPacket a = parseInformationPacket b) :
    blur (handleInformation cfg a name connectionImei eventType description) =
      blur (handleInformation cfg b name connectionImei eventType description) := by
  apply blur_withDevice
  intro device
  rw [same]
  exact blur_bind_congr (blur_saveRaw _ _ _ _ _ _ _) fun _ => rfl

theorem blur_handleCommandAck (name : Text) (connectionImei : Option Text)
    (same : (parseCommandAck a).toOption = (parseCommandAck b).toOption) :
    blur (handleCommandAck cfg a name connectionImei) =
      blur (handleCommandAck cfg b name connectionImei) := by
  refine blur_withDevice fun device => blur_bind_congr (blur_saveRaw _ _ _ _ _ _ _) ?_
  intro _
  exact blur_demand_bind same fun _ => rfl

theorem blur_handleCommandReply (name : Text) (connectionImei : Option Text)
    (same : (parseCommandResponse a).toOption = (parseCommandResponse b).toOption) :
    blur (handleCommandReply cfg a name connectionImei) =
      blur (handleCommandReply cfg b name connectionImei) := by
  refine blur_withDevice fun device => blur_bind_congr (blur_saveRaw _ _ _ _ _ _ _) ?_
  intro _
  exact blur_demand_bind same fun _ => rfl

theorem blur_handleUnknown (name : Text) (connectionImei : Option Text) :
    blur (handleUnknown cfg a name connectionImei) =
      blur (handleUnknown cfg b name connectionImei) := by
  unfold handleUnknown
  cases truthy connectionImei with
  | none => rfl
  | some imei =>
      apply blur_bind_congr rfl
      intro device?
      cases device? with
      | none => rfl
      | some device => exact blur_bind_congr (blur_saveRaw _ _ _ _ _ _ _) fun _ => rfl

/-- The branch of a protocol byte depends on the decoded fields only. -/
theorem blur_dispatch (protocol : UInt8) (connectionImei : Option Text)
    (same : decode protocol a = decode protocol b) :
    blur (dispatch cfg ip a protocol connectionImei) =
      blur (dispatch cfg ip b protocol connectionImei) := by
  unfold decode at same
  unfold dispatch
  generalize hex [protocol] = name
  generalize protocol.toNat = kind at same ⊢
  dsimp only
  split
  · exact blur_handleLogin cfg ip name (congrArg Login.imei (Decoded.login.inj same))
  · exact blur_handleLocation cfg name connectionImei (Decoded.location.inj same)
  · exact blur_handleLocation cfg name connectionImei (Decoded.location.inj same)
  · exact blur_handleStatus cfg name connectionImei (Decoded.status.inj same)
  · exact blur_handleHeartbeat cfg name connectionImei (Decoded.status.inj same)
  · exact blur_handleAlarm cfg name connectionImei (Decoded.alarm.inj same)
  · exact blur_handleInformation cfg name connectionImei _ _ (Decoded.information.inj same)
  · exact blur_handleCommandAck cfg name connectionImei (Decoded.acknowledgement.inj same)
  · exact blur_handleCommandReply cfg name connectionImei (Decoded.reply.inj same)
  · exact blur_handleInformation cfg name connectionImei _ _ (Decoded.information.inj same)
  · exact blur_handleUnknown cfg name connectionImei

theorem erase_processPacket {protocol : UInt8}
    (marked : a.take 2 = shortMarker ∨ a.take 2 = longMarker)
    (marked' : b.take 2 = shortMarker ∨ b.take 2 = longMarker)
    (kind : index a (protocolIndex a) = .ok protocol)
    (kind' : index b (protocolIndex b) = .ok protocol) (serial : serialBytes a = serialBytes b)
    (same : decode protocol a = decode protocol b) :
    erase (processPacket cfg ip a) = erase (processPacket cfg ip b) := by
  have acked : acknowledge a = acknowledge b := by
    unfold acknowledge buildAck
    rw [kind, kind', serial]
  unfold processPacket
  rw [if_pos marked, if_pos marked', kind, kind', acked]
  refine congrArg (Program.call Op.getImeiBySocket) (funext ?_)
  intro connectionImei
  change erase (((dispatch cfg ip a protocol connectionImei).rescue fun _ => .pure none).bind _) =
    erase (((dispatch cfg ip b protocol connectionImei).rescue fun _ => .pure none).bind _)
  rw [erase_bind, erase_bind, erase_rescue, erase_rescue, blur_dispatch cfg ip protocol _ same]

end Operations

section Fields

variable {protocol : UInt8} {short long : Bytes}

/-- A long window starts with its protocol byte, and then with what the short window starts with. -/
structure Shifted (protocol : UInt8) (short long : Bytes) : Prop where
  first : byteAt long 0 = protocol.toNat
  second : byteAt long 1 = byteAt short 0

/-- A date in both windows has the protocol byte for its month. -/
theorem Shifted.not_both_dated (shifted : Shifted protocol short long) (above : 12 < protocol.toNat)
    {d : Civil}
    (one : windowDate short = some d) (other : windowDate long = some d) : False := by
  obtain ⟨first, second, small⟩ := dates_agree one other
  have leading := shifted.first
  have shift := shifted.second
  omega

variable {a b : Bytes} (windowed : Windowed a short) (windowed' : Windowed b long)

include windowed windowed'

theorem login_fields_iff (serial : serialBytes a = serialBytes b) :
    parseLoginPacket a = parseLoginPacket b ↔
      bigEndian (short.take 8) = bigEndian (long.take 8) := by
  have imeis : (parseLoginPacket a).imei = (parseLoginPacket b).imei ↔
      bigEndian (short.take 8) = bigEndian (long.take 8) := by
    rw [windowed.imei, windowed'.imei]
    exact hex_dropWhile_zero_eq_iff _ _
  rw [← imeis]
  constructor
  · intro same
    rw [same]
  · intro same
    have serials : (parseLoginPacket a).serial = (parseLoginPacket b).serial := congrArg hex serial
    calc parseLoginPacket a = ⟨(parseLoginPacket a).imei, (parseLoginPacket a).serial⟩ := rfl
      _ = parseLoginPacket b := by rw [same, serials]

/-- Two windows with different dates have the same fields only if neither is decoded. -/
theorem dated_fields_iff {α : Type} {parse : Bytes → Except Exn α} {size : Nat} {stamp : α → Civil}
    (decoder : Dated parse size stamp) (shifted : Shifted protocol short long)
    (above : 12 < protocol.toNat) :
    (parse a).toOption = (parse b).toOption ↔ Undecodable size short ∧ Undecodable size long := by
  rw [← windowed.raises_iff decoder, ← windowed'.raises_iff decoder]
  constructor
  · intro same
    cases raised : (parse a).toOption with
    | none => exact ⟨rfl, by rw [← same, raised]⟩
    | some fields =>
        have dated := windowed.date_of_parsed decoder raised
        have dated' := windowed'.date_of_parsed decoder (same ▸ raised)
        exact (shifted.not_both_dated above dated dated').elim
  · rintro ⟨raised, raised'⟩
    rw [raised, raised']

theorem status_fields_iff (enough : 3 ≤ short.length) (enough' : 3 ≤ long.length) :
    (parseTerminalStatus a).toOption = (parseTerminalStatus b).toOption ↔
      byteAt short 0 &&& 0xC7 = byteAt long 0 &&& 0xC7 ∧ byteAt short 1 = byteAt long 1 ∧
        byteAt short 2 = byteAt long 2 := by
  rw [windowed.status enough, windowed'.status enough']
  constructor
  · intro same
    obtain ⟨battery, signal, info⟩ := TerminalStatus.mk.inj (Option.some.inj same)
    exact ⟨(terminalInfo_eq_iff _ _).mp info, battery, signal⟩
  · rintro ⟨info, battery, signal⟩
    rw [battery, signal, (terminalInfo_eq_iff _ _).mpr info]

omit windowed windowed'

theorem acknowledgement_fields_iff {c c' : Bytes} (enough : c ≠ []) (enough' : c' ≠ []) :
    (parseCommandAck (shortFrame protocol c)).toOption =
      (parseCommandAck (longFrame protocol c')).toOption ↔ c.take 3 = c'.take 3 := by
  obtain ⟨x, c, rfl⟩ := List.exists_cons_of_ne_nil enough
  obtain ⟨y, c', rfl⟩ := List.exists_cons_of_ne_nil enough'
  have echoed : (parseCommandAck (shortFrame protocol (x :: c))).toOption =
      some (hex [x], hex (c.take 2)) := rfl
  have echoed' : (parseCommandAck (longFrame protocol (y :: c'))).toOption =
      some (hex [y], hex (c'.take 2)) := rfl
  rw [echoed, echoed', Option.some_inj, Prod.mk.injEq, hex_injective.eq_iff,
    hex_injective.eq_iff, List.take_succ_cons, List.take_succ_cons, List.cons.injEq]
  simp only [List.cons.injEq, and_true]

end Fields

section Pair

variable (cfg : Config) (ip : Text) (protocol : UInt8) (body serial checksum checksum' : Bytes)
  (size : serial.length = 2) (size' : checksum.length = 2) (size'' : checksum'.length = 2)

include size

theorem shifted_behind :
    Shifted protocol (behind body serial checksum) (protocol :: behind body serial checksum') := by
  have first := behind_front body serial checksum' checksum
    (show 0 < body.length + serial.length by omega)
  refine ⟨rfl, ?_⟩
  unfold byteAt
  rw [List.getD_cons_succ, List.getD_eq_getElem?_getD, List.getD_eq_getElem?_getD, first]

include size' size''

theorem payloads_agree : payload (shortFrame protocol (behind body serial checksum)) =
    payload (longFrame protocol (behind body serial checksum')) := by
  have length := behind_length body serial checksum size size'
  have length' := behind_length body serial checksum' size size''
  rw [payload_short (by omega), payload_long (by omega), length, length']
  exact slice_behind _ _ _ _ _ _ (by omega)

theorem serials_agree : serialBytes (shortFrame protocol (behind body serial checksum)) =
    serialBytes (longFrame protocol (behind body serial checksum')) := by
  have length := behind_length body serial checksum size size'
  have length' := behind_length body serial checksum' size size''
  rw [serialBytes_short (by omega), serialBytes_long (by omega), length, length']
  exact slice_behind _ _ _ _ _ _ (by omega)

theorem fields_iff : decode protocol (shortFrame protocol (behind body serial checksum)) =
    decode protocol (longFrame protocol (behind body serial checksum')) ↔
    Agreeing protocol (behind body serial checksum) (protocol :: behind body serial checksum') := by
  have length := behind_length body serial checksum size size'
  have length' := behind_length body serial checksum' size size''
  have shifted := shifted_behind protocol body serial checksum checksum' size
  have payloads := payloads_agree protocol body serial checksum checksum' size size' size''
  have serials := serials_agree protocol body serial checksum checksum' size size' size''
  have window := windowed_short protocol (behind body serial checksum)
  have window' := windowed_long protocol (behind body serial checksum')
  unfold decode Agreeing
  generalize number : protocol.toNat = kind
  split
  · exact (iff_of_eq (Decoded.login.injEq _ _)).trans (login_fields_iff window window' serials)
  · exact (iff_of_eq (Decoded.location.injEq _ _)).trans
      (dated_fields_iff window window' dated_location shifted (by omega))
  · exact (iff_of_eq (Decoded.location.injEq _ _)).trans
      (dated_fields_iff window window' dated_location shifted (by omega))
  · exact (iff_of_eq (Decoded.status.injEq _ _)).trans
      (status_fields_iff window window' (by omega) (by rw [List.length_cons]; omega))
  · exact (iff_of_eq (Decoded.status.injEq _ _)).trans
      (status_fields_iff window window' (by omega) (by rw [List.length_cons]; omega))
  · exact (iff_of_eq (Decoded.alarm.injEq _ _)).trans
      (dated_fields_iff window window' dated_alarm shifted (by omega))
  · unfold parseInformationPacket
    rw [payloads]
    exact iff_of_true rfl trivial
  · unfold parseInformationPacket
    rw [payloads]
    exact iff_of_true rfl trivial
  · exact (iff_of_eq (Decoded.acknowledgement.injEq _ _)).trans
      (acknowledgement_fields_iff (List.ne_nil_of_length_pos (by omega))
        (List.ne_nil_of_length_pos (by omega)))
  · unfold parseCommandResponse replyText
    rw [payloads]
    exact iff_of_true rfl trivial
  · split <;> simp_all

/-- A payload is handled alike in both frames exactly if the windows of its decoder agree. -/
theorem frames_alike_iff :
    Alike cfg ip protocol (shortFrame protocol (behind body serial checksum))
        (longFrame protocol (behind body serial checksum')) ↔
      Agreeing protocol (behind body serial checksum)
        (protocol :: behind body serial checksum') := by
  have decoded := fields_iff protocol body serial checksum checksum' size size' size''
  constructor
  · intro alike
    exact decoded.mp alike.fields
  · intro agreeing
    have same := decoded.mpr agreeing
    refine ⟨same, erase_processPacket cfg ip (.inl short_marker) (.inr long_marker) ?_ ?_
      (serials_agree protocol body serial checksum checksum' size size' size'') same⟩
    · rw [protocolIndex_short]
      rfl
    · rw [protocolIndex_long]
      rfl

end Pair

def loginBehind : Bytes :=
  behind [0x01, 0x23, 0x45, 0x67, 0x89, 0x01, 0x23, 0x45] [0, 1] [0x8C, 0xDD]

/-- In a long frame the identity is read one byte early. -/
theorem login_read_early :
    (parseLoginPacket (shortFrame 0x01 loginBehind)).imei = "123456789012345".toList ∧
      (parseLoginPacket (longFrame 0x01 loginBehind)).imei = "101234567890123".toList ∧
      ¬ Alike defaults [] 0x01 (shortFrame 0x01 loginBehind) (longFrame 0x01 loginBehind) := by
  have read : (parseLoginPacket (shortFrame 0x01 loginBehind)).imei = "123456789012345".toList := by
    decide +kernel
  have read' : (parseLoginPacket (longFrame 0x01 loginBehind)).imei = "101234567890123".toList := by
    decide +kernel
  refine ⟨read, read', ?_⟩
  intro alike
  have same := congrArg Login.imei (Decoded.login.inj alike.fields)
  rw [read, read'] at same
  exact absurd same (by decide)

/-- A configuration text is found in both frames. -/
theorem information_alike :
    Alike defaults [] 0x94
      (shortFrame 0x94 (behind (asciiBytes "ALM1=C5;".toList) [0, 7] [0xAA, 0xBB]))
      (longFrame 0x94 (behind (asciiBytes "ALM1=C5;".toList) [0, 7] [0xCC, 0xDD])) :=
  (frames_alike_iff defaults [] 0x94 _ [0, 7] [0xAA, 0xBB] [0xCC, 0xDD] rfl rfl rfl).mpr trivial

end TrackerGateway.Packets.LongFrames
