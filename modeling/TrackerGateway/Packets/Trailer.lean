/- module: TrackerGateway/Packets/Trailer
   source: src/utils/packet_buffer.py, src/parsers/v5_parser.py
   digest: Which short frames are decoded without reading their serial, checksum and stop bytes. -/

import TrackerGateway.Packets.Fields

set_option autoImplicit false
set_option relaxedAutoImplicit false

namespace TrackerGateway.Packets.Trailer

open Foundation.Wire
open TrackerGateway.Runtime
open Parsers.V5

def Emitted (f : Bytes) : Prop := ∃ buffer, f ∈ (extractPackets buffer).1

theorem length_of_mem {buffer f : Bytes} (member : f ∈ (extractPackets buffer).1)
    (marker : f.take 2 = shortMarker) : f.length = byteAt f 2 + 5 := by
  induction buffer using extractPackets.induct with
  | case1 buffer short =>
      rw [extractPackets, dif_pos short] at member
      cases member
  | case2 buffer long short total missing =>
      rw [extractPackets, dif_neg long, if_pos short, if_pos missing] at member
      cases member
  | case3 buffer long short total enough packets rest rest_eq ih =>
      rw [extractPackets, dif_neg long, if_pos short, if_neg enough] at member
      rcases List.mem_cons.mp member with rfl | later
      · have size : (buffer.take total).length = total := by
          rw [List.length_take]
          omega
        have declared : byteAt (buffer.take total) 2 = byteAt buffer 2 := by
          unfold byteAt
          rw [List.getD_eq_getElem?_getD, List.getD_eq_getElem?_getD, List.getElem?_take,
            if_pos (show 2 < total by omega)]
        rw [size, declared]
        rfl
      · exact ih later
  | case4 buffer long short' long' total missing =>
      rw [extractPackets, dif_neg long, if_neg short', if_pos long', if_pos missing] at member
      cases member
  | case5 buffer long short' long' total enough packets rest rest_eq ih =>
      rw [extractPackets, dif_neg long, if_neg short', if_pos long', if_neg enough] at member
      rcases List.mem_cons.mp member with rfl | later
      · obtain ⟨tail, rfl⟩ := List.isPrefixOf_iff_prefix.mp long'
        have start : ((longMarker ++ tail).take total).take 2 = longMarker := by
          rw [List.take_take, min_eq_left (show 2 ≤ total by omega)]
          rfl
        rw [start] at marker
        cases marker
      · exact ih later
  | case6 buffer long short' long' ih =>
      rw [extractPackets, dif_neg long, if_neg short', if_neg long'] at member
      exact ih member

theorem emitted_of_length {f : Bytes} (marker : f.take 2 = shortMarker)
    (size : f.length = byteAt f 2 + 5) : Emitted f := by
  refine ⟨f, ?_⟩
  have short : shortMarker.isPrefixOf f = true := by
    rw [List.isPrefixOf_iff_prefix, ← marker]
    exact List.take_prefix 2 f
  have total : (f.getD 2 0).toNat + 5 = f.length := size.symm
  rw [extractPackets, dif_neg (by omega), if_pos short]
  dsimp only
  rw [total, if_neg (lt_irrefl _), List.take_length]
  exact List.mem_cons_self

/-- What the decoder of a protocol byte returns: the identity of a login, or the fields of the
others, of which there are none when the decoder raises. -/
inductive Content
  | identity (imei : Text)
  | position (fields : Option Location)
  | status (fields : Option TerminalStatus)
  | alarm (fields : Option Alarm)
  | other
  deriving DecidableEq

def content (f : Bytes) : Content :=
  match byteAt f 3 with
  | 0x01 => .identity (parseLoginPacket f).imei
  | 0x12 | 0x22 => .position (parseLocationPacket f).toOption
  | 0x13 | 0x23 => .status (parseTerminalStatus f).toOption
  | 0x26 => .alarm (parseAlarmPacket f).toOption
  | _ => .other

/-- The frames have one length and one protocol byte, and differ in the last six bytes only. -/
structure Twin (f g : Bytes) : Prop where
  size : g.length = f.length
  kind : byteAt g 3 = byteAt f 3
  body : g.take (f.length - 6) = f.take (f.length - 6)

/-- The trailer of the frame has no influence on what is decoded. -/
def Independent (f : Bytes) : Prop :=
  ∀ g, Emitted g → g.take 2 = shortMarker → Twin f g → content g = content f

/-- The frame is too short for its decoder, long enough to hold all that the decoder reads in front
of the trailer, or without a date. -/
def Shielded (f : Bytes) : Prop :=
  match byteAt f 3 with
  | 0x01 => 18 ≤ f.length
  | 0x12 | 0x22 => f.length < 20 ∨ 28 ≤ f.length ∨ dateAt f 3 = none
  | 0x13 | 0x23 => f.length < 7 ∨ 13 ≤ f.length
  | 0x26 => f.length < 34 ∨ 40 ≤ f.length ∨ dateAt f 3 = none
  | _ => True

section Twins

variable {f g : Bytes}

theorem Twin.same (twin : Twin f g) {n : Nat} (front : n + 6 ≤ f.length) :
    ∀ i < n, g[i]? = f[i]? := by
  intro i small
  have here : (g.take (f.length - 6))[i]? = (f.take (f.length - 6))[i]? := by rw [twin.body]
  have inside : i < f.length - 6 := by omega
  rwa [List.getElem?_take, List.getElem?_take, if_pos inside, if_pos inside] at here

theorem byteAt_congr {i : Nat} (same : g[i]? = f[i]?) : byteAt g i = byteAt f i := by
  unfold byteAt
  rw [List.getD_eq_getElem?_getD, List.getD_eq_getElem?_getD, same]

theorem dateAt_congr (same : ∀ i < 10, g[i]? = f[i]?) : dateAt g 3 = dateAt f 3 := by
  unfold dateAt
  rw [byteAt_congr (same 4 (by omega)), byteAt_congr (same 5 (by omega)),
    byteAt_congr (same 6 (by omega)), byteAt_congr (same 7 (by omega)),
    byteAt_congr (same 8 (by omega)), byteAt_congr (same 9 (by omega))]

theorem login_same (twin : Twin f g) (long : 18 ≤ f.length) :
    (parseLoginPacket g).imei = (parseLoginPacket f).imei := by
  unfold parseLoginPacket
  rw [slice_congr (twin.same (show 12 + 6 ≤ f.length by omega)) (le_refl 12)]

theorem location_same (twin : Twin f g)
    (shielded : f.length < 20 ∨ 28 ≤ f.length ∨ dateAt f 3 = none) :
    (parseLocationPacket g).toOption = (parseLocationPacket f).toOption := by
  rcases shielded with short | long | undated
  · rw [parseLocationPacket_raises (.inl (by rw [twin.size]; exact short)),
      parseLocationPacket_raises (.inl short)]
  · rw [parseLocationPacket_congr (twin.same (show 22 + 6 ≤ f.length by omega))]
  · by_cases long : 20 ≤ f.length
    · have same := dateAt_congr (twin.same (show 10 + 6 ≤ f.length by omega))
      rw [parseLocationPacket_raises (.inr (same.trans undated)),
        parseLocationPacket_raises (.inr undated)]
    · rw [parseLocationPacket_raises (.inl (by rw [twin.size]; omega)),
        parseLocationPacket_raises (.inr undated)]

theorem status_same (twin : Twin f g) (shielded : f.length < 7 ∨ 13 ≤ f.length) :
    (parseTerminalStatus g).toOption = (parseTerminalStatus f).toOption := by
  rcases shielded with short | long
  · rw [parseTerminalStatus_raises (by rw [twin.size]; exact short),
      parseTerminalStatus_raises short]
  · rw [parseTerminalStatus_congr (twin.same (show 7 + 6 ≤ f.length by omega))]

theorem alarm_same (twin : Twin f g)
    (shielded : f.length < 34 ∨ 40 ≤ f.length ∨ dateAt f 3 = none) :
    (parseAlarmPacket g).toOption = (parseAlarmPacket f).toOption := by
  rcases shielded with short | long | undated
  · rw [parseAlarmPacket_raises (.inl (by rw [twin.size]; exact short)),
      parseAlarmPacket_raises (.inl short)]
  · rw [parseAlarmPacket_congr (twin.same (show 34 + 6 ≤ f.length by omega))]
  · by_cases long : 34 ≤ f.length
    · have same := dateAt_congr (twin.same (show 10 + 6 ≤ f.length by omega))
      rw [parseAlarmPacket_raises (.inr (same.trans undated)),
        parseAlarmPacket_raises (.inr undated)]
    · rw [parseAlarmPacket_raises (.inl (by rw [twin.size]; omega)),
        parseAlarmPacket_raises (.inr undated)]

theorem independent_of_shielded (shielded : Shielded f) : Independent f := by
  intro g _ _ twin
  unfold Shielded at shielded
  unfold content
  rw [twin.kind]
  split at shielded
  · rw [login_same twin shielded]
  · rw [location_same twin shielded]
  · rw [location_same twin shielded]
  · rw [status_same twin shielded]
  · rw [status_same twin shielded]
  · rw [alarm_same twin shielded]
  · rfl

end Twins

section Change

variable {f : Bytes} {i : Nat}

def changed (f : Bytes) (i : Nat) : Bytes := f.set i (f.getD i 0 + 16)

theorem changed_getElem?_ne {j : Nat} (distinct : j ≠ i) : (changed f i)[j]? = f[j]? :=
  List.getElem?_set_ne distinct.symm

theorem byteAt_changed_ne {j : Nat} (distinct : j ≠ i) : byteAt (changed f i) j = byteAt f j :=
  byteAt_congr (changed_getElem?_ne distinct)

theorem byteAt_changed (inside : i < f.length) :
    byteAt (changed f i) i = (byteAt f i + 16) % 256 := by
  unfold byteAt changed
  rw [List.getD_eq_getElem?_getD, List.getElem?_set_self inside, Option.getD_some,
    UInt8.toNat_add]
  rfl

@[simp] theorem changed_length : (changed f i).length = f.length := List.length_set

theorem changed_take (late : 4 ≤ i) : (changed f i).take 2 = f.take 2 := by
  unfold changed
  exact List.take_set_of_le (by omega)

/-- A change behind the header and inside the last six bytes leads to another frame that the framer
emits. -/
theorem changed_twin (emitted : Emitted f) (marker : f.take 2 = shortMarker) (late : 4 ≤ i)
    (trailer : f.length - 6 ≤ i) :
    Emitted (changed f i) ∧ (changed f i).take 2 = shortMarker ∧ Twin f (changed f i) := by
  obtain ⟨buffer, member⟩ := emitted
  have marked : (changed f i).take 2 = shortMarker := (changed_take late).trans marker
  have size : (changed f i).length = byteAt (changed f i) 2 + 5 := by
    rw [changed_length, byteAt_changed_ne (by omega), length_of_mem member marker]
  refine ⟨emitted_of_length marked size, marked, changed_length, byteAt_changed_ne (by omega), ?_⟩
  unfold changed
  exact List.take_set_of_le trailer

theorem changed_date (late : 10 ≤ i) : dateAt (changed f i) 3 = dateAt f 3 :=
  dateAt_congr fun j small => changed_getElem?_ne (by omega)

theorem login_changed (low : 4 ≤ i) (high : i < 12) (inside : i < f.length) :
    (parseLoginPacket (changed f i)).imei ≠ (parseLoginPacket f).imei := by
  intro same
  have numbers := (hex_dropWhile_zero_eq_iff _ _).mp same
  have windows := bigEndian_inj (by simp [slice_length]) numbers
  have here := (slice_eq_iff _ _ _ _).mp windows i low high
  have bytes := byteAt_congr here
  rw [byteAt_changed inside] at bytes
  have small := byteAt_lt f i
  omega

theorem status_changed (long : 7 ≤ f.length) :
    (parseTerminalStatus (changed f 6)).toOption ≠ (parseTerminalStatus f).toOption := by
  rw [parseTerminalStatus_of_length long, parseTerminalStatus_of_length (by simpa using long)]
  intro same
  have signals := congrArg (fun s => s.map TerminalStatus.gsmSignal) same
  have bytes : byteAt (changed f 6) 6 = byteAt f 6 := by simpa [Except.toOption] using signals
  rw [byteAt_changed (by omega)] at bytes
  have small := byteAt_lt f 6
  omega

theorem heading_changed (long : 22 ≤ f.length) :
    bigEndian (slice (changed f 21) 20 22) % 1024 ≠ bigEndian (slice f 20 22) % 1024 := by
  have window : ∀ b : Bytes, 22 ≤ b.length →
      bigEndian (slice b 20 22) = byteAt b 20 * 256 + byteAt b 21 := by
    intro b long
    have bytes : slice b 20 22 = [b.getD 20 0, b.getD 21 0] := by
      rw [slice, List.drop_eq_getElem_cons (by simp; omega),
        List.drop_eq_getElem_cons (by simp; omega)]
      simp [List.getD_eq_getElem?_getD, List.getElem?_eq_getElem (show 20 < b.length by omega),
        List.getElem?_eq_getElem (show 21 < b.length by omega)]
    rw [bytes]
    simp [bigEndian, byteAt]
  rw [window f long, window _ (by simpa using long), byteAt_changed (by omega),
    byteAt_changed_ne (by decide)]
  have small := byteAt_lt f 21
  omega

theorem location_changed (long : 20 ≤ f.length) (short : f.length < 28) {date : Civil}
    (dated : dateAt f 3 = some date) : ∃ i, 10 ≤ i ∧ f.length - 6 ≤ i ∧
      (parseLocationPacket (changed f i)).toOption ≠ (parseLocationPacket f).toOption := by
  obtain ⟨location, parsed, -, speed, heading⟩ := parseLocationPacket_of_date long dated
  by_cases small : f.length ≤ 25
  · refine ⟨19, by decide, by omega, ?_⟩
    have dated' : dateAt (changed f 19) 3 = some date := by rw [changed_date (by decide), dated]
    obtain ⟨location', parsed', -, speed', -⟩ :=
      parseLocationPacket_of_date (by simpa using long) dated'
    rw [parsed, parsed']
    intro same
    obtain rfl : location' = location := by simpa [Except.toOption] using same
    rw [speed, byteAt_changed (by omega)] at speed'
    have bound := byteAt_lt f 19
    omega
  · refine ⟨21, by decide, by omega, ?_⟩
    have dated' : dateAt (changed f 21) 3 = some date := by rw [changed_date (by decide), dated]
    obtain ⟨location', parsed', -, -, heading'⟩ :=
      parseLocationPacket_of_date (by simpa using long) dated'
    rw [parsed, parsed']
    intro same
    obtain rfl : location' = location := by simpa [Except.toOption] using same
    rw [heading] at heading'
    exact heading_changed (by omega) heading'.symm

theorem alarm_changed (long : 34 ≤ f.length) {date : Civil} (dated : dateAt f 3 = some date) :
    (parseAlarmPacket (changed f 33)).toOption ≠ (parseAlarmPacket f).toOption := by
  obtain ⟨alarm, parsed, -, type_, -⟩ := parseAlarmPacket_of_date long dated
  have dated' : dateAt (changed f 33) 3 = some date := by rw [changed_date (by decide), dated]
  obtain ⟨alarm', parsed', -, type', -⟩ := parseAlarmPacket_of_date (by simpa using long) dated'
  rw [parsed, parsed']
  intro same
  obtain rfl : alarm' = alarm := by simpa [Except.toOption] using same
  rw [type_, byteAt_changed (by omega)] at type'
  have bound := byteAt_lt f 33
  omega

end Change

theorem content_changed {f : Bytes} {i : Nat} (emitted : Emitted f)
    (marker : f.take 2 = shortMarker)
    (independent : Independent f) (late : 4 ≤ i) (trailer : f.length - 6 ≤ i) :
    content (changed f i) = content f := by
  obtain ⟨emitted', marker', twin⟩ := changed_twin emitted marker late trailer
  exact independent _ emitted' marker' twin

theorem shielded_of_independent {f : Bytes} (emitted : Emitted f) (marker : f.take 2 = shortMarker)
    (independent : Independent f) : Shielded f := by
  have size : 5 ≤ f.length := by
    obtain ⟨buffer, member⟩ := emitted
    have declared := length_of_mem member marker
    omega
  have same : ∀ i, 4 ≤ i → f.length - 6 ≤ i → content (changed f i) = content f :=
    fun i late trailer => content_changed emitted marker independent late trailer
  have kept : ∀ i, 4 ≤ i → byteAt (changed f i) 3 = byteAt f 3 :=
    fun i late => byteAt_changed_ne (by omega)
  have located : ∀ {date}, dateAt f 3 = some date → 20 ≤ f.length → f.length < 28 →
      ∃ i, 4 ≤ i ∧ f.length - 6 ≤ i ∧
        (parseLocationPacket (changed f i)).toOption ≠ (parseLocationPacket f).toOption := by
    intro date dated long short
    obtain ⟨i, late, trailer, differs⟩ := location_changed long short dated
    exact ⟨i, by omega, trailer, differs⟩
  have position : (∀ i, 4 ≤ i → f.length - 6 ≤ i →
      (parseLocationPacket (changed f i)).toOption = (parseLocationPacket f).toOption) →
      f.length < 20 ∨ 28 ≤ f.length ∨ dateAt f 3 = none := by
    intro unchanged
    by_contra exposed
    obtain ⟨date, dated⟩ := Option.ne_none_iff_exists'.mp
      fun undated => exposed (.inr (.inr undated))
    obtain ⟨i, late, trailer, differs⟩ := located dated (by omega) (by omega)
    exact differs (unchanged i late trailer)
  unfold Shielded
  unfold content at same
  split
  · next kind =>
      by_contra exposed
      have changed_ := same (min 11 (f.length - 1)) (by omega) (by omega)
      rw [kept _ (by omega), kind] at changed_
      exact login_changed (by omega) (by omega) (by omega) (Content.identity.inj changed_)
  · next kind =>
      apply position
      intro i late trailer
      have changed_ := same i late trailer
      rw [kept i late, kind] at changed_
      exact Content.position.inj changed_
  · next kind =>
      apply position
      intro i late trailer
      have changed_ := same i late trailer
      rw [kept i late, kind] at changed_
      exact Content.position.inj changed_
  · next kind =>
      by_contra exposed
      have changed_ := same 6 (by omega) (by omega)
      rw [kept 6 (by omega), kind] at changed_
      exact status_changed (by omega) (Content.status.inj changed_)
  · next kind =>
      by_contra exposed
      have changed_ := same 6 (by omega) (by omega)
      rw [kept 6 (by omega), kind] at changed_
      exact status_changed (by omega) (Content.status.inj changed_)
  · next kind =>
      by_contra exposed
      obtain ⟨date, dated⟩ := Option.ne_none_iff_exists'.mp
        fun undated => exposed (.inr (.inr undated))
      have changed_ := same 33 (by omega) (by omega)
      rw [kept 33 (by omega), kind] at changed_
      exact alarm_changed (by omega) dated (Content.alarm.inj changed_)
  · trivial

/-- The trailer of a short frame is not read as data exactly if the frame is shielded. -/
theorem trailer_unread_iff (f : Bytes) (emitted : Emitted f) (marker : f.take 2 = shortMarker) :
    Independent f ↔ Shielded f :=
  ⟨shielded_of_independent emitted marker, independent_of_shielded⟩

def shortStatus (serial : UInt8) : Bytes :=
  [0x78, 0x78, 0x07, 0x13, 0x46, 0x04, serial, 1, 0xAA, 0xBB, 0x0D, 0x0A]

/-- The signal strength of a status packet with two payload bytes is read from its serial number. -/
theorem serial_read_as_signal : Emitted (shortStatus 0) ∧ Emitted (shortStatus 1) ∧
    (shortStatus 1).take 2 = shortMarker ∧ Twin (shortStatus 0) (shortStatus 1) ∧
    content (shortStatus 0) ≠ content (shortStatus 1) ∧ ¬ Independent (shortStatus 0) := by
  have emitted : ∀ serial, Emitted (shortStatus serial) := fun serial =>
    emitted_of_length rfl rfl
  have twin : Twin (shortStatus 0) (shortStatus 1) := ⟨by decide, by decide, by decide⟩
  have differs : content (shortStatus 0) ≠ content (shortStatus 1) := by decide +kernel
  refine ⟨emitted 0, emitted 1, rfl, twin, differs, ?_⟩
  intro independent
  exact differs (independent _ (emitted 1) rfl twin).symm

/-- A status frame with the five payload bytes of the layout is decoded from them. -/
theorem trailer_unread_status :
    Independent [0x78, 0x78, 0x0A, 0x13, 0x46, 4, 3, 0, 1, 0, 1, 0xAA, 0xBB, 0x0D, 0x0A] :=
  (trailer_unread_iff _ (emitted_of_length (by decide) (by decide)) (by decide)).mpr
    (.inr (by decide))

end TrackerGateway.Packets.Trailer
