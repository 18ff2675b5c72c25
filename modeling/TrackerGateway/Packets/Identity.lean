/- module: TrackerGateway/Packets/Identity
   source: src/parsers/v5_parser.py, src/parsers/gps103_parser.py, src/parsers/teltonika_parser.py
   digest: Which identities come back from the logins of all three families. -/

import TrackerGateway.Config
import TrackerGateway.Fixtures.Logins

set_option autoImplicit false
set_option relaxedAutoImplicit false

namespace TrackerGateway.Packets.Identity

open Foundation.Wire
open TrackerGateway.Runtime
open Fixtures.Logins
open Parsers.Gps103 (imeiRun)

structure Imei where
  digits : Text
  fifteen : digits.length = 15
  decimal : isDigits digits = true

def recovered (family : Family) (imei : Imei) (serial : Nat) : Except Exn Text :=
  match family with
  | .gt06 => .ok (Parsers.V5.parseLoginPacket (gt06Login imei.digits serial)).imei
  | .gps103 =>
      match Parsers.Gps103.extractMessages defaults (gps103Login imei.digits) with
      | .ok ([raw], []) => match Parsers.Gps103.classify raw with
          | (.login, text) => Parsers.Gps103.parseLogin text
          | (_, _) => .error (.gps103ParseError "login without a valid IMEI".toList)
      | _ => .error (.gps103ParseError "login without a valid IMEI".toList)
  | .teltonika => Parsers.Teltonika.parseLogin (loginFrame imei.digits)

namespace Imei

variable (imei : Imei) (serial : Nat)

theorem isDigit {c : Char} (member : c ∈ imei.digits) : c.isDigit = true := by
  exact (isDigits_iff.mp imei.decimal).2 c member

theorem hexDigit_of_isDigit {c : Char} (digit : c.isDigit = true) :
    ∃ n < 16, c = hexDigit n := by
  have range := isDigit_bounds digit
  refine ⟨c.toNat - 48, by omega, ?_⟩
  rw [hexDigit, if_pos (by omega), Nat.add_sub_cancel' range.1, Char.ofNat_toNat]

/-- All zeros in front of the digits are removed, not only the one that fills the eighth byte. -/
theorem recovered_gt06 :
    recovered .gt06 imei serial = .ok (imei.digits.dropWhile (· = '0')) := by
  have filled : zfill 16 imei.digits = '0' :: imei.digits := by
    rw [zfill, imei.fifteen]
    rfl
  obtain ⟨same, length⟩ := hex_unhex (t := '0' :: imei.digits) (by
    rw [List.length_cons, imei.fifteen]) (by
    intro c member
    rcases List.mem_cons.mp member with rfl | digit
    · exact ⟨0, by decide, rfl⟩
    · exact hexDigit_of_isDigit (imei.isDigit digit))
  rw [List.length_cons, imei.fifteen] at length
  have place : slice (gt06Login imei.digits serial) 4 12 = unhex ('0' :: imei.digits) := by
    obtain ⟨front, back, whole, four⟩ : ∃ front back, gt06Login imei.digits serial =
        front ++ (unhex ('0' :: imei.digits) ++ back) ∧ front.length = 4 := by
      rw [gt06Login, filled]
      generalize unhex ('0' :: imei.digits) = packed
      simp only [List.append_assoc, List.singleton_append]
      exact ⟨[0x78, 0x78, _, 0x01], _, rfl, rfl⟩
    rw [whole]
    exact slice_middle four.symm (by rw [four, length])
  rw [recovered, Parsers.V5.parseLoginPacket, place, same]
  rfl

def greeting : Text := '#' :: '#' :: ',' :: 'i' :: 'm' :: 'e' :: 'i' :: ':' ::
  (imei.digits ++ [',', 'A'])

theorem greeting_ascii {c : Char} (member : c ∈ imei.greeting) : c.toNat < 128 ∧ c ≠ ';' := by
  have before : "##,imei:".toList.all (fun c => c.toNat < 128 && c != ';') = true := by decide
  have behind : ",A".toList.all (fun c => c.toNat < 128 && c != ';') = true := by decide
  have whole : imei.greeting = "##,imei:".toList ++ imei.digits ++ ",A".toList := by simp [greeting]
  rw [whole, List.mem_append, List.mem_append] at member
  rcases member with (front | digit) | back
  · simpa using List.all_eq_true.mp before c front
  · refine ⟨ascii_of_isDigit (imei.isDigit digit), ?_⟩
    rintro rfl
    cases imei.isDigit digit
  · simpa using List.all_eq_true.mp behind c back

theorem extractMessages_gps103 :
    Parsers.Gps103.extractMessages defaults (gps103Login imei.digits) =
      .ok ([asciiBytes imei.greeting], []) := by
  have whole : gps103Login imei.digits =
      asciiBytes imei.greeting ++ Parsers.Gps103.terminator :: [] := by
    simp [gps103Login, greeting, asciiBytes, Parsers.Gps103.terminator]
  have open_ : Parsers.Gps103.terminator ∉ asciiBytes imei.greeting :=
    notMem_asciiBytes (by decide) fun c member => imei.greeting_ascii member
  have last : (asciiBytes imei.greeting).getLast? = some 0x41 := by
    have ends : imei.greeting = "##,imei:".toList ++ imei.digits ++ [','] ++ ['A'] := by
      simp [greeting]
    rw [asciiBytes, ends, List.map_append, List.map_singleton, List.getLast?_concat]
    rfl
  have trimmed : stripBytes (asciiBytes imei.greeting) = asciiBytes imei.greeting := by
    apply trim_eq_self
    · intro b first
      obtain rfl : 0x23 = b := Option.some.inj first
      rfl
    · intro b ends
      rw [last] at ends
      obtain rfl := Option.some.inj ends
      rfl
  rw [Parsers.Gps103.extractMessages, whole, splitOn_part open_]
  change (if _ then _ else Except.ok (List.filter _ [stripBytes (asciiBytes imei.greeting)], _)) = _
  rw [trimmed]
  rfl

theorem recovered_gps103 : recovered .gps103 imei serial = .ok imei.digits := by
  have taken : (imei.digits ++ [',', 'A']).takeWhile Char.isDigit = imei.digits := by
    rw [List.takeWhile_append_of_pos fun c member => imei.isDigit member]
    exact List.append_nil _
  have run : imeiRun (imei.digits ++ [',', 'A']) = some imei.digits := by
    rw [imeiRun, taken, imei.fifteen]
    simp [List.take_of_length_le, imei.fifteen]
  have trimmed : strip imei.greeting = imei.greeting := by
    simp [greeting, strip, trim, isSpace]
  have found : Parsers.Gps103.parseLogin imei.greeting = .ok imei.digits := by
    simp [greeting, Parsers.Gps103.parseLogin, searchAfter, List.isPrefixOf, run]
  have login : Parsers.Gps103.classify (asciiBytes imei.greeting) = (.login, imei.greeting) := by
    have ascii : ∀ c ∈ imei.greeting, c.toNat < 128 := fun c member =>
      (imei.greeting_ascii member).1
    rw [Parsers.Gps103.classify, asciiStrict_asciiBytes ascii]
    dsimp only
    rw [trimmed]
    simp [greeting, occursIn, searchAfter, List.isPrefixOf]
  simp only [recovered, extractMessages_gps103, login]
  exact found

theorem recovered_teltonika : recovered .teltonika imei serial = .ok imei.digits := by
  have ascii : ∀ c ∈ imei.digits, c.toNat < 128 := fun c member =>
    ascii_of_isDigit (imei.isDigit member)
  have frame : Parsers.Teltonika.isLoginFrame (loginFrame imei.digits) = true := by
    simp [Parsers.Teltonika.isLoginFrame, loginFrame, Parsers.Teltonika.loginFrameLen,
      Parsers.Teltonika.loginPrefix, asciiBytes, imei.fifteen]
  have behind : (loginFrame imei.digits).drop 2 = asciiBytes imei.digits := rfl
  rw [recovered, Parsers.Teltonika.parseLogin, frame, behind, asciiStrict_asciiBytes ascii]
  simp [imei.decimal]

end Imei

section Agreement

variable {imei other : Imei} {serial serial' : Nat} {family family' : Family}

theorem dropWhile_eq_self_iff (imei : Imei) :
    imei.digits.dropWhile (· = '0') = imei.digits ↔ imei.digits.head? ≠ some '0' := by
  have nonempty := imei.fifteen
  cases shape : imei.digits with
  | nil => simp [shape] at nonempty
  | cons first rest =>
      rw [List.dropWhile_cons]
      split
      case isTrue zero =>
        refine iff_of_false ?_ (by simpa using zero)
        intro same
        have suffix := List.dropWhile_suffix (p := fun c => decide (c = '0')) (l := rest)
        have shorter := suffix.length_le
        rw [same, List.length_cons] at shorter
        omega
      case isFalse other => exact iff_of_true rfl (by simpa using other)

/-- Zeros in front of fifteen digits are known from what is left of them. -/
theorem dropWhile_injective
    (same : imei.digits.dropWhile (· = '0') = other.digits.dropWhile (· = '0')) :
    imei.digits = other.digits := by
  have zeros : ∀ t : Text,
      t.takeWhile (· = '0') = List.replicate (t.length - (t.dropWhile (· = '0')).length) '0' := by
    intro t
    have whole := congrArg List.length (List.takeWhile_append_dropWhile (p := (· = '0')) (l := t))
    rw [List.length_append] at whole
    rw [List.eq_replicate_iff]
    refine ⟨by omega, ?_⟩
    intro c member
    simpa using List.mem_takeWhile_imp member
  rw [← List.takeWhile_append_dropWhile (p := (· = '0')) (l := imei.digits),
    ← List.takeWhile_append_dropWhile (p := (· = '0')) (l := other.digits), zeros, zeros, same,
    imei.fifteen, other.fifteen]

theorem eq_of_dropWhile (same : imei.digits.dropWhile (· = '0') = other.digits) :
    imei.digits = other.digits := by
  have whole : imei.digits.dropWhile (· = '0') = imei.digits := by
    apply (List.dropWhile_suffix _).eq_of_length
    rw [same, imei.fifteen, other.fifteen]
  rw [← whole, same]

theorem recovered_eq (family : Family) (imei : Imei) (serial : Nat) :
    recovered family imei serial =
      .ok (if family = .gt06 then imei.digits.dropWhile (· = '0') else imei.digits) := by
  cases family with
  | gt06 => exact imei.recovered_gt06 serial
  | gps103 => exact imei.recovered_gps103 serial
  | teltonika => exact imei.recovered_teltonika serial

theorem recovered_injective
    (same : recovered family imei serial = recovered family' other serial') :
    imei.digits = other.digits := by
  rw [recovered_eq, recovered_eq] at same
  have keys := Except.ok.inj same
  by_cases one : family = .gt06 <;> by_cases two : family' = .gt06
  · rw [if_pos one, if_pos two] at keys
    exact dropWhile_injective keys
  · rw [if_pos one, if_neg two] at keys
    exact eq_of_dropWhile keys
  · rw [if_neg one, if_pos two] at keys
    exact (eq_of_dropWhile keys.symm).symm
  · rwa [if_neg one, if_neg two] at keys

/-- The three families recover an identity, and never that of another device, exactly when it does
not begin with a zero. -/
theorem imeis_agree_iff (imei : Imei) (serial : Nat) :
    ((∀ family, recovered family imei serial = .ok imei.digits) ∧
      ∀ other : Imei, other.digits ≠ imei.digits → ∀ family family' serial',
        recovered family' other serial' ≠ recovered family imei serial) ↔
      imei.digits.head? ≠ some '0' := by
  constructor
  · rintro ⟨recover, -⟩
    have same := recover .gt06
    rw [imei.recovered_gt06] at same
    exact (dropWhile_eq_self_iff imei).mp (Except.ok.inj same)
  · intro first
    constructor
    · intro family
      rw [recovered_eq, (dropWhile_eq_self_iff imei).mpr first, ite_self]
    · intro other apart family family' serial' same
      exact apart (recovered_injective same)

end Agreement

def leadingZero : Imei := ⟨"012345678901234".toList, by decide, by decide⟩

theorem leading_zero_lost :
    recovered .gt06 leadingZero 1 = .ok "12345678901234".toList ∧
      recovered .gt06 leadingZero 1 ≠ .ok leadingZero.digits ∧
      recovered .gps103 leadingZero 1 = .ok leadingZero.digits ∧
      recovered .teltonika leadingZero 1 = .ok leadingZero.digits := by
  decide +kernel

end TrackerGateway.Packets.Identity
