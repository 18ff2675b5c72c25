/- module: TrackerGateway/Packets/WholeImei
   source: src/parsers/gps103_parser.py (classify, parse_login, parse_heartbeat, parse_tracker),
     src/services/gps103_handler.py (_authenticated_imei), src/utils/gps103_command_builder.py
   digest: Which logins name the whole identity that the other messages name. -/

import TrackerGateway.Packets.Fixes
import TrackerGateway.Services.Language

set_option autoImplicit false
set_option relaxedAutoImplicit false

namespace TrackerGateway.Packets.WholeImei

open Foundation.Coroutine (Executes Program)
open Foundation.Wire
open TrackerGateway.Runtime
open Packets.Fixes (Identified Overlong parseTracker_error_iff parseTracker_ok)
open Parsers.Gps103
open Services.Gps103Handler (authenticatedImei)
open Utils.Gps103CommandBuilder

/-- The runs of digits behind every `imei:` of a text, in order. -/
def imeiFields : Text → List Text
  | [] => []
  | c :: t =>
      if "imei:".toList.isPrefixOf (c :: t) then
        ((c :: t).drop 5).takeWhile Char.isDigit :: imeiFields t
      else imeiFields t

def isWhole (run : Text) : Bool := 10 ≤ run.length && run.length ≤ 17

/-- The identity stands behind an `imei:` and no digit follows it. -/
def Stands (imei text : Text) : Prop :=
  ∃ front back, text = front ++ "imei:".toList ++ imei ++ back ∧ isDigits imei = true ∧
    isWhole imei = true ∧ ∀ c ∈ back.head?, c.isDigit = false

/-- What the other messages and the commands do with an identity. -/
structure Usable (imei : Text) : Prop where
  heartbeat : classify (asciiBytes imei) = (.heartbeat, imei) ∧ parseHeartbeat imei = .ok imei
  tracker : ∀ cfg rest report,
    parseTracker cfg ("imei:".toList ++ imei ++ ',' :: rest) = .ok report → report.imei = imei
  accepted : ∀ cfg rest e, parseTracker cfg ("imei:".toList ++ imei ++ ',' :: rest) = .error e →
    Overlong (("imei:".toList ++ imei ++ ',' :: rest).splitOn ',')
  matched : Executes (authenticatedImei imei) [⟨.getImeiBySocket, some imei⟩] (.ok (some imei))
  command : ∀ code : Char, code.toNat < 128 →
    frame imei code = .ok (asciiBytes (frameText imei code))

/-- The identity that a login is read as stands in it as a whole and is usable; a login whose first
identity field is not whole is refused. -/
structure NamesWhole (text : Text) : Prop where
  stands : ∀ imei, parseLogin text = .ok imei → Stands imei text
  usable : ∀ imei, parseLogin text = .ok imei → Usable imei
  refused : (∀ run ∈ (imeiFields text).head?, isWhole run = false) →
    ∃ message, parseLogin text = .error (.gps103ParseError message)

/-- The first identity field is whole, or no field has as many as ten digits. -/
def Unambiguous (text : Text) : Prop :=
  (∃ run ∈ (imeiFields text).head?, isWhole run = true) ∨
    ∀ run ∈ imeiFields text, run.length < 10

section Search

variable {text run : Text}

theorem searchAfter_imeiRun (text : Text) : searchAfter "imei:".toList imeiRun text =
    ((imeiFields text).find? fun run => 10 ≤ run.length).map (·.take 17) := by
  induction text with
  | nil => rfl
  | cons c t ih =>
      rw [searchAfter, imeiFields, ih]
      by_cases here : "imei:".toList.isPrefixOf (c :: t) = true
      · rw [if_pos here, if_pos here, List.find?_cons]
        have drops : (c :: t).drop "imei:".toList.length = (c :: t).drop 5 := rfl
        rw [drops, imeiRun]
        generalize ((c :: t).drop 5).takeWhile Char.isDigit = run
        by_cases long : 10 ≤ run.length
        · simp [long]
        · simp [long]
      · rw [if_neg here, if_neg here]

theorem parseLogin_eq (text : Text) : parseLogin text =
    match (imeiFields text).find? fun run => 10 ≤ run.length with
    | some run => .ok (run.take 17)
    | none => .error (.gps103ParseError "login without a valid IMEI".toList) := by
  rw [parseLogin, searchAfter_imeiRun]
  cases (imeiFields text).find? fun run => 10 ≤ run.length <;> rfl

theorem stands_of_mem (member : run ∈ imeiFields text) :
    (∀ c ∈ run, c.isDigit = true) ∧ ∃ front back, text = front ++ "imei:".toList ++ run ++ back ∧
      ∀ c ∈ back.head?, c.isDigit = false := by
  induction text with
  | nil => cases member
  | cons c t ih =>
      have later : run ∈ imeiFields t → (∀ c ∈ run, c.isDigit = true) ∧ ∃ front back,
          c :: t = front ++ "imei:".toList ++ run ++ back ∧
            ∀ c ∈ back.head?, c.isDigit = false := by
        intro deeper
        obtain ⟨digits, front, back, whole, ends⟩ := ih deeper
        exact ⟨digits, c :: front, back, congrArg (c :: ·) whole, ends⟩
      rw [imeiFields] at member
      split at member
      · next here =>
          rcases List.mem_cons.mp member with rfl | deeper
          · obtain ⟨rest, whole⟩ := List.isPrefixOf_iff_prefix.mp here
            have behind : (c :: t).drop 5 = rest := by
              rw [← whole]
              exact List.drop_left' rfl
            rw [behind]
            refine ⟨fun d digit => List.mem_takeWhile_imp digit, [],
              rest.dropWhile Char.isDigit, ?_, ?_⟩
            · rw [← whole, List.nil_append, List.append_assoc, List.takeWhile_append_dropWhile]
            · intro d first
              have stopped := List.head?_dropWhile_not Char.isDigit rest
              rw [Option.mem_def.mp first] at stopped
              exact stopped
          · exact later deeper
      · exact later member

end Search

section Use

variable {imei : Text} (digits : ∀ c ∈ imei, c.isDigit = true) (whole : isWhole imei = true)

include digits whole

theorem isDigits_of_whole : isDigits imei = true := by
  have long : imei ≠ [] := by
    rintro rfl
    exact absurd whole (by decide)
  exact isDigits_iff.mpr ⟨long, digits⟩

theorem isCommandImei_of_whole : isCommandImei imei = true := by
  rw [isCommandImei, isDigits_of_whole digits whole, Bool.true_and]
  exact whole

theorem isImei_of_whole : isImei imei = true := by
  have no_feed : imei.getLast? ≠ some '\n' := by
    intro feed
    exact absurd (digits '\n' (List.mem_of_getLast? feed)) (by decide)
  rw [isImei, if_neg no_feed, isDigits_of_whole digits whole, Bool.true_and]
  exact whole

theorem classify_of_whole : classify (asciiBytes imei) = (.heartbeat, imei) := by
  have solid : strip imei = imei :=
    strip_eq_self fun c member => not_isSpace_of_isDigit (digits c member)
  have unmarked : ("##".toList.isPrefixOf imei && occursIn "imei:".toList imei) = false := by
    cases imei with
    | nil => exact absurd whole (by decide)
    | cons c rest =>
        have other : ('#' == c) = false := by
          rw [beq_eq_false_iff_ne]
          rintro rfl
          exact absurd (digits '#' List.mem_cons_self) (by decide)
        simp [List.isPrefixOf, other]
  rw [classify, asciiStrict_asciiBytes fun c member => ascii_of_isDigit (digits c member)]
  dsimp only
  rw [solid, unmarked, if_neg Bool.false_ne_true, if_pos (isImei_of_whole digits whole)]

omit whole in
theorem identity_field (rest : Text) :
    strip (((("imei:".toList ++ imei ++ ',' :: rest).splitOn ',').headD []).drop 5) = imei := by
  have open_ : ',' ∉ "imei:".toList ++ imei := by
    intro comma
    rcases List.mem_append.mp comma with label | digit
    · exact absurd label (by decide)
    · exact absurd (digits ',' digit) (by decide)
  have behind : ("imei:".toList ++ imei).drop 5 = imei := List.drop_left' rfl
  rw [splitOn_part open_, List.headD_cons, behind]
  exact strip_eq_self fun c member => not_isSpace_of_isDigit (digits c member)

theorem identified_of_whole (rest : Text) :
    Identified ("imei:".toList ++ imei ++ ',' :: rest) := by
  constructor
  · rw [List.append_assoc]
    exact List.isPrefixOf_iff_prefix.mpr (List.prefix_append _ _)
  · rw [identity_field digits rest]
    exact isImei_of_whole digits whole

theorem matches_of_whole :
    Executes (authenticatedImei imei) [⟨.getImeiBySocket, some imei⟩] (.ok (some imei)) := by
  have inhabited : imei ≠ [] := by
    rintro rfl
    exact absurd whole (by decide)
  have known : truthy (some imei) = some imei := truthy_eq_some_iff.mpr ⟨rfl, inhabited⟩
  refine ⟨some imei, [], rfl, ?_⟩
  beta_reduce
  rw [Program.bind_pure, known]
  dsimp only
  rw [if_neg (not_not.mpr rfl)]
  exact ⟨rfl, rfl⟩

theorem frame_of_whole {code : Char} (small : code.toNat < 128) :
    frame imei code = .ok (asciiBytes (frameText imei code)) := by
  have encoded : isAscii (frameText imei code) = true := by
    rw [isAscii, List.all_eq_true]
    intro c member
    rcases List.mem_append.mp member with early | late
    · rcases List.mem_append.mp early with label | digit
      · exact List.all_eq_true.mp (by decide : isAscii "**,imei:".toList = true) c label
      · exact decide_eq_true (ascii_of_isDigit (digits c digit))
    · simp only [List.mem_cons, List.not_mem_nil, or_false] at late
      rcases late with rfl | rfl | rfl
      · decide
      · exact decide_eq_true small
      · decide
  rw [frame, if_pos (isCommandImei_of_whole digits whole), encodeAscii_ok encoded]

theorem usable_of_whole : Usable imei where
  heartbeat := ⟨classify_of_whole digits whole, if_pos (isImei_of_whole digits whole)⟩
  tracker := by
    intro cfg rest report parsed
    obtain ⟨fix, rfl, -⟩ := parseTracker_ok (identified_of_whole digits whole rest) parsed
    exact identity_field digits rest
  accepted := by
    intro cfg rest e raised
    exact (parseTracker_error_iff cfg (identified_of_whole digits whole rest)).mp ⟨e, raised⟩
  matched := matches_of_whole digits whole
  command := fun _ => frame_of_whole digits whole

end Use

section Logins

variable {text run : Text}

theorem namesWhole_of_first (first : run ∈ (imeiFields text).head?) (good : isWhole run = true) :
    NamesWhole text := by
  have long : 10 ≤ run.length ∧ run.length ≤ 17 := by simpa [isWhole] using good
  obtain ⟨rest, whole⟩ := List.head?_eq_some_iff.mp first
  have read : parseLogin text = .ok run := by
    rw [parseLogin_eq, whole, List.find?_cons, decide_eq_true long.1]
    exact congrArg Except.ok (List.take_of_length_le long.2)
  obtain ⟨digits, front, back, stands, ends⟩ := stands_of_mem
    (whole ▸ List.mem_cons_self : run ∈ imeiFields text)
  refine ⟨?_, ?_, ?_⟩
  · intro imei parsed
    obtain rfl := Except.ok.inj (read.symm.trans parsed)
    exact ⟨front, back, stands, isDigits_of_whole digits good, good, ends⟩
  · intro imei parsed
    obtain rfl := Except.ok.inj (read.symm.trans parsed)
    exact usable_of_whole digits good
  · intro bad
    rw [bad run first] at good
    cases good

theorem refused_of_short (short : ∀ run ∈ imeiFields text, run.length < 10) :
    ∃ message, parseLogin text = .error (.gps103ParseError message) := by
  have none_ : ((imeiFields text).find? fun run => 10 ≤ run.length) = none := by
    rw [List.find?_eq_none]
    intro run member
    simpa using short run member
  rw [parseLogin_eq, none_]
  exact ⟨_, rfl⟩

theorem namesWhole_of_refused {message : Text}
    (raised : parseLogin text = .error (.gps103ParseError message)) : NamesWhole text := by
  refine ⟨?_, ?_, fun _ => ⟨message, raised⟩⟩
  · intro imei parsed
    rw [raised] at parsed
    cases parsed
  · intro imei parsed
    rw [raised] at parsed
    cases parsed

theorem short_of_refused {message : Text}
    (raised : parseLogin text = .error (.gps103ParseError message)) :
    ∀ run ∈ imeiFields text, run.length < 10 := by
  rw [parseLogin_eq] at raised
  split at raised
  · cases raised
  · next none_ =>
      intro run member
      simpa using List.find?_eq_none.mp none_ run member

end Logins

theorem names_whole_iff (text : Text) : NamesWhole text ↔ Unambiguous text := by
  constructor
  · intro names
    by_cases first : ∃ run ∈ (imeiFields text).head?, isWhole run = true
    · exact .inl first
    · have bad : ∀ run ∈ (imeiFields text).head?, isWhole run = false := by
        intro run member
        rw [← Bool.not_eq_true]
        exact fun good => first ⟨run, member, good⟩
      obtain ⟨message, raised⟩ := names.refused bad
      exact .inr (short_of_refused raised)
  · rintro (⟨run, first, good⟩ | short)
    · exact namesWhole_of_first first good
    · obtain ⟨message, raised⟩ := refused_of_short short
      exact namesWhole_of_refused raised

/-- The logins that name the whole identity, and are refused without one, are those of which the
first identity field is whole, and those that have no field of ten digits. -/
theorem login_names_whole_iff (raw : Bytes) :
    (∀ text, classify raw = (.login, text) → NamesWhole text) ↔
      ∀ text, classify raw = (.login, text) → Unambiguous text :=
  forall_congr' fun text => forall_congr' fun _ => names_whole_iff text

/-- An identity with a digit too many is cut to another identity. -/
theorem overlong_login_cut :
    classify (asciiBytes "##,imei:123456789012345678,A".toList) =
      (.login, "##,imei:123456789012345678,A".toList) ∧
    parseLogin "##,imei:123456789012345678,A".toList = .ok "12345678901234567".toList ∧
    ¬ NamesWhole "##,imei:123456789012345678,A".toList := by
  have read : parseLogin "##,imei:123456789012345678,A".toList =
      .ok "12345678901234567".toList := by
    decide +kernel
  refine ⟨by decide +kernel, read, ?_⟩
  intro names
  obtain ⟨message, raised⟩ := names.refused (by decide +kernel)
  rw [read] at raised
  cases raised

end TrackerGateway.Packets.WholeImei
