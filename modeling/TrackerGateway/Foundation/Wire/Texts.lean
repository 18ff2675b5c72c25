/- module: TrackerGateway/Foundation/Wire/Texts
   layer: library
   digest: Trimming, splitting and searching of texts, and the decimal text of a number. -/

import Mathlib.Data.List.DropRight
import TrackerGateway.Foundation.Wire.Bytes

set_option autoImplicit false
set_option relaxedAutoImplicit false

namespace TrackerGateway.Foundation.Wire

def trim {α : Type} (p : α → Bool) (l : List α) : List α :=
  ((l.dropWhile p).reverse.dropWhile p).reverse

theorem trim_piece {α : Type} (p : α → Bool) (l : List α) :
    ∃ before behind, l = before ++ (trim p l ++ behind) := by
  refine ⟨l.takeWhile p, ((l.dropWhile p).reverse.takeWhile p).reverse, ?_⟩
  rw [trim, ← List.reverse_append, List.takeWhile_append_dropWhile, List.reverse_reverse,
    List.takeWhile_append_dropWhile]

theorem trim_length_le {α : Type} (p : α → Bool) (l : List α) : (trim p l).length ≤ l.length := by
  obtain ⟨before, behind, whole⟩ := trim_piece p l
  have lengths := congrArg List.length whole
  rw [List.length_append, List.length_append] at lengths
  omega

/-- The ASCII white space of texts: tab to carriage return, the four separators and the blank. -/
def isSpace (c : Char) : Bool :=
  (9 ≤ c.toNat && c.toNat ≤ 13) || (28 ≤ c.toNat && c.toNat ≤ 32)

/-- The white space of byte strings, which has no separators. -/
def isSpaceByte (byte : UInt8) : Bool :=
  (9 ≤ byte.toNat && byte.toNat ≤ 13) || byte.toNat = 32

def strip (t : Text) : Text := trim isSpace t

def stripBytes (b : Bytes) : Bytes := trim isSpaceByte b

def lower (t : Text) : Text := t.map Char.toLower

def upper (t : Text) : Text := t.map Char.toUpper

/-- A nonempty text of decimal digits. -/
def isDigits (t : Text) : Bool := !t.isEmpty && t.all Char.isDigit

/-- The text before the first separator and the text after it, if the separator occurs. -/
def partition (separator : Char) (t : Text) : Text × Option Text :=
  (t.takeWhile (· != separator),
    match t.dropWhile (· != separator) with
    | [] => none
    | _ :: rest => some rest)

theorem trim_eq_self {α : Type} {p : α → Bool} {l : List α} (first : ∀ x ∈ l.head?, p x = false)
    (last : ∀ x ∈ l.getLast?, p x = false) : trim p l = l := by
  cases l with
  | nil => rfl
  | cons a l =>
      have front : (a :: l).dropWhile p = a :: l := by
        rw [List.dropWhile_cons, first a rfl]
        rfl
      rw [trim, front]
      rcases List.eq_nil_or_concat' (a :: l) with none_ | ⟨init, b, whole⟩
      · cases none_
      · rw [whole] at last ⊢
        rw [List.reverse_append, List.reverse_singleton, List.singleton_append,
          List.dropWhile_cons, last b (by simp)]
        simp

/-- Behind a front that ends in nothing to remove, what stays of the back is a prefix of it. -/
theorem trim_append {α : Type} {p : α → Bool} {front : List α} {a b : α}
    (first : front.head? = some a) (stays : p a = false) (last : front.getLast? = some b)
    (ends : p b = false) (back : List α) :
    ∃ kept, kept <+: back ∧ trim p (front ++ back) = front ++ kept := by
  have start : (front ++ back).dropWhile p = front ++ back := by
    obtain ⟨rest, rfl⟩ := List.head?_eq_some_iff.mp first
    rw [List.cons_append, List.dropWhile_cons, stays]
    rfl
  have behind : front.reverse.dropWhile p = front.reverse := by
    obtain ⟨init, rfl⟩ := List.getLast?_eq_some_iff.mp last
    rw [List.reverse_append, List.reverse_singleton, List.singleton_append, List.dropWhile_cons,
      ends]
    rfl
  rw [trim, start, List.reverse_append, List.dropWhile_append, behind]
  by_cases blank : (back.reverse.dropWhile p).isEmpty = true
  · refine ⟨[], List.nil_prefix, ?_⟩
    rw [if_pos blank, List.reverse_reverse, List.append_nil]
  · refine ⟨back.rdropWhile p, List.rdropWhile_prefix p back, ?_⟩
    rw [if_neg blank, List.reverse_append, List.reverse_reverse, List.rdropWhile]

theorem strip_eq_self {t : Text} (solid : ∀ c ∈ t, isSpace c = false) : strip t = t :=
  trim_eq_self (fun c member => solid c (List.mem_of_mem_head? member))
    fun c member => solid c (List.mem_of_mem_getLast? member)

theorem isDigits_iff {t : Text} : isDigits t = true ↔ t ≠ [] ∧ ∀ c ∈ t, c.isDigit = true := by
  rw [isDigits, Bool.and_eq_true, Bool.not_eq_true', List.isEmpty_eq_false_iff, List.all_eq_true]

theorem isDigit_bounds {c : Char} (digit : c.isDigit = true) : 48 ≤ c.toNat ∧ c.toNat ≤ 57 := by
  simpa [Char.isDigit, UInt32.le_iff_toNat_le] using digit

theorem ascii_of_isDigit {c : Char} (digit : c.isDigit = true) : c.toNat < 128 := by
  have bounds := isDigit_bounds digit
  omega

theorem not_isSpace_of_isDigit {c : Char} (digit : c.isDigit = true) : isSpace c = false := by
  have bounds := isDigit_bounds digit
  simp only [isSpace, Bool.or_eq_false_iff, Bool.and_eq_false_iff, decide_eq_false_iff_not]
  omega

theorem splitOn_part {α : Type} [BEq α] [LawfulBEq α] {separator : α} {part : List α}
    (open_ : separator ∉ part) (rest : List α) :
    (part ++ separator :: rest).splitOn separator = part :: rest.splitOn separator := by
  refine List.splitOnP_append_cons_of_forall_mem ?_ separator (by simp) rest
  intro x member
  exact beq_eq_false_iff_ne.mpr fun same => open_ (same ▸ member)

theorem intercalate_concat {α : Type} (separator : α) (parts : List (List α)) (last : List α) :
    [separator].intercalate (parts ++ [last]) =
      (parts.flatMap fun part => part ++ [separator]) ++ last := by
  induction parts with
  | nil => exact List.intercalate_singleton
  | cons part parts ih =>
      rw [List.cons_append, List.intercalate_cons_of_ne_nil (by simp), ih, List.flatMap_cons,
        List.append_assoc, List.append_assoc, List.append_assoc]

theorem partition_of_notMem {separator : Char} {t : Text} (none_ : separator ∉ t) :
    partition separator t = (t, none) := by
  have all : ∀ c ∈ t, (c != separator) = true := by
    intro c member
    rw [bne_iff_ne]
    rintro rfl
    exact none_ member
  rw [partition, List.takeWhile_eq_self_iff.mpr all, List.dropWhile_eq_nil_iff.mpr all]

theorem partition_append {separator : Char} {head : Text} (none_ : separator ∉ head)
    (rest : Text) : partition separator (head ++ separator :: rest) = (head, some rest) := by
  have all : ∀ c ∈ head, (c != separator) = true := by
    intro c member
    rw [bne_iff_ne]
    rintro rfl
    exact none_ member
  rw [partition, List.takeWhile_append_of_pos all, List.dropWhile_append_of_pos all]
  simp

theorem partition_cases (separator : Char) (t : Text) :
    (separator ∉ t ∧ partition separator t = (t, none)) ∨
      ∃ head rest, separator ∉ head ∧ t = head ++ separator :: rest ∧
        partition separator t = (head, some rest) := by
  by_cases there : separator ∈ t
  · obtain ⟨head, rest, rfl, first⟩ := List.eq_append_cons_of_mem there
    exact .inr ⟨head, rest, first, rfl, partition_append first rest⟩
  · exact .inl ⟨there, partition_of_notMem there⟩

/-- The first result of `accept` on the rest of the text behind an occurrence of `pattern`. -/
def searchAfter {α : Type} (pattern : Text) (accept : Text → Option α) : Text → Option α
  | [] => if pattern.isEmpty then accept [] else none
  | c :: t =>
      match if pattern.isPrefixOf (c :: t) then accept ((c :: t).drop pattern.length) else none with
      | some a => some a
      | none => searchAfter pattern accept t

theorem exists_of_searchAfter {α : Type} {pattern t : Text} {accept : Text → Option α} {a : α}
    (found : searchAfter pattern accept t = some a) : ∃ rest, accept rest = some a := by
  induction t with
  | nil =>
      simp only [searchAfter] at found
      split at found
      · exact ⟨[], found⟩
      · cases found
  | cons c t ih =>
      simp only [searchAfter] at found
      split at found
      · next here =>
          split at here
          · exact ⟨_, here.trans found⟩
          · cases here
      · exact ih found

theorem length_of_searchAfter {α : Type} {pattern t : Text} {accept : Text → Option α} {a : α}
    (found : searchAfter pattern accept t = some a) : pattern.length ≤ t.length := by
  induction t with
  | nil =>
      simp only [searchAfter] at found
      split at found
      · next empty => exact (List.length_eq_zero_iff.mpr (List.isEmpty_iff.mp empty)).le
      · cases found
  | cons c t ih =>
      simp only [searchAfter] at found
      split at found
      · next here =>
          split at here
          · next begins => exact (List.isPrefixOf_iff_prefix.mp begins).length_le
          · cases here
      · exact (ih found).trans (Nat.le_succ t.length)

def occursIn (pattern t : Text) : Bool := (searchAfter pattern some t).isSome

/-- The text without the occurrences of `pattern`, found from the left; `skip` characters of the
current occurrence are still to be dropped. -/
def removeAll (pattern : Text) : Nat → Text → Text
  | _, [] => []
  | skip + 1, _ :: t => removeAll pattern skip t
  | 0, c :: t =>
      if !pattern.isEmpty && pattern.isPrefixOf (c :: t) then
        removeAll pattern (pattern.length - 1) t
      else c :: removeAll pattern 0 t

def isLineBreak (c : Char) : Bool :=
  (10 ≤ c.toNat && c.toNat ≤ 13) || (28 ≤ c.toNat && c.toNat ≤ 30)

/-- The lines of a text; a carriage return and the line feed after it end one line together, and
the end of the last line opens no further one. -/
def lines : Text → List Text
  | [] => []
  | '\r' :: '\n' :: rest => [] :: lines rest
  | c :: rest =>
      if isLineBreak c then [] :: lines rest
      else match lines rest with
        | [] => [[c]]
        | first :: others =>
            -- The break that follows `c` ends the line `c` is on.
            (c :: first) :: others

def decimal (n : Nat) : Text := Nat.toDigits 10 n

def decimalInt (n : ℤ) : Text := if n < 0 then '-' :: decimal n.natAbs else decimal n.natAbs

/-- The decimal digits of a number, with leading zeros up to the given width. -/
def padded (width n : Nat) : Text :=
  List.replicate (width - (decimal n).length) '0' ++ decimal n

def digitsValue (t : Text) : Nat := t.foldl (fun acc c => acc * 10 + (c.toNat - 48)) 0

theorem digitsValue_eq (t : Text) : digitsValue t = Nat.ofDigitChars 10 t 0 := by
  rw [digitsValue, Nat.ofDigitChars_eq_foldl]
  congr 1
  funext value c
  rw [Nat.mul_comm]
  rfl

theorem digitsValue_append (front back : Text) :
    digitsValue (front ++ back) = digitsValue front * 10 ^ back.length + digitsValue back := by
  rw [digitsValue_eq, Nat.ofDigitChars_append, Nat.ofDigitChars_eq_ofDigitChars_zero,
    ← digitsValue_eq, ← digitsValue_eq, Nat.mul_comm]

theorem digitsValue_padded (width n : Nat) : digitsValue (padded width n) = n := by
  rw [padded, digitsValue_eq, Nat.ofDigitChars_append, Nat.ofDigitChars_replicate_zero,
    Nat.mul_zero, decimal, Nat.ofDigitChars_ten_toDigits]

theorem isDigit_of_mem_padded {width n : Nat} {c : Char} (member : c ∈ padded width n) :
    c.isDigit = true := by
  rcases List.mem_append.mp member with zero | digit
  · rw [List.eq_of_mem_replicate zero]
    rfl
  · exact Nat.isDigit_of_mem_toDigits (by decide) (by decide) digit

theorem length_padded {width n : Nat} (wide : 0 < width) (fits : n < 10 ^ width) :
    (padded width n).length = width := by
  have short : (decimal n).length ≤ width :=
    (Nat.length_toDigits_le_iff (by decide) wide).mpr fits
  rw [padded, List.length_append, List.length_replicate]
  omega

theorem isDigit_of_mem_decimal {n : Nat} {c : Char} (member : c ∈ decimal n) : c.isDigit = true :=
  Nat.isDigit_of_mem_toDigits (by decide) (by decide) member

theorem decimal_injective : Function.Injective decimal := by
  intro m n same
  have value := congrArg digitsValue same
  rwa [decimal, decimal, digitsValue_eq, digitsValue_eq, Nat.ofDigitChars_ten_toDigits,
    Nat.ofDigitChars_ten_toDigits] at value

theorem decimalInt_injective : Function.Injective decimalInt := by
  have unsigned : ∀ {m n : Nat}, '-' :: decimal m ≠ decimal n := by
    intro m n same
    have digit := isDigit_of_mem_decimal (same ▸ List.mem_cons_self : '-' ∈ decimal n)
    cases digit
  intro m n same
  unfold decimalInt at same
  split at same <;> split at same
  · have := decimal_injective (List.cons.inj same).2
    omega
  · exact absurd same unsigned
  · exact absurd same.symm unsigned
  · have := decimal_injective same
    omega

theorem mem_decimalInt {n : ℤ} {c : Char} (member : c ∈ decimalInt n) :
    c = '-' ∨ c.isDigit = true := by
  unfold decimalInt at member
  split at member
  · rcases List.mem_cons.mp member with dash | digit
    · exact .inl dash
    · exact .inr (isDigit_of_mem_decimal digit)
  · exact .inr (isDigit_of_mem_decimal member)

def paddedHex (width n : Nat) : Text :=
  List.replicate (width - (Nat.toDigits 16 n).length) '0' ++ Nat.toDigits 16 n

/-- A character inside a quoted text, escaped unless it is a printable ASCII character. -/
def escapeChar (quote c : Char) : Text :=
  if c = quote ∨ c = '\\' then ['\\', c]
  else if c = '\t' then "\\t".toList
  else if c = '\n' then "\\n".toList
  else if c = '\r' then "\\r".toList
  else if 32 ≤ c.toNat ∧ c.toNat < 127 then [c]
  else if c.toNat < 256 then "\\x".toList ++ paddedHex 2 c.toNat
  else if c.toNat < 65536 then "\\u".toList ++ paddedHex 4 c.toNat
  else "\\U".toList ++ paddedHex 8 c.toNat

def quoted (t : Text) : Text :=
  let quote := if t.contains '\'' && !t.contains '"' then '"' else '\''
  quote :: t.flatMap (escapeChar quote) ++ [quote]

def isWhiteSpace (c : Char) : Bool :=
  isSpace c || [0x85, 0xA0, 0x1680, 0x2028, 0x2029, 0x202F, 0x205F, 0x3000].contains c.toNat ||
    (0x2000 ≤ c.toNat && c.toNat ≤ 0x200A)

def stripText (t : Text) : Text := trim isWhiteSpace t

/-- The zeros of the scripts that have decimal digits; the other nine follow each of them. -/
def zeros : List Nat :=
  [0x30, 0x660, 0x6F0, 0x7C0, 0x966, 0x9E6, 0xA66, 0xAE6, 0xB66, 0xBE6, 0xC66, 0xCE6, 0xD66, 0xDE6,
    0xE50, 0xED0, 0xF20, 0x1040, 0x1090, 0x17E0, 0x1810, 0x1946, 0x19D0, 0x1A80, 0x1A90, 0x1B50,
    0x1BB0, 0x1C40, 0x1C50, 0xA620, 0xA8D0, 0xA900, 0xA9D0, 0xA9F0, 0xAA50, 0xABF0, 0xFF10, 0x104A0,
    0x10D30, 0x11066, 0x110F0, 0x11136, 0x111D0, 0x112F0, 0x11450, 0x114D0, 0x11650, 0x116C0,
    0x11730, 0x118E0, 0x11950, 0x11C50, 0x11D50, 0x11DA0, 0x16A60, 0x16AC0, 0x16B50, 0x1D7CE,
    0x1D7D8, 0x1D7E2, 0x1D7EC, 0x1D7F6, 0x1E140, 0x1E2F0, 0x1E950, 0x1FBF0]

/-- Decimal digits and white space as ASCII, what a numeral is read from; ASCII itself is kept. -/
def plainChar (c : Char) : Char :=
  if c.toNat < 127 then c
  else if isWhiteSpace c then ' '
  else match zeros.find? fun first => first ≤ c.toNat && c.toNat < first + 10 with
    | some first => Char.ofNat (0x30 + (c.toNat - first))
    | none => c

def plain (t : Text) : Text := t.map plainChar

theorem plain_eq_self {t : Text} (ascii : ∀ c ∈ t, c.toNat < 127) : plain t = t := by
  have same : ∀ c ∈ t, plainChar c = id c := fun c member => if_pos (ascii c member)
  rw [plain, List.map_congr_left same, List.map_id]

/-- A text in small letters, as far as a name in ASCII can tell: besides the capitals only the
Kelvin sign becomes one of its letters. -/
def lowerText (t : Text) : Text :=
  t.map fun c => if c.toNat = 0x212A then 'k' else c.toLower

/-- A text in capitals, as far as a name in ASCII can tell that holds none of the pairs of letters
which ligatures and the sharp s become. -/
def upperText (t : Text) : Text :=
  t.map fun c => if c.toNat = 0x131 then 'I' else if c.toNat = 0x17F then 'S' else c.toUpper

example : quoted "a'\n".toList = "\"a'\\n\"".toList := by decide

example : lines "a\r\nb\nc\n".toList = ["a".toList, "b".toList, "c".toList] := by decide

example : lines "\na\n\nb".toList = [[], "a".toList, [], "b".toList] := by decide

end TrackerGateway.Foundation.Wire
