/- module: TrackerGateway/Foundation/Wire/Numeral
   layer: library
   digest: Floating-point numbers with infinities, their texts, comparisons and rounding. -/

import TrackerGateway.Foundation.Wire.Binary64
import TrackerGateway.Foundation.Wire.Texts

set_option autoImplicit false
set_option relaxedAutoImplicit false

namespace TrackerGateway.Foundation.Wire

/-- A value of the binary floating-point format: a number, or one of the special values. -/
inductive Number
  | finite (value : ℚ)
  | infinite (negative : Bool)
  | nan
  deriving DecidableEq

/-- The magnitude from which a number rounds to infinity. -/
def overflowBound : ℚ := 2 ^ 1024 - 2 ^ 970

/-- The nearest double, or the infinity that a number overflows to. -/
def Number.ofRat (q : ℚ) : Number :=
  if overflowBound ≤ |q| then .infinite (q < 0) else .finite (binary64 q)

def Number.scale (factor : ℚ) : Number → Number
  | .finite q => .ofRat (q * factor)
  | other => other

/-- `low ≤ x ≤ high`; false for the value that compares with nothing. -/
def Number.between (low high : ℚ) : Number → Bool
  | .finite q => low ≤ q && q ≤ high
  | _ => false

theorem between_iff {low high : ℚ} {x : Number} :
    x.between low high = true ↔ ∃ q, x = .finite q ∧ low ≤ q ∧ q ≤ high := by
  cases x <;> simp [Number.between]

def Number.roundTo (places : Nat) : Number → Number
  | .finite q => .finite (binary64 (Wire.roundTo places q))
  | other => other

/-- An optional sign and the text after it; `true` for minus. -/
def splitSign : Text → Bool × Text
  | '-' :: t => (true, t)
  | '+' :: t => (false, t)
  | t => (false, t)

/-- The text without its underscores, each of which must stand between two digits. -/
def dropUnderscores (isDigit : Char → Bool) : Text → Option Text
  | [] => some []
  | [c] => if c = '_' then none else some [c]
  | c :: d :: t =>
      if c = '_' then none
      else if d = '_' then
        match t with
        | e :: rest =>
            if isDigit c && isDigit e then (dropUnderscores isDigit (e :: rest)).map (c :: ·)
            else none
        | [] => none
      else (dropUnderscores isDigit (d :: t)).map (c :: ·)

/-- The largest number of digits a decimal integer text may have. -/
def intMaxDigits : Nat := 4300

/-- A numeral without the white space around it. The separators, which texts are trimmed of, count
as no white space here. -/
def stripNumeral (t : Text) : Text :=
  trim (fun c => (9 ≤ c.toNat && c.toNat ≤ 13) || c.toNat = 32) (plain t)

/-- The integer written by a decimal text, white space and single underscores allowed. -/
def parseInt (t : Text) : Option ℤ := do
  let (negative, body) := splitSign (stripNumeral t)
  let digits ← dropUnderscores Char.isDigit body
  if isDigits digits && digits.length ≤ intMaxDigits then
    let n : ℤ := digitsValue digits
    return if negative then -n else n
  else none

def hexDigitValue? (c : Char) : Option Nat :=
  if c.isDigit then some (c.toNat - 48)
  else if 'a' ≤ c.toLower && c.toLower ≤ 'f' then some (c.toLower.toNat - 87)
  else none

/-- The digits after an optional `0x`, which one underscore may follow. -/
def dropHexPrefix : Text → Text
  | '0' :: x :: t =>
      if x = 'x' ∨ x = 'X' then (match t with | '_' :: rest => rest | other => other)
      else '0' :: x :: t
  | t => t

def parseHex (t : Text) : Option ℤ := do
  let (negative, body) := splitSign (stripNumeral t)
  let digits ← dropUnderscores (fun c => (hexDigitValue? c).isSome) (dropHexPrefix body)
  if digits.isEmpty then none
  else
    let values ← digits.mapM hexDigitValue?
    let n : ℤ := values.foldl (fun acc v => acc * 16 + v) 0
    return if negative then -n else n

/-- The exponent after the mantissa: empty, or `e`, an optional sign and digits. -/
def parseExponent : Text → Option ℤ
  | [] => some 0
  | c :: t =>
      if c = 'e' ∨ c = 'E' then
        let (negative, digits) := splitSign t
        if isDigits digits then
          some (if negative then -(digitsValue digits : ℤ) else digitsValue digits)
        else none
      else none

/-- The exact value of an unsigned decimal numeral with optional point and exponent. -/
def parseDecimal (t : Text) : Option ℚ :=
  let whole := t.takeWhile Char.isDigit
  let afterWhole := t.dropWhile Char.isDigit
  let (fraction, rest) := match afterWhole with
    | '.' :: tail => (tail.takeWhile Char.isDigit, tail.dropWhile Char.isDigit)
    | other => ([], other)
  if whole.isEmpty && fraction.isEmpty then none
  else (parseExponent rest).map fun exponent : ℤ =>
    (digitsValue (whole ++ fraction) : ℚ) * (10 : ℚ) ^ (exponent - (fraction.length : ℤ))

def parseFloat (t : Text) : Option Number := do
  let (negative, body) := splitSign (stripNumeral t)
  if lower body = "inf".toList ∨ lower body = "infinity".toList then return .infinite negative
  else if lower body = "nan".toList then return .nan
  else
    let digits ← dropUnderscores Char.isDigit body
    let q ← parseDecimal digits
    return .ofRat (if negative then -q else q)

example : parseFloat " -12.50e1 ".toList = some (.finite (-125)) := by decide +kernel

example : parseHex "0x1F".toList = some 31 := by decide +kernel

example : parseInt "\x1f30".toList = none := by decide +kernel

example : parseInt "٣ ".toList = some 3 := by decide +kernel

theorem dropUnderscores_of_notMem {isDigit : Char → Bool} {t : Text} (plain : '_' ∉ t) :
    dropUnderscores isDigit t = some t := by
  induction t with
  | nil => rfl
  | cons c t ih =>
      obtain ⟨first, rest⟩ := not_or.mp (mt List.mem_cons.mpr plain)
      cases t with
      | nil => rw [dropUnderscores, if_neg (Ne.symm first)]
      | cons d t =>
          obtain ⟨second, -⟩ := not_or.mp (mt List.mem_cons.mpr rest)
          rw [dropUnderscores.eq_def]
          simp only [if_neg (Ne.symm first), if_neg (Ne.symm second), ih rest, Option.map_some]

theorem splitSign_of_head {t : Text} (unsigned : ∀ c ∈ t.head?, c ≠ '-' ∧ c ≠ '+') :
    splitSign t = (false, t) := by
  cases t with
  | nil => rfl
  | cons c t =>
      obtain ⟨minus, plus⟩ := unsigned c rfl
      unfold splitSign
      split
      · next same => exact absurd (List.cons.inj same).1 minus
      · next same => exact absurd (List.cons.inj same).1 plus
      · rfl

theorem toLower_of_isDigit {c : Char} (digit : c.isDigit = true) : c.toLower = c := by
  have bounds := isDigit_bounds digit
  unfold Char.toLower
  split
  · next upper =>
      have low : 'A'.toNat ≤ c.toNat := upper.1
      change 65 ≤ c.toNat at low
      omega
  · rfl

/-- The characters of an unsigned numeral without an exponent. -/
def Numeric (t : Text) : Prop := ∀ c ∈ t, c.isDigit = true ∨ c = '.'

theorem Numeric.count_eq_zero_iff {l : Text} (numeric : Numeric l) :
    l.count '.' = 0 ↔ ∀ c ∈ l, c.isDigit = true := by
  rw [List.count_eq_zero]
  constructor
  · intro none_ c member
    rcases numeric c member with digit | rfl
    · exact digit
    · exact absurd member none_
  · intro digits member
    cases digits '.' member

namespace Numeric

variable {t : Text} (numeric : Numeric t)

include numeric

theorem not_mem {c : Char} (other : c.isDigit = false) (point : c ≠ '.') : c ∉ t := by
  intro member
  rcases numeric c member with digit | rfl
  · rw [other] at digit
    cases digit
  · exact point rfl

theorem stripNumeral_eq : stripNumeral t = t := by
  have ascii : ∀ c ∈ t, 46 ≤ c.toNat ∧ c.toNat < 58 := by
    intro c member
    rcases numeric c member with digit | rfl
    · have bounds := isDigit_bounds digit
      omega
    · decide
  have same : plain t = t := plain_eq_self fun c member => by
    have := ascii c member
    omega
  have solid : ∀ c ∈ t, ((9 ≤ c.toNat && c.toNat ≤ 13) || c.toNat = 32) = false := by
    intro c member
    have := ascii c member
    simp only [Bool.or_eq_false_iff, Bool.and_eq_false_iff, decide_eq_false_iff_not]
    omega
  rw [stripNumeral, same]
  exact trim_eq_self (fun c member => solid c (List.mem_of_mem_head? member))
    fun c member => solid c (List.mem_of_mem_getLast? member)

theorem splitSign_eq : splitSign t = (false, t) := by
  apply splitSign_of_head
  intro c member
  have inside := List.mem_of_mem_head? member
  refine ⟨?_, ?_⟩
  · rintro rfl
    exact numeric.not_mem rfl (by decide) inside
  · rintro rfl
    exact numeric.not_mem rfl (by decide) inside

theorem lower_eq : lower t = t := by
  have same : ∀ c ∈ t, c.toLower = id c := by
    intro c member
    rcases numeric c member with digit | rfl
    · exact toLower_of_isDigit digit
    · rfl
  rw [lower, List.map_congr_left same, List.map_id]

theorem afterWhole : t.dropWhile Char.isDigit = [] ∨
    ∃ tail, t.dropWhile Char.isDigit = '.' :: tail ∧ Numeric tail := by
  cases rest : t.dropWhile Char.isDigit with
  | nil => exact .inl rfl
  | cons c tail =>
      have inside : ∀ d ∈ c :: tail, d ∈ t := by
        rw [← rest]
        exact fun d member => List.dropWhile_subset _ member
      have stops : c.isDigit = false := by
        have := List.head?_dropWhile_not Char.isDigit t
        rw [rest] at this
        simpa using this
      rcases numeric c (inside c List.mem_cons_self) with digit | rfl
      · rw [stops] at digit
        cases digit
      · refine .inr ⟨tail, rfl, ?_⟩
        intro d member
        exact numeric d (inside d (List.mem_cons_of_mem _ member))

theorem parseDecimal_isSome_iff : (parseDecimal t).isSome = true ↔
    t.count '.' ≤ 1 ∧ ∃ c ∈ t, c.isDigit = true := by
  have joined : t.takeWhile Char.isDigit ++ t.dropWhile Char.isDigit = t :=
    List.takeWhile_append_dropWhile
  have whole : ∀ c ∈ t.takeWhile Char.isDigit, c.isDigit = true := by
    intro c member
    exact List.mem_takeWhile_imp member
  have pointless : (t.takeWhile Char.isDigit).count '.' = 0 := by
    rw [List.count_eq_zero]
    intro member
    cases whole '.' member
  have counted : t.count '.' = (t.dropWhile Char.isDigit).count '.' := by
    conv_lhs => rw [← joined]
    rw [List.count_append, pointless, Nat.zero_add]
  rcases numeric.afterWhole with ends | ⟨tail, behind, rest⟩
  · have all : t.takeWhile Char.isDigit = t := by
      rw [ends, List.append_nil] at joined
      exact joined
    rw [counted, ends]
    simp only [parseDecimal, ends, all]
    cases t with
    | nil => simp
    | cons c t =>
        have digit : c.isDigit = true := whole c (by rw [all]; exact List.mem_cons_self)
        simp [parseExponent, digit]
  · rw [counted, behind, List.count_cons_self]
    simp only [parseDecimal, behind]
    rcases rest.afterWhole with ends | ⟨more, again, -⟩
    · have digits : ∀ c ∈ tail, c.isDigit = true := List.dropWhile_eq_nil_iff.mp ends
      rw [rest.count_eq_zero_iff.mpr digits, ends, List.takeWhile_eq_self_iff.mpr digits]
      have either : (∃ c ∈ t, c.isDigit = true) ↔
          ¬ ((t.takeWhile Char.isDigit).isEmpty && tail.isEmpty) = true := by
        rw [Bool.and_eq_true, List.isEmpty_iff, List.isEmpty_iff]
        constructor
        · rintro ⟨c, member, digit⟩ ⟨none_, nothing⟩
          rw [← joined, behind, none_, nothing] at member
          obtain rfl := List.mem_singleton.mp member
          cases digit
        · intro some_
          by_contra absent
          apply some_
          refine ⟨?_, ?_⟩
          · rw [List.eq_nil_iff_forall_not_mem]
            intro c member
            exact absent ⟨c, List.takeWhile_subset _ member, whole c member⟩
          · rw [List.eq_nil_iff_forall_not_mem]
            intro c member
            refine absent ⟨c, ?_, digits c member⟩
            rw [← joined, behind]
            exact List.mem_append_right _ (List.mem_cons_of_mem _ member)
      rw [either]
      split
      · next both => simp [both]
      · next both => simp [both, parseExponent]
    · have dotted : tail.count '.' ≠ 0 := by
        rw [Ne, rest.count_eq_zero_iff]
        intro digits
        rw [List.dropWhile_eq_nil_iff.mpr digits] at again
        cases again
      have fails : parseExponent (tail.dropWhile Char.isDigit) = none := by
        rw [again]
        rfl
      rw [fails]
      constructor
      · intro found
        split at found
        · cases found
        · cases found
      · rintro ⟨few, -⟩
        omega

/-- A text of digits and points is a number exactly if it has a digit and one point at most. -/
theorem parseFloat_isSome_iff : (parseFloat t).isSome = true ↔
    t.count '.' ≤ 1 ∧ ∃ c ∈ t, c.isDigit = true := by
  have named : ∀ name : Text, 'n' ∈ name → t ≠ name := by
    rintro name member rfl
    exact numeric.not_mem rfl (by decide) member
  rw [← numeric.parseDecimal_isSome_iff]
  simp only [parseFloat, numeric.stripNumeral_eq, numeric.splitSign_eq, numeric.lower_eq]
  rw [if_neg (not_or.mpr ⟨named _ (by decide), named _ (by decide)⟩),
    if_neg (named _ (by decide)),
    dropUnderscores_of_notMem (numeric.not_mem rfl (by decide)), Option.bind_eq_bind,
    Option.bind_some]
  cases parseDecimal t <;> rfl

end Numeric

theorem parseInt_isSome_iff {t : Text} (digits : isDigits t = true) :
    (parseInt t).isSome = true ↔ t.length ≤ intMaxDigits := by
  have numeric : Numeric t := fun c member => .inl ((isDigits_iff.mp digits).2 c member)
  simp only [parseInt, numeric.stripNumeral_eq, numeric.splitSign_eq]
  rw [dropUnderscores_of_notMem (numeric.not_mem rfl (by decide))]
  by_cases short : t.length ≤ intMaxDigits
  · simp [digits, short]
  · simp [digits, short]

end TrackerGateway.Foundation.Wire
