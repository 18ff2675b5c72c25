/- module: TrackerGateway/Foundation/Wire/Bytes
   layer: library
   digest: Byte strings, their slices, big-endian numbers, hexadecimal and ASCII texts. -/

import Mathlib.Data.List.TakeWhile
import Mathlib.Data.Nat.Digits.Lemmas

set_option autoImplicit false
set_option relaxedAutoImplicit false

namespace TrackerGateway.Foundation.Wire

abbrev Bytes := List UInt8

/-- A text, as the list of its characters. -/
abbrev Text := List Char

/-- The half-open range `start ≤ i < stop` of a list; positions past the end are ignored. -/
def slice {α : Type} (b : List α) (start stop : Nat) : List α := (b.take stop).drop start

theorem slice_length {α : Type} (b : List α) (start stop : Nat) :
    (slice b start stop).length = min stop b.length - start := by
  simp [slice]

theorem slice_getElem? {α : Type} (b : List α) (start stop i : Nat) :
    (slice b start stop)[i]? = if start + i < stop then b[start + i]? else none := by
  simp only [slice, List.getElem?_drop, List.getElem?_take]

theorem slice_eq_iff {α : Type} (a b : List α) (start stop : Nat) :
    slice a start stop = slice b start stop ↔
      ∀ i, start ≤ i → i < stop → a[i]? = b[i]? := by
  constructor
  · intro same i low high
    have here := congrArg (fun l => l[i - start]?) same
    simpa [slice_getElem?, Nat.add_sub_cancel' low, high] using here
  · intro same
    apply List.ext_getElem?
    intro i
    simp only [slice_getElem?]
    split
    · exact same _ (Nat.le_add_right _ _) ‹_›
    · rfl

theorem slice_append {α : Type} {b : List α} {stop : Nat} (start : Nat) (more : List α)
    (fits : stop ≤ b.length) : slice (b ++ more) start stop = slice b start stop := by
  rw [slice, slice, List.take_append_of_le_length fits]

theorem slice_append_slice {α : Type} (b : List α) {start middle stop : Nat}
    (low : start ≤ middle) (high : middle ≤ stop) :
    slice b start middle ++ slice b middle stop = slice b start stop := by
  have front : slice b start middle = (slice b start stop).take (middle - start) := by
    rw [slice, slice, List.take_drop, List.take_take, Nat.min_eq_left (by omega),
      Nat.add_sub_cancel' low]
  have back : slice b middle stop = (slice b start stop).drop (middle - start) := by
    rw [slice, slice, List.drop_drop, Nat.add_sub_cancel' low]
  rw [front, back, List.take_append_drop]

theorem slice_middle {α : Type} {front middle back : List α} {start stop : Nat}
    (begins : start = front.length) (ends : stop = front.length + middle.length) :
    slice (front ++ (middle ++ back)) start stop = middle := by
  rw [begins, ends, slice, List.take_length_add_append, List.drop_left, List.take_left]

theorem isPrefixOf_append {α : Type} [BEq α] [LawfulBEq α] {head b : List α} (more : List α)
    (fits : head.length ≤ b.length) : head.isPrefixOf (b ++ more) = head.isPrefixOf b := by
  rw [Bool.eq_iff_iff, List.isPrefixOf_iff_prefix, List.isPrefixOf_iff_prefix]
  constructor
  · intro begins
    exact List.prefix_of_prefix_length_le begins (List.prefix_append b more) fits
  · exact List.prefix_append_of_prefix

def bigEndian (b : Bytes) : Nat := b.foldl (fun acc byte => acc * 256 + byte.toNat) 0

/-- The two's complement reading of the bytes, most significant byte first. -/
def signedBigEndian (b : Bytes) : Int :=
  if 256 ^ b.length ≤ 2 * bigEndian b then bigEndian b - (256 ^ b.length : Nat) else bigEndian b

/-- The `width` low bytes of a number, most significant byte first. -/
def bigEndianBytes : Nat → Nat → Bytes
  | 0, _ => []
  | width + 1, value => bigEndianBytes width (value / 256) ++ [UInt8.ofNat value]

@[simp] theorem bigEndian_nil : bigEndian [] = 0 := rfl

theorem bigEndian_append_singleton (b : Bytes) (byte : UInt8) :
    bigEndian (b ++ [byte]) = bigEndian b * 256 + byte.toNat := by
  simp [bigEndian]

theorem bigEndian_lt (b : Bytes) : bigEndian b < 256 ^ b.length := by
  induction b using List.reverseRecOn with
  | nil => simp
  | append_singleton b last ih =>
      rw [bigEndian_append_singleton, List.length_append, List.length_singleton, Nat.pow_succ]
      have small := last.toNat_lt
      omega

theorem bigEndian_inj {a b : Bytes} (same_length : a.length = b.length)
    (same : bigEndian a = bigEndian b) : a = b := by
  induction a using List.reverseRecOn generalizing b with
  | nil => exact (List.length_eq_zero_iff.mp same_length.symm).symm
  | append_singleton a last ih =>
      rcases List.eq_nil_or_concat' b with rfl | ⟨front, byte, rfl⟩
      · simp at same_length
      · simp only [List.length_append, List.length_singleton] at same_length
        simp only [bigEndian_append_singleton] at same
        have := last.toNat_lt
        have := byte.toNat_lt
        have front_eq : a = front := ih (by omega) (by omega)
        have last_eq : last = byte := UInt8.toNat_inj.mp (by omega)
        rw [front_eq, last_eq]

@[simp] theorem bigEndianBytes_length (width value : Nat) :
    (bigEndianBytes width value).length = width := by
  induction width generalizing value with
  | zero => rfl
  | succ width ih => simp [bigEndianBytes, ih]

theorem bigEndian_bigEndianBytes (width value : Nat) :
    bigEndian (bigEndianBytes width value) = value % 256 ^ width := by
  induction width generalizing value with
  | zero => simp [bigEndianBytes, Nat.mod_one]
  | succ width ih =>
      rw [bigEndianBytes, bigEndian_append_singleton, ih, Nat.pow_succ, Nat.mul_comm (256 ^ width),
        Nat.mod_mul, UInt8.toNat_ofNat']
      omega

def hexDigit (n : Nat) : Char :=
  if n < 10 then Char.ofNat (48 + n) else Char.ofNat (87 + n)

def nibbles (byte : UInt8) : List Nat := [byte.toNat / 16, byte.toNat % 16]

def hex (b : Bytes) : Text := (b.flatMap nibbles).map hexDigit

def hexDigitValue (c : Char) : Nat := if c.toNat < 87 then c.toNat - 48 else c.toNat - 87

theorem hexDigitValue_hexDigit {n : Nat} (small : n < 16) : hexDigitValue (hexDigit n) = n := by
  interval_cases n <;> rfl

theorem hexDigit_eq_zero {n : Nat} (small : n < 16) : hexDigit n = '0' ↔ n = 0 := by
  constructor
  · intro same
    rw [← hexDigitValue_hexDigit small, same]
    rfl
  · rintro rfl
    rfl

theorem nibble_lt {b : Bytes} {n : Nat} (member : n ∈ b.flatMap nibbles) : n < 16 := by
  obtain ⟨byte, -, member⟩ := List.mem_flatMap.mp member
  have := byte.toNat_lt
  simp only [nibbles, List.mem_cons, List.not_mem_nil, or_false] at member
  omega

theorem nibbles_inj {x y : UInt8} (same : (nibbles x).map hexDigit = (nibbles y).map hexDigit) :
    x = y := by
  have bound := x.toNat_lt
  have bound' := y.toNat_lt
  simp only [nibbles, List.map_cons, List.map_nil, List.cons.injEq, and_true] at same
  have high := congrArg hexDigitValue same.1
  have low := congrArg hexDigitValue same.2
  rw [hexDigitValue_hexDigit (by omega), hexDigitValue_hexDigit (by omega)] at high low
  exact UInt8.toNat_inj.mp (by omega)

theorem hex_injective : Function.Injective hex := by
  intro a b same
  induction a generalizing b with
  | nil =>
      cases b with
      | nil => rfl
      | cons y b => simp [hex, nibbles] at same
  | cons x a ih =>
      cases b with
      | nil => simp [hex, nibbles] at same
      | cons y b =>
          have heads : (nibbles x).map hexDigit ++ hex a = (nibbles y).map hexDigit ++ hex b := by
            simpa [hex] using same
          obtain ⟨first, rest⟩ := List.append_inj heads rfl
          rw [nibbles_inj first, ih rest]

def unhex : Text → Bytes
  | high :: low :: rest =>
      UInt8.ofNat (16 * hexDigitValue high + hexDigitValue low) :: unhex rest
  | _ => []

theorem hex_unhex {t : Text} (even : t.length % 2 = 0)
    (digits : ∀ c ∈ t, ∃ n < 16, c = hexDigit n) :
    hex (unhex t) = t ∧ (unhex t).length = t.length / 2 := by
  induction t using unhex.induct with
  | case1 high low rest ih =>
      obtain ⟨n, small, rfl⟩ := digits high (by simp)
      obtain ⟨m, small', rfl⟩ := digits low (by simp)
      have later : ∀ c ∈ rest, ∃ n < 16, c = hexDigit n := fun c member =>
        digits c (by simp [member])
      simp only [List.length_cons] at even
      obtain ⟨same, length⟩ := ih (by omega) later
      rw [unhex, hexDigitValue_hexDigit small, hexDigitValue_hexDigit small']
      have value : (UInt8.ofNat (16 * n + m)).toNat = 16 * n + m := by
        rw [UInt8.toNat_ofNat', Nat.mod_eq_of_lt (by omega)]
      have pair : nibbles (UInt8.ofNat (16 * n + m)) = [n, m] := by
        rw [nibbles, value]
        congr
        · omega
        · omega
      constructor
      · rw [hex, List.flatMap_cons, pair, List.map_append, ← hex, same]
        rfl
      · simp only [List.length_cons, length]
        omega
  | case2 t short =>
      cases t with
      | nil => exact ⟨rfl, rfl⟩
      | cons c t =>
          cases t with
          | nil => simp at even
          | cons d rest => exact absurd rfl (short c d rest)

theorem bigEndian_eq_ofDigits (b : Bytes) :
    bigEndian b = Nat.ofDigits 16 (b.flatMap nibbles).reverse := by
  induction b using List.reverseRecOn with
  | nil => rfl
  | append_singleton b last ih =>
      rw [bigEndian_append_singleton, ih, List.flatMap_append, List.reverse_append]
      simp only [List.flatMap_cons, List.flatMap_nil, List.append_nil, nibbles,
        List.reverse_cons, List.reverse_nil, List.nil_append, List.cons_append,
        Nat.ofDigits_cons]
      omega

/-- Dropping the leading zero digits leaves the base-sixteen digits of the number. -/
theorem dropWhile_nibbles (b : Bytes) :
    (b.flatMap nibbles).dropWhile (· = 0) = (Nat.digits 16 (bigEndian b)).reverse := by
  have split := List.takeWhile_append_dropWhile (p := fun n => decide (n = 0))
    (l := b.flatMap nibbles)
  have zeros : ∀ n ∈ (b.flatMap nibbles).takeWhile (fun n => decide (n = 0)), n = 0 := by
    intro n member
    simpa using List.mem_takeWhile_imp member
  have small : ∀ n ∈ (b.flatMap nibbles).dropWhile (fun n => decide (n = 0)), n < 16 :=
    fun n member => nibble_lt ((List.dropWhile_suffix _).subset member)
  have significant := List.head_dropWhile_not (fun n => decide (n = 0)) (l := b.flatMap nibbles)
  rw [bigEndian_eq_ofDigits]
  generalize List.takeWhile (fun n => decide (n = 0)) (b.flatMap nibbles) = zero at *
  generalize List.dropWhile (fun n => decide (n = 0)) (b.flatMap nibbles) = kept at *
  have zero_eq : zero.reverse = List.replicate zero.length 0 :=
    List.eq_replicate_iff.mpr ⟨by simp, fun n member => zeros n (by simpa using member)⟩
  rw [← split, List.reverse_append, Nat.ofDigits_append, zero_eq, Nat.ofDigits_replicate_zero,
    Nat.mul_zero, Nat.add_zero, Nat.digits_ofDigits 16 (by decide) _
      (fun n member => small n (by simpa using member)), List.reverse_reverse]
  intro nonempty
  rw [List.getLast_reverse]
  simpa using significant (by simpa using nonempty)

private theorem hex_dropWhile_zero (b : Bytes) :
    (hex b).dropWhile (· = '0') = ((Nat.digits 16 (bigEndian b)).reverse).map hexDigit := by
  rw [← dropWhile_nibbles, hex, List.dropWhile_map]
  have small : ∀ n ∈ b.flatMap nibbles, n < 16 := fun n member => nibble_lt member
  generalize b.flatMap nibbles = l at small ⊢
  congr 1
  induction l with
  | nil => rfl
  | cons n l ih =>
      have same := hexDigit_eq_zero (small n (by simp))
      simp only [List.dropWhile_cons, Function.comp_apply, same, decide_eq_true_eq]
      rw [ih fun m member => small m (by simp [member])]

theorem hex_dropWhile_zero_eq_iff (a b : Bytes) :
    (hex a).dropWhile (· = '0') = (hex b).dropWhile (· = '0') ↔ bigEndian a = bigEndian b := by
  rw [hex_dropWhile_zero, hex_dropWhile_zero]
  constructor
  · intro same
    have values : ∀ n : Nat, ((Nat.digits 16 n).reverse.map hexDigit).map hexDigitValue =
        (Nat.digits 16 n).reverse := by
      intro n
      rw [List.map_map]
      refine (List.map_congr_left ?_).trans (List.map_id _)
      intro d member
      exact hexDigitValue_hexDigit (Nat.digits_lt_base (by decide) (List.mem_reverse.mp member))
    have digits := congrArg (List.map hexDigitValue) same
    rw [values, values] at digits
    exact Nat.digits_inj_iff.mp (List.reverse_injective digits)
  · intro same
    rw [same]

/-- Strict ASCII decoding: `none` at a byte above 127. -/
def asciiStrict (b : Bytes) : Option Text :=
  b.mapM fun byte => if byte.toNat < 128 then some (Char.ofNat byte.toNat) else none

def asciiIgnore (b : Bytes) : Text :=
  (b.filter (·.toNat < 128)).map fun byte => Char.ofNat byte.toNat

/-- ASCII decoding that puts the replacement character for a byte above 127. -/
def asciiReplace (b : Bytes) : Text :=
  b.map fun byte => if byte.toNat < 128 then Char.ofNat byte.toNat else Char.ofNat 0xFFFD

def asciiBytes (text : Text) : Bytes := text.map fun c => UInt8.ofNat c.toNat

theorem notMem_asciiBytes {t : Text} {mark : Char} (small : mark.toNat < 256)
    (plain : ∀ c ∈ t, c.toNat < 128 ∧ c ≠ mark) : UInt8.ofNat mark.toNat ∉ asciiBytes t := by
  intro member
  obtain ⟨c, inside, same⟩ := List.mem_map.mp member
  obtain ⟨ascii, other⟩ := plain c inside
  apply other
  have value := congrArg UInt8.toNat same
  rw [UInt8.toNat_ofNat', UInt8.toNat_ofNat', Nat.mod_eq_of_lt (by omega),
    Nat.mod_eq_of_lt small] at value
  exact Char.toNat_inj.mp value

theorem asciiBytes_append (front back : Text) :
    asciiBytes (front ++ back) = asciiBytes front ++ asciiBytes back := List.map_append

theorem asciiStrict_asciiBytes {t : Text} (ascii : ∀ c ∈ t, c.toNat < 128) :
    asciiStrict (asciiBytes t) = some t := by
  induction t with
  | nil => rfl
  | cons c t ih =>
      have small := ascii c List.mem_cons_self
      have later := ih fun d member => ascii d (List.mem_cons_of_mem c member)
      have value : (UInt8.ofNat c.toNat).toNat = c.toNat := by
        rw [UInt8.toNat_ofNat', Nat.mod_eq_of_lt (by omega)]
      rw [asciiStrict, asciiBytes] at later
      rw [asciiStrict, asciiBytes, List.map_cons, List.mapM_cons, value, if_pos small, later,
        Char.ofNat_toNat]
      rfl

theorem length_of_asciiStrict {b : Bytes} {t : Text} (decoded : asciiStrict b = some t) :
    t.length = b.length := by
  induction b generalizing t with
  | nil =>
      obtain rfl := Option.some.inj decoded
      rfl
  | cons byte b ih =>
      rw [asciiStrict, List.mapM_cons] at decoded
      obtain ⟨c, -, more⟩ := Option.bind_eq_some_iff.mp decoded
      obtain ⟨rest, later, whole⟩ := Option.bind_eq_some_iff.mp more
      obtain rfl := Option.some.inj whole
      rw [List.length_cons, List.length_cons, ih later]

theorem asciiReplace_asciiBytes {t : Text} (ascii : ∀ c ∈ t, c.toNat < 128) :
    asciiReplace (asciiBytes t) = t := by
  rw [asciiReplace, asciiBytes, List.map_map]
  refine (List.map_congr_left ?_).trans (List.map_id t)
  intro c member
  have small := ascii c member
  have value : (UInt8.ofNat c.toNat).toNat = c.toNat := by
    rw [UInt8.toNat_ofNat', Nat.mod_eq_of_lt (by omega)]
  rw [Function.comp_apply, value, if_pos small, Char.ofNat_toNat, id]

end TrackerGateway.Foundation.Wire
