/- module: TrackerGateway/Foundation/Wire/Checksum
   layer: library
   digest: Cyclic checksums as reflected shift registers, and the bursts of changed bytes that they
     tell apart. -/

import Mathlib.Data.Nat.Digits.Lemmas
import TrackerGateway.Foundation.Wire.Bytes

set_option autoImplicit false
set_option relaxedAutoImplicit false

namespace TrackerGateway.Foundation.Wire

variable {w : Nat}

/-- One step of the register: the low bit falls out, and a one brings the polynomial in. -/
def shift (poly x : BitVec w) : BitVec w :=
  if x &&& 1 = 1 then (x >>> 1) ^^^ poly else x >>> 1

def feedByte (poly crc : BitVec w) (b : UInt8) : BitVec w :=
  (shift poly)^[8] (crc ^^^ b.toBitVec.setWidth w)

section Step

variable {poly : BitVec w}

theorem shift_eq (poly x : BitVec w) :
    shift poly x = (x >>> 1) ^^^ if x.getLsbD 0 then poly else 0 := by
  rcases Nat.eq_zero_or_pos w with rfl | positive
  · exact BitVec.eq_of_zero_length rfl
  have low : x &&& 1 = (BitVec.ofBool (x.getLsbD 0)).setWidth w :=
    BitVec.and_one_eq_setWidth_ofBool_getLsbD
  rw [shift, low]
  cases x.getLsbD 0 with
  | false =>
      have apart : (BitVec.ofBool false).setWidth w ≠ (1 : BitVec w) := by
        intro same
        have values := congrArg BitVec.toNat same
        have wide : 1 < 2 ^ w := Nat.one_lt_two_pow positive.ne'
        simp [Nat.mod_eq_of_lt wide] at values
      rw [if_neg apart]
      simp
  | true =>
      rw [if_pos]
      · simp
      · apply BitVec.eq_of_toNat_eq
        simp

theorem shift_xor (x y : BitVec w) : shift poly (x ^^^ y) = shift poly x ^^^ shift poly y := by
  rw [shift_eq, shift_eq, shift_eq, BitVec.getLsbD_xor, BitVec.ushiftRight_xor_distrib]
  generalize x >>> 1 = a
  generalize y >>> 1 = b
  cases x.getLsbD 0 <;> cases y.getLsbD 0
  · simp
  · simp [BitVec.xor_assoc]
  · simp only [Bool.xor_false, if_true, Bool.false_eq_true, if_false]
    ac_rfl
  · have twice : poly ^^^ poly = 0 := BitVec.xor_self
    simp only [Bool.xor_true, Bool.not_true, Bool.false_eq_true, if_false, if_true]
    calc a ^^^ b ^^^ 0 = a ^^^ b ^^^ (poly ^^^ poly) := by rw [twice]
      _ = a ^^^ poly ^^^ (b ^^^ poly) := by ac_rfl

theorem shift_iterate_xor (n : Nat) (x y : BitVec w) :
    (shift poly)^[n] (x ^^^ y) = (shift poly)^[n] x ^^^ (shift poly)^[n] y := by
  induction n generalizing x y with
  | zero => rfl
  | succ n ih => rw [Function.iterate_succ_apply, shift_xor, ih]; rfl

/-- The bit that falls out of the register is the one that comes in at its top. -/
theorem shift_injective (top : poly.msb = true) : Function.Injective (shift poly) := by
  have kernel : ∀ x, shift poly x = 0 → x = 0 := by
    intro x gone
    rw [shift_eq] at gone
    have out : x.getLsbD 0 = false := by
      cases low : x.getLsbD 0 with
      | false => rfl
      | true =>
          have highest := congrArg BitVec.msb gone
          rw [low] at highest
          simp [BitVec.msb_xor, top] at highest
    apply BitVec.eq_of_getLsbD_eq
    intro i below
    cases i with
    | zero => simpa using out
    | succ i =>
        rw [out] at gone
        have bit := congrArg (fun v => BitVec.getLsbD v i) gone
        simpa [Nat.add_comm] using bit
  intro x y same
  have none_ : shift poly (x ^^^ y) = 0 := by
    rw [shift_xor, same, BitVec.xor_self]
    rfl
  exact BitVec.xor_eq_zero_iff.mp (kernel _ none_)

theorem shift_iterate_even {n : Nat} (k : Nat) (fits : 2 ^ k * n < 2 ^ w) :
    (shift poly)^[k] (BitVec.ofNat w (2 ^ k * n)) = BitVec.ofNat w n := by
  induction k with
  | zero => rw [Function.iterate_zero_apply, Nat.pow_zero, Nat.one_mul]
  | succ k ih =>
      have double : 2 ^ (k + 1) * n = 2 * (2 ^ k * n) := by ring
      rw [double] at fits
      have even : shift poly (BitVec.ofNat w (2 * (2 ^ k * n))) = BitVec.ofNat w (2 ^ k * n) := by
        have low : (BitVec.ofNat w (2 * (2 ^ k * n))).getLsbD 0 = false := by
          simp [BitVec.getLsbD_ofNat]
        rw [shift_eq, low]
        apply BitVec.eq_of_toNat_eq
        have small : 2 ^ k * n < 2 ^ w := by omega
        simp [Nat.mod_eq_of_lt fits, Nat.mod_eq_of_lt small, Nat.shiftRight_eq_div_pow]
      rw [Function.iterate_succ_apply, double, even]
      exact ih (by omega)

end Step

def littleEndian (b : Bytes) : Nat := Nat.ofDigits 256 (b.map UInt8.toNat)

theorem littleEndian_cons (first : UInt8) (b : Bytes) :
    littleEndian (first :: b) = first.toNat + 2 ^ 8 * littleEndian b := by
  rw [littleEndian, List.map_cons, Nat.ofDigits_cons]
  rfl

theorem littleEndian_lt (b : Bytes) : littleEndian b < 2 ^ (8 * b.length) := by
  have below := Nat.ofDigits_lt_base_pow_length (b := 256) (l := b.map UInt8.toNat) (by decide) (by
    intro n member
    obtain ⟨byte, -, rfl⟩ := List.mem_map.mp member
    exact byte.toNat_lt)
  rw [List.length_map] at below
  rwa [Nat.pow_mul]

theorem littleEndian_inj {a b : Bytes} (same_length : a.length = b.length)
    (same : littleEndian a = littleEndian b) : a = b := by
  induction a generalizing b with
  | nil => exact (List.length_eq_zero_iff.mp same_length.symm).symm
  | cons x a ih =>
      cases b with
      | nil => cases same_length
      | cons y b =>
          rw [littleEndian_cons, littleEndian_cons] at same
          have := x.toNat_lt
          have := y.toNat_lt
          have heads : x = y := UInt8.toNat_inj.mp (by omega)
          have tails : a = b := ih (Nat.succ.inj same_length) (by omega)
          rw [heads, tails]

theorem ofNat_byte_add (b : UInt8) (n : Nat) :
    BitVec.ofNat w (b.toNat + 2 ^ 8 * n) =
      b.toBitVec.setWidth w ^^^ BitVec.ofNat w (2 ^ 8 * n) := by
  have apart : b.toNat + 2 ^ 8 * n = b.toNat ^^^ (2 ^ 8 * n) := by
    apply Nat.eq_of_testBit_eq
    intro i
    have high := Nat.testBit_two_pow_mul_add n b.toNat_lt i
    have shifted := Nat.testBit_two_pow_mul_add n (show 0 < 2 ^ 8 by decide) i
    rw [Nat.add_zero] at shifted
    rw [Nat.add_comm, high, Nat.testBit_xor, shifted]
    split
    · simp
    · have wide : 2 ^ 8 ≤ 2 ^ i := Nat.pow_le_pow_right (by decide) (by omega)
      rw [Nat.testBit_lt_two_pow (b.toNat_lt.trans_le wide)]
      simp
  have same : BitVec.ofNat w b.toNat = b.toBitVec.setWidth w := by
    apply BitVec.eq_of_toNat_eq
    simp
  rw [apart, BitVec.ofNat_xor, same]

section Checksums

variable {poly : BitVec w}

theorem feedByte_injective (top : poly.msb = true) (b : UInt8) :
    Function.Injective fun crc : BitVec w => feedByte poly crc b := by
  intro x y same
  exact (BitVec.xor_left_inj _).mp ((shift_injective top).iterate 8 same)

theorem foldl_feedByte_injective (top : poly.msb = true) (b : Bytes) :
    Function.Injective fun crc : BitVec w => b.foldl (feedByte poly) crc := by
  induction b with
  | nil => exact Function.injective_id
  | cons first b ih => exact ih.comp (feedByte_injective top first)

/-- Bytes that the register holds all at once can be put in all at once. -/
theorem foldl_feedByte (crc : BitVec w) (b : Bytes) (fits : 8 * b.length ≤ w) :
    b.foldl (feedByte poly) crc =
      (shift poly)^[8 * b.length] (crc ^^^ BitVec.ofNat w (littleEndian b)) := by
  induction b generalizing crc with
  | nil =>
      have empty : BitVec.ofNat w (littleEndian []) = 0 := rfl
      rw [empty]
      exact BitVec.xor_zero.symm
  | cons first b ih =>
      rw [List.length_cons] at fits
      have below := littleEndian_lt b
      have wide : 2 ^ 8 * littleEndian b < 2 ^ w := by
        have power : 2 ^ (8 + 8 * b.length) ≤ 2 ^ w := Nat.pow_le_pow_right (by decide) (by omega)
        rw [Nat.pow_add] at power
        omega
      have later : (shift poly)^[8] (BitVec.ofNat w (2 ^ 8 * littleEndian b)) =
          BitVec.ofNat w (littleEndian b) := shift_iterate_even 8 wide
      have steps : 8 * (first :: b).length = 8 * b.length + 8 := by rw [List.length_cons]; ring
      rw [List.foldl_cons, ih _ (by omega), feedByte, steps, Function.iterate_add_apply,
        littleEndian_cons, ofNat_byte_add, ← BitVec.xor_assoc,
        shift_iterate_xor 8 _ (BitVec.ofNat w (2 ^ 8 * littleEndian b)), later]

/-- Two lists that differ in a burst no longer than the register have different checksums. -/
theorem burst_detected (top : poly.msb = true) (crc : BitVec w) {front middle changed back : Bytes}
    (same_length : changed.length = middle.length) (fits : 8 * middle.length ≤ w)
    (different : changed ≠ middle) :
    (front ++ (changed ++ back)).foldl (feedByte poly) crc ≠
      (front ++ (middle ++ back)).foldl (feedByte poly) crc := by
  intro same
  rw [List.foldl_append, List.foldl_append, List.foldl_append, List.foldl_append] at same
  have middles := foldl_feedByte_injective top back same
  generalize front.foldl (feedByte poly) crc = before at middles
  rw [foldl_feedByte before changed (by omega), foldl_feedByte before middle fits,
    same_length] at middles
  have numbers := (BitVec.xor_right_inj _).mp ((shift_injective top).iterate _ middles)
  have held : ∀ b : Bytes, b.length = middle.length →
      (BitVec.ofNat w (littleEndian b)).toNat = littleEndian b := by
    intro b length
    have below := littleEndian_lt b
    have wide : 2 ^ (8 * b.length) ≤ 2 ^ w := Nat.pow_le_pow_right (by decide) (by omega)
    rw [BitVec.toNat_ofNat, Nat.mod_eq_of_lt (by omega)]
  have values := congrArg BitVec.toNat numbers
  rw [held changed same_length, held middle rfl] at values
  exact different (littleEndian_inj same_length values)

/-- Every change within as many adjacent bytes as the register has room for changes the checksum. -/
theorem window_detected (top : poly.msb = true) (crc : BitVec w) {data changed : Bytes} {n i : Nat}
    (fits : 8 * n ≤ w) (same_length : changed.length = data.length) (different : changed ≠ data)
    (place : ∀ j, changed[j]? ≠ data[j]? → i ≤ j ∧ j < i + n) :
    changed.foldl (feedByte poly) crc ≠ data.foldl (feedByte poly) crc := by
  have cut : ∀ b : Bytes, b = b.take i ++ ((b.drop i).take n ++ b.drop (i + n)) := by
    intro b
    rw [← List.drop_drop, List.take_append_drop, List.take_append_drop]
  have before : changed.take i = data.take i := by
    ext1 j
    rw [List.getElem?_take, List.getElem?_take]
    split
    · by_contra apart
      have := place j apart
      omega
    · rfl
  have behind : changed.drop (i + n) = data.drop (i + n) := by
    ext1 j
    rw [List.getElem?_drop, List.getElem?_drop]
    by_contra apart
    have := place (i + n + j) apart
    omega
  have same_size : ((changed.drop i).take n).length = ((data.drop i).take n).length := by
    rw [List.length_take, List.length_take, List.length_drop, List.length_drop, same_length]
  have short : 8 * ((data.drop i).take n).length ≤ w := by
    have := List.length_take_le n (data.drop i)
    omega
  have burst : (changed.drop i).take n ≠ (data.drop i).take n := by
    intro same
    apply different
    rw [cut changed, cut data, before, same, behind]
  rw [cut changed, cut data, before, behind]
  exact burst_detected top crc same_size short burst

end Checksums

end TrackerGateway.Foundation.Wire
