/- module: TrackerGateway/Foundation/Wire/Quoting
   layer: library
   digest: What a quoted text consists of, and how long it can be. -/

import TrackerGateway.Foundation.Wire.Texts

set_option autoImplicit false
set_option relaxedAutoImplicit false

namespace TrackerGateway.Foundation.Wire

def isVisible (c : Char) : Bool := 32 ≤ c.toNat && c.toNat < 127

theorem isVisible_of_mem_toDigits {n : Nat} {c : Char} (member : c ∈ Nat.toDigits 16 n) :
    isVisible c = true := by
  have digits : ∀ d < 16, isVisible d.digitChar = true := by decide
  induction n using Nat.strongRecOn with
  | ind n ih =>
      rcases lt_or_ge n 16 with small | large
      · rw [Nat.toDigits_of_lt_base small, List.mem_singleton] at member
        rw [member]
        exact digits n small
      · rw [Nat.toDigits_of_base_le (by decide) large, List.mem_append,
          List.mem_singleton] at member
        rcases member with front | rfl
        · exact ih (n / 16) (Nat.div_lt_self (by omega) (by decide)) front
        · exact digits _ (Nat.mod_lt n (by decide))

theorem isVisible_of_mem_paddedHex {width n : Nat} {c : Char} (member : c ∈ paddedHex width n) :
    isVisible c = true := by
  rcases List.mem_append.mp member with zero | digit
  · rw [List.eq_of_mem_replicate zero]
    rfl
  · exact isVisible_of_mem_toDigits digit

theorem length_paddedHex {width n : Nat} (wide : 0 < width) (fits : n < 16 ^ width) :
    (paddedHex width n).length = width := by
  have short : (Nat.toDigits 16 n).length ≤ width :=
    (Nat.length_toDigits_le_iff (by decide) wide).mpr fits
  rw [paddedHex, List.length_append, List.length_replicate]
  omega

section Quoting

variable {quote c : Char} {t : Text}

theorem isVisible_of_mem_escapeChar (visible : isVisible quote = true) {d : Char}
    (member : d ∈ escapeChar quote c) : isVisible d = true := by
  have escaped : ∀ {front hex : Text}, front.all isVisible = true →
      (∀ d ∈ hex, isVisible d = true) → d ∈ front ++ hex → isVisible d = true := by
    intro front hex first second inside
    rcases List.mem_append.mp inside with inside | inside
    · exact List.all_eq_true.mp first d inside
    · exact second d inside
  unfold escapeChar at member
  split at member
  · next special =>
      have known : isVisible c = true := by
        rcases special with rfl | rfl
        · exact visible
        · rfl
      simp only [List.mem_cons, List.not_mem_nil, or_false] at member
      rcases member with rfl | rfl
      · rfl
      · exact known
  · split at member
    · exact List.all_eq_true.mp (by decide : "\\t".toList.all isVisible = true) d member
    · split at member
      · exact List.all_eq_true.mp (by decide : "\\n".toList.all isVisible = true) d member
      · split at member
        · exact List.all_eq_true.mp (by decide : "\\r".toList.all isVisible = true) d member
        · split at member
          · next plain =>
              rw [List.mem_singleton] at member
              subst member
              simpa [isVisible] using plain
          · split at member
            · exact escaped (by decide) (fun _ => isVisible_of_mem_paddedHex) member
            · split at member
              · exact escaped (by decide) (fun _ => isVisible_of_mem_paddedHex) member
              · exact escaped (by decide) (fun _ => isVisible_of_mem_paddedHex) member

theorem length_escapeChar_le : (escapeChar quote c).length ≤ 10 := by
  have bound : c.toNat < 16 ^ 8 := lt_of_lt_of_le c.val.toNat_lt (by decide)
  unfold escapeChar
  repeat' split
  all_goals simp only [List.length_append, List.length_cons, List.length_nil, String.length_toList]
  all_goals try decide
  · rw [length_paddedHex (by decide) (by omega)]
    decide
  · rw [length_paddedHex (by decide) (by omega)]
    decide
  · rw [length_paddedHex (by decide) bound]
    decide

theorem isVisible_of_mem_quoted {d : Char} (member : d ∈ quoted t) : isVisible d = true := by
  have visible : isVisible (if t.contains '\'' && !t.contains '"' then '"' else '\'') = true := by
    split <;> rfl
  simp only [quoted, List.mem_append, List.mem_cons, List.mem_flatMap, List.not_mem_nil,
    or_false] at member
  rcases member with (rfl | ⟨c, _, inside⟩) | rfl
  · exact visible
  · exact isVisible_of_mem_escapeChar visible inside
  · exact visible

theorem length_quoted_le : (quoted t).length ≤ 10 * t.length + 2 := by
  have body : ∀ (quote : Char) (l : Text),
      (l.flatMap (escapeChar quote)).length ≤ 10 * l.length := by
    intro quote l
    induction l with
    | nil => exact Nat.le_refl 0
    | cons c l ih =>
        rw [List.flatMap_cons, List.length_append, List.length_cons]
        have one : (escapeChar quote c).length ≤ 10 := length_escapeChar_le
        omega
  rw [quoted]
  simp only [List.length_append, List.length_cons, List.length_nil]
  have whole := body (if t.contains '\'' && !t.contains '"' then '"' else '\'') t
  omega

end Quoting

end TrackerGateway.Foundation.Wire
