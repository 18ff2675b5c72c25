/- module: TrackerGateway/Foundation/Stream/Carving
   layer: library
   digest: Pieces of a list, in their order and apart from each other, and what is behind them. -/

import Mathlib.Algebra.GroupWithZero.Nat
import TrackerGateway.Foundation.Stream.Framing

set_option autoImplicit false
set_option relaxedAutoImplicit false

namespace TrackerGateway.Foundation.Stream

variable {α : Type}

/-- The pieces stand in the whole one behind the other, none of them empty and with anything between
them; the rest is behind the last. -/
inductive Carved : List (List α) → List α → List α → Prop
  | rest (b : List α) : Carved [] b b
  | skip (x : α) {pieces : List (List α)} {b rest : List α} (later : Carved pieces b rest) :
      Carved pieces (x :: b) rest
  | piece {first : List α} (nonempty : first ≠ []) {pieces : List (List α)} {b rest : List α}
      (later : Carved pieces b rest) : Carved (first :: pieces) (first ++ b) rest

namespace Carved

variable {pieces later : List (List α)} {a b rest rest' more : List α}

theorem skips (junk : List α) (carved : Carved pieces b rest) : Carved pieces (junk ++ b) rest := by
  induction junk with
  | nil => exact carved
  | cons x junk ih => exact .skip x ih

theorem extend (carved : Carved pieces a rest) (more : List α) :
    Carved pieces (a ++ more) (rest ++ more) := by
  induction carved with
  | rest b => exact .rest (b ++ more)
  | skip x _ ih => exact .skip x ih
  | piece nonempty _ ih =>
      rw [List.append_assoc]
      exact .piece nonempty ih

theorem trans (carved : Carved pieces a b) (next : Carved later b rest) :
    Carved (pieces ++ later) a rest := by
  induction carved with
  | rest b => exact next
  | skip x _ ih => exact .skip x (ih next)
  | piece nonempty _ ih => exact .piece nonempty (ih next)

theorem continue_ (carved : Carved pieces a b) (next : Carved later (b ++ more) rest) :
    Carved (pieces ++ later) (a ++ more) rest :=
  (carved.extend more).trans next

theorem start (carved : Carved pieces b rest) (part : later <+: pieces) :
    ∃ rest', Carved later b rest' := by
  induction carved generalizing later with
  | rest b =>
      rw [List.prefix_nil.mp part]
      exact ⟨b, .rest b⟩
  | skip x _ ih =>
      obtain ⟨rest', carved⟩ := ih part
      exact ⟨rest', .skip x carved⟩
  | @piece first nonempty pieces b rest _ ih =>
      cases later with
      | nil => exact ⟨first ++ b, .rest _⟩
      | cons head later =>
          obtain ⟨rfl, others⟩ := List.cons_prefix_cons.mp part
          obtain ⟨rest', carved⟩ := ih others
          exact ⟨rest', .piece nonempty carved⟩

/-- No element belongs to two pieces: what each of them is worth for its length, they are worth
together for the length of the whole. -/
theorem sum_le (carved : Carved pieces b rest) {worth : List α → Nat} {k : Nat}
    (each : ∀ piece, piece ≠ [] → worth piece ≤ k * piece.length) :
    (pieces.map worth).sum + k * rest.length ≤ k * b.length := by
  induction carved with
  | rest b => simp
  | skip x _ ih =>
      rw [List.length_cons, Nat.mul_succ]
      exact Nat.le_trans ih (Nat.le_add_right _ k)
  | @piece first nonempty pieces b rest _ ih =>
      have one := each first nonempty
      rw [List.map_cons, List.sum_cons, List.length_append, Nat.mul_add]
      omega

end Carved

/-- What a rule cuts are pieces of the buffer, and nothing is lost behind them. -/
theorem Rule.scan_carved {rule : Rule α} {b rest : List α}
    (scanned : (rule.scan b).2 = some rest) : Carved (rule.scan b).1 b rest := by
  induction b using rule.scan_induction with
  | wait b tells =>
      rw [scan_wait tells] at scanned ⊢
      obtain rfl := Option.some.inj scanned
      exact .rest b
  | reject b tells =>
      rw [scan_reject tells] at scanned
      cases scanned
  | junk b tells ih =>
      rw [scan_junk tells] at scanned ⊢
      cases b with
      | nil => exact absurd rfl (rule.junk_nonempty tells)
      | cons x b => exact .skip x (ih scanned)
  | frame b n tells ih =>
      rw [scan_frame tells] at scanned ⊢
      have bounds := rule.frame_bounds tells
      have nonempty : b.take n ≠ [] := by
        rw [← List.length_pos_iff, List.length_take]
        omega
      have built := Carved.piece nonempty (ih scanned)
      rwa [List.take_append_drop] at built

end TrackerGateway.Foundation.Stream
