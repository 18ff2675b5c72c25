/- module: TrackerGateway/Foundation/Stream/Reading
   layer: library
   digest: Readers that take a known front off their input, what they return and raise, and how
     they compose. -/

import Mathlib.Data.List.Basic

set_option autoImplicit false
set_option relaxedAutoImplicit false

namespace TrackerGateway.Foundation.Stream

variable {β ε α γ : Type}

/-- The reader returns `a` from the front `b` of every input, and leaves what stands behind it. -/
def Reads (read : StateT (List β) (Except ε) α) (b : List β) (a : α) : Prop :=
  ∀ rest, read.run (b ++ rest) = .ok (a, rest)

theorem reads_pure (a : α) : Reads (pure a : StateT (List β) (Except ε) α) [] a :=
  fun _ => rfl

theorem Reads.bind {read : StateT (List β) (Except ε) α} {next : α → StateT (List β) (Except ε) γ}
    {front back : List β} {a : α} {c : γ} (first : Reads read front a)
    (later : Reads (next a) back c) : Reads (read >>= next) (front ++ back) c := by
  intro rest
  rw [StateT.run_bind, List.append_assoc, first]
  exact later rest

theorem Reads.map {read : StateT (List β) (Except ε) α} {front : List β} {a : α} (f : α → γ)
    (first : Reads read front a) : Reads (read >>= fun x => pure (f x)) front (f a) := by
  intro rest
  rw [StateT.run_bind, first]
  rfl

theorem Reads.whole {read : StateT (List β) (Except ε) α} {b : List β} {a : α}
    (reads : Reads read b a) : read.run b = .ok (a, []) := by
  have all := reads []
  rwa [List.append_nil] at all

theorem run_bind_eq_ok_iff {read : StateT (List β) (Except ε) α}
    {next : α → StateT (List β) (Except ε) γ} {data rest : List β} {c : γ} :
    (read >>= next).run data = .ok (c, rest) ↔
      ∃ a later, read.run data = .ok (a, later) ∧ (next a).run later = .ok (c, rest) := by
  rw [StateT.run_bind]
  cases ran : read.run data with
  | error e =>
      constructor
      · intro finished
        cases finished
      · rintro ⟨a, later, first, -⟩
        cases first
  | ok result =>
      obtain ⟨a, later⟩ := result
      constructor
      · intro finished
        exact ⟨a, later, rfl, finished⟩
      · rintro ⟨a', later', first, finished⟩
        cases first
        exact finished

def Raises (read : StateT (List β) (Except ε) α) (kind : ε → Prop) : Prop :=
  ∀ data e, read.run data = .error e → kind e

section Raising

variable {kind : ε → Prop} {read : StateT (List β) (Except ε) α}

theorem raises_pure (a : α) : Raises (pure a : StateT (List β) (Except ε) α) kind := by
  intro data e raised
  cases raised

theorem raises_get : Raises (get : StateT (List β) (Except ε) (List β)) kind := by
  intro data e raised
  cases raised

theorem raises_throw {e : ε} (is : kind e) :
    Raises (throw e : StateT (List β) (Except ε) α) kind := by
  intro data e' raised
  cases raised
  exact is

theorem Raises.bind {next : α → StateT (List β) (Except ε) γ} (first : Raises read kind)
    (later : ∀ a, Raises (next a) kind) : Raises (read >>= next) kind := by
  intro data e raised
  rw [StateT.run_bind] at raised
  cases ran : read.run data with
  | error e' =>
      rw [ran] at raised
      cases raised
      exact first data _ ran
  | ok result =>
      rw [ran] at raised
      exact later result.1 result.2 e raised

theorem Raises.ite {other : StateT (List β) (Except ε) α} {c : Prop} [Decidable c]
    (yes : Raises read kind) (no : Raises other kind) :
    Raises (if c then read else other) kind := by
  split
  · exact yes
  · exact no

end Raising

end TrackerGateway.Foundation.Stream
