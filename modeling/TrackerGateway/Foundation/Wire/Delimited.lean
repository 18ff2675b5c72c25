/- module: TrackerGateway/Foundation/Wire/Delimited
   layer: library
   digest: Lists of fields with a separator between them and a terminator behind the last. -/

import Mathlib.Data.List.Basic

set_option autoImplicit false
set_option relaxedAutoImplicit false

namespace TrackerGateway.Foundation.Wire

variable {α : Type}

theorem notMem_of_mem_splitOn [DecidableEq α] {separator : α} {l piece : List α}
    (member : piece ∈ l.splitOn separator) : separator ∉ piece := by
  induction l generalizing piece with
  | nil =>
      rw [List.splitOn_nil, List.mem_singleton] at member
      rw [member]
      exact List.not_mem_nil
  | cons a l ih =>
      rw [List.splitOn_cons_eq_if_modifyHead] at member
      split at member
      · rcases List.mem_cons.mp member with rfl | member
        · exact List.not_mem_nil
        · exact ih member
      · next differs =>
          obtain ⟨first, rest, split⟩ :=
            List.exists_cons_of_ne_nil (List.splitOn_ne_nil separator l)
          rw [split, List.modifyHead_cons] at member
          rcases List.mem_cons.mp member with rfl | member
          · rw [List.mem_cons, not_or]
            refine ⟨?_, ih (split ▸ List.mem_cons_self)⟩
            rintro rfl
            exact differs (by simp)
          · exact ih (split ▸ List.mem_cons_of_mem first member)

theorem mem_intercalate {separator a : α} {fields : List (List α)} (differs : a ≠ separator) :
    a ∈ [separator].intercalate fields ↔ ∃ field ∈ fields, a ∈ field := by
  induction fields with
  | nil => simp [List.intercalate_nil]
  | cons first rest ih =>
      rcases eq_or_ne rest [] with rfl | more
      · simp [List.intercalate_singleton]
      · rw [List.intercalate_cons_of_ne_nil more, List.append_assoc, List.mem_append,
          List.mem_append, ih, List.mem_singleton, List.exists_mem_cons_iff]
        simp [differs]

def delimited (separator terminator : α) (fields : List (List α)) : List α :=
  [separator].intercalate fields ++ [terminator]

theorem intercalate_cons {separator : α} (first : List α) (rest : List (List α)) :
    [separator].intercalate (first :: rest) = first ++ rest.flatMap (separator :: ·) := by
  induction rest generalizing first with
  | nil => simp [List.intercalate_singleton]
  | cons second rest ih =>
      rw [List.intercalate_cons_cons, ih, List.flatMap_cons]
      simp

variable [DecidableEq α]

/-- The terminator occurs once, at the end, and what is before it splits into the fields. -/
structure Recovered (separator terminator : α) (fields : List (List α)) (l : List α) : Prop where
  once : l.count terminator = 1
  ends : l.getLast? = some terminator
  split : l.dropLast.splitOn separator = fields

variable {separator terminator : α} {fields fields' : List (List α)}

/-- Fields are recovered exactly if none of them holds the separator or the terminator. -/
theorem recovered_iff (some_ : fields ≠ []) (distinct : terminator ≠ separator) :
    Recovered separator terminator fields (delimited separator terminator fields) ↔
      ∀ field ∈ fields, separator ∉ field ∧ terminator ∉ field := by
  have body : (delimited separator terminator fields).dropLast = [separator].intercalate fields :=
    List.dropLast_concat
  constructor
  · intro recovered field member
    constructor
    · have split := recovered.split
      rw [body] at split
      exact notMem_of_mem_splitOn (split ▸ member)
    · intro inside
      have once := recovered.once
      rw [delimited, List.count_append, List.count_singleton_self] at once
      have absent := List.count_eq_zero.mp (Nat.succ.inj once)
      exact absent ((mem_intercalate distinct).mpr ⟨field, member, inside⟩)
  · intro clean
    have absent : terminator ∉ [separator].intercalate fields := by
      rw [mem_intercalate distinct]
      rintro ⟨field, member, inside⟩
      exact (clean field member).2 inside
    refine ⟨?_, List.getLast?_concat, ?_⟩
    · rw [delimited, List.count_append, List.count_eq_zero.mpr absent, List.count_singleton_self]
    · rw [body]
      exact List.splitOn_intercalate separator (fun field member => (clean field member).1) some_

theorem Recovered.unique {l : List α} (one : Recovered separator terminator fields l)
    (other : Recovered separator terminator fields' l) : fields = fields' :=
  one.split.symm.trans other.split

end TrackerGateway.Foundation.Wire
