/- module: TrackerGateway/Foundation/Table/Keyed
   layer: library
   digest: Rows with a key, the two ways to insert a row whose key may be taken, and updates. -/

import Mathlib.Data.List.Nodup

set_option autoImplicit false
set_option relaxedAutoImplicit false

namespace TrackerGateway.Foundation.Table

variable {ρ κ : Type} [DecidableEq κ]

def insertNew (key : ρ → κ) (row : ρ) (rows : List ρ) : List ρ :=
  if key row ∈ rows.map key then rows else rows ++ [row]

/-- Insert a row, or merge it into the row that has its key. -/
def upsert (key : ρ → κ) (merge : ρ → ρ → ρ) (row : ρ) : List ρ → List ρ
  | [] => [row]
  | r :: rest => if key r = key row then merge r row :: rest else r :: upsert key merge row rest

def updateAt (key : ρ → κ) (k : κ) (change : ρ → ρ) (rows : List ρ) : List ρ :=
  rows.map fun r => if key r = k then change r else r

def lookup (key : ρ → κ) (k : κ) (rows : List ρ) : Option ρ := rows.find? fun r => key r = k

def Unique (key : ρ → κ) (rows : List ρ) : Prop := (rows.map key).Nodup

variable {key : ρ → κ} {row : ρ} {rows : List ρ} {k : κ}

theorem mem_keys_insertNew : key row ∈ (insertNew key row rows).map key := by
  rw [insertNew]
  split
  · assumption
  · simp

theorem keys_subset_insertNew (taken : k ∈ rows.map key) :
    k ∈ (insertNew key row rows).map key := by
  rw [insertNew]
  split
  · exact taken
  · rw [List.map_append]
    exact List.mem_append_left _ taken

omit [DecidableEq κ] in
theorem Unique.with_fresh (unique : Unique key rows) (fresh : key row ∉ rows.map key) :
    (rows.map key ++ [key row]).Nodup := by
  refine List.Nodup.append unique (List.nodup_singleton _) ?_
  intro k taken same
  rw [List.mem_singleton] at same
  exact fresh (same ▸ taken)

theorem Unique.insertNew (unique : Unique key rows) : Unique key (insertNew key row rows) := by
  rw [Table.insertNew]
  split
  · exact unique
  · next fresh =>
      rw [Unique, List.map_append]
      exact unique.with_fresh fresh

theorem Unique.exactly_one (unique : Unique key rows) (taken : k ∈ rows.map key) :
    (rows.filter fun r => key r = k).length = 1 := by
  have once : (rows.map key).count k = 1 := List.count_eq_one_of_mem unique taken
  rw [List.count, List.countP_map, List.countP_eq_length_filter] at once
  simpa only [Function.comp_def, beq_iff_eq, Bool.beq_eq_decide_eq] using once

theorem Unique.at_most_one (unique : Unique key rows) :
    (rows.filter fun r => key r = k).length ≤ 1 := by
  by_cases taken : k ∈ rows.map key
  · exact Nat.le_of_eq (unique.exactly_one taken)
  · have nobody : (rows.filter fun r => key r = k) = [] := by
      apply List.filter_eq_nil_iff.mpr
      intro r member same
      exact taken (List.mem_map.mpr ⟨r, member, of_decide_eq_true same⟩)
    rw [nobody]
    exact Nat.zero_le 1

theorem key_of_lookup (found : lookup key k rows = some row) : key row = k := by
  have held := List.find?_some found
  exact of_decide_eq_true held

theorem lookup_eq_none_iff : lookup key k rows = none ↔ k ∉ rows.map key := by
  rw [lookup, List.find?_eq_none]
  constructor
  · intro none_ taken
    obtain ⟨r, member, is⟩ := List.mem_map.mp taken
    exact none_ r member (decide_eq_true is)
  · intro free r member is
    exact free (List.mem_map.mpr ⟨r, member, of_decide_eq_true is⟩)

theorem lookup_append_singleton : lookup key k (rows ++ [row]) =
    (lookup key k rows).or (if key row = k then some row else none) := by
  unfold lookup
  rw [List.find?_append, List.find?_singleton]
  simp only [decide_eq_true_eq]

/-- An insertion that leaves a taken key alone shows what an insertion behind all rows does. -/
theorem lookup_insertNew :
    lookup key k (insertNew key row rows) = lookup key k (rows ++ [row]) := by
  rw [insertNew]
  split
  · next taken =>
      rw [lookup_append_singleton]
      cases found : lookup key k rows with
      | some r => rfl
      | none =>
          have other : key row ≠ k := by
            rintro rfl
            exact lookup_eq_none_iff.mp found taken
          rw [if_neg other]
          rfl
  · rfl

theorem Unique.lookup_iff (unique : Unique key rows) :
    lookup key k rows = some row ↔ row ∈ rows ∧ key row = k := by
  unfold lookup
  induction rows with
  | nil => simp
  | cons r rest ih =>
      obtain ⟨fresh, rest_unique⟩ := List.nodup_cons.mp unique
      rw [List.find?_cons, List.mem_cons]
      by_cases same : key r = k
      · simp only [same, decide_true]
        constructor
        · intro found
          obtain rfl := Option.some.inj found
          exact ⟨.inl rfl, same⟩
        · rintro ⟨rfl | member, is⟩
          · rfl
          · exact absurd (List.mem_map.mpr ⟨row, member, is.trans same.symm⟩) fresh
      · simp only [same, decide_false]
        rw [ih rest_unique]
        constructor
        · rintro ⟨member, is⟩
          exact ⟨.inr member, is⟩
        · rintro ⟨rfl | member, is⟩
          · exact absurd is same
          · exact ⟨member, is⟩

theorem Unique.lookup_self_iff (unique : Unique key rows) :
    lookup key (key row) rows = some row ↔ row ∈ rows :=
  unique.lookup_iff.trans (and_iff_left rfl)

section Upsert

variable {merge : ρ → ρ → ρ} (keeps : ∀ r, key r = key row → key (merge r row) = key row)

include keeps

theorem lookup_upsert_self : lookup key (key row) (upsert key merge row rows) =
    some (match lookup key (key row) rows with
      | some r => merge r row
      | none => row) := by
  unfold lookup
  induction rows with
  | nil => simp [upsert]
  | cons r rest ih =>
      unfold upsert
      by_cases same : key r = key row
      · simp [same, keeps r same]
      · simp [same, ih]

theorem lookup_upsert_ne (other : k ≠ key row) :
    lookup key k (upsert key merge row rows) = lookup key k rows := by
  unfold lookup
  induction rows with
  | nil => simp [upsert, other.symm]
  | cons r rest ih =>
      unfold upsert
      by_cases same : key r = key row
      · simp [same, keeps r same, other.symm]
      · rw [if_neg same, List.find?_cons, List.find?_cons, ih]

theorem Unique.upsert (unique : Unique key rows) :
    Unique key (upsert key merge row rows) := by
  have keys : (Table.upsert key merge row rows).map key =
      if key row ∈ rows.map key then rows.map key else rows.map key ++ [key row] := by
    clear unique
    induction rows with
    | nil => simp [Table.upsert]
    | cons r rest ih =>
        unfold Table.upsert
        by_cases same : key r = key row
        · simp [same, keeps r same]
        · simp only [if_neg same, List.map_cons, ih, List.mem_cons, Ne.symm same, false_or]
          split <;> rfl
  rw [Unique, keys]
  split
  · exact unique
  · next fresh => exact unique.with_fresh fresh

end Upsert

section Update

variable {change : ρ → ρ} (keeps : ∀ r, key (change r) = key r)

include keeps

theorem Unique.updateAt (unique : Unique key rows) : Unique key (updateAt key k change rows) := by
  have keys : (Table.updateAt key k change rows).map key = rows.map key := by
    rw [Table.updateAt, List.map_map]
    apply List.map_congr_left
    intro r _
    rw [Function.comp_apply]
    split
    · exact keeps r
    · rfl
  rw [Unique, keys]
  exact unique

theorem lookup_updateAt (other : κ) : lookup key other (updateAt key k change rows) =
    if other = k then (lookup key other rows).map change else lookup key other rows := by
  unfold lookup updateAt
  induction rows with
  | nil => simp
  | cons r rest ih =>
      rw [List.map_cons, List.find?_cons, ih, List.find?_cons]
      by_cases here : other = k <;> by_cases same : key r = k <;> by_cases found : key r = other <;>
        simp_all

end Update

end TrackerGateway.Foundation.Table
