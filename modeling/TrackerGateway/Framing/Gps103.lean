/- module: TrackerGateway/Framing/Gps103
   source: src/parsers/gps103_parser.py
   digest: Messages up to their terminators as a framing rule, and where the message framer departs
     from it. -/

import TrackerGateway.Foundation.Stream.Framing
import TrackerGateway.Parsers.Gps103

set_option autoImplicit false
set_option relaxedAutoImplicit false

namespace TrackerGateway.Framing.Gps103

open Foundation.Stream
open Foundation.Wire (Bytes stripBytes splitOn_part)
open Parsers.Gps103
open TrackerGateway.Runtime

/-- The runs between the terminators; the last one is not terminated. -/
def runs (b : Bytes) : List Bytes := b.splitOn terminator

def fits (cfg : Config) (part : Bytes) : Bool := (part.length : ℤ) ≤ cfg.gps103MaxUnframedBytes

/-- The messages of terminated runs: trimmed, without the blank ones. -/
def messages (parts : List Bytes) : List Bytes :=
  (parts.map stripBytes).filter (!·.isEmpty)

theorem messages_append (first later : List Bytes) :
    messages (first ++ later) = messages first ++ messages later := by
  simp [messages]

theorem messages_eq_nil_iff {parts : List Bytes} :
    messages parts = [] ↔ ∀ part ∈ parts, stripBytes part = [] := by
  simp [messages, List.filter_eq_nil_iff]

theorem runs_open {b : Bytes} (open_ : terminator ∉ b) : runs b = [b] := by
  apply List.splitOnP_eq_singleton
  intro x member
  exact beq_eq_false_iff_ne.mpr fun same => open_ (same ▸ member)

theorem runs_message {part : Bytes} (open_ : terminator ∉ part) (b : Bytes) :
    runs (part ++ terminator :: b) = part :: runs b :=
  splitOn_part open_ b

theorem runs_ne_nil (b : Bytes) : runs b ≠ [] := List.splitOn_ne_nil _ _

/-- A buffer is one run, or starts with a terminated one. -/
theorem open_or_message (b : Bytes) :
    terminator ∉ b ∨ ∃ part rest, terminator ∉ part ∧ b = part ++ terminator :: rest := by
  by_cases member : terminator ∈ b
  · obtain ⟨part, rest, whole, open_⟩ := List.eq_append_cons_of_mem member
    exact .inr ⟨part, rest, open_, whole⟩
  · exact .inl member

/-- The decision at the head of a buffer: a run that is too long is rejected as soon as it is. -/
def verdict (cfg : Config) (b : Bytes) : Verdict :=
  let part := b.takeWhile (· != terminator)
  if fits cfg part then
    if part.length < b.length then .frame (part.length + 1) else .wait
  else .reject

private theorem takeWhile_open {b : Bytes} (open_ : terminator ∉ b) :
    b.takeWhile (· != terminator) = b := by
  apply List.takeWhile_eq_self_iff.mpr
  intro x member
  exact bne_iff_ne.mpr fun same => open_ (same ▸ member)

private theorem takeWhile_message {part : Bytes} (open_ : terminator ∉ part) (b : Bytes) :
    (part ++ terminator :: b).takeWhile (· != terminator) = part := by
  rw [List.takeWhile_append_of_pos]
  · simp
  · exact fun x member => bne_iff_ne.mpr fun same => open_ (same ▸ member)

theorem verdict_open {cfg : Config} {b : Bytes} (open_ : terminator ∉ b) :
    verdict cfg b = if fits cfg b then .wait else .reject := by
  rw [verdict, takeWhile_open open_]
  simp

theorem verdict_message {cfg : Config} {part : Bytes} (open_ : terminator ∉ part) (b : Bytes) :
    verdict cfg (part ++ terminator :: b) =
      if fits cfg part then .frame (part.length + 1) else .reject := by
  rw [verdict, takeWhile_message open_]
  simp

private theorem ne_terminator {b : Bytes} (open_ : terminator ∉ b) :
    ∀ x ∈ b, (x != terminator) = true := by
  intro x member
  exact bne_iff_ne.mpr fun same => open_ (same ▸ member)

private theorem verdict_skips (cfg : Config) (b : Bytes) : verdict cfg b ≠ .junk := by
  intro skip
  rcases open_or_message b with open_ | ⟨part, rest, open_, rfl⟩
  · rw [verdict_open open_] at skip
    split at skip <;> cases skip
  · rw [verdict_message open_] at skip
    split at skip <;> cases skip

def rule (cfg : Config) : Rule UInt8 where
  verdict := verdict cfg
  frame_bounds := by
    intro b n cut
    rcases open_or_message b with open_ | ⟨part, rest, open_, rfl⟩
    · rw [verdict_open open_] at cut
      split at cut <;> cases cut
    · rw [verdict_message open_] at cut
      split at cut
      · cases cut
        simp
      · cases cut
  junk_nonempty := fun skip => absurd skip (verdict_skips cfg _)
  stable := by
    intro b more decided
    rcases open_or_message b with open_ | ⟨part, rest, open_, rfl⟩
    · rw [verdict_open open_] at decided ⊢
      have long : fits cfg b = false := by
        by_contra short
        rw [Bool.not_eq_false] at short
        exact decided (if_pos short)
      -- The run only grows.
      have grows : fits cfg ((b ++ more).takeWhile (· != terminator)) = false := by
        rw [List.takeWhile_append_of_pos (ne_terminator open_)]
        simp only [fits, decide_eq_false_iff_not, not_le, List.length_append] at long ⊢
        omega
      rw [if_neg (by simp [long])]
      exact if_neg (by simp [grows])
    · rw [List.append_assoc, List.cons_append, verdict_message open_, verdict_message open_]

section Scan

variable {cfg : Config} {b part : Bytes}

theorem scan_open (open_ : terminator ∉ b) :
    (rule cfg).scan b = ([], if fits cfg b then some b else none) := by
  have tells : (rule cfg).verdict b = _ := verdict_open open_
  split
  · next short => rw [Rule.scan_wait (by rw [tells, if_pos short])]
  · next long => rw [Rule.scan_reject (by rw [tells, if_neg long])]

theorem verdict_run (open_ : terminator ∉ part) (short : fits cfg part = true) (more : Bytes) :
    (rule cfg).verdict (part ++ [terminator] ++ more) =
      .frame (part ++ [terminator]).length := by
  rw [← List.append_cons, show (rule cfg).verdict _ = _ from verdict_message open_ more,
    if_pos short]
  simp

theorem scan_message (open_ : terminator ∉ part) (short : fits cfg part = true) (b : Bytes) :
    (rule cfg).scan (part ++ terminator :: b) =
      ((part ++ [terminator]) :: ((rule cfg).scan b).1, ((rule cfg).scan b).2) := by
  rw [List.append_cons]
  exact Rule.scan_frame_append (verdict_run open_ short b)

theorem scan_long (open_ : terminator ∉ part) (long : fits cfg part = false) (b : Bytes) :
    (rule cfg).scan (part ++ terminator :: b) = ([], none) := by
  apply Rule.scan_reject
  rw [show (rule cfg).verdict _ = _ from verdict_message open_ b, if_neg (by simp [long])]

/-- The rule cuts the terminated runs in front of the first one that is too long. -/
theorem scan_runs (cfg : Config) (b : Bytes) :
    (rule cfg).scan b =
      (((runs b).dropLast.takeWhile (fits cfg)).map (· ++ [terminator]),
        if (runs b).all (fits cfg) then (runs b).getLast? else none) := by
  induction size : b.length using Nat.strong_induction_on generalizing b with
  | h n ih =>
      rcases open_or_message b with open_ | ⟨part, rest, open_, rfl⟩
      · rw [scan_open open_, runs_open open_]
        simp
      · have smaller : rest.length < n := by
          rw [← size]
          simp
          omega
        obtain ⟨last, more, others⟩ := List.exists_cons_of_ne_nil (runs_ne_nil rest)
        rw [runs_message open_, List.dropLast_cons_of_ne_nil (runs_ne_nil rest), List.all_cons]
        by_cases short : fits cfg part = true
        · rw [scan_message open_ short, ih _ smaller rest rfl, List.takeWhile_cons_of_pos short,
            short, Bool.true_and, others, List.getLast?_cons_cons, List.map_cons]
        · rw [scan_long open_ (by simpa using short), List.takeWhile_cons_of_neg short]
          simp [short]

end Scan

def offered (cfg : Config) (b : Bytes) : List Bytes × Option Bytes :=
  (messages (((rule cfg).scan b).1.map List.dropLast), ((rule cfg).scan b).2)

theorem offered_eq (cfg : Config) (b : Bytes) :
    offered cfg b =
      (messages ((runs b).dropLast.takeWhile (fits cfg)),
        if (runs b).all (fits cfg) then (runs b).getLast? else none) := by
  rw [offered, scan_runs, List.map_map]
  congr 2
  simp [Function.comp_def]

theorem offered_append (cfg : Config) (a b : Bytes) :
    offered cfg (a ++ b) = continued (offered cfg a) fun rest => offered cfg (rest ++ b) := by
  unfold offered
  rw [Rule.scan_append]
  rcases (rule cfg).scan a with ⟨frames, _ | rest⟩
  · rfl
  · simp only [continued_some, List.map_append, messages_append]

def lastRun (b : Bytes) : Bytes := (runs b).getLastD []

theorem getLast?_runs (b : Bytes) : (runs b).getLast? = some (lastRun b) := by
  obtain ⟨first, others, is⟩ := List.exists_cons_of_ne_nil (runs_ne_nil b)
  rw [lastRun, is, List.getLastD_eq_getLast?, List.getLast?_cons, Option.getD_some]

theorem lastRun_mem (b : Bytes) : lastRun b ∈ runs b := List.mem_of_getLast? (getLast?_runs b)

theorem extractMessages_ok {cfg : Config} {b : Bytes} (short : fits cfg (lastRun b) = true) :
    extractMessages cfg b = .ok (messages (runs b).dropLast, lastRun b) := by
  rw [fits, decide_eq_true_eq] at short
  exact if_neg (not_lt.mpr short)

theorem extractMessages_error {cfg : Config} {b : Bytes} (long : fits cfg (lastRun b) = false) :
    ∃ e, extractMessages cfg b = .error e := by
  rw [fits, decide_eq_false_iff_not] at long
  exact ⟨_, if_pos (not_le.mp long)⟩

theorem extractMessages_offered {cfg : Config} {b : Bytes}
    (short : ∀ part ∈ runs b, fits cfg part = true) :
    extractMessages cfg b = .ok (messages (runs b).dropLast, lastRun b) ∧
      offered cfg b = (messages (runs b).dropLast, some (lastRun b)) := by
  refine ⟨extractMessages_ok (short _ (lastRun_mem b)), ?_⟩
  have whole : (runs b).dropLast.takeWhile (fits cfg) = (runs b).dropLast :=
    List.takeWhile_eq_self_iff.mpr fun part member => short part (List.mem_of_mem_dropLast member)
  rw [offered_eq, whole, if_pos (List.all_eq_true.mpr short), getLast?_runs]

end TrackerGateway.Framing.Gps103
