/- module: TrackerGateway/Foundation/Stream/Framing
   layer: library
   digest: Framers that decide at the head of a buffer, and their independence of how a stream is
     cut into reads. -/

import Mathlib.Data.List.Basic

set_option autoImplicit false
set_option relaxedAutoImplicit false

namespace TrackerGateway.Foundation.Stream

variable {α β ε : Type}

inductive Verdict
  /-- too little to tell -/
  | wait
  /-- a frame of this length -/
  | frame (length : Nat)
  /-- an element that belongs to no frame -/
  | junk
  /-- nothing that a stream of frames continues -/
  | reject

/-- A framing rule: what it tells of a buffer it tells of every longer one. -/
structure Rule (α : Type) where
  verdict : List α → Verdict
  frame_bounds : ∀ {b : List α} {n : Nat}, verdict b = .frame n → 0 < n ∧ n ≤ b.length
  junk_nonempty : ∀ {b : List α}, verdict b = .junk → b ≠ []
  stable : ∀ {b : List α} (more : List α), verdict b ≠ .wait → verdict (b ++ more) = verdict b

/-- The frames of a buffer, then those that its remainder has part in; a rejected stream stays as it
is. -/
def continued (result : List β × Option (List α)) (later : List α → List β × Option (List α)) :
    List β × Option (List α) :=
  match result with
  | (frames, none) => (frames, none)
  | (frames, some rest) => (frames ++ (later rest).1, (later rest).2)

@[simp] theorem continued_none (frames : List β) (later : List α → List β × Option (List α)) :
    continued (frames, none) later = (frames, none) := rfl

@[simp] theorem continued_some (frames : List β) (rest : List α)
    (later : List α → List β × Option (List α)) :
    continued (frames, some rest) later = (frames ++ (later rest).1, (later rest).2) := rfl

namespace Rule

variable (rule : Rule α)

/-- The frames of a buffer and the bytes behind them; no bytes are left of a rejected stream. -/
def scan (b : List α) : List (List α) × Option (List α) :=
  match _ : rule.verdict b with
  | .wait => ([], some b)
  | .frame n => (b.take n :: (scan (b.drop n)).1, (scan (b.drop n)).2)
  | .junk => scan b.tail
  | .reject => ([], none)
termination_by b.length
decreasing_by
  · have bounds := rule.frame_bounds ‹_›
    rw [List.length_drop]
    omega
  · have nonempty := List.length_pos_iff.mpr (rule.junk_nonempty ‹_›)
    rw [List.length_tail]
    omega

variable {rule} {b rest : List α} {frames : List (List α)} {n : Nat}

theorem scan_wait (tells : rule.verdict b = .wait) : rule.scan b = ([], some b) := by
  rw [scan]
  split <;> simp_all

theorem scan_reject (tells : rule.verdict b = .reject) : rule.scan b = ([], none) := by
  rw [scan]
  split <;> simp_all

theorem scan_junk (tells : rule.verdict b = .junk) : rule.scan b = rule.scan b.tail := by
  rw [scan]
  split <;> simp_all

theorem scan_frame (tells : rule.verdict b = .frame n) :
    rule.scan b = (b.take n :: (rule.scan (b.drop n)).1, (rule.scan (b.drop n)).2) := by
  rw [scan]
  split <;> simp_all

theorem scan_induction (rule : Rule α) {P : List α → Prop}
    (wait : ∀ b, rule.verdict b = .wait → P b)
    (frame : ∀ b n, rule.verdict b = .frame n → P (b.drop n) → P b)
    (junk : ∀ b, rule.verdict b = .junk → P b.tail → P b)
    (reject : ∀ b, rule.verdict b = .reject → P b) (b : List α) : P b := by
  induction b using scan.induct rule with
  | case1 b tells => exact wait b tells
  | case2 b n tells ih => exact frame b n tells ih
  | case3 b tells ih => exact junk b tells ih
  | case4 b tells => exact reject b tells

/-- More bytes extend the frames of a buffer by those of its remainder, and never revise them. -/
theorem scan_append (b more : List α) :
    rule.scan (b ++ more) = continued (rule.scan b) fun rest => rule.scan (rest ++ more) := by
  induction b using rule.scan_induction with
  | wait b tells => simp [scan_wait tells]
  | reject b tells =>
      have same : rule.verdict (b ++ more) = .reject := by
        rw [rule.stable more (by simp [tells]), tells]
      simp [scan_reject tells, scan_reject same]
  | junk b tells ih =>
      have same : rule.verdict (b ++ more) = .junk := by
        rw [rule.stable more (by simp [tells]), tells]
      rw [scan_junk tells, scan_junk same, List.tail_append_of_ne_nil (rule.junk_nonempty tells),
        ih]
  | frame b n tells ih =>
      have same : rule.verdict (b ++ more) = .frame n := by
        rw [rule.stable more (by simp [tells]), tells]
      have fits := (rule.frame_bounds tells).2
      rw [scan_frame tells, scan_frame same, List.take_append_of_le_length fits,
        List.drop_append_of_le_length fits, ih]
      rcases rule.scan (b.drop n) with ⟨later, _ | rest⟩ <;> rfl

theorem scan_rest (scanned : (rule.scan b).2 = some rest) : rule.verdict rest = .wait := by
  induction b using rule.scan_induction with
  | wait b tells =>
      rw [scan_wait tells] at scanned
      obtain rfl := Option.some.inj scanned
      exact tells
  | reject b tells =>
      rw [scan_reject tells] at scanned
      cases scanned
  | junk b tells ih =>
      rw [scan_junk tells] at scanned
      exact ih scanned
  | frame b n tells ih =>
      rw [scan_frame tells] at scanned
      exact ih scanned

theorem scan_frames (frame : List α) (cut : frame ∈ (rule.scan b).1) :
    ∃ more, rule.verdict (frame ++ more) = .frame frame.length := by
  induction b using rule.scan_induction with
  | wait b tells => simp [scan_wait tells] at cut
  | reject b tells => simp [scan_reject tells] at cut
  | junk b tells ih =>
      rw [scan_junk tells] at cut
      exact ih cut
  | frame b n tells ih =>
      rw [scan_frame tells] at cut
      rcases List.mem_cons.mp cut with rfl | later
      · refine ⟨b.drop n, ?_⟩
        rw [List.take_append_drop, List.length_take, Nat.min_eq_left (rule.frame_bounds tells).2,
          tells]
      · exact ih later

/-- Where nothing is junk, the frames and the remainder are the buffer. -/
theorem scan_flatten (solid : ∀ b, rule.verdict b ≠ .junk) (b : List α) :
    (rule.scan b).1.flatten <+: b ∧
      ∀ rest, (rule.scan b).2 = some rest → (rule.scan b).1.flatten ++ rest = b := by
  induction b using rule.scan_induction with
  | wait b tells => simp [scan_wait tells]
  | reject b tells => simp [scan_reject tells]
  | junk b tells ih => exact absurd tells (solid b)
  | frame b n tells ih =>
      obtain ⟨⟨lost, begins⟩, whole⟩ := ih
      rw [scan_frame tells]
      refine ⟨⟨lost, ?_⟩, ?_⟩
      · rw [List.flatten_cons, List.append_assoc, begins, List.take_append_drop]
      · intro rest scanned
        rw [List.flatten_cons, List.append_assoc, whole rest scanned, List.take_append_drop]

theorem scan_rejected (solid : ∀ b, rule.verdict b ≠ .junk) (rejected : (rule.scan b).2 = none) :
    ∃ rest, (rule.scan b).1.flatten ++ rest = b ∧ rule.verdict rest = .reject := by
  induction b using rule.scan_induction with
  | wait b tells => simp [scan_wait tells] at rejected
  | reject b tells => exact ⟨b, by simp [scan_reject tells], tells⟩
  | junk b tells ih => exact absurd tells (solid b)
  | frame b n tells ih =>
      rw [scan_frame tells] at rejected
      obtain ⟨rest, whole, offends⟩ := ih rejected
      refine ⟨rest, ?_, offends⟩
      rw [scan_frame tells, List.flatten_cons, List.append_assoc, whole, List.take_append_drop]

theorem scan_frame_append {frame : List α}
    (tells : rule.verdict (frame ++ b) = .frame frame.length) :
    rule.scan (frame ++ b) = (frame :: (rule.scan b).1, (rule.scan b).2) := by
  rw [scan_frame tells, List.take_left, List.drop_left]

theorem scan_frames_append {frames : List (List α)}
    (are : ∀ frame ∈ frames, ∀ more, rule.verdict (frame ++ more) = .frame frame.length)
    (b : List α) :
    rule.scan (frames.flatten ++ b) = (frames ++ (rule.scan b).1, (rule.scan b).2) := by
  induction frames with
  | nil => rfl
  | cons frame frames ih =>
      have later := ih fun other member => are other (List.mem_cons_of_mem frame member)
      rw [List.flatten_cons, List.append_assoc,
        scan_frame_append (are frame List.mem_cons_self _), later]
      rfl

end Rule

/-- Feed reads to a framer one by one, carrying the remainder; an exception ends it all. -/
def feed (framer : List α → Except ε (List β × List α)) :
    List α → List (List α) → Except ε (List β × List α)
  | buffer, [] => .ok ([], buffer)
  | buffer, read :: reads => do
      let (frames, rest) ← framer (buffer ++ read)
      let (later, last) ← feed framer rest reads
      return (frames ++ later, last)

/-- A framer whose result on a longer buffer continues its result on a shorter one. -/
structure Incremental (framer : List α → Except ε (List β × List α)) : Prop where
  fails {a : List α} {e : ε} (b : List α) (raised : framer a = .error e) :
    ∃ e', framer (a ++ b) = .error e'
  continues {a rest : List α} {frames : List β} (b : List α) (cut : framer a = .ok (frames, rest)) :
    (framer (a ++ b)).toOption =
      (framer (rest ++ b)).toOption.map fun later => (frames ++ later.1, later.2)

section Feeding

variable {framer : List α → Except ε (List β × List α)}

theorem toOption_eq_none_iff {r : Except ε β} : r.toOption = none ↔ ∃ e, r = .error e := by
  cases r <;> simp [Except.toOption]

theorem toOption_eq_some_iff {r : Except ε β} {x : β} : r.toOption = some x ↔ r = .ok x := by
  cases r <;> simp [Except.toOption]

theorem Incremental.settled (incremental : Incremental framer) {a rest : List α} {frames : List β}
    (cut : framer a = .ok (frames, rest)) : framer rest = .ok ([], rest) := by
  have again := incremental.continues [] cut
  rw [List.append_nil, List.append_nil, cut] at again
  obtain ⟨⟨later, last⟩, found, same⟩ := Option.map_eq_some_iff.mp again.symm
  obtain ⟨none_, rfl⟩ := Prod.mk.inj same
  obtain rfl : later = [] := List.append_right_eq_self.mp none_
  exact toOption_eq_some_iff.mp found

/-- Feeding a stream read by read is framing it whole, however it is cut into reads. -/
theorem Incremental.feed_eq (incremental : Incremental framer) {buffer : List α}
    (settled : framer buffer = .ok ([], buffer)) (reads : List (List α)) :
    (feed framer buffer reads).toOption = (framer (buffer ++ reads.flatten)).toOption := by
  induction reads generalizing buffer with
  | nil => rw [List.flatten_nil, List.append_nil, settled, feed]
  | cons read reads ih =>
      rw [List.flatten_cons, ← List.append_assoc, feed]
      cases cut : framer (buffer ++ read) with
      | error e =>
          obtain ⟨e', raised⟩ := incremental.fails reads.flatten cut
          rw [raised]
          rfl
      | ok result =>
          obtain ⟨frames, rest⟩ := result
          rw [incremental.continues reads.flatten cut, ← ih (incremental.settled cut)]
          cases fed : feed framer rest reads <;> simp [fed, Except.toOption, bind, Except.bind,
            pure, Except.pure]

end Feeding

/-- A framer that raises on the streams its rule rejects and returns the scan of all others. -/
def Implements (framer : List α → Except ε (List (List α) × List α)) (rule : Rule α) : Prop :=
  ∀ b, (framer b).toOption = (rule.scan b).2.map fun rest => ((rule.scan b).1, rest)

theorem Implements.incremental {framer : List α → Except ε (List (List α) × List α)}
    {rule : Rule α} (implements : Implements framer rule) : Incremental framer where
  fails := by
    intro a e b raised
    have rejected : (rule.scan a).2 = none := by
      have scanned := implements a
      rw [raised] at scanned
      exact Option.map_eq_none_iff.mp scanned.symm
    apply toOption_eq_none_iff.mp
    have whole : rule.scan a = ((rule.scan a).1, none) := Prod.ext rfl rejected
    rw [implements, Rule.scan_append, whole]
    rfl
  continues := by
    intro a rest frames b cut
    have scanned := implements a
    rw [cut] at scanned
    obtain ⟨rest', left, same⟩ := Option.map_eq_some_iff.mp scanned.symm
    obtain ⟨rfl, rfl⟩ := Prod.mk.inj same
    have whole : rule.scan a = ((rule.scan a).1, some rest') := Prod.ext rfl left
    rw [implements, implements, Rule.scan_append, whole, continued_some, Option.map_map]
    rfl

end TrackerGateway.Foundation.Stream
