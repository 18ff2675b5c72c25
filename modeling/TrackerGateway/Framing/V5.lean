/- module: TrackerGateway/Framing/V5
   source: src/utils/packet_buffer.py, src/tcp_server.py
   digest: What the packet framer cuts from a stream, and that it does not matter how the stream is
     cut into reads. -/

import TrackerGateway.Foundation.Stream.Framing
import TrackerGateway.Server.HandleDevice

set_option autoImplicit false
set_option relaxedAutoImplicit false

namespace TrackerGateway.Framing.V5

open Foundation.Stream
open Foundation.Wire (Bytes slice bigEndian slice_append isPrefixOf_append)
open Parsers.V5
open TrackerGateway.Runtime

def declaredLength (b : Bytes) : Option Nat :=
  if shortMarker.isPrefixOf b then some ((b.getD 2 0).toNat + 5)
  else if longMarker.isPrefixOf b then some (bigEndian (slice b 2 4) + 6)
  else none

/-- A packet of exactly its declared length. -/
def WellFormed (packet : Bytes) : Prop := declaredLength packet = some packet.length

def Unfinished (b : Bytes) : Prop :=
  b.length < 5 ∨ ∃ n, declaredLength b = some n ∧ b.length < n

theorem declaredLength_ge {b : Bytes} {n : Nat} (declares : declaredLength b = some n) : 5 ≤ n := by
  rw [declaredLength] at declares
  split at declares
  · have := Option.some.inj declares
    omega
  · split at declares
    · have := Option.some.inj declares
      omega
    · cases declares

theorem declaredLength_le {b : Bytes} {n : Nat} (declares : declaredLength b = some n) :
    n ≤ 65541 := by
  rw [declaredLength] at declares
  split at declares
  · have total := Option.some.inj declares
    have byte := (b.getD 2 0).toNat_lt
    omega
  · split at declares
    · have total := Option.some.inj declares
      have value := Foundation.Wire.bigEndian_lt (slice b 2 4)
      have width : (slice b 2 4).length ≤ 2 := by
        rw [Foundation.Wire.slice_length]
        omega
      have bound := Nat.pow_le_pow_right (show 0 < 256 by decide) width
      omega
    · cases declares

theorem declaredLength_append {b : Bytes} (more : Bytes) (enough : 5 ≤ b.length) :
    declaredLength (b ++ more) = declaredLength b := by
  have short : shortMarker.isPrefixOf (b ++ more) = shortMarker.isPrefixOf b :=
    isPrefixOf_append more (by simp [shortMarker]; omega)
  have long : longMarker.isPrefixOf (b ++ more) = longMarker.isPrefixOf b :=
    isPrefixOf_append more (by simp [longMarker]; omega)
  have third : (b ++ more).getD 2 0 = b.getD 2 0 := by
    rw [List.getD_eq_getElem?_getD, List.getD_eq_getElem?_getD,
      List.getElem?_append_left (by omega)]
  rw [declaredLength, declaredLength, short, long, third, slice_append 2 more (by omega)]

theorem WellFormed.length_ge {packet : Bytes} (formed : WellFormed packet) : 5 ≤ packet.length :=
  declaredLength_ge formed

def verdict (b : Bytes) : Verdict :=
  if b.length < 5 then .wait
  else
    match declaredLength b with
    | none => .junk
    | some total => if b.length < total then .wait else .frame total

theorem verdict_wait_iff {b : Bytes} : verdict b = .wait ↔ Unfinished b := by
  rw [verdict, Unfinished]
  split
  · next short => simp [short]
  · next enough =>
      cases declaredLength b with
      | none => simp [enough]
      | some total =>
          by_cases part : b.length < total <;> simp [part, enough]

theorem verdict_frame_iff {b : Bytes} {n : Nat} :
    verdict b = .frame n ↔ declaredLength b = some n ∧ n ≤ b.length := by
  rw [verdict]
  constructor
  · intro cut
    split at cut
    · cases cut
    · split at cut
      · cases cut
      · next total declares =>
          split at cut
          · cases cut
          · next whole =>
              cases cut
              exact ⟨declares, not_lt.mp whole⟩
  · rintro ⟨declares, whole⟩
    have least := declaredLength_ge declares
    rw [if_neg (by omega), declares]
    exact if_neg (by omega)

theorem verdict_junk_iff {b : Bytes} :
    verdict b = .junk ↔ 5 ≤ b.length ∧ declaredLength b = none := by
  rw [verdict]
  constructor
  · intro skip
    split at skip
    · cases skip
    · next enough =>
        split at skip
        · next none_ => exact ⟨not_lt.mp enough, none_⟩
        · split at skip <;> cases skip
  · rintro ⟨enough, none_⟩
    rw [if_neg (by omega), none_]

theorem verdict_ne_reject (b : Bytes) : verdict b ≠ .reject := by
  rw [verdict]
  split
  · simp
  · split
    · simp
    · split <;> simp

def rule : Rule UInt8 where
  verdict := verdict
  frame_bounds := by
    intro b n cut
    obtain ⟨declares, whole⟩ := verdict_frame_iff.mp cut
    have least := declaredLength_ge declares
    exact ⟨by omega, whole⟩
  junk_nonempty := by
    rintro b skip rfl
    exact absurd (verdict_junk_iff.mp skip).1 (by decide)
  stable := by
    intro b more decided
    cases tells : verdict b with
    | wait => exact absurd tells decided
    | reject => exact absurd tells (verdict_ne_reject b)
    | junk =>
        obtain ⟨enough, none_⟩ := verdict_junk_iff.mp tells
        rw [verdict_junk_iff, declaredLength_append more enough, List.length_append]
        exact ⟨by omega, none_⟩
    | frame n =>
        obtain ⟨declares, whole⟩ := verdict_frame_iff.mp tells
        have least := declaredLength_ge declares
        rw [verdict_frame_iff, declaredLength_append more (by omega), List.length_append]
        exact ⟨declares, by omega⟩

theorem extractPackets_eq (b : Bytes) :
    extractPackets b =
      match verdict b with
      | .wait | .reject => ([], b)
      | .frame n => (b.take n :: (extractPackets (b.drop n)).1, (extractPackets (b.drop n)).2)
      | .junk => extractPackets (b.drop 1) := by
  rw [extractPackets]
  rw [verdict, declaredLength]
  by_cases few : b.length < 5
  · rw [dif_pos few, if_pos few]
  · rw [dif_neg few, if_neg few]
    by_cases short : shortMarker.isPrefixOf b = true
    · rw [if_pos short, if_pos short]
      by_cases part : b.length < (b.getD 2 0).toNat + 5 <;> simp only [part, if_true, if_false]
    · rw [if_neg short, if_neg short]
      by_cases long : longMarker.isPrefixOf b = true
      · rw [if_pos long, if_pos long]
        by_cases part : b.length < bigEndian (slice b 2 4) + 6 <;>
          simp only [part, if_true, if_false]
      · rw [if_neg long, if_neg long]

theorem extractPackets_scan (b : Bytes) :
    rule.scan b = ((extractPackets b).1, some (extractPackets b).2) := by
  induction b using rule.scan_induction with
  | wait b tells =>
      rw [extractPackets_eq, Rule.scan_wait tells, show verdict b = .wait from tells]
  | frame b n tells ih =>
      rw [extractPackets_eq, Rule.scan_frame tells, show verdict b = .frame n from tells, ih]
  | junk b tells ih =>
      rw [extractPackets_eq, Rule.scan_junk tells, show verdict b = .junk from tells, ih,
        List.drop_one]
  | reject b tells => exact absurd tells (verdict_ne_reject b)

theorem implements (cfg : Config) : Implements (Server.pipelines cfg .gt06).framer rule := by
  intro b
  rw [extractPackets_scan]
  rfl

theorem extractPackets_unfinished {b : Bytes} (unfinished : Unfinished b) :
    extractPackets b = ([], b) := by
  rw [extractPackets_eq, verdict_wait_iff.mpr unfinished]

theorem extractPackets_rest (b : Bytes) : Unfinished (extractPackets b).2 := by
  have left : (rule.scan b).2 = some (extractPackets b).2 := by rw [extractPackets_scan]
  exact verdict_wait_iff.mp (Rule.scan_rest left)

theorem extractPackets_append (a b : Bytes) :
    extractPackets (a ++ b) =
      ((extractPackets a).1 ++ (extractPackets ((extractPackets a).2 ++ b)).1,
        (extractPackets ((extractPackets a).2 ++ b)).2) := by
  have whole := rule.scan_append a b
  simp only [extractPackets_scan, continued_some] at whole
  obtain ⟨packets, rest⟩ := Prod.mk.inj whole
  exact Prod.ext packets (Option.some.inj rest)

/-- A buffer is a sequence of packets and skipped bytes, in order, and a remainder. -/
inductive Accounted : Bytes → List Bytes → Bytes → Prop
  | rest {b : Bytes} (unfinished : Unfinished b) : Accounted b [] b
  | packet {packet b rest : Bytes} {packets : List Bytes} (formed : WellFormed packet)
      (later : Accounted b packets rest) : Accounted (packet ++ b) (packet :: packets) rest
  | skip {byte : UInt8} {b rest : Bytes} {packets : List Bytes}
      (unmarked : declaredLength (byte :: b) = none) (later : Accounted b packets rest) :
      Accounted (byte :: b) packets rest

theorem wellFormed_take {b : Bytes} {n : Nat} (declares : declaredLength b = some n)
    (whole : n ≤ b.length) : WellFormed (b.take n) := by
  have least := declaredLength_ge declares
  have cut : (b.take n).length = n := by
    rw [List.length_take]
    omega
  have same := declaredLength_append (b.drop n) (b := b.take n) (by omega)
  rw [List.take_append_drop, declares] at same
  rw [WellFormed, ← same, cut]

theorem accounted (b : Bytes) : Accounted b (extractPackets b).1 (extractPackets b).2 := by
  induction b using rule.scan_induction with
  | wait b tells =>
      have unfinished := verdict_wait_iff.mp tells
      rw [extractPackets_unfinished unfinished]
      exact .rest unfinished
  | frame b n tells ih =>
      obtain ⟨declares, whole⟩ := verdict_frame_iff.mp tells
      rw [extractPackets_eq, show verdict b = .frame n from tells]
      have built := Accounted.packet (wellFormed_take declares whole) ih
      rwa [List.take_append_drop] at built
  | junk b tells ih =>
      obtain ⟨enough, unmarked⟩ := verdict_junk_iff.mp tells
      rw [extractPackets_eq, show verdict b = .junk from tells]
      cases b with
      | nil => exact absurd enough (by decide)
      | cons byte b => exact .skip unmarked ih
  | reject b tells => exact absurd tells (verdict_ne_reject b)

/-- No start marker begins in the junk in front of `next`. -/
def Clean (junk next : Bytes) : Prop :=
  ∀ i < junk.length, declaredLength ((junk ++ next).drop i) = none

/-- Packets, each with the junk in front of it, and the junk at the end. -/
def interleave : List (Bytes × Bytes) → Bytes → Bytes
  | [], tail => tail
  | (junk, packet) :: parts, tail => junk ++ (packet ++ interleave parts tail)

theorem WellFormed.cut {packet : Bytes} (formed : WellFormed packet) (more : Bytes) :
    rule.verdict (packet ++ more) = .frame packet.length := by
  refine verdict_frame_iff.mpr ⟨?_, by simp⟩
  rw [declaredLength_append more formed.length_ge]
  exact formed

theorem extractPackets_packet {packet : Bytes} (formed : WellFormed packet) (b : Bytes) :
    extractPackets (packet ++ b) =
      (packet :: (extractPackets b).1, (extractPackets b).2) := by
  rw [extractPackets_eq, show verdict (packet ++ b) = _ from formed.cut b]
  simp

theorem extractPackets_flatten {packets : List Bytes}
    (formed : ∀ packet ∈ packets, WellFormed packet) :
    extractPackets packets.flatten = (packets, []) := by
  induction packets with
  | nil => exact extractPackets_unfinished (.inl (by decide))
  | cons packet packets ih =>
      have later := ih fun other member => formed other (List.mem_cons_of_mem packet member)
      rw [List.flatten_cons, extractPackets_packet (formed packet List.mem_cons_self), later]

theorem extractPackets_alone {packet : Bytes} (formed : WellFormed packet) :
    extractPackets packet = ([packet], []) := by
  have cut := extractPackets_flatten (List.forall_mem_singleton.mpr formed)
  rwa [List.flatten_singleton] at cut

theorem extractPackets_junk {junk packet : Bytes} (clean : Clean junk packet)
    (formed : WellFormed packet) (b : Bytes) :
    extractPackets (junk ++ (packet ++ b)) = extractPackets (packet ++ b) := by
  have least := formed.length_ge
  induction junk with
  | nil => rfl
  | cons byte junk ih =>
      have shorter : Clean junk packet := by
        intro i low
        exact clean (i + 1) (Nat.succ_lt_succ low)
      have unmarked : declaredLength (byte :: junk ++ packet ++ b) = none := by
        rw [declaredLength_append b (by simp; omega)]
        exact clean 0 (Nat.succ_pos _)
      have skip : verdict (byte :: junk ++ (packet ++ b)) = .junk := by
        rw [verdict_junk_iff, ← List.append_assoc]
        exact ⟨by simp; omega, unmarked⟩
      rw [extractPackets_eq, skip]
      exact ih shorter

/-- Of junk at the end of a stream fewer than five bytes are kept. -/
theorem extractPackets_tail {tail : Bytes} (clean : Clean tail []) :
    (extractPackets tail).1 = [] ∧ (extractPackets tail).2 <:+ tail ∧
      (extractPackets tail).2.length < 5 := by
  induction tail with
  | nil =>
      rw [extractPackets_unfinished (.inl (by decide))]
      exact ⟨rfl, List.suffix_rfl, by decide⟩
  | cons byte tail ih =>
      by_cases few : (byte :: tail).length < 5
      · rw [extractPackets_unfinished (.inl few)]
        exact ⟨rfl, List.suffix_rfl, few⟩
      · have unmarked : declaredLength (byte :: tail) = none := by
          simpa using clean 0 (Nat.succ_pos _)
        have skip : verdict (byte :: tail) = .junk := verdict_junk_iff.mpr ⟨by omega, unmarked⟩
        have shorter : Clean tail [] := by
          intro i low
          exact clean (i + 1) (Nat.succ_lt_succ low)
        obtain ⟨none_, suffix, short⟩ := ih shorter
        rw [extractPackets_eq, skip]
        exact ⟨none_, suffix.trans (List.suffix_cons byte tail), short⟩

theorem extractPackets_interleave {parts : List (Bytes × Bytes)} {tail : Bytes}
    (formed : ∀ part ∈ parts, WellFormed part.2) (clean : ∀ part ∈ parts, Clean part.1 part.2)
    (ends : Clean tail []) :
    (extractPackets (interleave parts tail)).1 = parts.map Prod.snd ∧
      (extractPackets (interleave parts tail)).2 <:+ tail ∧
      (extractPackets (interleave parts tail)).2.length < 5 := by
  induction parts with
  | nil => exact extractPackets_tail ends
  | cons part parts ih =>
      obtain ⟨junk, packet⟩ := part
      have first := formed _ List.mem_cons_self
      have later := ih (fun part member => formed part (List.mem_cons_of_mem _ member))
        fun part member => clean part (List.mem_cons_of_mem _ member)
      rw [interleave, extractPackets_junk (clean _ List.mem_cons_self) first,
        extractPackets_packet first, List.map_cons]
      exact ⟨congrArg _ later.1, later.2⟩

/-- However a stream is cut into reads, the framer cuts the same packets from it and keeps the same
remainder; every byte of it is in a packet, skipped where no marker begins, or in the remainder; and
packets among junk are all found. -/
theorem packets_of_any_cut (cfg : Config) :
    (∀ a b p1 r1 p2 r2, extractPackets a = (p1, r1) → extractPackets (r1 ++ b) = (p2, r2) →
      extractPackets (a ++ b) = (p1 ++ p2, r2)) ∧
    (∀ reads, feed (Server.pipelines cfg .gt06).framer [] reads =
      .ok (extractPackets reads.flatten)) ∧
    (∀ b, Accounted b (extractPackets b).1 (extractPackets b).2) ∧
    ∀ parts tail, (∀ part ∈ parts, WellFormed part.2) → (∀ part ∈ parts, Clean part.1 part.2) →
      Clean tail [] → ∃ rest, extractPackets (interleave parts tail) = (parts.map Prod.snd, rest) ∧
        rest <:+ tail ∧ rest.length < 5 := by
  refine ⟨?_, ?_, accounted, ?_⟩
  · intro a b p1 r1 p2 r2 first second
    rw [extractPackets_append, first, second]
  · intro reads
    have settled : (Server.pipelines cfg .gt06).framer [] = .ok ([], []) :=
      congrArg Except.ok (extractPackets_unfinished (b := []) (.inl (by decide)))
    have fed := (implements cfg).incremental.feed_eq settled reads
    rw [List.nil_append] at fed
    exact toOption_eq_some_iff.mp fed
  · intro parts tail formed clean ends
    obtain ⟨packets, suffix, short⟩ := extractPackets_interleave formed clean ends
    exact ⟨_, Prod.ext packets rfl, suffix, short⟩

end TrackerGateway.Framing.V5
