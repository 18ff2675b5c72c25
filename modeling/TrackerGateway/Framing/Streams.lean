/- module: TrackerGateway/Framing/Streams
   source: src/tcp_server.py, src/protocols/detect.py, src/parsers, src/utils/packet_buffer.py
   digest: A well-formed stream reaches its family's handler frame by frame, however it is cut into
     reads and whatever other connections do. -/

import TrackerGateway.Framing.Loss

set_option autoImplicit false
set_option relaxedAutoImplicit false

namespace TrackerGateway.Framing

open Foundation.Stream
open Foundation.Transition (run)
open Foundation.Wire (Bytes Text slice asciiBytes)
open TrackerGateway.Runtime
open Server

def FrameOf (cfg : Config) : Family → Bytes → Prop
  | .gt06, frame => V5.WellFormed frame
  | .gps103, frame => ∃ part, Parsers.Gps103.terminator ∉ part ∧ Gps103.fits cfg part = true ∧
      frame = part ++ [Parsers.Gps103.terminator]
  | .teltonika, frame => Teltonika.IsFrame cfg frame

def LoginOf (cfg : Config) (family : Family) (frame : Bytes) : Prop :=
  FrameOf cfg family frame ∧
    match family with
    | .gt06 => Parsers.V5.shortMarker.isPrefixOf frame = true ∧ frame[3]? = some 0x01
    | .gps103 => (asciiBytes "##,imei:".toList).isPrefixOf frame = true
    | .teltonika => Parsers.Teltonika.isLoginFrame frame = true

/-- What the handler gets of frames: of messages their text, if there is any. -/
def delivered : Family → List Bytes → List Bytes
  | .gps103, frames => Gps103.messages (frames.map List.dropLast)
  | _, frames => frames

section Offers

variable {cfg : Config} {family : Family}

theorem offered_frames {frames : List Bytes} (some_ : frames ≠ [])
    (are : ∀ frame ∈ frames, FrameOf cfg family frame) :
    offered cfg family frames.flatten = (delivered family frames, some []) := by
  rw [← List.append_nil frames.flatten]
  cases family with
  | gt06 =>
      rw [offered, Rule.scan_frames_append fun frame member => (are frame member).cut]
      rw [Rule.scan_wait (show V5.rule.verdict [] = .wait from rfl), List.append_nil]
      rfl
  | teltonika =>
      rw [offered, Rule.scan_frames_append fun frame member => (are frame member).cut]
      rw [Rule.scan_wait (show (Teltonika.rule cfg).verdict [] = .wait from rfl), List.append_nil]
      rfl
  | gps103 =>
      have cut : ∀ frame ∈ frames, ∀ more,
          (Gps103.rule cfg).verdict (frame ++ more) = .frame frame.length := by
        intro frame member more
        obtain ⟨part, open_, short, rfl⟩ := are frame member
        exact Gps103.verdict_run open_ short more
      -- The limit is not negative, since a run keeps to it.
      have limit : Gps103.fits cfg [] = true := by
        obtain ⟨frame, others, rfl⟩ := List.exists_cons_of_ne_nil some_
        obtain ⟨part, -, short, -⟩ := are frame List.mem_cons_self
        simp only [Gps103.fits, decide_eq_true_eq, List.length_nil] at short ⊢
        omega
      have ends : (Gps103.rule cfg).scan [] = _ := Gps103.scan_open (by simp)
      rw [if_pos limit] at ends
      rw [offered, Gps103.offered, Rule.scan_frames_append cut, ends, List.append_nil]
      rfl

theorem framer_of_offered {b rest : Bytes} (left : (offered cfg family b).2 = some rest) :
    (pipelines cfg family).framer b = .ok ((offered cfg family b).1, rest) := by
  have faithful : Faithful cfg family b := by
    apply (tolerated_iff cfg family b).mp
    cases family with
    | gt06 => trivial
    | teltonika =>
        rintro frames tail - are rfl offends
        rw [offered, Rule.scan_frames_append fun frame member => (are frame member).cut,
          Rule.scan_reject (show (Teltonika.rule cfg).verdict tail = .reject from offends)] at left
        cases left
    | gps103 =>
        rw [offered, Gps103.offered_eq] at left
        have all : ∀ part ∈ Gps103.runs b, Gps103.fits cfg part = true := by
          by_contra long
          rw [← List.all_eq_true] at long
          rw [if_neg long] at left
          cases left
        simp only [Tolerated]
        rw [if_pos (all _ (Gps103.lastRun_mem b))]
        exact all
  rw [Faithful] at faithful
  cases cut : (pipelines cfg family).framer b with
  | ok result =>
      rw [cut] at faithful
      rw [faithful] at left ⊢
      obtain rfl := Option.some.inj left
      rfl
  | error e =>
      rw [cut] at faithful
      rw [faithful] at left
      cases left

end Offers

section Detection

variable {cfg : Config} {family : Family} {login : Bytes}

theorem LoginOf.sniff_append (is : LoginOf cfg family login) (more : Bytes) :
    sniff (login ++ more) = some family := by
  obtain ⟨formed, start⟩ := is
  cases family with
  | gt06 =>
      obtain ⟨rest, rfl⟩ := List.isPrefixOf_iff_prefix.mp start.1
      simp [sniff, Parsers.V5.shortMarker]
  | gps103 =>
      obtain ⟨rest, rfl⟩ := List.isPrefixOf_iff_prefix.mp start
      simp [sniff, asciiBytes]
  | teltonika =>
      simp only [Parsers.Teltonika.isLoginFrame, Bool.and_eq_true, decide_eq_true_eq] at start
      obtain ⟨size, two⟩ := start
      obtain ⟨tail, rfl⟩ : ∃ tail, login = 0x00 :: 0x0F :: tail := by
        refine ⟨login.drop 2, ?_⟩
        calc login = login.take 2 ++ login.drop 2 := (List.take_append_drop 2 login).symm
          _ = _ := by rw [two]; rfl
      have digits : Teltonika.hasDigits (0x00 :: 0x0F :: tail) = true := by
        rcases formed with ⟨-, -, digits⟩ | ⟨packet, -, -⟩
        · exact digits
        · simp [Parsers.Teltonika.preamble] at packet
      rw [Teltonika.hasDigits, ← Foundation.Wire.slice_append 2 more (le_of_eq size.symm)] at digits
      have all : (slice (0x00 :: 0x0F :: tail ++ more) 2 17).all
          (fun byte => 48 ≤ byte && byte ≤ 57) = true := digits
      rw [List.cons_append, List.cons_append] at all ⊢
      simp [sniff, all]

theorem sniff_stream (is : LoginOf cfg family login) {first rest more : Bytes}
    (enough : 5 ≤ first.length) (part : first ++ rest = login ++ more) :
    sniff first = some family := by
  have whole := is.sniff_append more
  rw [← part] at whole
  rcases Framing.sniff_append rest enough with same | ⟨none_, -⟩
  · rw [← same, whole]
  · rw [none_] at whole
    cases whole

end Detection

/-- The loop has recognised the family, and has cut what the bytes so far offer. -/
def Steady (cfg : Config) (family : Family) (bytes : Bytes) (intake : Intake) : Prop :=
  (bytes.length < 5 ∧ intake = .probing bytes) ∨
    ∃ frames buffer, intake = .feeding family frames buffer ∧
      offered cfg family bytes = (frames, some buffer)

theorem steady_cut {cfg : Config} {family : Family} {bytes buffer : Bytes} {frames : List Bytes}
    (before : offered cfg family bytes =
      (frames ++ (offered cfg family buffer).1, (offered cfg family buffer).2))
    (sound : (offered cfg family bytes).2 ≠ none) :
    Steady cfg family bytes (Intake.cut (pipelines cfg) family frames buffer) := by
  obtain ⟨rest, left⟩ := Option.ne_none_iff_exists'.mp sound
  have left' : (offered cfg family buffer).2 = some rest := by
    rw [← left, before]
  refine .inr ⟨frames ++ (offered cfg family buffer).1, rest, ?_, ?_⟩
  · rw [Intake.cut, framer_of_offered left']
  · rw [before, left']

/-- Every read of a well-formed stream finds the loop steady and leaves it so. -/
theorem steady_reads {cfg : Config} {family : Family} {login more : Bytes}
    (enabled : family ∈ cfg.enabledProtocols) (is : LoginOf cfg family login)
    (sound : (offered cfg family (login ++ more)).2 ≠ none) {reads : List Bytes}
    (nonempty : ∀ read ∈ reads, read ≠ []) (part : reads.flatten <+: login ++ more) :
    Steady cfg family reads.flatten (afterReads cfg reads) := by
  have sound_ : ∀ bytes, bytes <+: login ++ more → (offered cfg family bytes).2 ≠ none := by
    rintro bytes ⟨rest, whole⟩ none_
    have same : offered cfg family bytes = ((offered cfg family bytes).1, none) :=
      Prod.ext rfl none_
    rw [← whole, offered_append, same] at sound
    exact sound rfl
  induction reads using List.reverseRecOn with
  | nil => exact .inl ⟨by decide, rfl⟩
  | append_singleton reads read ih =>
      rw [List.flatten_append, List.flatten_singleton] at part ⊢
      have goes : ¬ read.isEmpty = true := by simpa using nonempty read (by simp)
      have earlier := ih (fun other member => nonempty other (by simp [member]))
        ((List.prefix_append _ _).trans part)
      rw [afterReads_concat]
      rcases earlier with ⟨few, at_⟩ | ⟨frames, buffer, at_, before⟩
      · rw [at_]
        by_cases short : (reads.flatten ++ read).length < 5
        · exact .inl ⟨short, Intake.receive_probing_few goes short⟩
        · obtain ⟨rest, whole⟩ := part
          have found := sniff_stream is (not_lt.mp short) whole
          have detected : detectProtocol cfg (reads.flatten ++ read) = some family := by
            rw [detectProtocol, found]
            simpa using enabled
          rw [Intake.receive_probing_enough goes short, Intake.sniffed, detected]
          exact steady_cut (by simp) (sound_ _ ⟨rest, whole⟩)
      · rw [at_, Intake.receive_feeding_more goes]
        exact steady_cut (by rw [offered_append, before, continued_some]) (sound_ _ part)

theorem Steady.offered_frames {cfg : Config} {family : Family} {bytes : Bytes} {intake : Intake}
    (steady : Steady cfg family bytes intake) : intake.frames <+: (offered cfg family bytes).1 := by
  rcases steady with ⟨-, rfl⟩ | ⟨frames, buffer, rfl, same⟩
  · exact List.nil_prefix
  · rw [same]
    exact List.prefix_rfl

theorem Steady.not_left {cfg : Config} {family : Family} {bytes : Bytes} {intake : Intake}
    (steady : Steady cfg family bytes intake) : intake.left = false := by
  rcases steady with ⟨-, rfl⟩ | ⟨frames, buffer, rfl, -⟩ <;> rfl

theorem offered_begins {cfg : Config} {family : Family} {bytes whole : Bytes}
    (part : bytes <+: whole) : (offered cfg family bytes).1 <+: (offered cfg family whole).1 := by
  obtain ⟨rest, rfl⟩ := part
  rw [offered_append]
  rcases offered cfg family bytes with ⟨frames, _ | buffer⟩
  · exact List.prefix_rfl
  · exact List.prefix_append _ _

/-- In every run, a connection that sends a login and well-formed frames of an enabled family, cut
into any nonempty reads, is served as this family, hands these frames to the handler once each and
in order, has handed over all of them when it waits for more, unless a handler closed it, and leaves
its loop only when a handler raises (or it found no slot). -/
theorem stream_handed {cfg : Config} {family : Family} {login : Bytes} {later : List Bytes}
    {inputs : List Input} {g : Gateway} {c : Conn} {reads : List Bytes}
    (enabled : family ∈ cfg.enabledProtocols) (is : LoginOf cfg family login)
    (formed : ∀ frame ∈ later, FrameOf cfg family frame)
    (ran : run (Gateway.step cfg (pipelines cfg)) .start inputs = some g)
    (read : outcomes c inputs = reads.map .data) (nonempty : ∀ read ∈ reads, read ≠ [])
    (part : reads.flatten <+: (login :: later).flatten) :
    handed c g.history <+: delivered family (login :: later) ∧
      (∀ received, (g.tasks c).phase = .probing received → reads.flatten.length < 5) ∧
      (∀ s packets, pending (g.tasks c).phase = some (s, packets) → s.protocol = family) ∧
      (∀ s, (g.tasks c).phase = .reading s → reads.flatten = (login :: later).flatten →
        ¬ ClosedByHandler c g.history → (g.tasks c).lost = false →
        handed c g.history = delivered family (login :: later)) ∧
      (isLate (g.tasks c).phase = true → Quit c g.history) := by
  have all : ∀ frame ∈ login :: later, FrameOf cfg family frame := by
    intro frame member
    rcases List.mem_cons.mp member with rfl | other
    · exact is.1
    · exact formed frame other
  have whole := offered_frames (List.cons_ne_nil login later) all
  have follows := follows_run ran c
  rw [read] at follows
  have steady : Steady cfg family reads.flatten (afterReads cfg reads) :=
    steady_reads enabled is (by rw [← List.flatten_cons, whole]; simp) nonempty part
  have grows : (offered cfg family reads.flatten).1 <+: delivered family (login :: later) := by
    have more := @offered_begins cfg family _ _ part
    rwa [whole] at more
  refine ⟨(handed_begins follows).trans (steady.offered_frames.trans grows), ?_, ?_, ?_, ?_⟩
  · intro received at_
    obtain ⟨-, probing, -⟩ := (follows_probing at_).mp follows
    rcases steady with ⟨few, -⟩ | ⟨frames, buffer, feeding, -⟩
    · exact few
    · cases feeding.symm.trans probing
  · intro s packets at_
    obtain ⟨-, frames, feeding, -⟩ := (follows_pending at_).mp follows
    rcases steady with ⟨-, probing⟩ | ⟨frames', buffer, feeding', -⟩
    · cases probing.symm.trans feeding
    · cases feeding.symm.trans feeding'
      rfl
  · intro s at_ complete open_ here
    have waits : pending (g.tasks c).phase = some (s, []) := by
      rw [at_]
      rfl
    obtain ⟨closed, frames, feeding, soFar⟩ := (follows_pending waits).mp follows
    have all_ : handed c g.history = frames := by
      rcases soFar with all_ | ⟨closing | lost, -⟩
      · rwa [List.append_nil] at all_
      · exact absurd (closed closing) open_
      · rw [here] at lost
        cases lost
    rw [complete, List.flatten_cons] at steady
    rcases steady with ⟨-, probing⟩ | ⟨frames', buffer, feeding', same⟩
    · cases probing.symm.trans feeding
    · cases feeding.symm.trans feeding'
      rw [← List.flatten_cons, whole] at same
      rw [all_]
      exact (congrArg Prod.fst same).symm
  · intro late
    rcases ((follows_late late).mp follows).2 with left | quit
    · rw [show (intake cfg (pipelines cfg) (reads.map .data)).left = false from steady.not_left]
        at left
      cases left
    · exact quit

private def halves : List Bytes := [(loginFrame 5).take 3, (loginFrame 5).drop 3]

private def halvesInputs : List Input :=
  .connect 0 [] :: halves.map (fun read => .arrive 0 (.data read)) ++
    List.replicate 15 (.resume 0 (calm "unit".toList))

theorem login_handed : ∃ g, run (Gateway.step defaults (pipelines defaults)) .start
    halvesInputs = some g ∧ handed 0 g.history = [loginFrame 5] := by
  have seen : (run (Gateway.step defaults (pipelines defaults)) .start halvesInputs).map
      (fun g => (handed 0 g.history).length) = some 1 := by decide +kernel
  obtain ⟨g, ran, one⟩ := Option.map_eq_some_iff.mp seen
  have served := @stream_handed defaults .gt06 (loginFrame 5) [] halvesInputs g 0 halves (by decide)
    ⟨show V5.declaredLength _ = _ by decide, by decide, by decide⟩ (by simp) ran rfl (by decide)
    (by decide)
  exact ⟨g, ran, served.1.eq_of_length one⟩

end TrackerGateway.Framing
