/- module: TrackerGateway/Framing/Isolation
   source: src/tcp_server.py, src/parsers, src/utils/packet_buffer.py
   digest: The frames of a connection are pieces of its own bytes, and the same in every run in
     which it reads the same. -/

import TrackerGateway.Foundation.Stream.Carving
import TrackerGateway.Framing.Loss

set_option autoImplicit false
set_option relaxedAutoImplicit false

namespace TrackerGateway.Framing

open Foundation.Stream
open Foundation.Transition (run)
open Foundation.Wire (Bytes Text stripBytes trim_piece isSpaceByte)
open TrackerGateway.Runtime
open Server

theorem messages_carved (b : Bytes) :
    Carved (Gps103.messages (Gps103.runs b).dropLast) b (Gps103.lastRun b) := by
  induction size : b.length using Nat.strong_induction_on generalizing b with
  | h n ih =>
      rcases Gps103.open_or_message b with open_ | ⟨part, rest, open_, rfl⟩
      · rw [Gps103.lastRun, Gps103.runs_open open_]
        exact .rest b
      · have later := ih rest.length (by rw [← size]; simp; omega) rest rfl
        have last : Gps103.lastRun (part ++ Parsers.Gps103.terminator :: rest) =
            Gps103.lastRun rest := by
          obtain ⟨first, others, is⟩ := List.exists_cons_of_ne_nil (Gps103.runs_ne_nil rest)
          rw [Gps103.lastRun, Gps103.runs_message open_, Gps103.lastRun, is,
            List.getLastD_eq_getLast?, List.getLast?_cons_cons, List.getLastD_eq_getLast?]
        rw [last, Gps103.runs_message open_, List.dropLast_cons_of_ne_nil (Gps103.runs_ne_nil rest),
          Gps103.messages, List.map_cons, List.filter_cons]
        split
        · next kept =>
          obtain ⟨before, behind, whole⟩ := trim_piece isSpaceByte part
          have nonempty : stripBytes part ≠ [] := by
            simpa [List.isEmpty_iff] using kept
          have built := (Carved.piece nonempty
            ((Carved.skip Parsers.Gps103.terminator later).skips behind)).skips before
          rwa [← List.append_assoc (stripBytes part), ← List.append_assoc before,
            show before ++ (stripBytes part ++ behind) = part from whole.symm] at built
        · exact (Carved.skip Parsers.Gps103.terminator later).skips part

theorem framer_carved {cfg : Config} {family : Family} {b rest : Bytes} {packets : List Bytes}
    (cut : (pipelines cfg family).framer b = .ok (packets, rest)) : Carved packets b rest := by
  cases family with
  | gt06 =>
      have scanned := V5.implements cfg b
      rw [cut] at scanned
      obtain ⟨rest', left, same⟩ := Option.map_eq_some_iff.mp scanned.symm
      obtain ⟨rfl, rfl⟩ := Prod.mk.inj same
      exact Rule.scan_carved left
  | teltonika =>
      have scanned := Teltonika.implements cfg b
      rw [show Parsers.Teltonika.extractFrames cfg b = .ok (packets, rest) from cut] at scanned
      obtain ⟨rest', left, same⟩ := Option.map_eq_some_iff.mp scanned.symm
      obtain ⟨rfl, rfl⟩ := Prod.mk.inj same
      exact Rule.scan_carved left
  | gps103 =>
      by_cases short : Gps103.fits cfg (Gps103.lastRun b) = true
      · obtain ⟨rfl, rfl⟩ :=
          Prod.mk.inj (Except.ok.inj ((Gps103.extractMessages_ok short).symm.trans cut))
        exact messages_carved b
      · obtain ⟨e, raised⟩ := Gps103.extractMessages_error (by simpa using short)
        cases raised.symm.trans cut

def bytesOf : ReadOutcome → Bytes
  | .data b => b
  | .timeout | .failed _ => []

/-- The bytes that a connection has sent, as far as they have been read. -/
def received (outcomes : List ReadOutcome) : Bytes := outcomes.flatMap bytesOf

/-- The frames cut so far are pieces of the bytes received, and none of what is behind them has been
dropped as long as the loop goes on. -/
def Carves (bytes : Bytes) : Intake → Prop
  | .probing received => received = bytes
  | .feeding _ frames buffer => Carved frames bytes buffer
  | .broken _ frames | .finished frames => ∃ rest, Carved frames bytes rest

section Reads

variable {cfg : Config} {bytes buffer more : Bytes} {frames : List Bytes}

theorem carves_cut {family : Family} (carved : Carved frames bytes buffer) :
    Carves (bytes ++ more) (Intake.cut (pipelines cfg) family frames (buffer ++ more)) := by
  rw [Intake.cut]
  split
  · next cut => exact carved.continue_ (framer_carved cut)
  · exact ⟨_, carved.extend more⟩

theorem carves_sniffed : Carves bytes (Intake.sniffed cfg (pipelines cfg) bytes) := by
  rw [Intake.sniffed]
  split
  · exact ⟨bytes, .rest bytes⟩
  · next protocol told =>
      have cut : Carves (bytes ++ []) (Intake.cut (pipelines cfg) protocol [] (bytes ++ [])) :=
        carves_cut (Carved.rest bytes)
      simpa using cut

theorem carves_receive {intake : Intake} (carves : Carves bytes intake) (outcome : ReadOutcome) :
    Carves (bytes ++ bytesOf outcome) (intake.receive cfg (pipelines cfg) outcome) := by
  cases intake with
  | probing received =>
      obtain rfl : received = bytes := carves
      cases outcome with
      | data more =>
          by_cases ends : more.isEmpty = true
          · rw [Intake.receive_probing_end ends, bytesOf, List.isEmpty_iff.mp ends,
              List.append_nil]
            split
            · exact ⟨received, .rest received⟩
            · exact carves_sniffed
          · by_cases few : (received ++ more).length < 5
            · rw [Intake.receive_probing_few ends few]
              exact rfl
            · rw [Intake.receive_probing_enough ends few]
              exact carves_sniffed
      | timeout =>
          rw [Intake.receive, bytesOf, List.append_nil]
          split
          · exact ⟨received, .rest received⟩
          · exact carves_sniffed
      | failed e => exact ⟨_, .rest _⟩
  | feeding family frames buffer =>
      have carved : Carved frames bytes buffer := carves
      cases outcome with
      | data more =>
          by_cases ends : more.isEmpty = true
          · rw [Intake.receive_feeding_end ends]
            exact ⟨_, carved.extend more⟩
          · rw [Intake.receive_feeding_more ends]
            exact carves_cut carved
      | timeout => exact ⟨_, carved.extend []⟩
      | failed e => exact ⟨_, carved.extend []⟩
  | broken family frames =>
      obtain ⟨rest, carved⟩ := carves
      exact ⟨_, carved.extend _⟩
  | finished frames =>
      obtain ⟨rest, carved⟩ := carves
      exact ⟨_, carved.extend _⟩

theorem carves_intake (cfg : Config) (outcomes : List ReadOutcome) :
    Carves (received outcomes) (intake cfg (pipelines cfg) outcomes) := by
  induction outcomes using List.reverseRecOn with
  | nil => exact rfl
  | append_singleton outcomes outcome ih =>
      rw [intake_concat, received, List.flatMap_append, List.flatMap_singleton]
      exact carves_receive ih outcome

theorem carved_frames {intake : Intake} (carves : Carves bytes intake) :
    ∃ rest, Carved intake.frames bytes rest := by
  cases intake with
  | probing received => exact ⟨bytes, .rest bytes⟩
  | feeding family frames buffer => exact ⟨buffer, carves⟩
  | broken family frames => exact carves
  | finished frames => exact carves

end Reads

/-- In every run the frames that a connection hands to its handler are pieces of the bytes it has
sent, none of them empty, in their order and no byte used twice, whatever reads they came in; and
whatever else happens in two runs, if the connection reads the same in both, it hands over the same
frames, as far as it gets. -/
theorem frames_own (cfg : Config) {inputs : List Input} {g : Gateway}
    (ran : run (Gateway.step cfg (pipelines cfg)) .start inputs = some g) (c : Conn) :
    (∃ rest, Carved (handed c g.history) (received (outcomes c inputs)) rest) ∧
      ∀ inputs' g', run (Gateway.step cfg (pipelines cfg)) .start inputs' = some g' →
        outcomes c inputs' = outcomes c inputs →
        handed c g.history <+: handed c g'.history ∨
          handed c g'.history <+: handed c g.history := by
  have part := handed_begins (follows_run ran c)
  constructor
  · obtain ⟨rest, carved⟩ := carved_frames (carves_intake cfg (outcomes c inputs))
    exact carved.start part
  · intro inputs' g' ran' same
    have part' := handed_begins (follows_run ran' c)
    rw [same] at part'
    exact List.prefix_or_prefix_of_prefix part part'

private def beat : Bytes := [0x78, 0x78, 0x08, 0x23, 0x42, 5, 4, 0, 2, 0, 0, 0x0D, 0x0A]

/-- A login and, in two reads, a heartbeat, while another connection logs in between them. -/
private def beside : List Input :=
  [.connect 0 [], .connect 1 [], .arrive 0 (.data (loginFrame 1 ++ beat.take 6))] ++
    List.replicate 15 (.resume 0 (calm ['d'])) ++ [.arrive 1 (.data (loginFrame 2))] ++
    List.replicate 15 (.resume 1 (calm ['e'])) ++ [.arrive 0 (.data (beat.drop 6))] ++
    List.replicate 8 (.resume 0 (calm ['d']))

theorem login_frames_own : ∃ g, run (Gateway.step defaults (pipelines defaults)) .start
      beside = some g ∧
    handed 0 g.history = [loginFrame 1, beat] ∧ handed 1 g.history = [loginFrame 2] ∧
    (∃ rest, Carved (handed 0 g.history) (received
      [.data (loginFrame 1 ++ beat.take 6), .data (beat.drop 6)]) rest) ∧
    ∀ inputs' g', run (Gateway.step defaults (pipelines defaults)) .start inputs' = some g' →
      outcomes 0 inputs' = [.data (loginFrame 1 ++ beat.take 6), .data (beat.drop 6)] →
      handed 0 g.history <+: handed 0 g'.history ∨ handed 0 g'.history <+: handed 0 g.history := by
  have seen : (run (Gateway.step defaults (pipelines defaults)) .start beside).map (fun g =>
      (handed 0 g.history, handed 1 g.history)) =
        some ([loginFrame 1, beat], [loginFrame 2]) := by decide +kernel
  obtain ⟨g, ran, both⟩ := Option.map_eq_some_iff.mp seen
  obtain ⟨first, second⟩ := Prod.mk.inj both
  exact ⟨g, ran, first, second, frames_own defaults ran 0⟩

end TrackerGateway.Framing
