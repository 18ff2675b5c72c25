/- module: TrackerGateway/Framing/Bounds
   source: src/tcp_server.py, src/utils/packet_buffer.py, src/parsers/gps103_parser.py,
     src/parsers/teltonika_parser.py
   digest: How many bytes a connection can make the gateway hold. -/

import TrackerGateway.Framing.Streams

set_option autoImplicit false
set_option relaxedAutoImplicit false

namespace TrackerGateway.Framing

open Foundation.Stream
open Foundation.Transition (run)
open Foundation.Wire (Bytes Text asciiBytes)
open TrackerGateway.Runtime
open Server

/-- The most bytes that a framer leaves in its buffer. -/
def bound (cfg : Config) : Family → ℤ
  | .gt06 => 65540
  | .gps103 => cfg.gps103MaxUnframedBytes
  | .teltonika => max 16 (cfg.teltonikaMaxPacketBytes + 11)

theorem packets_rest_le (b : Bytes) : (Parsers.V5.extractPackets b).2.length ≤ 65540 := by
  rcases V5.extractPackets_rest b with few | ⟨n, declares, part⟩
  · omega
  · have most := V5.declaredLength_le declares
    omega

theorem messages_rest_le {cfg : Config} {b rest : Bytes} {packets : List Bytes}
    (cut : Parsers.Gps103.extractMessages cfg b = .ok (packets, rest)) :
    (rest.length : ℤ) ≤ cfg.gps103MaxUnframedBytes := by
  by_cases short : Gps103.fits cfg (Gps103.lastRun b) = true
  · rw [Gps103.extractMessages_ok short] at cut
    cases cut
    simpa [Gps103.fits] using short
  · obtain ⟨e, raised⟩ := Gps103.extractMessages_error (by simpa using short)
    rw [raised] at cut
    cases cut

theorem frames_rest_le {cfg : Config} {b rest : Bytes} {packets : List Bytes}
    (cut : Parsers.Teltonika.extractFrames cfg b = .ok (packets, rest)) :
    (rest.length : ℤ) ≤ max 16 (cfg.teltonikaMaxPacketBytes + 11) := by
  have implemented := Teltonika.implements cfg b
  rw [cut] at implemented
  obtain ⟨rest', left, same⟩ := Option.map_eq_some_iff.mp implemented.symm
  obtain ⟨-, rfl⟩ := Prod.mk.inj same
  have waits : Teltonika.verdict cfg rest' = .wait := Rule.scan_rest left
  have decided := Teltonika.decides cfg rest'
  rw [waits] at decided
  cases decided with
  | short few => exact le_max_of_le_left (by omega)
  | loginPart many login part =>
      have size : Parsers.Teltonika.loginFrameLen = 17 := rfl
      exact le_max_of_le_left (by omega)
  | headerPart many login packet part => exact le_max_of_le_left (by omega)
  | packetPart login packet header good part =>
      obtain ⟨-, accepted⟩ := good
      exact le_max_of_le_right (by omega)

theorem framer_rest_le {cfg : Config} {family : Family} {b rest : Bytes} {packets : List Bytes}
    (cut : (pipelines cfg family).framer b = .ok (packets, rest)) :
    (rest.length : ℤ) ≤ bound cfg family := by
  cases family with
  | gt06 =>
      have same : Parsers.V5.extractPackets b = (packets, rest) := Except.ok.inj cut
      have most := packets_rest_le b
      rw [same] at most
      exact Int.ofNat_le.mpr most
  | gps103 => exact messages_rest_le cut
  | teltonika => exact frames_rest_le cut

/-- The bytes a connection holds fit the bound of its family, or are too few to tell it. -/
def Bounded (cfg : Config) : Intake → Prop
  | .probing received => received.length < 5
  | .feeding family _ buffer => (buffer.length : ℤ) ≤ bound cfg family
  | _ => True

theorem bounded_cut (cfg : Config) (family : Family) (frames : List Bytes) (buffer : Bytes) :
    Bounded cfg (Intake.cut (pipelines cfg) family frames buffer) := by
  rw [Intake.cut]
  split
  · next cut => exact framer_rest_le cut
  · trivial

theorem bounded_sniffed (cfg : Config) (data : Bytes) :
    Bounded cfg (Intake.sniffed cfg (pipelines cfg) data) := by
  rw [Intake.sniffed]
  split
  · trivial
  · exact bounded_cut cfg _ _ _

theorem bounded_receive {cfg : Config} {intake : Intake} (bounded : Bounded cfg intake)
    (outcome : ReadOutcome) : Bounded cfg (intake.receive cfg (pipelines cfg) outcome) := by
  unfold Intake.receive
  split
  · split
    · split
      · trivial
      · exact bounded_sniffed cfg _
    · split
      · next few => exact few
      · exact bounded_sniffed cfg _
  · split
    · trivial
    · exact bounded_sniffed cfg _
  · trivial
  · split
    · trivial
    · exact bounded_cut cfg _ _ _
  all_goals trivial

theorem bounded_intake (cfg : Config) (outcomes : List ReadOutcome) :
    Bounded cfg (intake cfg (pipelines cfg) outcomes) := by
  induction outcomes using List.reverseRecOn with
  | nil => exact show (0 : Nat) < 5 by decide
  | append_singleton outcomes outcome ih =>
      rw [intake_concat]
      exact bounded_receive ih outcome

def bufferFor (cfg : Config) (g : Gateway) (c : Conn) (read : Bytes) : Option (Family × Bytes) :=
  match (g.tasks c).phase with
  | .probing received => toFrame cfg (.probing received) read
  | .reading s => some (s.protocol, s.buffer ++ read)
  | _ => none

/-- In every run, however the peer cuts its stream into reads: a framer leaves no more than its
bound in the buffer, the packet framer only the start of a packet, and the buffer of a connection
never exceeds the bound, or the four bytes of the first reads, by more than one read. -/
theorem buffer_bounded {cfg : Config} {inputs : List Input} {g : Gateway}
    (ran : run (Gateway.step cfg (pipelines cfg)) .start inputs = some g) :
    (∀ b, V5.Unfinished (Parsers.V5.extractPackets b).2) ∧
      (∀ family b packets rest, (pipelines cfg family).framer b = .ok (packets, rest) →
        (rest.length : ℤ) ≤ bound cfg family) ∧
      (∀ c s packets, pending (g.tasks c).phase = some (s, packets) →
        (s.buffer.length : ℤ) ≤ bound cfg s.protocol) ∧
      ∀ c read family b, read.length ≤ 4096 → bufferFor cfg g c read = some (family, b) →
        (b.length : ℤ) ≤ max 4 (bound cfg family) + 4096 := by
  have held : ∀ c s packets, pending (g.tasks c).phase = some (s, packets) →
      (s.buffer.length : ℤ) ≤ bound cfg s.protocol := by
    intro c s packets is
    obtain ⟨-, frames, feeding, -⟩ := (follows_pending is).mp (follows_run ran c)
    have bounded := bounded_intake cfg (outcomes c inputs)
    rwa [feeding] at bounded
  refine ⟨V5.extractPackets_rest, fun _ _ _ _ => framer_rest_le, held, ?_⟩
  intro c read family b size is
  rw [bufferFor] at is
  split at is
  · next received at_ =>
      have follows := follows_run ran c
      rw [Follows] at follows
      rw [at_] at follows
      have few := bounded_intake cfg (outcomes c inputs)
      rw [follows.2.1] at few
      have short : received.length < 5 := few
      simp only [toFrame] at is
      split at is
      · cases is
      · obtain ⟨family', -, same⟩ := Option.map_eq_some_iff.mp is
        obtain ⟨rfl, rfl⟩ := Prod.mk.inj same
        have four := le_max_left (4 : ℤ) (bound cfg family')
        rw [List.length_append]
        omega
  · next s at_ =>
      obtain ⟨rfl, rfl⟩ := Prod.mk.inj (Option.some.inj is)
      have fits := held c s [] (by rw [at_]; rfl)
      have more := le_max_right (4 : ℤ) (bound cfg s.protocol)
      rw [List.length_append]
      omega
  · cases is

def heldBytes (task : Task) : Option Bytes :=
  match task.phase with
  | .reading s => some s.buffer
  | _ => none

/-- A login with the first bytes of another packet behind it, which are kept when it is handled. -/
theorem buffer_bounded_login : ∃ g s, run (Gateway.step defaults (pipelines defaults)) .start
      ([.connect 0 [], .arrive 0 (.data (loginFrame 1 ++ [0x78, 0x78, 0x0D]))] ++
        List.replicate 15 (.resume 0 (calm ['d']))) = some g ∧
    (g.tasks 0).phase = .reading s ∧ s.buffer = [0x78, 0x78, 0x0D] ∧
    (s.buffer.length : ℤ) ≤ bound defaults s.protocol ∧ ∀ read, read.length ≤ 4096 →
      ((s.buffer ++ read).length : ℤ) ≤ max 4 (bound defaults s.protocol) + 4096 := by
  have seen : (run (Gateway.step defaults (pipelines defaults)) .start
      ([.connect 0 [], .arrive 0 (.data (loginFrame 1 ++ [0x78, 0x78, 0x0D]))] ++
        List.replicate 15 (.resume 0 (calm ['d'])))).map (fun g => heldBytes (g.tasks 0)) =
      some (some [0x78, 0x78, 0x0D]) := by decide +kernel
  obtain ⟨g, ran, held⟩ := Option.map_eq_some_iff.mp seen
  unfold heldBytes at held
  split at held
  · next s at_ =>
      obtain ⟨-, -, kept, framed⟩ := buffer_bounded ran
      refine ⟨g, s, ran, at_, Option.some.inj held, kept 0 s [] (by rw [at_]; rfl), ?_⟩
      intro read size
      exact framed 0 read s.protocol _ size (by simp [bufferFor, at_])
  · cases held

private def unbuffered : Config := { defaults with gps103MaxUnframedBytes := 0 }

/-- Where messages may have fewer than four bytes, the first reads exceed the bound and a read. -/
theorem first_reads_exceed : ∃ g, run (Gateway.step unbuffered (pipelines unbuffered)) .start
    [.connect 0 [], .arrive 0 (.data (asciiBytes "imei".toList))] = some g ∧
    ∃ read b, read.length ≤ 4096 ∧ bufferFor unbuffered g 0 read = some (.gps103, b) ∧
      bound unbuffered .gps103 + 4096 < (b.length : ℤ) := by
  have seen : (run (Gateway.step unbuffered (pipelines unbuffered)) .start
      [.connect 0 [], .arrive 0 (.data (asciiBytes "imei".toList))]).map (fun g =>
        (bufferFor unbuffered g 0 (0x3A :: List.replicate 4095 0x31)).map fun framed =>
          (framed.1, framed.2.length)) = some (some (.gps103, 4100)) := by decide +kernel
  obtain ⟨g, ran, framed⟩ := Option.map_eq_some_iff.mp seen
  obtain ⟨⟨family, b⟩, is, same⟩ := Option.map_eq_some_iff.mp framed
  obtain ⟨rfl, size⟩ := Prod.mk.inj same
  refine ⟨g, ran, _, b, by decide +kernel, is, ?_⟩
  rw [show b.length = 4100 from size]
  decide

end TrackerGateway.Framing
