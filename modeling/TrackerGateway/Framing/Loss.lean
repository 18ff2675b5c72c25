/- module: TrackerGateway/Framing/Loss
   source: src/tcp_server.py, src/parsers/gps103_parser.py, src/parsers/teltonika_parser.py
   digest: The frames in front of offending bytes, and the reads that lose none of them. -/

import TrackerGateway.Framing.Gps103
import TrackerGateway.Framing.Intake
import TrackerGateway.Framing.Teltonika
import TrackerGateway.Framing.V5

set_option autoImplicit false
set_option relaxedAutoImplicit false

namespace TrackerGateway.Framing

open Foundation.Stream
open Foundation.Wire (Bytes slice stripBytes)
open TrackerGateway.Runtime
open Server (pipelines)

/-- The frames of a stream in front of any offending bytes, and the bytes behind them; none are left
of a stream with offending bytes. No reads are involved. -/
def offered (cfg : Config) : Family → Bytes → List Bytes × Option Bytes
  | .gt06 => V5.rule.scan
  | .gps103 => Gps103.offered cfg
  | .teltonika => (Teltonika.rule cfg).scan

theorem offered_append (cfg : Config) (family : Family) (a b : Bytes) :
    offered cfg family (a ++ b) =
      continued (offered cfg family a) fun rest => offered cfg family (rest ++ b) := by
  cases family with
  | gt06 => exact V5.rule.scan_append a b
  | gps103 => exact Gps103.offered_append cfg a b
  | teltonika => exact (Teltonika.rule cfg).scan_append a b

def Offends (cfg : Config) (b : Bytes) : Prop := Teltonika.verdict cfg b = .reject

/-- The framer cuts from this buffer all that it offers: if it raises on it, no message or frame of
the buffer precedes the offending bytes; otherwise no run of it is too long. -/
def Tolerated (cfg : Config) : Family → Bytes → Prop
  | .gt06, _ => True
  | .gps103, b =>
      if Gps103.fits cfg (Gps103.lastRun b) then
        ∀ part ∈ Gps103.runs b, Gps103.fits cfg part = true
      else ∀ part ∈ (Gps103.runs b).dropLast.takeWhile (Gps103.fits cfg), stripBytes part = []
  | .teltonika, b =>
      ∀ frames rest, frames ≠ [] → (∀ frame ∈ frames, Teltonika.IsFrame cfg frame) →
        frames.flatten ++ rest = b → ¬ Offends cfg rest

/-- What the framer makes of a buffer is what the buffer offers; nothing is offered if it raises. -/
def Faithful (cfg : Config) (family : Family) (b : Bytes) : Prop :=
  match (pipelines cfg family).framer b with
  | .ok (packets, rest) => offered cfg family b = (packets, some rest)
  | .error _ => offered cfg family b = ([], none)

private theorem tolerated_gps103 (cfg : Config) (b : Bytes) :
    Tolerated cfg .gps103 b ↔ Faithful cfg .gps103 b := by
  rw [Tolerated, Faithful]
  simp only [pipelines, offered]
  by_cases short : Gps103.fits cfg (Gps103.lastRun b) = true
  · rw [if_pos short, Gps103.extractMessages_ok short]
    constructor
    · intro all
      exact (Gps103.extractMessages_offered all).2
    · intro same part member
      have ends := congrArg Prod.snd same
      rw [Gps103.offered_eq] at ends
      by_contra long
      have some_ : ¬ (Gps103.runs b).all (Gps103.fits cfg) = true :=
        fun all => long (List.all_eq_true.mp all part member)
      rw [if_neg some_] at ends
      cases ends
  · obtain ⟨e, raised⟩ := Gps103.extractMessages_error (by simpa using short)
    have some_ : ¬ (Gps103.runs b).all (Gps103.fits cfg) = true :=
      fun all => short (List.all_eq_true.mp all _ (Gps103.lastRun_mem b))
    rw [if_neg short, raised, Gps103.offered_eq, if_neg some_, ← Gps103.messages_eq_nil_iff]
    simp

private theorem tolerated_teltonika (cfg : Config) (b : Bytes) :
    Tolerated cfg .teltonika b ↔ Faithful cfg .teltonika b := by
  rw [Tolerated, Faithful]
  simp only [pipelines, offered]
  have implemented := Teltonika.implements cfg b
  cases cut : Parsers.Teltonika.extractFrames cfg b with
  | ok result =>
      rw [cut] at implemented
      obtain ⟨rest, left, rfl⟩ := Option.map_eq_some_iff.mp implemented.symm
      refine iff_of_true ?_ (Prod.ext rfl left)
      rintro frames rest' - are rfl offends
      have rejects : (Teltonika.rule cfg).verdict rest' = .reject := offends
      rw [Rule.scan_frames_append fun frame member => (are frame member).cut,
        Rule.scan_reject rejects]
        at left
      cases left
  | error e =>
      rw [cut] at implemented
      have rejected := Option.map_eq_none_iff.mp implemented.symm
      constructor
      · intro tolerated
        refine Prod.ext ?_ rejected
        by_contra some_
        obtain ⟨rest, whole, offends⟩ :=
          Rule.scan_rejected (Teltonika.verdict_ne_junk cfg) rejected
        exact tolerated _ rest some_ (fun _ => Teltonika.scan_isFrame) whole offends
      · rintro same frames rest some_ are rfl offends
        rw [Rule.scan_frames_append fun frame member => (are frame member).cut] at same
        exact some_ (List.append_eq_nil_iff.mp (congrArg Prod.fst same)).1

theorem tolerated_iff (cfg : Config) (family : Family) (b : Bytes) :
    Tolerated cfg family b ↔ Faithful cfg family b := by
  cases family with
  | gt06 => exact iff_of_true trivial (V5.extractPackets_scan b)
  | gps103 => exact tolerated_gps103 cfg b
  | teltonika => exact tolerated_teltonika cfg b

def toFrame (cfg : Config) : Intake → Bytes → Option (Family × Bytes)
  | .probing received, read =>
      if (received ++ read).length < 5 then none
      else (detectProtocol cfg (received ++ read)).map fun protocol => (protocol, received ++ read)
  | .feeding protocol _ buffer, read => some (protocol, buffer ++ read)
  | _, _ => none

/-- What the loop has cut from its reads is what the bytes it has read offer. -/
def Kept (cfg : Config) (bytes : Bytes) : Intake → Prop
  | .feeding protocol frames buffer => offered cfg protocol bytes = (frames, some buffer)
  | .broken protocol frames => offered cfg protocol bytes = (frames, none)
  | .probing received => received = bytes
  | .finished frames => frames = []

def afterReads (cfg : Config) (reads : List Bytes) : Intake :=
  intake cfg (pipelines cfg) (reads.map .data)

theorem afterReads_concat (cfg : Config) (reads : List Bytes) (read : Bytes) :
    afterReads cfg (reads ++ [read]) =
      (afterReads cfg reads).receive cfg (pipelines cfg) (.data read) := by
  rw [afterReads, List.map_append, List.map_singleton, intake_concat]
  rfl

/-- At every moment of a run the frames handed over are those in front of the offending bytes, and
the connection is dropped exactly when offending bytes have been read. -/
def Lossless (cfg : Config) (reads : List Bytes) : Prop :=
  ∀ before, before <+: reads → Kept cfg before.flatten (afterReads cfg before)

def AllTolerated (cfg : Config) (reads : List Bytes) : Prop :=
  ∀ before read, before ++ [read] <+: reads → ∀ family b,
    toFrame cfg (afterReads cfg before) read = some (family, b) → Tolerated cfg family b

theorem kept_cut {cfg : Config} {family : Family} {frames : List Bytes} {bytes buffer : Bytes}
    (before : offered cfg family bytes =
      (frames ++ (offered cfg family buffer).1, (offered cfg family buffer).2)) :
    Kept cfg bytes (Intake.cut (pipelines cfg) family frames buffer) ↔
      Tolerated cfg family buffer := by
  rw [tolerated_iff]
  rw [Intake.cut, Faithful]
  cases (pipelines cfg family).framer buffer with
  | ok result =>
      obtain ⟨packets, rest⟩ := result
      simp only [Kept]
      rw [before, Prod.ext_iff, Prod.ext_iff]
      simp
  | error e =>
      simp only [Kept]
      rw [before, Prod.ext_iff, Prod.ext_iff]
      simp

theorem kept_receive {cfg : Config} {bytes read : Bytes} {intake : Intake}
    (kept : Kept cfg bytes intake) (goes : ¬ read.isEmpty = true) :
    Kept cfg (bytes ++ read) (intake.receive cfg (pipelines cfg) (.data read)) ↔
      ∀ family b, toFrame cfg intake read = some (family, b) → Tolerated cfg family b := by
  cases intake with
  | probing received =>
      obtain rfl : received = bytes := kept
      by_cases few : (received ++ read).length < 5
      · rw [Intake.receive_probing_few goes few, toFrame, if_pos few]
        simp [Kept]
      · rw [Intake.receive_probing_enough goes few, toFrame, if_neg few, Intake.sniffed]
        cases detectProtocol cfg (received ++ read) with
        | none => simp [Kept]
        | some family =>
            simp only [Option.map_some, Option.some.injEq, Prod.mk.injEq]
            rw [kept_cut (by simp)]
            constructor
            · rintro tolerated _ _ ⟨rfl, rfl⟩
              exact tolerated
            · intro all
              exact all _ _ ⟨rfl, rfl⟩
  | feeding family frames buffer =>
      have before : offered cfg family bytes = (frames, some buffer) := kept
      rw [Intake.receive_feeding_more goes, toFrame,
        kept_cut (by rw [offered_append, before, continued_some])]
      constructor
      · rintro tolerated _ _ same
        obtain ⟨rfl, rfl⟩ := Prod.mk.inj (Option.some.inj same)
        exact tolerated
      · intro all
        exact all _ _ rfl
  | broken family frames =>
      have before : offered cfg family bytes = (frames, none) := kept
      refine iff_of_true ?_ (by simp [toFrame])
      simp only [Intake.receive, Kept]
      rw [offered_append, before, continued_none]
  | finished frames => exact iff_of_true kept (by simp [toFrame])

theorem lossless_iff {cfg : Config} {reads : List Bytes}
    (nonempty : ∀ read ∈ reads, read ≠ []) : Lossless cfg reads ↔ AllTolerated cfg reads := by
  have goes : ∀ before read, before ++ [read] <+: reads → ¬ read.isEmpty = true := by
    intro before read part
    have member : read ∈ reads := part.subset (by simp)
    simpa using nonempty read member
  constructor
  · intro lossless before read part
    have earlier := lossless before ((List.prefix_append before [read]).trans part)
    have later := lossless (before ++ [read]) part
    rw [afterReads_concat, List.flatten_append, List.flatten_singleton] at later
    exact (kept_receive earlier (goes before read part)).mp later
  · intro tolerated before part
    induction before using List.reverseRecOn with
    | nil => exact rfl
    | append_singleton before read ih =>
        have earlier := ih ((List.prefix_append before [read]).trans part)
        rw [afterReads_concat, List.flatten_append, List.flatten_singleton]
        exact (kept_receive earlier (goes before read part)).mpr (tolerated before read part)

private def digits (b : Bytes) : Bool := (slice b 2 17).all fun byte => 48 ≤ byte && byte ≤ 57

private theorem digits_of_append {first more : Bytes} (all : digits (first ++ more) = true) :
    digits first = true := by
  rw [digits, List.all_eq_true] at all ⊢
  intro byte member
  apply all byte
  have part : slice first 2 17 <+: slice (first ++ more) 2 17 := by
    refine List.IsPrefix.drop ?_ 2
    rw [List.take_append]
    exact List.prefix_append _ _
  exact part.subset member

/-- Five bytes decide the family, except that later bytes can refute a record stream. -/
theorem sniff_append {first : Bytes} (more : Bytes) (enough : 5 ≤ first.length) :
    sniff (first ++ more) = sniff first ∨
      sniff (first ++ more) = none ∧ sniff first = some .teltonika := by
  have two : (first ++ more).take 2 = first.take 2 :=
    List.take_append_of_le_length (by omega)
  have hashes : [0x23, 0x23].isPrefixOf (first ++ more) = [0x23, 0x23].isPrefixOf first :=
    Foundation.Wire.isPrefixOf_append more (by simp; omega)
  have word : [0x69, 0x6d, 0x65, 0x69, 0x3a].isPrefixOf (first ++ more) =
      [0x69, 0x6d, 0x65, 0x69, 0x3a].isPrefixOf first :=
    Foundation.Wire.isPrefixOf_append more (by simpa using enough)
  have filled : (first ++ more).isEmpty = first.isEmpty := by
    cases first with
    | nil => simp at enough
    | cons byte first => rfl
  have shorter : digits (first ++ more) = true → digits first = true := digits_of_append
  unfold digits at shorter
  unfold sniff
  rw [two, hashes, word, filled]
  -- The families differ in the last test only.
  by_cases gt06 : first.take 2 = [0x78, 0x78] ∨ first.take 2 = [0x79, 0x79]
  · simp only [gt06, if_true, true_or]
  · by_cases gps103 :
        [0x23, 0x23].isPrefixOf first ∨ [0x69, 0x6d, 0x65, 0x69, 0x3a].isPrefixOf first
    · simp only [gps103, gt06, if_true, if_false, true_or]
    · simp only [gps103, gt06, if_false]
      split_ifs with empty later now now
      · exact .inl rfl
      · exact .inl rfl
      · exact absurd ⟨later.1, shorter later.2⟩ now
      · exact .inr ⟨rfl, rfl⟩
      · exact .inl rfl

private theorem starts_login {b : Bytes} (is : sniff b = some .teltonika) :
    ∃ rest, b = 0x00 :: 0x0F :: rest := by
  have two : b.take 2 = [0x00, 0x0F] := by
    rw [sniff] at is
    split at is
    · cases is
    · split at is
      · cases is
      · split at is
        · cases is
        · split at is
          · next login => exact login.1
          · cases is
  refine ⟨b.drop 2, ?_⟩
  calc b = b.take 2 ++ b.drop 2 := (List.take_append_drop 2 b).symm
    _ = _ := by rw [two]; rfl

/-- A login that is no longer taken for one has a digit that is none: nothing is cut from it. -/
private theorem offered_refuted (cfg : Config) {first : Bytes} (more : Bytes)
    (is : sniff (first.take 5) = some .teltonika) (refuted : sniff first = none) :
    (offered cfg .teltonika (first ++ more)).1 = [] := by
  obtain ⟨rest, start⟩ := starts_login is
  obtain ⟨tail, rfl⟩ : ∃ tail, first = 0x00 :: 0x0F :: tail :=
    ⟨rest ++ first.drop 5, by rw [← List.cons_append, ← List.cons_append, ← start,
      List.take_append_drop]⟩
  have letters : digits (0x00 :: 0x0F :: tail) = false := by
    by_contra all
    rw [Bool.not_eq_false, digits] at all
    simp [sniff, all] at refuted
  have letters' : Teltonika.hasDigits (0x00 :: 0x0F :: tail ++ more) = false := by
    by_contra all
    rw [Bool.not_eq_false] at all
    rw [show digits (0x00 :: 0x0F :: tail) = true from digits_of_append all] at letters
    cases letters
  exact Teltonika.scan_badLogin rfl letters'

def streamFrames (cfg : Config) (bytes : Bytes) : List Bytes :=
  if bytes.length < 5 then []
  else
    match detectProtocol cfg (bytes.take 5) with
    | none => []
    | some family => (offered cfg family bytes).1

/-- How the loop has come to know the family. -/
def Recognised (cfg : Config) (bytes : Bytes) : Intake → Prop
  | .probing received => received = bytes ∧ received.length < 5
  | .feeding family _ _ | .broken family _ => ∃ first more, bytes = first ++ more ∧
      5 ≤ first.length ∧ detectProtocol cfg first = some family
  | .finished _ => ∃ first more, bytes = first ++ more ∧ 5 ≤ first.length ∧
      detectProtocol cfg first = none

theorem recognised_cut {cfg : Config} {bytes buffer : Bytes} {family : Family}
    {frames : List Bytes} (known : ∃ first more, bytes = first ++ more ∧ 5 ≤ first.length ∧
      detectProtocol cfg first = some family) :
    Recognised cfg bytes (Intake.cut (pipelines cfg) family frames buffer) := by
  rw [Intake.cut]
  split <;> exact known

theorem recognised_receive {cfg : Config} {bytes read : Bytes} {intake : Intake}
    (known : Recognised cfg bytes intake) (goes : ¬ read.isEmpty = true) :
    Recognised cfg (bytes ++ read) (intake.receive cfg (pipelines cfg) (.data read)) := by
  have later : ∀ {detected : Option Family}, (∃ first more, bytes = first ++ more ∧
      5 ≤ first.length ∧ detectProtocol cfg first = detected) →
      ∃ first more, bytes ++ read = first ++ more ∧ 5 ≤ first.length ∧
        detectProtocol cfg first = detected := by
    rintro detected ⟨first, more, rfl, enough, is⟩
    exact ⟨first, more ++ read, by simp, enough, is⟩
  cases intake with
  | probing received =>
      obtain ⟨rfl, -⟩ := known
      by_cases few : (received ++ read).length < 5
      · rw [Intake.receive_probing_few goes few]
        exact ⟨rfl, few⟩
      · rw [Intake.receive_probing_enough goes few, Intake.sniffed]
        have enough := not_lt.mp few
        cases is : detectProtocol cfg (received ++ read) with
        | none => exact ⟨_, [], (List.append_nil _).symm, enough, is⟩
        | some family => exact recognised_cut ⟨_, [], (List.append_nil _).symm, enough, is⟩
  | feeding family frames buffer =>
      rw [Intake.receive_feeding_more goes]
      exact recognised_cut (later known)
  | broken family frames => exact later known
  | finished frames => exact later known

theorem recognised {cfg : Config} {reads : List Bytes} (nonempty : ∀ read ∈ reads, read ≠ []) :
    Recognised cfg reads.flatten (afterReads cfg reads) := by
  induction reads using List.reverseRecOn with
  | nil => exact ⟨rfl, by decide⟩
  | append_singleton reads read ih =>
      have known := ih fun read member => nonempty read (by simp [member])
      have goes : ¬ read.isEmpty = true := by simpa using nonempty read (by simp)
      rw [afterReads_concat, List.flatten_append, List.flatten_singleton]
      exact recognised_receive known goes

theorem Kept.frames_eq {cfg : Config} {bytes : Bytes} {intake : Intake}
    (kept : Kept cfg bytes intake) (known : Recognised cfg bytes intake) :
    intake.frames = streamFrames cfg bytes := by
  have fed : ∀ {family : Family} {frames : List Bytes} {rest : Option Bytes},
      (∃ first more, bytes = first ++ more ∧ 5 ≤ first.length ∧
        detectProtocol cfg first = some family) →
      offered cfg family bytes = (frames, rest) → frames = streamFrames cfg bytes := by
    rintro family frames rest ⟨first, more, rfl, enough, is⟩ same
    obtain ⟨found, enabled⟩ := Option.filter_eq_some_iff.mp is
    have short : 5 ≤ (first.take 5).length := by simp [enough]
    have agrees := sniff_append (first.drop 5) short
    rw [List.take_append_drop, found] at agrees
    have early : detectProtocol cfg (first.take 5) = some family := by
      rcases agrees with agrees | ⟨none_, -⟩
      · rw [detectProtocol, ← agrees, ← found]
        exact is.trans found.symm
      · cases none_
    rw [streamFrames, if_neg (by simp; omega), List.take_append_of_le_length enough, early]
    exact (congrArg Prod.fst same).symm
  cases intake with
  | probing received =>
      obtain ⟨rfl, few⟩ := known
      exact (if_pos few).symm
  | feeding family frames buffer => exact fed known kept
  | broken family frames => exact fed known kept
  | finished frames =>
      obtain rfl : frames = [] := kept
      obtain ⟨first, more, rfl, enough, is⟩ := known
      have short : 5 ≤ (first.take 5).length := by simp [enough]
      have agrees := sniff_append (first.drop 5) short
      rw [List.take_append_drop] at agrees
      rw [streamFrames, if_neg (by simp; omega), List.take_append_of_le_length enough]
      rcases agrees with agrees | ⟨refuted, found⟩
      · rw [detectProtocol, ← agrees, show (sniff first).filter _ = none from is]
        rfl
      · -- A refuted login counts as a record stream of no frames.
        cases early : detectProtocol cfg (first.take 5) with
        | none => rfl
        | some family =>
            obtain ⟨found', -⟩ := Option.filter_eq_some_iff.mp early
            obtain rfl : .teltonika = family := Option.some.inj (found.symm.trans found')
            exact (offered_refuted cfg more found refuted).symm

/-- A read loop keeps every frame in front of offending bytes, and drops the connection when these
arrive, exactly if each buffer it frames is tolerated; then the frames it hands over depend on the
stream alone and not on the reads. -/
theorem frames_kept_iff (cfg : Config) (reads : List Bytes)
    (sizes : ∀ read ∈ reads, 1 ≤ read.length ∧ read.length ≤ 4096) :
    (Lossless cfg reads ↔ AllTolerated cfg reads) ∧
      (AllTolerated cfg reads → ∀ before, before <+: reads →
        (afterReads cfg before).frames = streamFrames cfg before.flatten) := by
  have nonempty : ∀ read ∈ reads, read ≠ [] := by
    rintro read member rfl
    exact absurd (sizes [] member).1 (by decide)
  have same : Lossless cfg reads ↔ AllTolerated cfg reads := lossless_iff nonempty
  refine ⟨same, ?_⟩
  intro tolerated before part
  have kept := same.mpr tolerated before part
  exact kept.frames_eq (recognised fun read member => nonempty read (part.subset member))

def hello : Bytes := Foundation.Wire.asciiBytes "##,imei:359586015829802,A;".toList

def alarm : Bytes :=
  hello ++ Foundation.Wire.asciiBytes "imei:359586015829802,help me,,,L,,,,,;".toList

/-- One byte more than a message may have. -/
def noise : Bytes := List.replicate 2049 0x78

def recordLogin : Bytes := 0x00 :: 0x0F :: List.replicate 15 0x31

def recordsEnabled : Config := { defaults with enabledProtocols := [.teltonika] }

theorem frames_kept_hello : Lossless defaults [hello] := by
  apply (frames_kept_iff defaults [hello] (by decide)).1.mpr
  intro before read part family b is
  obtain ⟨rfl, rfl⟩ : before = [] ∧ read = hello := by
    cases before with
    | nil => exact ⟨rfl, by simpa using part⟩
    | cons first others =>
        have size := part.length_le
        simp at size
  have framed : toFrame defaults (afterReads defaults []) hello = some (.gps103, hello) := by
    decide +kernel
  obtain ⟨rfl, rfl⟩ := Prod.mk.inj (Option.some.inj (framed.symm.trans is))
  simp only [Tolerated]
  decide +kernel

/-- Ways to cut one stream into reads that do not agree: an alarm is lost when noise behind it
arrives in the same read, a login of a record stream when four stray bytes do, and a message that is
too long drops the connection only if a read ends inside it. -/
theorem noise_drops_frames :
    (alarm ++ noise).length ≤ 4096 ∧
    ((afterReads defaults [alarm, noise]).frames.length = 2 ∧
      (afterReads defaults [alarm ++ noise]).frames = []) ∧
    ((afterReads recordsEnabled [recordLogin, [9, 9, 9, 9]]).frames = [recordLogin] ∧
      (afterReads recordsEnabled [recordLogin ++ [9, 9, 9, 9]]).frames = []) ∧
    ((afterReads defaults [hello ++ noise, [0x3B]]).left = true ∧
      (afterReads defaults [hello ++ noise ++ [0x3B]]).left = false) := by
  decide +kernel

end TrackerGateway.Framing
