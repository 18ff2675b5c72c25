/- module: TrackerGateway/Framing/Teltonika
   source: src/parsers/teltonika_parser.py, src/tcp_server.py
   digest: What the record framer cuts from a stream, when it raises, and that neither depends on
     how the stream is cut into reads. -/

import TrackerGateway.Foundation.Stream.Framing
import TrackerGateway.Parsers.Teltonika

set_option autoImplicit false
set_option relaxedAutoImplicit false

namespace TrackerGateway.Framing.Teltonika

open Foundation.Stream
open Foundation.Wire (Text Bytes slice bigEndian slice_append isPrefixOf_append decimal decimalInt
  hex)
open Parsers.Teltonika
open TrackerGateway.Runtime

def dataLength (b : Bytes) : Nat := bigEndian (slice b 4 8)

def Acceptable (cfg : Config) (length : Nat) : Prop :=
  1 ≤ length ∧ (length : ℤ) ≤ cfg.teltonikaMaxPacketBytes

instance (cfg : Config) (length : Nat) : Decidable (Acceptable cfg length) :=
  inferInstanceAs (Decidable (_ ∧ _))

def hasDigits (b : Bytes) : Bool := (slice b 2 loginFrameLen).all isDigitByte

def verdict (cfg : Config) (b : Bytes) : Verdict :=
  if b.length < 4 then .wait
  else if loginPrefix.isPrefixOf b then
    if b.length < loginFrameLen then .wait
    else if hasDigits b then .frame loginFrameLen else .reject
  else if preamble.isPrefixOf b then
    if b.length < 8 then .wait
    else if Acceptable cfg (dataLength b) then
      if b.length < 12 + dataLength b then .wait else .frame (12 + dataLength b)
    else .reject
  else .reject

/-- A complete frame: a login with fifteen digits, or a record packet of its declared length. -/
def IsFrame (cfg : Config) (frame : Bytes) : Prop :=
  (frame.length = loginFrameLen ∧ loginPrefix.isPrefixOf frame = true ∧ hasDigits frame = true) ∨
    (preamble.isPrefixOf frame = true ∧ frame.length = 12 + dataLength frame ∧
      Acceptable cfg (dataLength frame))

/-- What a verdict says of the buffer, one case for each way to reach it. -/
inductive Decides (cfg : Config) (b : Bytes) : Verdict → Prop
  | short (few : b.length < 4) : Decides cfg b .wait
  | loginPart (many : 4 ≤ b.length) (login : loginPrefix.isPrefixOf b = true)
      (part : b.length < loginFrameLen) : Decides cfg b .wait
  | login (login : loginPrefix.isPrefixOf b = true) (whole : loginFrameLen ≤ b.length)
      (digits : hasDigits b = true) : Decides cfg b (.frame loginFrameLen)
  | badLogin (login : loginPrefix.isPrefixOf b = true) (whole : loginFrameLen ≤ b.length)
      (digits : hasDigits b = false) : Decides cfg b .reject
  | headerPart (many : 4 ≤ b.length) (login : loginPrefix.isPrefixOf b = false)
      (packet : preamble.isPrefixOf b = true) (part : b.length < 8) : Decides cfg b .wait
  | badLength (login : loginPrefix.isPrefixOf b = false) (packet : preamble.isPrefixOf b = true)
      (header : 8 ≤ b.length) (bad : ¬ Acceptable cfg (dataLength b)) : Decides cfg b .reject
  | packetPart (login : loginPrefix.isPrefixOf b = false) (packet : preamble.isPrefixOf b = true)
      (header : 8 ≤ b.length) (good : Acceptable cfg (dataLength b))
      (part : b.length < 12 + dataLength b) : Decides cfg b .wait
  | packet (login : loginPrefix.isPrefixOf b = false) (packet : preamble.isPrefixOf b = true)
      (good : Acceptable cfg (dataLength b)) (whole : 12 + dataLength b ≤ b.length) :
      Decides cfg b (.frame (12 + dataLength b))
  | unframed (many : 4 ≤ b.length) (login : loginPrefix.isPrefixOf b = false)
      (packet : preamble.isPrefixOf b = false) : Decides cfg b .reject

theorem decides (cfg : Config) (b : Bytes) : Decides cfg b (verdict cfg b) := by
  rw [verdict]
  split
  · next few => exact .short few
  · next many =>
      split
      · next login =>
          split
          · next part => exact .loginPart (not_lt.mp many) login part
          · next whole =>
              split
              · next digits => exact .login login (not_lt.mp whole) digits
              · next digits =>
                  exact .badLogin login (not_lt.mp whole) (Bool.eq_false_iff.mpr digits)
      · next login =>
          have other := Bool.eq_false_iff.mpr login
          split
          · next packet =>
              split
              · next part => exact .headerPart (not_lt.mp many) other packet part
              · next header =>
                  split
                  · next good =>
                      split
                      · next part => exact .packetPart other packet (not_lt.mp header) good part
                      · next whole => exact .packet other packet good (not_lt.mp whole)
                  · next bad => exact .badLength other packet (not_lt.mp header) bad
          · next packet => exact .unframed (not_lt.mp many) other (Bool.eq_false_iff.mpr packet)

theorem Decides.verdict_eq {cfg : Config} {b : Bytes} {v : Verdict} (decides : Decides cfg b v) :
    verdict cfg b = v := by
  rw [verdict]
  cases decides with
  | short few => rw [if_pos few]
  | loginPart many login part => rw [if_neg (not_lt.mpr many), if_pos login, if_pos part]
  | login login whole digits =>
      have many : ¬ b.length < 4 := by
        rw [loginFrameLen] at whole
        omega
      rw [if_neg many, if_pos login, if_neg (not_lt.mpr whole), if_pos digits]
  | badLogin login whole digits =>
      have many : ¬ b.length < 4 := by
        rw [loginFrameLen] at whole
        omega
      rw [if_neg many, if_pos login, if_neg (not_lt.mpr whole), if_neg (by simp [digits])]
  | headerPart many login packet part =>
      rw [if_neg (not_lt.mpr many), if_neg (by simp [login]), if_pos packet, if_pos part]
  | badLength login packet header bad =>
      rw [if_neg (by omega), if_neg (by simp [login]), if_pos packet, if_neg (by omega),
        if_neg bad]
  | packetPart login packet header good part =>
      rw [if_neg (by omega), if_neg (by simp [login]), if_pos packet, if_neg (by omega),
        if_pos good, if_pos part]
  | packet login packet good whole =>
      rw [if_neg (by omega), if_neg (by simp [login]), if_pos packet, if_neg (by omega),
        if_pos good, if_neg (by omega)]
  | unframed many login packet =>
      rw [if_neg (by omega), if_neg (by simp [login]), if_neg (by simp [packet])]

/-- A decision other than to wait stands when more bytes arrive. -/
theorem Decides.append {cfg : Config} {b : Bytes} {v : Verdict} (decides : Decides cfg b v)
    (decided : v ≠ .wait) (more : Bytes) : Decides cfg (b ++ more) v := by
  have longer : b.length ≤ (b ++ more).length := by simp
  have login_ : 4 ≤ b.length → loginPrefix.isPrefixOf (b ++ more) = loginPrefix.isPrefixOf b :=
    fun many => isPrefixOf_append more (by simp [loginPrefix]; omega)
  have packet_ : 4 ≤ b.length → preamble.isPrefixOf (b ++ more) = preamble.isPrefixOf b :=
    fun many => isPrefixOf_append more (by simpa [preamble] using many)
  have digits_ : loginFrameLen ≤ b.length → hasDigits (b ++ more) = hasDigits b := by
    intro whole
    rw [hasDigits, hasDigits, slice_append 2 more whole]
  have length_ : 8 ≤ b.length → dataLength (b ++ more) = dataLength b := by
    intro header
    rw [dataLength, dataLength, slice_append 4 more header]
  cases decides with
  | short | loginPart | headerPart | packetPart => exact absurd rfl decided
  | login login whole digits =>
      have many : 4 ≤ b.length := le_trans (by decide) whole
      exact .login (login_ many ▸ login) (whole.trans longer) (digits_ whole ▸ digits)
  | badLogin login whole digits =>
      have many : 4 ≤ b.length := le_trans (by decide) whole
      exact .badLogin (login_ many ▸ login) (whole.trans longer) (digits_ whole ▸ digits)
  | badLength login packet header bad =>
      have many : 4 ≤ b.length := le_trans (by decide) header
      exact .badLength (login_ many ▸ login) (packet_ many ▸ packet) (header.trans longer)
        (length_ header ▸ bad)
  | packet login packet good whole =>
      have header : 8 ≤ b.length := by omega
      have many : 4 ≤ b.length := le_trans (by decide) header
      rw [← length_ header] at good whole ⊢
      exact .packet (login_ many ▸ login) (packet_ many ▸ packet) good (whole.trans longer)
  | unframed many login packet =>
      exact .unframed (many.trans longer) (login_ many ▸ login) (packet_ many ▸ packet)

def rule (cfg : Config) : Rule UInt8 where
  verdict := verdict cfg
  frame_bounds := by
    intro b n cut
    have decided := decides cfg b
    rw [cut] at decided
    cases decided with
    | login login whole digits => exact ⟨by decide, whole⟩
    | packet login packet good whole => exact ⟨by omega, whole⟩
  junk_nonempty := by
    intro b skip
    have decided := decides cfg b
    rw [skip] at decided
    cases decided
  stable := by
    intro b more decided
    exact ((decides cfg b).append decided more).verdict_eq

theorem verdict_ne_junk (cfg : Config) (b : Bytes) : (rule cfg).verdict b ≠ .junk := by
  intro skip
  have decided := decides cfg b
  rw [show verdict cfg b = .junk from skip] at decided
  cases decided

def complaint (cfg : Config) (b : Bytes) : Text :=
  if loginPrefix.isPrefixOf b then "login frame with a non-numeric IMEI".toList
  else if preamble.isPrefixOf b then
    "AVL data length ".toList ++ decimal (dataLength b) ++ " outside 1..".toList ++
      decimalInt cfg.teltonikaMaxPacketBytes
  else "unframed data, first bytes ".toList ++ hex (b.take 8)

theorem extractFrames_eq (cfg : Config) (b : Bytes) :
    extractFrames cfg b =
      match verdict cfg b with
      | .wait => .ok ([], b)
      | .frame n => (extractFrames cfg (b.drop n)).map fun later => (b.take n :: later.1, later.2)
      | .junk | .reject => .error (.teltonikaFrameError (complaint cfg b)) := by
  have decided := decides cfg b
  generalize verdict cfg b = v at decided
  rw [extractFrames]
  have continued : ∀ n : Nat,
      (extractFrames cfg (b.drop n) >>= fun later => .ok (b.take n :: later.1, later.2)) =
        (extractFrames cfg (b.drop n)).map fun later => (b.take n :: later.1, later.2) := by
    intro n
    cases extractFrames cfg (b.drop n) <;> rfl
  cases decided with
  | short few => rw [dif_pos few]
  | loginPart many login part => rw [dif_neg (by omega), if_pos login, if_pos part]
  | login login whole digits =>
      have many : ¬ b.length < 4 := by
        rw [loginFrameLen] at whole
        omega
      rw [dif_neg many, if_pos login, if_neg (by omega), if_neg (by simpa [hasDigits] using digits)]
      exact continued loginFrameLen
  | badLogin login whole digits =>
      have many : ¬ b.length < 4 := by
        rw [loginFrameLen] at whole
        omega
      rw [dif_neg many, if_pos login, if_neg (by omega), if_pos (by simpa [hasDigits] using digits)]
      rw [complaint, if_pos login]
  | headerPart many login packet part =>
      rw [dif_neg (by omega), if_neg (by simp [login]), if_pos packet, if_pos part]
  | badLength login packet header bad =>
      rw [dif_neg (by omega), if_neg (by simp [login]), if_pos packet, if_neg (by omega)]
      simp only [Acceptable, dataLength] at bad
      rw [if_pos (by omega)]
      rw [complaint, if_neg (by simp [login]), if_pos packet, dataLength]
  | packetPart login packet header good part =>
      simp only [Acceptable, dataLength] at good part
      rw [dif_neg (by omega), if_neg (by simp [login]), if_pos packet, if_neg (by omega)]
      simp only
      rw [if_neg (by omega), if_pos (by omega)]
  | packet login packet good whole =>
      simp only [Acceptable, dataLength] at good whole
      rw [dif_neg (by omega), if_neg (by simp [login]), if_pos packet, if_neg (by omega)]
      simp only
      rw [if_neg (by omega), if_neg (by omega),
        show 8 + bigEndian (slice b 4 8) + 4 = 12 + dataLength b by unfold dataLength; omega]
      exact continued _
  | unframed many login packet =>
      rw [dif_neg (by omega), if_neg (by simp [login]), if_neg (by simp [packet]), complaint,
        if_neg (by simp [login]), if_neg (by simp [packet])]

theorem implements (cfg : Config) : Implements (extractFrames cfg) (rule cfg) := by
  intro b
  induction b using (rule cfg).scan_induction with
  | wait b tells =>
      rw [extractFrames_eq, Rule.scan_wait tells, show verdict cfg b = .wait from tells]
      rfl
  | frame b n tells ih =>
      rw [extractFrames_eq, Rule.scan_frame tells, show verdict cfg b = .frame n from tells]
      generalize (rule cfg).scan (b.drop n) = later at ih
      cases cut : extractFrames cfg (b.drop n) with
      | error e =>
          rw [cut] at ih
          simp only [cut, Option.map_eq_none_iff.mp ih.symm]
          rfl
      | ok result =>
          rw [cut] at ih
          obtain ⟨rest, left, rfl⟩ := Option.map_eq_some_iff.mp ih.symm
          simp only [cut, left]
          rfl
  | junk b tells ih => exact absurd tells (verdict_ne_junk cfg b)
  | reject b tells =>
      rw [extractFrames_eq, Rule.scan_reject tells, show verdict cfg b = .reject from tells]
      rfl

theorem extractFrames_error {cfg : Config} {b : Bytes} {e : Exn}
    (raised : extractFrames cfg b = .error e) : ∃ message, e = .teltonikaFrameError message := by
  induction b using (rule cfg).scan_induction with
  | wait b tells =>
      rw [extractFrames_eq, show verdict cfg b = .wait from tells] at raised
      cases raised
  | frame b n tells ih =>
      rw [extractFrames_eq, show verdict cfg b = .frame n from tells] at raised
      cases cut : extractFrames cfg (b.drop n) with
      | ok result =>
          simp only [cut, Except.map] at raised
          cases raised
      | error e' =>
          simp only [cut, Except.map] at raised
          cases raised
          exact ih cut
  | junk b tells ih => exact absurd tells (verdict_ne_junk cfg b)
  | reject b tells =>
      rw [extractFrames_eq, show verdict cfg b = .reject from tells] at raised
      cases raised
      exact ⟨_, rfl⟩

theorem isFrame_of_cut {cfg : Config} {frame more : Bytes}
    (cut : verdict cfg (frame ++ more) = .frame frame.length) : IsFrame cfg frame := by
  have decided := decides cfg (frame ++ more)
  rw [cut] at decided
  have login_ : 4 ≤ frame.length →
      loginPrefix.isPrefixOf (frame ++ more) = loginPrefix.isPrefixOf frame :=
    fun many => isPrefixOf_append more (by simp [loginPrefix]; omega)
  generalize size : frame.length = n at decided
  cases decided with
  | login login whole digits =>
      refine .inl ⟨size, login_ (by rw [size]; decide) ▸ login, ?_⟩
      rwa [hasDigits, slice_append 2 more (le_of_eq size.symm)] at digits
  | packet login packet good whole =>
      have same : dataLength (frame ++ more) = dataLength frame := by
        rw [dataLength, dataLength, slice_append 4 more (by omega)]
      rw [same] at good size
      refine .inr ⟨?_, size, good⟩
      rwa [isPrefixOf_append more (by simp [preamble]; omega)] at packet

theorem IsFrame.decides {cfg : Config} {frame : Bytes} (is : IsFrame cfg frame) :
    Decides cfg frame (.frame frame.length) := by
  rcases is with ⟨size, login, digits⟩ | ⟨packet, size, good⟩
  · rw [size]
    exact .login login (le_of_eq size.symm) digits
  · have other : loginPrefix.isPrefixOf frame = false := by
      obtain ⟨rest, rfl⟩ := List.isPrefixOf_iff_prefix.mp packet
      rfl
    rw [size]
    exact .packet other packet good (le_of_eq size.symm)

theorem IsFrame.cut {cfg : Config} {frame : Bytes} (is : IsFrame cfg frame) (more : Bytes) :
    (rule cfg).verdict (frame ++ more) = .frame frame.length :=
  (is.decides.append (by simp) more).verdict_eq

theorem scan_badLogin {cfg : Config} {b : Bytes} (login : loginPrefix.isPrefixOf b = true)
    (letters : hasDigits b = false) : ((rule cfg).scan b).1 = [] := by
  by_cases part : b.length < loginFrameLen
  · have waits : verdict cfg b = .wait := by
      by_cases few : b.length < 4
      · exact (Decides.short few).verdict_eq
      · exact (Decides.loginPart (not_lt.mp few) login part).verdict_eq
    rw [Rule.scan_wait (show (rule cfg).verdict b = .wait from waits)]
  · have refuses : Decides cfg b .reject := .badLogin login (not_lt.mp part) letters
    have rejects := refuses.verdict_eq
    rw [Rule.scan_reject (show (rule cfg).verdict b = .reject from rejects)]

theorem scan_isFrame {cfg : Config} {b frame : Bytes} (cut : frame ∈ ((rule cfg).scan b).1) :
    IsFrame cfg frame := by
  obtain ⟨more, tells⟩ := Rule.scan_frames frame cut
  exact isFrame_of_cut tells

theorem extractFrames_frames {cfg : Config} {b rest : Bytes} {frames : List Bytes}
    (cut : extractFrames cfg b = .ok (frames, rest)) :
    frames.flatten ++ rest = b ∧ ∀ frame ∈ frames, IsFrame cfg frame := by
  have scanned := implements cfg b
  rw [cut] at scanned
  obtain ⟨rest', left, same⟩ := Option.map_eq_some_iff.mp scanned.symm
  obtain ⟨rfl, rfl⟩ := Prod.mk.inj same
  exact ⟨((rule cfg).scan_flatten (verdict_ne_junk cfg) b).2 _ left, fun _ => scan_isFrame⟩

theorem feed_error {cfg : Config} {buffer : Bytes} {reads : List Bytes} {e : Exn}
    (raised : feed (extractFrames cfg) buffer reads = .error e) :
    ∃ message, e = .teltonikaFrameError message := by
  induction reads generalizing buffer with
  | nil => cases raised
  | cons read reads ih =>
      rw [feed] at raised
      cases cut : extractFrames cfg (buffer ++ read) with
      | error e' =>
          rw [cut] at raised
          cases raised
          exact extractFrames_error cut
      | ok result =>
          rw [cut] at raised
          cases later : feed (extractFrames cfg) result.2 reads with
          | error e' =>
              simp only [bind, Except.bind, later] at raised
              cases raised
              exact ih later
          | ok last =>
              simp only [bind, Except.bind, later] at raised
              cases raised

/-- Whether the framer raises, and what it cuts otherwise, is the same for every way of cutting a
stream into reads. -/
theorem frames_of_any_cut (cfg : Config) (reads : List Bytes) :
    ((∃ message, feed (extractFrames cfg) [] reads = .error (.teltonikaFrameError message)) ↔
      ∃ message, extractFrames cfg reads.flatten = .error (.teltonikaFrameError message)) ∧
    ((∀ message, feed (extractFrames cfg) [] reads ≠ .error (.teltonikaFrameError message)) →
      ∃ frames rest, feed (extractFrames cfg) [] reads = .ok (frames, rest) ∧
        extractFrames cfg reads.flatten = .ok (frames, rest) ∧
        frames.flatten ++ rest = reads.flatten ∧ ∀ frame ∈ frames, IsFrame cfg frame) := by
  have settled : extractFrames cfg [] = .ok ([], []) := by
    rw [extractFrames_eq, (Decides.short (by decide)).verdict_eq]
  have fed := (implements cfg).incremental.feed_eq settled reads
  rw [List.nil_append] at fed
  constructor
  · constructor
    · rintro ⟨message, raised⟩
      rw [raised] at fed
      obtain ⟨e, whole⟩ := toOption_eq_none_iff.mp fed.symm
      obtain ⟨message', rfl⟩ := extractFrames_error whole
      exact ⟨message', whole⟩
    · rintro ⟨message, raised⟩
      rw [raised] at fed
      obtain ⟨e, read⟩ := toOption_eq_none_iff.mp fed
      obtain ⟨message', rfl⟩ := feed_error read
      exact ⟨message', read⟩
  · intro quiet
    cases cut : feed (extractFrames cfg) [] reads with
    | error e =>
        obtain ⟨message, rfl⟩ := feed_error cut
        exact absurd cut (quiet message)
    | ok result =>
        rw [cut] at fed
        have whole := toOption_eq_some_iff.mp fed.symm
        exact ⟨result.1, result.2, rfl, whole, extractFrames_frames whole⟩

end TrackerGateway.Framing.Teltonika
