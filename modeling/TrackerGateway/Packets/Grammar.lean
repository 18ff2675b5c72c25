/- module: TrackerGateway/Packets/Grammar
   source: src/parsers/teltonika_parser.py
   digest: The byte strings that are record packets, and what is raised for all others. -/

import TrackerGateway.Packets.Records

set_option autoImplicit false
set_option relaxedAutoImplicit false

namespace TrackerGateway.Packets.Grammar

open Foundation.Stream (Raises run_bind_eq_ok_iff raises_pure raises_throw raises_get)
open Foundation.Wire
open TrackerGateway.Runtime
open Parsers.Teltonika
open Fixtures.Teltonika (idLen)
open Packets.Records

section Numbers

variable {n : Nat} {data rest : Bytes}

theorem take_eq_ok_iff {front : Bytes} :
    (take n).run data = .ok (front, rest) ↔ data = front ++ rest ∧ front.length = n := by
  change take n data = .ok (front, rest) ↔ _
  rw [take]
  split
  case isTrue short =>
    constructor
    · intro taken
      cases taken
    · rintro ⟨rfl, long⟩
      rw [List.length_append] at short
      omega
  case isFalse long =>
    constructor
    · intro taken
      cases taken
      exact ⟨(List.take_append_drop n data).symm, List.length_take_of_le (by omega)⟩
    · rintro ⟨rfl, rfl⟩
      rw [List.take_left, List.drop_left]

theorem uint_ok {value : Nat} (read : (uint n).run data = .ok (value, rest)) :
    value < 256 ^ n ∧ data = bigEndianBytes n value ++ rest := by
  obtain ⟨front, later, taken, finished⟩ := run_bind_eq_ok_iff.mp read
  obtain ⟨rfl, rfl⟩ := take_eq_ok_iff.mp taken
  cases finished
  have small := bigEndian_lt front
  have same : bigEndianBytes front.length (bigEndian front) = front := by
    apply bigEndian_inj (bigEndianBytes_length _ _)
    rw [bigEndian_bigEndianBytes, Nat.mod_eq_of_lt small]
  rw [same]
  exact ⟨small, rfl⟩

theorem sint_ok {value : ℤ} (read : (sint n).run data = .ok (value, rest)) :
    (-(256 ^ n : ℤ) ≤ 2 * value ∧ 2 * value < 256 ^ n) ∧
      data = bigEndianBytes n (value % 256 ^ n).toNat ++ rest := by
  obtain ⟨front, later, taken, finished⟩ := run_bind_eq_ok_iff.mp read
  obtain ⟨rfl, rfl⟩ := take_eq_ok_iff.mp taken
  cases finished
  have small : (bigEndian front : ℤ) < 256 ^ front.length := by exact_mod_cast bigEndian_lt front
  have residue : signedBigEndian front % 256 ^ front.length = bigEndian front := by
    rw [signedBigEndian]
    split
    · push_cast
      rw [Int.sub_emod_right, Int.emod_eq_of_lt (by omega) small]
    · exact Int.emod_eq_of_lt (by omega) small
  have same : bigEndianBytes front.length (signedBigEndian front % 256 ^ front.length).toNat =
      front := by
    apply bigEndian_inj (bigEndianBytes_length _ _)
    rw [bigEndian_bigEndianBytes, residue, Int.toNat_natCast,
      Nat.mod_eq_of_lt (bigEndian_lt front)]
  rw [same]
  refine ⟨?_, rfl⟩
  rw [signedBigEndian]
  split
  case isTrue high =>
    have half : (256 ^ front.length : ℤ) ≤ 2 * bigEndian front := by exact_mod_cast high
    push_cast
    constructor <;> omega
  case isFalse low =>
    have half : (2 * bigEndian front : ℤ) < 256 ^ front.length := by exact_mod_cast not_le.mp low
    constructor <;> omega

theorem repeatRead_ok {ι α : Type} {read : Reader α} {formed : ι → Prop} {bytes : ι → Bytes}
    {value : ι → α}
    (each : ∀ {data rest a}, read.run data = .ok (a, rest) →
      ∃ x, formed x ∧ data = bytes x ++ rest ∧ a = value x)
    {l : List α} (ran : (repeatRead read n).run data = .ok (l, rest)) :
    ∃ xs : List ι, xs.length = n ∧ (∀ x ∈ xs, formed x) ∧
      data = (xs.map bytes).flatten ++ rest ∧ l = xs.map value := by
  induction n generalizing data l with
  | zero =>
      cases ran
      exact ⟨[], rfl, fun _ none_ => absurd none_ List.not_mem_nil, rfl, rfl⟩
  | succ n ih =>
      obtain ⟨a, later, first, others⟩ := run_bind_eq_ok_iff.mp ran
      obtain ⟨as, last, repeated, finished⟩ := run_bind_eq_ok_iff.mp others
      cases finished
      obtain ⟨x, fits, rfl, rfl⟩ := each first
      obtain ⟨xs, rfl, all, rfl, rfl⟩ := ih repeated
      refine ⟨x :: xs, rfl, List.forall_mem_cons.mpr ⟨fits, all⟩, ?_, rfl⟩
      rw [List.map_cons, List.flatten_cons, List.append_assoc]

end Numbers

section Groups

variable {extended : Bool} {data rest : Bytes}

theorem readGroup_ok {size : Nat} {found : List (Nat × IoValue)}
    (read : (readGroup (idLen extended) size).run data = .ok (found, rest)) :
    ∃ group : List (Nat × Nat), (group.length < 256 ^ idLen extended ∧ Fits extended size group) ∧
      data = groupBytes extended size group ++ rest ∧ found = group.map (Prod.map id .number) := by
  have each : ∀ {data rest : Bytes} {a : Nat × IoValue}, (do
      let ioId ← uint (idLen extended)
      let value ← uint size
      return (ioId, IoValue.number value) : Reader (Nat × IoValue)).run data = .ok (a, rest) →
      ∃ element : Nat × Nat, (element.1 < 256 ^ idLen extended ∧ element.2 < 256 ^ size) ∧
        data = (bigEndianBytes (idLen extended) element.1 ++ bigEndianBytes size element.2) ++
          rest ∧ a = Prod.map id .number element := by
    intro data rest a one
    obtain ⟨ioId, later, first, others⟩ := run_bind_eq_ok_iff.mp one
    obtain ⟨value, last, second, finished⟩ := run_bind_eq_ok_iff.mp others
    obtain ⟨small, rfl⟩ := uint_ok first
    obtain ⟨low, rfl⟩ := uint_ok second
    cases finished
    exact ⟨(ioId, value), ⟨small, low⟩, (List.append_assoc _ _ _).symm, rfl⟩
  obtain ⟨count, later, counted, repeated⟩ := run_bind_eq_ok_iff.mp read
  obtain ⟨few, rfl⟩ := uint_ok counted
  obtain ⟨group, rfl, fits, rfl, rfl⟩ := repeatRead_ok each repeated
  refine ⟨group, ⟨few, fits⟩, ?_, rfl⟩
  rw [groupBytes, List.append_assoc]

theorem readVariableGroup_ok {found : List (Nat × IoValue)}
    (read : readVariableGroup.run data = .ok (found, rest)) :
    ∃ group : List (Nat × Bytes), (group.length < 256 ^ 2 ∧
      ∀ element ∈ group, element.1 < 256 ^ 2 ∧ element.2.length < 256 ^ 2) ∧
      data = variableBytes group ++ rest ∧ found = group.map (Prod.map id .bytes) := by
  have each : ∀ {data rest : Bytes} {a : Nat × IoValue}, (do
      let ioId ← uint 2
      let length ← uint 2
      let value ← take length
      return (ioId, IoValue.bytes value) : Reader (Nat × IoValue)).run data = .ok (a, rest) →
      ∃ element : Nat × Bytes, (element.1 < 256 ^ 2 ∧ element.2.length < 256 ^ 2) ∧
        data = (bigEndianBytes 2 element.1 ++ (bigEndianBytes 2 element.2.length ++ element.2)) ++
          rest ∧ a = Prod.map id .bytes element := by
    intro data rest a one
    obtain ⟨ioId, later, first, others⟩ := run_bind_eq_ok_iff.mp one
    obtain ⟨length, behind, second, more⟩ := run_bind_eq_ok_iff.mp others
    obtain ⟨value, last, third, finished⟩ := run_bind_eq_ok_iff.mp more
    obtain ⟨small, rfl⟩ := uint_ok first
    obtain ⟨low, rfl⟩ := uint_ok second
    obtain ⟨rfl, rfl⟩ := take_eq_ok_iff.mp third
    cases finished
    refine ⟨(ioId, value), ⟨small, low⟩, ?_, rfl⟩
    rw [List.append_assoc, List.append_assoc]
  obtain ⟨count, later, counted, repeated⟩ := run_bind_eq_ok_iff.mp read
  obtain ⟨few, rfl⟩ := uint_ok counted
  obtain ⟨group, rfl, fits, rfl, rfl⟩ := repeatRead_ok each repeated
  refine ⟨group, ⟨few, fits⟩, ?_, rfl⟩
  rw [variableBytes, List.append_assoc]

end Groups

section Records

variable {extended : Bool} {data rest : Bytes}

theorem readIo_ok {eventIo : Nat} {io : List (Nat × IoValue)}
    (read : (readIo extended).run data = .ok ((eventIo, io), rest)) :
    ∃ total one two four eight variable_,
      eventIo < 256 ^ idLen extended ∧ total < 256 ^ idLen extended ∧
      (List.length one < 256 ^ idLen extended ∧ Fits extended 1 one) ∧
      (List.length two < 256 ^ idLen extended ∧ Fits extended 2 two) ∧
      (List.length four < 256 ^ idLen extended ∧ Fits extended 4 four) ∧
      (List.length eight < 256 ^ idLen extended ∧ Fits extended 8 eight) ∧
      (List.length variable_ < 256 ^ 2 ∧
        ∀ element ∈ variable_, element.1 < 256 ^ 2 ∧ List.length element.2 < 256 ^ 2) ∧
      (extended = false → variable_ = []) ∧
      data = bigEndianBytes (idLen extended) eventIo ++ (bigEndianBytes (idLen extended) total ++
        (groupBytes extended 1 one ++ (groupBytes extended 2 two ++
          (groupBytes extended 4 four ++ (groupBytes extended 8 eight ++
            ((if extended then variableBytes variable_ else []) ++ rest)))))) ∧
      io = (one.map (Prod.map id IoValue.number) ++ two.map (Prod.map id IoValue.number) ++
        four.map (Prod.map id IoValue.number) ++ eight.map (Prod.map id IoValue.number) ++
        variable_.map (Prod.map id IoValue.bytes)).foldl putIo [] := by
  obtain ⟨event, later, read1, read⟩ := run_bind_eq_ok_iff.mp read
  obtain ⟨total, later, read2, read⟩ := run_bind_eq_ok_iff.mp read
  obtain ⟨found1, later, read3, read⟩ := run_bind_eq_ok_iff.mp read
  obtain ⟨found2, later, read4, read⟩ := run_bind_eq_ok_iff.mp read
  obtain ⟨found4, later, read5, read⟩ := run_bind_eq_ok_iff.mp read
  obtain ⟨found8, later, read6, read⟩ := run_bind_eq_ok_iff.mp read
  obtain ⟨small, rfl⟩ := uint_ok read1
  obtain ⟨low, rfl⟩ := uint_ok read2
  obtain ⟨one, fits1, rfl, rfl⟩ := readGroup_ok read3
  obtain ⟨two, fits2, rfl, rfl⟩ := readGroup_ok read4
  obtain ⟨four, fits4, rfl, rfl⟩ := readGroup_ok read5
  obtain ⟨eight, fits8, rfl, rfl⟩ := readGroup_ok read6
  cases extended with
  | true =>
      obtain ⟨found, later, read7, finished⟩ := run_bind_eq_ok_iff.mp read
      obtain ⟨variable_, fits, rfl, rfl⟩ := readVariableGroup_ok read7
      cases finished
      refine ⟨total, one, two, four, eight, variable_, small, low, fits1, fits2, fits4, fits8,
        fits, by simp, rfl, rfl⟩
  | false =>
      cases read
      refine ⟨total, one, two, four, eight, [], small, low, fits1, fits2, fits4, fits8,
        by simp, by simp, rfl, rfl⟩

theorem readRecord_ok {rec : AvlRecord}
    (read : (readRecord extended).run data = .ok (rec, rest)) :
    ∃ l : Layout, l.WellFormed extended ∧ data = l.bytes extended ++ rest ∧ rec = l.record := by
  obtain ⟨millis, later, read1, more⟩ := run_bind_eq_ok_iff.mp read
  obtain ⟨-, rfl⟩ := uint_ok read1
  dsimp only at more
  by_cases late : maxMillis < millis
  · rw [if_pos late] at more
    cases more
  rw [if_neg late] at more
  obtain ⟨priority, later, read2, more⟩ := run_bind_eq_ok_iff.mp more
  obtain ⟨longitude, later, read3, more⟩ := run_bind_eq_ok_iff.mp more
  obtain ⟨latitude, later, read4, more⟩ := run_bind_eq_ok_iff.mp more
  obtain ⟨altitude, later, read5, more⟩ := run_bind_eq_ok_iff.mp more
  obtain ⟨angle, later, read6, more⟩ := run_bind_eq_ok_iff.mp more
  obtain ⟨satellites, later, read7, more⟩ := run_bind_eq_ok_iff.mp more
  obtain ⟨speed, later, read8, more⟩ := run_bind_eq_ok_iff.mp more
  obtain ⟨⟨eventIo, io⟩, later, read9, finished⟩ := run_bind_eq_ok_iff.mp more
  cases finished
  obtain ⟨fits2, rfl⟩ := uint_ok read2
  obtain ⟨fits3, rfl⟩ := sint_ok read3
  obtain ⟨fits4, rfl⟩ := sint_ok read4
  obtain ⟨fits5, rfl⟩ := sint_ok read5
  obtain ⟨fits6, rfl⟩ := uint_ok read6
  obtain ⟨fits7, rfl⟩ := uint_ok read7
  obtain ⟨fits8, rfl⟩ := uint_ok read8
  obtain ⟨total, one, two, four, eight, variable_, small, low, one_, two_, four_, eight_, all, only,
    rfl, rfl⟩ := readIo_ok read9
  refine ⟨⟨millis, priority, longitude, latitude, altitude, angle, satellites, speed, eventIo,
    total, one, two, four, eight, variable_⟩, ?_, ?_, rfl⟩
  · exact ⟨not_lt.mp late, fits2, fits3, fits4, fits5, fits6, fits7, fits8, small, low, one_,
      two_, four_, eight_, all, only⟩
  · simp only [Layout.bytes, Layout.groups, List.append_assoc]

/-- Behind the records stands their number again, and nothing else. -/
theorem readRecords_ok {records : List AvlRecord}
    (read : (readRecords extended).run data = .ok (records, rest)) :
    ∃ layouts : List Layout, layouts.length < 256 ^ 1 ∧
      (∀ l ∈ layouts, l.WellFormed extended) ∧
      data = bigEndianBytes 1 layouts.length ++
        ((layouts.map (Layout.bytes extended)).flatten ++ bigEndianBytes 1 layouts.length) ∧
      records = layouts.map Layout.record := by
  obtain ⟨count, later, read1, others⟩ := run_bind_eq_ok_iff.mp read
  obtain ⟨found, later, read2, behind⟩ := run_bind_eq_ok_iff.mp others
  obtain ⟨trailing, later, read3, compared⟩ := run_bind_eq_ok_iff.mp behind
  obtain ⟨few, rfl⟩ := uint_ok read1
  obtain ⟨layouts, rfl, formed, rfl, rfl⟩ := repeatRead_ok readRecord_ok read2
  obtain ⟨-, rfl⟩ := uint_ok read3
  dsimp only at compared
  by_cases same : trailing = layouts.length
  · subst same
    rw [if_neg (not_not.mpr rfl)] at compared
    obtain ⟨remaining, last, got, ended⟩ := run_bind_eq_ok_iff.mp compared
    cases got
    cases later with
    | nil =>
        cases ended
        refine ⟨layouts, few, formed, ?_, rfl⟩
        rw [List.append_nil]
    | cons extra others => cases ended
  · rw [if_pos same] at compared
    cases compared

end Records

def Malformed (e : Exn) : Prop := ∃ message, e = .teltonikaParseError message

section Raising

theorem raises_take (n : Nat) : Raises (take n) Malformed := by
  intro data e raised
  change take n data = .error e at raised
  rw [take] at raised
  split at raised
  · cases raised
    exact ⟨_, rfl⟩
  · cases raised

theorem raises_uint (n : Nat) : Raises (uint n) Malformed :=
  (raises_take n).bind fun _ => raises_pure _

theorem raises_sint (n : Nat) : Raises (sint n) Malformed :=
  (raises_take n).bind fun _ => raises_pure _

theorem raises_repeatRead {α : Type} {read : Reader α} (each : Raises read Malformed) (n : Nat) :
    Raises (repeatRead read n) Malformed := by
  induction n with
  | zero => exact raises_pure []
  | succ n ih => exact each.bind fun _ => ih.bind fun _ => raises_pure _

theorem raises_readGroup (idLen valueLen : Nat) : Raises (readGroup idLen valueLen) Malformed := by
  refine (raises_uint idLen).bind fun count => raises_repeatRead ?_ count
  exact (raises_uint idLen).bind fun _ => (raises_uint valueLen).bind fun _ => raises_pure _

theorem raises_readVariableGroup : Raises readVariableGroup Malformed := by
  refine (raises_uint 2).bind fun count => raises_repeatRead ?_ count
  exact (raises_uint 2).bind fun _ => (raises_uint 2).bind fun length =>
    (raises_take length).bind fun _ => raises_pure _

theorem raises_readIo (extended : Bool) : Raises (readIo extended) Malformed := by
  have group : ∀ size, Raises (readGroup (idLen extended) size) Malformed :=
    raises_readGroup (idLen extended)
  refine (raises_uint _).bind fun _ => (raises_uint _).bind ?_
  intro _
  refine (group 1).bind fun _ => (group 2).bind ?_
  intro _
  refine (group 4).bind fun _ => (group 8).bind ?_
  intro _
  cases extended with
  | true => exact raises_readVariableGroup.bind fun _ => raises_pure _
  | false => exact raises_pure _

theorem raises_readRecord (extended : Bool) : Raises (readRecord extended) Malformed := by
  refine (raises_uint 8).bind fun millis => Raises.ite ((raises_throw ⟨_, rfl⟩).bind ?_) ?_
  all_goals
    intros
    refine (raises_uint 1).bind fun _ => (raises_sint 4).bind ?_
    intro _
    refine (raises_sint 4).bind fun _ => (raises_sint 2).bind ?_
    intro _
    refine (raises_uint 2).bind fun _ => (raises_uint 1).bind ?_
    intro _
    exact (raises_uint 2).bind fun _ => (raises_readIo extended).bind fun _ => raises_pure _

theorem raises_readRecords (extended : Bool) : Raises (readRecords extended) Malformed := by
  apply (raises_uint 1).bind
  intro count
  apply (raises_repeatRead (raises_readRecord extended) count).bind
  intro records
  refine (raises_uint 1).bind fun trailing => Raises.ite ((raises_throw ⟨_, rfl⟩).bind ?_) ?_
  all_goals
    intros
    refine raises_get.bind fun remaining => Raises.ite ((raises_throw ⟨_, rfl⟩).bind ?_) ?_
    all_goals
      intros
      exact raises_pure records

end Raising

/-- A frame whose declared length is that of its data field. -/
structure Framed (frame data checksum : Bytes) : Prop where
  is : frame = preamble ++ (bigEndianBytes 4 data.length ++ (data ++ checksum))
  long : 3 ≤ data.length
  fits : data.length < 256 ^ 4
  four : checksum.length = 4

/-- The bytes of a packet: codec, count, as many records, the count again, and the checksum. -/
structure WellFormed (frame : Bytes) (codec : Nat) (layouts : List Layout) : Prop where
  supported : codec = codec8 ∨ codec = codec8E
  few : layouts.length < 256
  records : ∀ l ∈ layouts, l.WellFormed (codec = codec8E)
  fits : (dataField codec (layouts.map (Layout.bytes (codec = codec8E)))).length < 256 ^ 4
  is : frame = packet (dataField codec (layouts.map (Layout.bytes (codec = codec8E))))

section Packets

variable {frame data checksum : Bytes}

theorem Framed.parse (framed_ : Framed frame data checksum) :
    parseAvlPacket frame = if bigEndian checksum = (crc16Ibm data).toNat then parseData data
      else .error .teltonikaCrcError := by
  rw [framed_.is]
  exact parseAvlPacket_framed framed_.long framed_.fits framed_.four

/-- Everything that is no frame is refused before its checksum is looked at. -/
theorem framed_or_malformed (frame : Bytes) :
    (∃ data checksum, Framed frame data checksum) ∨
      ∃ e, parseAvlPacket frame = .error e ∧ Malformed e := by
  by_cases begins : (decide (frame.length < 15) || !preamble.isPrefixOf frame) = true
  · have raised : parseAvlPacket frame =
        .error (.teltonikaParseError "not an AVL data packet".toList) := by
      rw [parseAvlPacket, if_pos begins]
      rfl
    exact .inr ⟨_, raised, _, rfl⟩
  by_cases declared : frame.length = 8 + bigEndian (slice frame 4 8) + 4
  · obtain ⟨long, starts⟩ : 15 ≤ frame.length ∧ preamble <+: frame := by simpa using begins
    obtain ⟨behind, rfl⟩ := starts
    have width : preamble.length = 4 := rfl
    rw [List.length_append, width] at long
    have four : (behind.take 4).length = 4 := List.length_take_of_le (by omega)
    have halves := List.take_append_drop 4 behind
    generalize behind.take 4 = length at four halves
    generalize behind.drop 4 = body at halves
    subst halves
    have word : slice (preamble ++ (length ++ body)) 4 8 = length :=
      slice_middle rfl (by rw [width, four])
    rw [word, List.length_append, List.length_append, width, four] at declared
    rw [List.length_append, four] at long
    have data_length : (body.take (bigEndian length)).length = bigEndian length :=
      List.length_take_of_le (by omega)
    have small := bigEndian_lt length
    rw [four] at small
    refine .inl ⟨body.take (bigEndian length), body.drop (bigEndian length), ?_, ?_, ?_, ?_⟩
    · have same : bigEndianBytes 4 (bigEndian length) = length := by
        apply bigEndian_inj (by rw [bigEndianBytes_length, four])
        rw [bigEndian_bigEndianBytes, Nat.mod_eq_of_lt small]
      rw [data_length, same, List.take_append_drop]
    · omega
    · omega
    · rw [List.length_drop]
      omega
  · have raised : parseAvlPacket frame = .error
        (.teltonikaParseError "data field length does not match the frame size".toList) := by
      rw [parseAvlPacket, if_neg begins]
      dsimp only
      rw [if_pos declared]
      rfl
    exact .inr ⟨_, raised, _, rfl⟩

theorem index_zero (long : 3 ≤ data.length) :
    ∃ first behind, data = first :: behind ∧ index data 0 = .ok first := by
  cases data with
  | nil => simp at long
  | cons first behind => exact ⟨first, behind, rfl, rfl⟩

theorem parseData_cases (first : UInt8) (behind : Bytes) :
    (¬(first.toNat = codec8 ∨ first.toNat = codec8E) ∧
      parseData (first :: behind) = .error (.unsupportedCodecError first.toNat)) ∨
    ((first.toNat = codec8 ∨ first.toNat = codec8E) ∧
      ((∃ e, parseData (first :: behind) = .error e ∧ Malformed e) ∨
        ∃ layouts : List Layout, layouts.length < 256 ∧
          (∀ l ∈ layouts, l.WellFormed (first.toNat = codec8E)) ∧
          first :: behind =
            dataField first.toNat (layouts.map (Layout.bytes (first.toNat = codec8E))) ∧
          parseData (first :: behind) = .ok ⟨first.toNat, layouts.map Layout.record⟩)) := by
  have whole := parseData.eq_def (first :: behind)
  have codec : index (first :: behind) 0 = .ok first := rfl
  simp only [codec, bind, Except.bind, List.drop_one, List.tail_cons] at whole
  by_cases supported : first.toNat = codec8 ∨ first.toNat = codec8E
  · rw [if_neg (by tauto)] at whole
    refine .inr ⟨supported, ?_⟩
    cases read : (readRecords (first.toNat = codec8E)).run behind with
    | error e =>
        rw [read] at whole
        exact .inl ⟨e, whole, raises_readRecords _ _ _ read⟩
    | ok result =>
        obtain ⟨records, rest⟩ := result
        obtain ⟨layouts, few, formed, bytes, rfl⟩ := readRecords_ok read
        rw [read] at whole
        refine .inr ⟨layouts, few, formed, ?_, whole⟩
        rw [dataField, bytes, List.length_map]
        simp only [bigEndianBytes, List.nil_append, List.singleton_append, UInt8.ofNat_toNat]
  · rw [if_pos (by tauto)] at whole
    exact .inl ⟨supported, whole⟩

theorem WellFormed.data_long (codec : Nat) (layouts : List Layout) :
    3 ≤ (dataField codec (layouts.map (Layout.bytes (codec = codec8E)))).length := by
  rw [dataField_length]
  omega

theorem parse_ok_iff {p : AvlPacket} :
    parseAvlPacket frame = .ok p ↔
      ∃ layouts, WellFormed frame p.codec layouts ∧ p.records = layouts.map Layout.record := by
  constructor
  · intro parsed
    rcases framed_or_malformed frame with ⟨data, checksum, framed_⟩ | ⟨e, raised, -⟩
    · rw [framed_.parse] at parsed
      split at parsed
      case isFalse => cases parsed
      case isTrue right =>
      obtain ⟨first, behind, rfl, -⟩ := index_zero framed_.long
      rcases parseData_cases first behind with ⟨-, raised⟩ |
        ⟨supported, ⟨e, raised, -⟩ | ⟨layouts, few, formed, bytes, found⟩⟩
      · rw [raised] at parsed
        cases parsed
      · rw [raised] at parsed
        cases parsed
      · rw [found] at parsed
        cases parsed
        refine ⟨layouts, ⟨supported, few, formed, ?_, ?_⟩, rfl⟩
        · rw [← bytes]
          exact framed_.fits
        · have same : bigEndianBytes 4 (crc16Ibm (first :: behind)).toNat = checksum := by
            apply bigEndian_inj (by rw [bigEndianBytes_length, framed_.four])
            rw [bigEndian_bigEndianBytes, ← right,
              Nat.mod_eq_of_lt (framed_.four ▸ bigEndian_lt checksum)]
          rw [← bytes, framed_.is, packet, same]
    · rw [raised] at parsed
      cases parsed
  · rintro ⟨layouts, formed, records⟩
    rw [formed.is, parseAvlPacket_packet (WellFormed.data_long _ _) formed.fits,
      parseData_dataField formed.supported formed.few formed.records, ← records]

theorem parse_error {e : Exn} (raised : parseAvlPacket frame = .error e) :
    Malformed e ∨ e = .teltonikaCrcError ∨ ∃ codec, e = .unsupportedCodecError codec := by
  rcases framed_or_malformed frame with ⟨data, checksum, framed_⟩ | ⟨e', raised', malformed⟩
  · rw [framed_.parse] at raised
    split at raised
    case isFalse =>
      cases raised
      exact .inr (.inl rfl)
    case isTrue =>
    obtain ⟨first, behind, rfl, -⟩ := index_zero framed_.long
    rcases parseData_cases first behind with ⟨-, raised'⟩ |
      ⟨-, ⟨e', raised', malformed⟩ | ⟨layouts, -, -, -, found⟩⟩
    · rw [raised'] at raised
      cases raised
      exact .inr (.inr ⟨_, rfl⟩)
    · rw [raised'] at raised
      cases raised
      exact .inl malformed
    · rw [found] at raised
      cases raised
  · rw [raised'] at raised
    cases raised
    exact .inl malformed

theorem Framed.crc_error_iff (framed_ : Framed frame data checksum) :
    parseAvlPacket frame = .error .teltonikaCrcError ↔
      bigEndian checksum ≠ (crc16Ibm data).toNat := by
  rw [framed_.parse]
  split
  case isFalse wrong => exact iff_of_true rfl wrong
  case isTrue right =>
    refine iff_of_false ?_ (not_not.mpr right)
    obtain ⟨first, behind, rfl, -⟩ := index_zero framed_.long
    rcases parseData_cases first behind with ⟨-, raised⟩ |
      ⟨-, ⟨e, raised, message, rfl⟩ | ⟨layouts, -, -, -, found⟩⟩
    · simp [raised]
    · simp [raised]
    · simp [found]

theorem Framed.unsupported_iff (framed_ : Framed frame data checksum) (codec : Nat) :
    parseAvlPacket frame = .error (.unsupportedCodecError codec) ↔
      bigEndian checksum = (crc16Ibm data).toNat ∧ codec ≠ codec8 ∧ codec ≠ codec8E ∧
        bigEndian (data.take 1) = codec := by
  rw [framed_.parse]
  split
  case isFalse wrong => simp [wrong]
  case isTrue right =>
    obtain ⟨first, behind, rfl, -⟩ := index_zero framed_.long
    have one : bigEndian ((first :: behind).take 1) = first.toNat := by simp [bigEndian]
    rw [one]
    rcases parseData_cases first behind with ⟨other, raised⟩ |
      ⟨supported, ⟨e, raised, message, rfl⟩ | ⟨layouts, -, -, -, found⟩⟩
    · rw [raised]
      constructor
      · intro same
        cases same
        exact ⟨right, by tauto, by tauto, rfl⟩
      · rintro ⟨-, -, -, rfl⟩
        rfl
    · rw [raised]
      apply iff_of_false (by simp)
      rintro ⟨-, not8, not8E, rfl⟩
      exact supported.elim not8 not8E
    · rw [found]
      apply iff_of_false (by simp)
      rintro ⟨-, not8, not8E, rfl⟩
      exact supported.elim not8 not8E

theorem WellFormed.count {codec : Nat} {layouts : List Layout}
    (formed : WellFormed frame codec layouts) :
    slice frame 9 10 = bigEndianBytes 1 layouts.length := by
  rw [formed.is, packet, dataField, List.length_map]
  rfl

/-- A frame is a packet, and the records of the packet are those laid out in it, exactly when it
follows the grammar; every other one is refused, for its checksum before its codec. -/
theorem packets_exact (frame : Bytes) :
    (∀ p, parseAvlPacket frame = .ok p ↔
      ∃ layouts, WellFormed frame p.codec layouts ∧ p.records = layouts.map Layout.record) ∧
    (∀ p, parseAvlPacket frame = .ok p →
      slice frame 9 10 = bigEndianBytes 1 p.records.length) ∧
    (∀ e, parseAvlPacket frame = .error e →
      Malformed e ∨ e = .teltonikaCrcError ∨ ∃ codec, e = .unsupportedCodecError codec) ∧
    ∀ data checksum, Framed frame data checksum →
      (parseAvlPacket frame = .error .teltonikaCrcError ↔
        bigEndian checksum ≠ (crc16Ibm data).toNat) ∧
      ∀ codec, parseAvlPacket frame = .error (.unsupportedCodecError codec) ↔
        bigEndian checksum = (crc16Ibm data).toNat ∧ codec ≠ codec8 ∧ codec ≠ codec8E ∧
          bigEndian (data.take 1) = codec := by
  refine ⟨fun p => parse_ok_iff, ?_, fun e raised => parse_error raised, ?_⟩
  · intro p parsed
    obtain ⟨layouts, formed, records⟩ := parse_ok_iff.mp parsed
    rw [formed.count, records, List.length_map]
  · intro data checksum framed_
    exact ⟨framed_.crc_error_iff, framed_.unsupported_iff⟩

end Packets

/-- A packet of one record, with elements of every width. -/
theorem packets_exact_one :
    parseAvlPacket (packet (dataField codec8 [(layoutOf (someRecord 0)).bytes false])) =
        .ok ⟨codec8, [(layoutOf (someRecord 0)).record]⟩ ∧
      slice (packet (dataField codec8 [(layoutOf (someRecord 0)).bytes false])) 9 10 = [1] := by
  have formed : (layoutOf (someRecord 0)).WellFormed (codec8 = codec8E) :=
    (someRecord_inRange (Nat.zero_le _)).wellFormed
  have length : ((layoutOf (someRecord 0)).bytes false).length = 51 := by
    simp [Layout.bytes, Layout.groups, layoutOf, groupBytes, someRecord, idLen]
  have is : WellFormed (packet (dataField codec8 [(layoutOf (someRecord 0)).bytes false])) codec8
      [layoutOf (someRecord 0)] := by
    refine ⟨.inl rfl, by decide, List.forall_mem_singleton.mpr formed, ?_, rfl⟩
    change (dataField codec8 [(layoutOf (someRecord 0)).bytes false]).length < 256 ^ 4
    rw [dataField_length, List.flatten_singleton, length]
    decide
  obtain ⟨grammar, counts, -⟩ :=
    packets_exact (packet (dataField codec8 [(layoutOf (someRecord 0)).bytes false]))
  have parsed := (grammar ⟨codec8, [(layoutOf (someRecord 0)).record]⟩).mpr ⟨_, is, rfl⟩
  exact ⟨parsed, counts _ parsed⟩

end TrackerGateway.Packets.Grammar
