/- module: TrackerGateway/Delivery/Counts
   source: src/services/teltonika_handler.py
   digest: The count a packet is answered with, and what has become of the records it counts. -/

import TrackerGateway.Services.Routine
import TrackerGateway.Services.Tables

set_option autoImplicit false
set_option relaxedAutoImplicit false

namespace TrackerGateway.Delivery

open Foundation.Coroutine
open Foundation.Wire
open TrackerGateway.Runtime
open Parsers.Teltonika
open Services
open Services.TeltonikaHandler

def statementOf (deviceId : Text) (rec : AvlRecord) : DbWrite :=
  .saveLocation deviceId (cleaned 6 rec.latitude) (cleaned 6 rec.longitude) (cleaned 2 rec.speed)
    (cleaned 2 rec.angle) rec.satellites rec.timestamp

/-- Every record, in order, has been stored by a call of its own that succeeded, or was skipped for
its position or for the time the clock showed. The past is listed newest first. -/
inductive Settled (cfg : Config) (deviceId : Text) : List AvlRecord → List Answered → Prop
  | nothing : Settled cfg deviceId [] []
  | later {records : List AvlRecord} {past : List Answered} (a : Answered) :
      Settled cfg deviceId records past → Settled cfg deviceId records (a :: past)
  | stored {records : List AvlRecord} {past : List Answered} {rec : AvlRecord} {b : Bool} :
      Settled cfg deviceId records past →
      Settled cfg deviceId (records ++ [rec])
        (⟨.execute (statementOf deviceId rec), .ok b⟩ :: past)
  | unfit {records : List AvlRecord} {past : List Answered} {rec : AvlRecord} :
      Settled cfg deviceId records past → rec.hasFix = false ∨ positionOk rec = false →
      Settled cfg deviceId (records ++ [rec]) past
  | future {records : List AvlRecord} {past : List Answered} {rec : AvlRecord} {now : Instant} :
      Settled cfg deviceId records past →
      now + cfg.teltonikaMaxFutureSeconds * 1000000 < rec.timestamp →
      Settled cfg deviceId (records ++ [rec]) (⟨.utcNow, now⟩ :: past)

def Stored (deviceId : Text) (rec : AvlRecord) (past : List Answered) : Prop :=
  ∃ b : Bool, (⟨.execute (statementOf deviceId rec), .ok b⟩ : Answered) ∈ past

def Skipped (cfg : Config) (rec : AvlRecord) (past : List Answered) : Prop :=
  rec.hasFix = false ∨ positionOk rec = false ∨
    ∃ now : Instant, (⟨.utcNow, now⟩ : Answered) ∈ past ∧
      now + cfg.teltonikaMaxFutureSeconds * 1000000 < rec.timestamp

section Settled

variable {cfg : Config} {deviceId : Text} {records : List AvlRecord} {past : List Answered}
  {rec : AvlRecord}

theorem Stored.cons (stored : Stored deviceId rec past) (a : Answered) :
    Stored deviceId rec (a :: past) := by
  obtain ⟨b, called⟩ := stored
  exact ⟨b, List.mem_cons_of_mem a called⟩

theorem Skipped.cons (skipped : Skipped cfg rec past) (a : Answered) :
    Skipped cfg rec (a :: past) := by
  rcases skipped with unfit | bad | ⟨now, read, early⟩
  · exact .inl unfit
  · exact .inr (.inl bad)
  · exact .inr (.inr ⟨now, List.mem_cons_of_mem a read, early⟩)

theorem settled_nil : ∀ past, Settled cfg deviceId [] past
  | [] => .nothing
  | a :: past => .later a (settled_nil past)

theorem Settled.append (settled : Settled cfg deviceId records past) (after : List Answered) :
    Settled cfg deviceId records (after ++ past) := by
  induction after with
  | nil => exact settled
  | cons a after ih => exact .later a ih

theorem take_snoc {α : Type} (l : List α) (x : α) (n : Nat) :
    (l ++ [x]).take n = l.take n ∨ (l ++ [x]).take n = l ++ [x] := by
  by_cases inside : n ≤ l.length
  · exact .inl (List.take_append_of_le_length inside)
  · refine .inr (List.take_of_length_le ?_)
    rw [List.length_append, List.length_singleton]
    omega

theorem Settled.take (settled : Settled cfg deviceId records past) (n : Nat) :
    Settled cfg deviceId (records.take n) past := by
  induction settled with
  | nothing =>
      rw [List.take_nil]
      exact .nothing
  | later a _ ih => exact .later a ih
  | @stored records past rec b whole ih =>
      rcases take_snoc records rec n with front | all
      · rw [front]
        exact .later _ ih
      · rw [all]
        exact .stored whole
  | @unfit records past rec whole reason ih =>
      rcases take_snoc records rec n with front | all
      · rw [front]
        exact ih
      · rw [all]
        exact .unfit whole reason
  | @future records past rec now whole early ih =>
      rcases take_snoc records rec n with front | all
      · rw [front]
        exact .later _ ih
      · rw [all]
        exact .future whole early

theorem Settled.stored_or_skipped (settled : Settled cfg deviceId records past)
    (member : rec ∈ records) : Stored deviceId rec past ∨ Skipped cfg rec past := by
  induction settled with
  | nothing => cases member
  | later a _ ih => exact (ih member).imp (·.cons a) (·.cons a)
  | @stored records past rec' b _ ih =>
      rcases List.mem_append.mp member with before | last
      · exact (ih before).imp (·.cons _) (·.cons _)
      · obtain rfl := List.mem_singleton.mp last
        exact .inl ⟨b, List.mem_cons_self⟩
  | @unfit records past rec' _ reason ih =>
      rcases List.mem_append.mp member with before | last
      · exact ih before
      · obtain rfl := List.mem_singleton.mp last
        rcases reason with unfit | bad
        · exact .inr (.inl unfit)
        · exact .inr (.inr (.inl bad))
  | @future records past rec' now _ early ih =>
      rcases List.mem_append.mp member with before | last
      · exact (ih before).imp (·.cons _) (·.cons _)
      · obtain rfl := List.mem_singleton.mp last
        exact .inr (.inr (.inr ⟨now, List.mem_cons_self, early⟩))

end Settled

/-- The records that a reply of four bytes takes from the device have been settled. -/
def Confirmed (cfg : Config) (deviceId : Text) (sent : List AvlRecord) (payload : Bytes)
    (past : List Answered) : Prop :=
  bigEndian payload ≤ sent.length ∧ Settled cfg deviceId (sent.take (bigEndian payload)) past

def OfDevice (deviceId : Text) (past : List Answered) : Prop :=
  ∀ imei (device : Entry), (⟨.getDevice imei, some device⟩ : Answered) ∈ past →
    device.deviceId = deviceId

/-- A reply of four bytes is written only when it is confirmed. -/
def Counting (cfg : Config) (deviceId : Text) (sent : List AvlRecord) (past : List Answered) :
    Op → Prop
  | .write payload => payload.length = 4 → OfDevice deviceId past →
      Confirmed cfg deviceId sent payload past
  | _ => True

section Rule

variable {cfg : Config} {deviceId d : Text} {sent : List AvlRecord}

theorem counting_of_silent {past : List Answered} {o : Op}
    (silent : ∀ payload, o = .write payload → payload.length ≠ 4) :
    Counting cfg deviceId sent past o := by
  cases o with
  | write payload => exact fun size => absurd size (silent payload rfl)
  | _ => trivial

theorem counting_permits (past : List Answered) (o : Op) (routine : Routine d o) :
    Counting cfg deviceId sent past o := by
  apply counting_of_silent
  intro payload same
  subst same
  exact routine.elim

/-- A record is settled when it counts, and no settled record is lost when it does not. -/
theorem guarded_storeRecord {allowed : List Answered → Op → Prop} {records : List AvlRecord}
    {past : List Answered} (rec : AvlRecord)
    (permits : ∀ past o, Routine d o → allowed past o) (settled : Settled cfg d records past) :
    Guarded allowed (fun past' r => ∀ accepted, r = .ok accepted →
        Settled cfg d (if accepted then records ++ [rec] else records) past')
      (storeRecord cfg d rec) past := by
  rw [storeRecord]
  split
  · next unfit =>
      rintro _ ⟨⟩
      exact .unfit settled (.inl (by simpa using unfit))
  · refine ⟨permits _ _ trivial, ?_⟩
    intro now
    change Guarded _ _ (if now + cfg.teltonikaMaxFutureSeconds * 1000000 < rec.timestamp then _
      else if !positionOk rec then _ else _) _
    split
    · next early =>
        rintro _ ⟨⟩
        exact .future settled early
    · split
      · next bad =>
          rintro _ ⟨⟩
          exact .later _ (.unfit settled (.inr (by simpa using bad)))
      · refine ⟨permits _ _ rfl, ?_⟩
        intro answer
        cases answer with
        | ok b =>
            rintro _ ⟨⟩
            exact .stored (.later _ settled)
        | error e =>
            rintro _ ⟨⟩
            exact .later _ (.later _ settled)

theorem guarded_storeRecords {allowed : List Answered → Op → Prop} {records rest : List AvlRecord}
    {past : List Answered} (permits : ∀ past o, Routine d o → allowed past o)
    (settled : Settled cfg d records past) :
    Guarded allowed (fun past' r => ∀ n, r = .ok n →
        n ≤ rest.length ∧ Settled cfg d (records ++ rest.take n) past')
      (storeRecords cfg d rest) past := by
  induction rest generalizing records past with
  | nil =>
      rintro _ ⟨⟩
      refine ⟨le_refl _, ?_⟩
      rwa [List.take_nil, List.append_nil]
  | cons rec rest ih =>
      change Guarded _ _ ((storeRecord cfg d rec).bind _) _
      rw [guarded_bind]
      refine guarded_mono (fun _ _ allow => allow) ?_
        (guarded_storeRecord rec permits settled)
      intro past' r stored
      cases r with
      | error e =>
          rintro _ ⟨⟩
      | ok accepted =>
          have now := stored accepted rfl
          cases accepted with
          | false =>
              rintro _ ⟨⟩
              refine ⟨Nat.zero_le _, ?_⟩
              rwa [List.take_zero, List.append_nil]
          | true =>
              change Guarded _ _ ((storeRecords cfg d rest).bind _) _
              rw [guarded_bind]
              refine guarded_mono (fun _ _ allow => allow) ?_ (ih now)
              intro past'' r' counted
              cases r' with
              | error e =>
                  rintro _ ⟨⟩
              | ok n =>
                  obtain ⟨few, done⟩ := counted n rfl
                  rintro _ ⟨⟩
                  refine ⟨by rw [List.length_cons]; omega, ?_⟩
                  rwa [if_pos rfl, List.append_assoc] at done

theorem guarded_send {allowed : List Answered → Op → Prop} {payload : Bytes}
    {past : List Answered} (now : allowed past (.write payload))
    (drains : ∀ past', allowed past' .drain) :
    Guarded allowed (fun _ _ => True) (send payload) past := by
  refine ⟨now, ?_⟩
  intro written
  cases written with
  | error e => trivial
  | ok _ =>
      refine ⟨drains _, ?_⟩
      intro drained
      cases drained <;> trivial

variable (cfg) (deviceId) (sent)

theorem keeps_counting {α : Type} {o : Op} (next : Res o → Handler α)
    (silent : ∀ payload, o = .write payload → payload.length ≠ 4)
    (later : ∀ x, Keeps (Counting cfg deviceId sent) (fun _ => True) (next x)) :
    Keeps (Counting cfg deviceId sent) (fun _ => True) (.call o next) :=
  fun _ _ => ⟨counting_of_silent silent, fun x => later x _ trivial⟩

theorem keeps_handleLogin (ip : Text) (raw : Bytes) :
    Keeps (Counting cfg deviceId sent) (fun _ => True) (handleLogin cfg ip raw) := by
  rw [handleLogin]
  have persists : ∀ (past : List Answered) (a : Answered), True → True := fun _ _ _ => trivial
  have closing : Keeps (Counting cfg deviceId sent) (fun _ => True)
      ((request Op.close).bind fun _ => .pure (none : Option Text)) :=
    keeps_counting cfg deviceId sent _ (by simp) fun _ => keeps_pure _
  cases parseLogin raw with
  | error e => cases e <;> first | exact closing | exact keeps_throw _
  | ok imei =>
      apply keeps_counting cfg deviceId sent _ (by simp)
      intro answer
      cases answer with
      | error e => exact keeps_throw _
      | ok found =>
          dsimp only [Program.bind_eq, Program.bind_pure, demand_ok]
          cases truthy found with
          | none => exact closing
          | some d =>
              have permits : ∀ past o, True → Routine d o → Unmarked o →
                  Counting cfg deviceId sent past o := fun past o _ routine _ =>
                counting_permits past o routine
              have accepted : Keeps (Counting cfg deviceId sent) (fun _ => True)
                  (send loginAccept) := by
                intro past _
                refine guarded_send ?_ fun _ => trivial
                exact counting_of_silent fun payload same => by cases same; decide
              apply keeps_counting cfg deviceId sent _ (by simp)
              intro _
              apply keeps_counting cfg deviceId sent _ (by simp)
              intro _
              apply keeps_counting cfg deviceId sent _ (by simp)
              intro _
              apply keeps_counting cfg deviceId sent _ (by simp)
              intro _
              apply accepted.bind
              intro _
              apply (keeps_safely (keeps_saveRaw cfg persists permits _ _ _ _)).bind
              intro _
              apply (keeps_safely (keeps_markDeviceAlive persists permits _)).bind
              intro _
              refine Keeps.bind ?_ ?_
              · exact (keeps_getVehicle persists permits d).rescue fun _ => keeps_pure _
              · intro vehicleId
                exact (keeps_safely (keeps_createEvent persists permits _ _ _ _ _ _ _)).bind
                  fun _ => keeps_pure _

/-- The count of a packet is confirmed for the records of the packet. -/
theorem guarded_handleAvl (raw : Bytes)
    (carried : ∀ packet, parseAvlPacket raw = .ok packet → packet.records = sent) :
    Guarded (Counting cfg deviceId sent) (fun _ _ => True) (handleAvl cfg raw) [] := by
  refine ⟨trivial, ?_⟩
  intro found
  dsimp only [Program.bind_eq, Program.bind_pure]
  cases truthy found with
  | none => exact ⟨trivial, fun _ => trivial⟩
  | some imei =>
      refine ⟨trivial, ?_⟩
      intro device?
      cases device? with
      | none => trivial
      | some device =>
          let known : List Answered → Prop := fun past =>
            (⟨.getDevice imei, some device⟩ : Answered) ∈ past
          have persists : ∀ past a, known past → known (a :: past) :=
            fun past a member => List.mem_cons_of_mem a member
          have permits : ∀ past o, known past → Routine device.deviceId o → Unmarked o →
              Counting cfg deviceId sent past o := fun past o _ routine _ =>
            counting_permits past o routine
          have now : known [⟨.getDevice imei, some device⟩, ⟨.getImeiBySocket, found⟩] :=
            List.mem_cons_self
          have saved : ∀ always parsed, Keeps (Counting cfg deviceId sent) known
              (safely (saveRawFrame cfg device.deviceId raw always parsed)) := fun always parsed =>
            keeps_safely (keeps_saveRaw cfg persists permits _ _ _ _)
          have refused : Guarded (Counting cfg deviceId sent) (fun _ _ => True)
              ((safely (saveRawFrame cfg device.deviceId raw true false)).bind fun _ =>
                .pure (some imei)) _ :=
            (saved true false).andThen now (fun _ _ _ => trivial) fun _ _ _ => trivial
          dsimp only [Program.bind_eq, Program.bind_pure]
          cases parsed : parseAvlPacket raw with
          | error e =>
              cases e with
              | teltonikaParseError _ => exact refused
              | unsupportedCodecError _ => exact refused
              | _ => trivial
          | ok packet =>
              have records := carried packet parsed
              refine (saved false true).andThen now ?_ fun _ _ _ => trivial
              intro _ past member
              refine (keeps_refreshStatus persists permits _).andThen member
                ?_ fun _ _ _ => trivial
              intro _ past member
              rw [guarded_bind]
              have fresh : Settled cfg device.deviceId [] past := settled_nil past
              have counted : Guarded (Counting cfg deviceId sent) _
                  (storeRecords cfg device.deviceId packet.records) past :=
                guarded_storeRecords counting_permits fresh
              have kept := keeps_storeRecords cfg persists permits packet.records past member
              refine guarded_mono (fun _ _ allow => allow) ?_
                (guarded_and counted kept)
              intro past r both
              obtain ⟨done, member⟩ := both
              cases r with
              | error e => trivial
              | ok n =>
                  obtain ⟨few, settled⟩ := done n rfl
                  rw [records] at few settled
                  have value : bigEndian (ack n) ≤ n := by
                    rw [Parsers.Teltonika.ack, bigEndian_bigEndianBytes]
                    exact Nat.mod_le _ _
                  have confirmed : Counting cfg deviceId sent past (.write (ack n)) := by
                    intro _ lookups
                    obtain rfl := lookups imei device member
                    refine ⟨value.trans few, ?_⟩
                    have front := settled.take (bigEndian (ack n))
                    rwa [List.nil_append, List.take_take, min_eq_left value] at front
                  change Guarded _ _ ((send (ack n)).bind _) past
                  rw [guarded_bind]
                  refine guarded_mono (fun _ _ allow => allow) ?_
                    (guarded_send confirmed fun _ => trivial)
                  intro past' r' _
                  cases r' <;> trivial

theorem guarded_frame (ip : Text) (raw : Bytes)
    (carried : ∀ packet, parseAvlPacket raw = .ok packet → packet.records = sent) :
    Guarded (Counting cfg deviceId sent) (fun _ _ => True)
      (processTeltonikaFrame cfg ip raw) [] := by
  rw [processTeltonikaFrame]
  rw [guarded_rescue]
  have handled : Guarded (Counting cfg deviceId sent) (fun _ _ => True)
      (if isLoginFrame raw then handleLogin cfg ip raw else handleAvl cfg raw) [] := by
    split
    · exact (keeps_handleLogin cfg deviceId sent ip raw).guarded trivial fun _ _ _ => trivial
    · exact guarded_handleAvl cfg deviceId sent raw carried
  refine guarded_mono (fun _ _ allow => allow) ?_ handled
  intro past r _
  cases r with
  | ok imei? => trivial
  | error e => exact ⟨trivial, fun _ => trivial⟩

end Rule

end TrackerGateway.Delivery
