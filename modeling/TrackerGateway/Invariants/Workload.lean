/- module: TrackerGateway/Invariants/Workload
   source: src/tcp_server.py, src/services, src/repositories, src/database.py
   digest: How often a connection makes the gateway borrow a database connection, against the bytes
     it has sent. -/

import TrackerGateway.Delivery.Accounts
import TrackerGateway.Framing.Isolation
import TrackerGateway.Repositories.Connections
import TrackerGateway.Server.Sessions
import TrackerGateway.Services.Loans

set_option autoImplicit false
set_option relaxedAutoImplicit false

namespace TrackerGateway.Invariants.Workload

open Foundation.Coroutine
open Foundation.Stream (Carved)
open Foundation.Transition (Throughout run run_append reachable_of_free_run)
open Foundation.Wire (Text Bytes Number Instant)
open Delivery (handed_apart)
open Framing
open TrackerGateway.Runtime
open Server
open Server.Sessions
open Services.Loans
open Repositories.Connections (Ask Work serve setDeviceOffline attempt pooled)

def asks (o : Ask) : Nat := if Repositories.Connections.pool.use o = .acquires then 1 else 0

def asksRepository (o : Repositories.Op) : Nat := asks (.repository o)

section Asks

open Repositories

variable {α : Type} {n : Nat}

theorem costs_free {o : Ask} (free : asks o = 0) : Costs asks 0 (request o : Work (Ask.Res o)) :=
  costs_request free.le

theorem costs_query {o : Repositories.Op} (free : asksRepository o = 0) :
    Costs asksRepository 0 (request o : Query (Repositories.Res o)) := costs_request free.le

theorem costs_pooled {q : Query α} (costs : Costs asksRepository n q) :
    Costs asks n (pooled q) := by
  induction q generalizing n with
  | pure a => exact trivial
  | throw e => exact trivial
  | call o k ih =>
      obtain ⟨rest, pays, later⟩ := costs
      exact ⟨rest, pays, fun x => ih x (later x)⟩

theorem costs_attempt {p : Work α} (costs : Costs asks n p) : Costs asks n (attempt p) :=
  Costs.rescue (m := 0) (costs.bind (m := 0) fun _ => costs_pure _) fun _ => costs_pure _

theorem costs_answered {o : Repositories.Op} {β : Type} {read : Repositories.Res o → Except Exn β}
    (free : asksRepository o = 0) :
    Costs asksRepository 0 ((request o).bind fun x => demand (read x)) :=
  (costs_request free.le).free fun _ => costs_demand _

theorem costs_log (text : Text) : Costs asksRepository 0 (Repositories.log text) :=
  costs_query rfl

theorem costs_release : Costs asksRepository 0 Repositories.releaseDbConnection :=
  costs_answered rfl

theorem costs_get : Costs asksRepository 1 Repositories.getDbConnection :=
  (costs_request le_rfl).bind (m := 0) fun _ => costs_demand _

theorem costs_managed {body : Query α} (free : Costs asksRepository 0 body) :
    Costs asksRepository 1 (Repositories.managedConnection body) := by
  refine costs_get.bind (m := 0) fun _ => ?_
  refine (Costs.rescue (n := 0) (m := 0) free fun e => ?_).free fun _ =>
    costs_release.free fun _ => costs_pure _
  exact costs_release.free fun _ => costs_throw _

theorem costs_lookup (imei : Text) : Costs asksRepository 0 (lookup imei) := by
  refine (costs_answered rfl).free fun row => ?_
  obtain _ | ⟨deviceId, status⟩ := row
  · refine (costs_answered rfl).free fun setup => ?_
    obtain _ | setup := setup
    · exact (costs_log _).free fun _ => costs_pure _
    · exact costs_ite ((costs_log _).free fun _ => costs_pure _) (costs_pure _)
  · exact costs_ite ((costs_log _).free fun _ => costs_pure _) (costs_pure _)

theorem costs_register (row : GpsDevice) : Costs asksRepository 1 (register row) := by
  have stored : Costs asksRepository 0 (insertAndFetch row) :=
    (costs_answered rfl).free fun _ => costs_answered rfl
  refine (costs_managed stored).bind (m := 0) fun deviceId => ?_
  obtain _ | deviceId := deviceId
  · exact costs_pure _
  · exact (costs_log _).free fun _ => costs_pure _

/-- One connection for the lookup, and one for a registration behind it. -/
theorem costs_getDeviceByImei (imei protocolType defaultModel : Text) :
    Costs asksRepository 2 (getDeviceByImei imei protocolType defaultModel) := by
  refine costs_get.bind (m := 1) fun _ => ?_
  refine (Costs.rescue (n := 0) (m := 0) (costs_lookup imei) fun e =>
    (costs_log _).free fun _ => costs_pure _).free fun looked => costs_release.free fun _ => ?_
  cases looked with
  | returns deviceId => exact costs_pure _
  | goesOn setup =>
      refine (costs_log _).free fun _ => (costs_query rfl).free fun deviceId => ?_
      exact Costs.rescue (m := 0) (costs_register _) fun e => (costs_log _).free fun _ =>
        costs_pure _

theorem costs_connection {body : Work α} (free : Costs asks 0 body) :
    Costs asks 1 (Repositories.Connections.managedConnection body) := by
  have release := costs_pooled costs_release
  refine (costs_pooled costs_get).bind (m := 0) fun _ => ?_
  refine (Costs.rescue (n := 0) (m := 0) free fun e => ?_).free fun _ =>
    release.free fun _ => costs_pure _
  exact release.free fun _ => costs_throw _

/-- What a handler asks for is carried out with as many connections as it is charged for. -/
theorem costs_serve (o : Runtime.Op) : Costs asks (loans o) (serve o) := by
  cases o with
  | execute w =>
      exact costs_attempt (costs_connection
        ((costs_free rfl).free fun _ => costs_demand _))
  | getDeviceByImei imei protocolType defaultModel =>
      exact costs_attempt (costs_pooled (costs_getDeviceByImei _ _ _))
  | getVehicleByDevice deviceId =>
      apply costs_attempt
      refine (costs_pooled costs_get).bind (m := 0) fun _ => ?_
      have looked : Costs asks 0 ((request (Ask.fetchVehicle deviceId)).bind demand : Work _) :=
        (costs_free rfl).free fun _ => costs_demand _
      exact (Costs.rescue (n := 0) (m := 0) looked fun e =>
        (costs_free rfl).free fun _ => costs_pure _).free fun _ =>
          (costs_pooled costs_release).free fun _ => costs_pure _
  | _ => exact costs_free rfl

theorem costs_setDeviceOffline (deviceId : Text) : Costs asks 1 (setDeviceOffline deviceId) :=
  (costs_free rfl).free fun _ => costs_connection
    ((costs_free rfl).free fun _ => costs_demand _)

end Asks

def work (c : Conn) : Event → Nat
  | .performed c' a => if c' = c then loans a.1 else 0
  | _ => 0

def mark (c : Conn) : Event → Nat
  | .offlined c' .. => if c' = c then 1 else 0
  | _ => 0

def worked (c : Conn) (h : List Event) : Nat := (h.map (work c)).sum

def marks (c : Conn) (h : List Event) : Nat := (h.map (mark c)).sum

/-- What a family's handler may still borrow for a frame. -/
def Funded (_ : Family) (raw : Bytes) (past : List Answered) (o : Op) : Prop :=
  spent loans past + loans o ≤ raw.length + 1

def allowance (frames : List Bytes) : Nat := (frames.map fun raw => raw.length + 1).sum

section Runs

variable {cfg : Config} {c : Conn} {h : List Event} {g : Gateway}

theorem funded (cfg : Config) (family : Family) (ip : Text) (raw : Bytes) :
    Guarded (Funded family raw) (fun past _ => spent loans past ≤ raw.length + 1)
      ((pipelines cfg family).handler ip raw) [] := by
  have costs : Borrows (raw.length + 1) ((pipelines cfg family).handler ip raw) := by
    cases family with
    | gt06 => exact borrows_processPacket cfg ip raw
    | gps103 => exact borrows_processGps103Message cfg ip raw
    | teltonika => exact borrows_processTeltonikaFrame cfg ip raw
  exact costs.guarded (by simp)

/-- A piece of the stream has a byte, and is worth two of them at most. -/
theorem allowance_le {frames : List Bytes} {stream rest : Bytes}
    (carved : Carved frames stream rest) : allowance frames ≤ 2 * stream.length := by
  refine (Nat.le_add_right _ (2 * rest.length)).trans (carved.sum_le ?_)
  intro raw nonempty
  have long := List.length_pos_iff.mpr nonempty
  omega

/-- The frame a connection works on has been handed over, and the others have used up no more than
what they are worth. -/
def Balanced (c : Conn) (h : List Event) : Prop :=
  match frame c h with
  | none => worked c h = 0
  | some raw => spent loans (ownTrace c h) ≤ raw.length + 1 ∧
      worked c h + (raw.length + 1) ≤ allowance (handed c h) + spent loans (ownTrace c h)

theorem Balanced.worked_le (balanced : Balanced c h) : worked c h ≤ allowance (handed c h) := by
  rw [Balanced] at balanced
  split at balanced <;> omega

theorem worked_cons (e : Event) (h : List Event) : worked c (e :: h) = work c e + worked c h := by
  rw [worked, List.map_cons, List.sum_cons, worked]

theorem marks_cons (e : Event) (h : List Event) : marks c (e :: h) = mark c e + marks c h := by
  rw [marks, List.map_cons, List.sum_cons, marks]

theorem work_apart {e : Event} (apart : e.Apart c) : work c e = 0 := by
  cases e with
  | performed c' a =>
      have distinct : c' ≠ c := by
        rintro rfl
        exact apart.performed a rfl
      exact if_neg distinct
  | _ => rfl

/-- Every event keeps the balance: a frame brings its own worth, and its operations keep to it. -/
theorem balanced (obeys : Throughout (Obeys Funded fun _ _ _ _ => True) h) : Balanced c h := by
  induction h with
  | nil => exact rfl
  | cons e h ih =>
      obtain ⟨obeyed, before⟩ := obeys
      have balanced := ih before
      obtain ⟨raw, rfl⟩ | ⟨a, rfl⟩ | apart := e.own_cases c
      · have soFar := balanced.worked_le
        rw [Balanced, frame_began]
        dsimp only
        rw [ownTrace_began, handed_began, spent_nil, allowance, List.map_append, List.sum_append,
          List.map_singleton, List.sum_singleton, ← allowance, worked_cons,
          show work c (.began c raw) = 0 from rfl]
        omega
      · obtain ⟨family, raw, -, current, allowed⟩ := obeyed
        rw [Balanced, current] at balanced
        rw [Balanced, frame_performed, current]
        dsimp only at balanced ⊢
        rw [ownTrace_performed, spent_cons, handed_cons_none rfl, worked_cons, work, if_pos rfl]
        rw [Funded] at allowed
        omega
      · rw [Balanced, apart.frame_cons, worked_cons, work_apart apart, Nat.zero_add,
          handed_apart apart, apart.ownTrace_cons]
        exact balanced

/-- The stages that a connection can have reached with an offline mark. -/
def departed : Stage → Bool
  | .marked | .released | .crashed | .over => true
  | _ => false

variable {stage stage' : Stage} {e : Event}

theorem departed_advance (moves : advance cfg stage e = some stage')
    (before : departed stage = true) : departed stage' = true ∧ mark c e = 0 := by
  cases stage <;> cases before <;> unfold advance at moves <;> split at moves <;>
    (try split at moves) <;> cases moves <;> simp_all [departed, mark, Stage.spoke]

theorem departed_of_mark (moves : advance cfg stage e = some stage') (marked : mark c e ≠ 0) :
    departed stage' = true := by
  unfold advance at moves
  split at moves <;> (try split at moves) <;> cases moves <;> simp_all [departed, mark]

/-- A device is marked offline once for a connection, as behind the mark there is no other. -/
theorem marks_le (followed : run (advance cfg) .unseen (word c h) = some stage) :
    marks c h ≤ 1 ∧ (departed stage = false → marks c h = 0) := by
  induction h generalizing stage with
  | nil => exact ⟨Nat.zero_le _, fun _ => rfl⟩
  | cons e h ih =>
      rw [marks_cons]
      by_cases own : Event.lives e = some c
      · rw [word_own own, run_append] at followed
        obtain ⟨before, ran, last⟩ := Option.bind_eq_some_iff.mp followed
        have moves : advance cfg before e = some stage := by
          simpa [run] using last
        obtain ⟨one, none_⟩ := ih ran
        cases gone : departed before with
        | true =>
            obtain ⟨still, other⟩ := departed_advance (c := c) moves gone
            rw [other, still, Nat.zero_add]
            exact ⟨one, by simp⟩
        | false =>
            rw [none_ gone, Nat.add_zero]
            have small : mark c e ≤ 1 := by
              unfold mark
              split <;> (try split) <;> omega
            refine ⟨small, ?_⟩
            intro stays
            by_contra marked
            rw [departed_of_mark moves marked] at stays
            cases stays
      · rw [word_other own] at followed
        have other : mark c e = 0 := by
          cases e with
          | offlined c' imei deviceId outcome =>
              refine if_neg ?_
              rintro rfl
              exact own rfl
          | _ => rfl
        rw [other, Nat.zero_add]
        exact ih followed

/-- In every run, whatever the other connections do, what a connection makes the gateway do asks the
pool at most twice for each byte that the connection has sent, and once more to mark its device
offline: the operations of its handlers by what they are charged, which is as often as they ask. -/
theorem work_bounded (cfg : Config) {inputs : List Input} {g : Gateway}
    (ran : run (Gateway.step cfg (pipelines cfg)) .start inputs = some g) (c : Conn) :
    worked c g.history ≤ 2 * (received (outcomes c inputs)).length ∧ marks c g.history ≤ 1 ∧
      (∀ o, Costs asks (loans o) (serve o)) ∧
      ∀ deviceId, Costs asks 1 (setDeviceOffline deviceId) := by
  have reached := reachable_of_free_run .start ran
  refine ⟨?_, ?_, costs_serve, costs_setDeviceOffline⟩
  · have kept : Throughout (Obeys Funded fun _ _ _ _ => True) g.history :=
      (overseen (fun family ip raw => guarded_mono (fun _ _ allowed => allowed)
        (fun _ _ _ => trivial) (funded cfg family ip raw)) reached).obeys
    obtain ⟨rest, carved⟩ := carved_frames (carves_intake cfg (outcomes c inputs))
    obtain ⟨rest', own⟩ := carved.start (handed_begins (follows_run ran c))
    exact (balanced kept).worked_le.trans (allowance_le own)
  · obtain ⟨stage, follows, -⟩ := followed reached c
    exact (marks_le follows).1

/-- The work of a login, against the bytes of its frame. -/
theorem login_work_bounded : ∃ g, run (Gateway.step defaults (pipelines defaults)) .start
      (loginInputs 0 1 (calm ['d'])) = some g ∧
    worked 0 g.history ≤ 2 * (received [.data (loginFrame 1)]).length ∧ marks 0 g.history ≤ 1 ∧
    (∀ o, Costs asks (loans o) (serve o)) ∧
    ∀ deviceId, Costs asks 1 (setDeviceOffline deviceId) := by
  have defined : (run (Gateway.step defaults (pipelines defaults)) .start
      (loginInputs 0 1 (calm ['d']))).isSome = true := by decide +kernel
  obtain ⟨g, ran⟩ := Option.isSome_iff_exists.mp defined
  exact ⟨g, ran, work_bounded defaults ran 0⟩

end Runs

end TrackerGateway.Invariants.Workload
