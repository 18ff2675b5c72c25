/- module: TrackerGateway/Server/Steps
   source: src/tcp_server.py
   digest: What one step of the process can do, and which parts of the state it leaves alone. -/

import TrackerGateway.Server.HandleDevice

set_option autoImplicit false
set_option relaxedAutoImplicit false

namespace TrackerGateway.Server

open Foundation.Coroutine (Program)
open Foundation.Wire (Text Bytes Instant)
open TrackerGateway.Runtime
open Services (Registry)

namespace Gateway

section Parts

variable (g : Gateway) (c : Conn) (e : Event) (phase : Phase) (answers : (o : Op) → Res o) (o : Op)

@[simp] theorem record_registry : (g.record e).registry = g.registry := rfl
@[simp] theorem record_connectionCount : (g.record e).connectionCount = g.connectionCount := rfl
@[simp] theorem record_tasks : (g.record e).tasks = g.tasks := rfl
@[simp] theorem record_turn : (g.record e).turn = g.turn := rfl
@[simp] theorem record_history : (g.record e).history = e :: g.history := rfl

@[simp] theorem enter_registry : (g.enter c phase).registry = g.registry := rfl
@[simp] theorem enter_connectionCount : (g.enter c phase).connectionCount = g.connectionCount := rfl
@[simp] theorem enter_history : (g.enter c phase).history = g.history := rfl

@[simp] theorem enter_turn :
    (g.enter c phase).turn = if phase.runnable then some c else none := rfl

@[simp] theorem enter_phase_self : ((g.enter c phase).tasks c).phase = phase := by
  simp [enter]

@[simp] theorem enter_writerClosed_self :
    ((g.enter c phase).tasks c).writerClosed = ((g.tasks c).writerClosed || phase.closes) := by
  simp [enter]

theorem enter_tasks_ne {c' : Conn} (distinct : c' ≠ c) :
    (g.enter c phase).tasks c' = g.tasks c' := by
  simp [enter, distinct]

theorem enter_phase (c' : Conn) :
    ((g.enter c phase).tasks c').phase = if c' = c then phase else (g.tasks c').phase := by
  by_cases same : c' = c
  · subst same
    simp
  · rw [enter_tasks_ne _ _ _ same, if_neg same]

@[simp] theorem closeWriter_registry : (g.closeWriter c).registry = g.registry := rfl

@[simp] theorem closeWriter_phase (c' : Conn) :
    ((g.closeWriter c).tasks c').phase = (g.tasks c').phase := by
  rw [closeWriter]
  by_cases same : c' = c
  · subst same
    simp
  · simp [same]

theorem perform_registry :
    (∃ imei ip deviceId protocol connectedAt lastSeen,
      o = .registerDevice imei ip deviceId protocol connectedAt lastSeen ∧
      (g.perform c answers o).2.registry =
        g.registry.register id imei ip deviceId c protocol connectedAt lastSeen) ∨
    (∀ imei ip deviceId protocol connectedAt lastSeen,
      o ≠ .registerDevice imei ip deviceId protocol connectedAt lastSeen) ∧
      Registry.SameView g.registry (g.perform c answers o).2.registry := by
  cases o with
  | registerDevice imei ip deviceId protocol connectedAt lastSeen =>
      exact .inl ⟨imei, ip, deviceId, protocol, connectedAt, lastSeen, rfl, rfl⟩
  | notePosition imei speed now =>
      exact .inr ⟨by simp, Registry.sameView_notePosition speed now⟩
  | _ => exact .inr ⟨by simp, Registry.SameView.refl _⟩

@[simp] theorem perform_connectionCount :
    (g.perform c answers o).2.connectionCount = g.connectionCount := by
  cases o <;> rfl

@[simp] theorem perform_history : (g.perform c answers o).2.history = g.history := by
  cases o <;> rfl

@[simp] theorem perform_phase (c' : Conn) :
    ((g.perform c answers o).2.tasks c').phase = (g.tasks c').phase := by
  cases o <;> first | rfl | exact closeWriter_phase g c c'

theorem perform_writerClosed {c' : Conn} (closed : (g.tasks c').writerClosed = true) :
    ((g.perform c answers o).2.tasks c').writerClosed = true := by
  cases o <;> try exact closed
  change ((g.closeWriter c).tasks c').writerClosed = true
  rw [closeWriter]
  by_cases same : c' = c
  · subst same
    simp
  · simpa [same] using closed

theorem perform_tasks_ne {c' : Conn} (distinct : c' ≠ c) :
    (g.perform c answers o).2.tasks c' = g.tasks c' := by
  cases o <;> try rfl
  exact Function.update_of_ne distinct _ _

theorem heard_registry (imei : Text) (now : Instant) :
    Registry.SameView g.registry (g.heard imei now).registry :=
  Registry.sameView_updateLastSeen now

@[simp] theorem heard_connectionCount (imei : Text) (now : Instant) :
    (g.heard imei now).connectionCount = g.connectionCount := rfl

@[simp] theorem heard_history (imei : Text) (now : Instant) :
    (g.heard imei now).history = g.history := rfl

@[simp] theorem heard_tasks (imei : Text) (now : Instant) :
    (g.heard imei now).tasks = g.tasks := rfl

end Parts

end Gateway

inductive Quiet (pipes : Family → Pipeline) : Phase → Phase → Prop
  | probe (b b' : Bytes) : Quiet pipes (.probing b) (.probing b')
  | unknown (b : Bytes) : Quiet pipes (.probing b) (.finishing none)
  | more (s : Session) (buffer : Bytes) :
      Quiet pipes (.reading s) (Gateway.framed pipes { s with buffer })
  | stop (s : Session) : Quiet pipes (.reading s) (.finishing s.imei)
  | rest (s : Session) (packets : List Bytes) : Quiet pipes (.batch s packets) (.reading s)

inductive Step (cfg : Config) (pipes : Family → Pipeline) (g : Gateway) : Input → Gateway → Prop
  | refuse {c : Conn} {ip : Text} (turn : g.turn = none) (at_ : (g.tasks c).phase = .absent)
      (full : cfg.maxConnections ≤ g.connectionCount) :
      Step cfg pipes g (.connect c ip) { g with
        tasks := Function.update g.tasks c ⟨ip, .ended, true, false⟩
        history := .refused c :: g.history }
  | acquire {c : Conn} {ip : Text} (turn : g.turn = none) (at_ : (g.tasks c).phase = .absent)
      (free : g.connectionCount < cfg.maxConnections) :
      Step cfg pipes g (.connect c ip) { g with
        tasks := Function.update g.tasks c ⟨ip, .probing [], false, false⟩
        connectionCount := g.connectionCount + 1
        history := .acquired c :: g.history }
  | quiet {i : Input} {c : Conn} {phase : Phase} (turn : g.turn = none ∨ g.turn = some c)
      (move : Quiet pipes (g.tasks c).phase phase) :
      Step cfg pipes g i (g.enter c phase)
  | detect {i : Input} {c : Conn} {b data : Bytes} {protocol : Family} (turn : g.turn = none)
      (at_ : (g.tasks c).phase = .probing b) (enabled : protocol ∈ cfg.enabledProtocols) :
      Step cfg pipes g i ((g.record (.detected c protocol)).enter c
        (Gateway.framed pipes ⟨protocol, none, data⟩))
  | begin_ {c : Conn} {answers : (o : Op) → Res o} {s : Session} {raw : Bytes}
      {packets : List Bytes} (turn : g.turn = none ∨ g.turn = some c)
      (at_ : (g.tasks c).phase = .batch s (raw :: packets))
      (open_ : (g.tasks c).writerClosed = false) :
      Step cfg pipes g (.resume c answers) ((g.record (.began c raw)).enter c
        (.handling s ((pipes s.protocol).handler (g.tasks c).ip raw) packets))
  | operate {c : Conn} {answers : (o : Op) → Res o} {s : Session} {o : Op}
      {next : Res o → Handler (Option Text)} {packets : List Bytes}
      (turn : g.turn = none ∨ g.turn = some c)
      (at_ : (g.tasks c).phase = .handling s (.call o next) packets) :
      Step cfg pipes g (.resume c answers)
        (((g.perform c answers o).2.record (.performed c ⟨o, (g.perform c answers o).1⟩)).enter c
          (.handling s (next (g.perform c answers o).1) packets))
  | nameless {c : Conn} {answers : (o : Op) → Res o} {s : Session} {outcome : Option Text}
      {packets : List Bytes} (turn : g.turn = none ∨ g.turn = some c)
      (at_ : (g.tasks c).phase = .handling s (.pure outcome) packets)
      (untrue : truthy outcome = none) :
      Step cfg pipes g (.resume c answers)
        ((g.record (.returned c (.ok outcome))).enter c (.batch s packets))
  | named {c : Conn} {answers : (o : Op) → Res o} {s : Session} {imei : Text}
      {packets : List Bytes} (turn : g.turn = none ∨ g.turn = some c)
      (at_ : (g.tasks c).phase = .handling s (.pure (some imei)) packets) (real : imei ≠ []) :
      Step cfg pipes g (.resume c answers)
        (((g.heard imei (answers .utcNow)).record (.returned c (.ok (some imei)))).enter c
          (.batch { s with imei := some imei } packets))
  | raise {c : Conn} {answers : (o : Op) → Res o} {s : Session} {e : Exn} {packets : List Bytes}
      (turn : g.turn = none ∨ g.turn = some c)
      (at_ : (g.tasks c).phase = .handling s (.throw e) packets) :
      Step cfg pipes g (.resume c answers)
        ((g.record (.returned c (.error e))).enter c (.finishing s.imei))
  | finish {c : Conn} {answers : (o : Op) → Res o} {imei : Option Text}
      (turn : g.turn = none ∨ g.turn = some c) (at_ : (g.tasks c).phase = .finishing imei) :
      Step cfg pipes g (.resume c answers) (g.enter c (Gateway.teardown g.registry c imei))
  | unregister {c : Conn} {imei deviceId : Text} (turn : g.turn = none)
      (at_ : (g.tasks c).phase = .offlining imei deviceId) :
      Step cfg pipes g (.offline c (.ok ()))
        (({ g with registry := g.registry.unregister id imei }.record
          (.offlined c imei deviceId (.ok ()))).enter c .closing)
  | crash {c : Conn} {imei deviceId : Text} {e : Exn} (turn : g.turn = none)
      (at_ : (g.tasks c).phase = .offlining imei deviceId) :
      Step cfg pipes g (.offline c (.error e))
        (((g.record (.offlined c imei deviceId (.error e))).record (.ended c)).enter c .ended)
  | release {c : Conn} (turn : g.turn = none) (at_ : (g.tasks c).phase = .closing) :
      Step cfg pipes g (.waitClosed c)
        ((({ g with connectionCount := g.connectionCount - 1 }.record (.released c)).record
          (.ended c)).enter c .ended)
  | lose {c : Conn} (turn : g.turn = none) :
      Step cfg pipes g (.lose c)
        { g with tasks := Function.update g.tasks c { g.tasks c with lost := true } }
  | push {imei : Text} {required : Option Family} {payload : Bytes} {device : Entry}
      (turn : g.turn = none) (found : g.registry.getDevice imei = some device)
      (family : required.all (· = device.protocol) = true) :
      Step cfg pipes g (.push imei required payload) (g.record (.pushed device.socket payload))

section Inversion

theorem ite_eq_some {α : Type} {p : Prop} [Decidable p] {a : Option α} {b : α}
    (defined : (if p then a else none) = some b) : p ∧ a = some b := by
  split at defined
  · exact ⟨‹p›, defined⟩
  · cases defined

variable {cfg : Config} {pipes : Family → Pipeline} {g g' : Gateway}

private theorem sniffed_step {i : Input} {c : Conn} {b data : Bytes} (turn : g.turn = none)
    (at_ : (g.tasks c).phase = .probing b) :
    Step cfg pipes g i (g.sniffed cfg pipes c data) := by
  rw [Gateway.sniffed]
  split
  · exact .quiet (.inl turn) (at_ ▸ .unknown b)
  · next detected => exact .detect turn at_ (detectProtocol_enabled detected)

private theorem arrive_step {c : Conn} {outcome : ReadOutcome} (turn : g.turn = none)
    (moves : g.arrive cfg pipes c outcome = some g') :
    Step cfg pipes g (.arrive c outcome) g' := by
  unfold Gateway.arrive at moves
  split at moves
  · next received more at_ =>
      split at moves
      · cases moves
        split
        · exact .quiet (.inl turn) (at_ ▸ .unknown received)
        · exact sniffed_step turn at_
      · split at moves
        · cases moves
          exact .quiet (.inl turn) (at_ ▸ .probe received _)
        · cases moves
          exact sniffed_step turn at_
  · next received at_ =>
      cases moves
      split
      · exact .quiet (.inl turn) (at_ ▸ .unknown received)
      · exact sniffed_step turn at_
  · next received _ at_ =>
      cases moves
      exact .quiet (.inl turn) (at_ ▸ .unknown received)
  · next session more at_ =>
      split at moves
      · cases moves
        exact .quiet (.inl turn) (at_ ▸ .stop session)
      · cases moves
        exact .quiet (.inl turn) (at_ ▸ .more session _)
  · next session at_ =>
      cases moves
      exact .quiet (.inl turn) (at_ ▸ .stop session)
  · next session _ at_ =>
      cases moves
      exact .quiet (.inl turn) (at_ ▸ .stop session)
  · cases moves

private theorem resume_step {c : Conn} {answers : (o : Op) → Res o}
    (turn : g.turn = none ∨ g.turn = some c) (moves : g.resume pipes c answers = some g') :
    Step cfg pipes g (.resume c answers) g' := by
  rw [Gateway.resume] at moves
  split at moves
  · next session at_ =>
      cases moves
      exact .quiet turn (at_ ▸ .rest session [])
  · next session raw packets at_ =>
      split at moves
      · cases moves
        exact .quiet turn (at_ ▸ .rest session (raw :: packets))
      · next open_ =>
          cases moves
          exact .begin_ turn at_ (by simp_all)
  · next at_ =>
      cases moves
      exact .operate turn at_
  · next session outcome packets at_ =>
      split at moves
      · next untrue =>
          cases moves
          exact .nameless turn at_ untrue
      · next imei is_true =>
          cases moves
          obtain ⟨rfl, real⟩ := truthy_eq_some_iff.mp is_true
          exact .named turn at_ real
  · next at_ =>
      cases moves
      exact .raise turn at_
  · next at_ =>
      cases moves
      exact .finish turn at_
  · cases moves

private theorem offline_step {c : Conn} {outcome : Except Exn Unit} (turn : g.turn = none)
    (moves : g.offline c outcome = some g') : Step cfg pipes g (.offline c outcome) g' := by
  unfold Gateway.offline at moves
  split at moves
  · next at_ =>
      cases moves
      exact .unregister turn at_
  · next at_ =>
      cases moves
      exact .crash turn at_
  · cases moves

theorem step_cases {i : Input} (moves : Gateway.step cfg pipes g i = some g') :
    Step cfg pipes g i g' := by
  unfold Gateway.step at moves
  split at moves <;> obtain ⟨turn, moves⟩ := ite_eq_some moves
  · rw [Gateway.connect] at moves
    split at moves
    · next at_ =>
        split at moves
        · next full =>
            cases moves
            exact .refuse turn at_ full
        · next free =>
            cases moves
            exact .acquire turn at_ (not_le.mp free)
    · cases moves
  · exact arrive_step turn moves
  · exact resume_step turn moves
  · exact offline_step turn moves
  · rw [Gateway.waitClosed] at moves
    split at moves
    · next at_ =>
        cases moves
        exact .release turn at_
    · cases moves
  · cases moves
    exact .lose turn
  · rw [Gateway.push] at moves
    split at moves
    · cases moves
    · next found =>
        obtain ⟨family, moves⟩ := ite_eq_some moves
        cases moves
        exact .push turn found family

end Inversion

end TrackerGateway.Server
