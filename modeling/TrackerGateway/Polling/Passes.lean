/- module: TrackerGateway/Polling/Passes
   source: src/services/gps103_poller.py
   digest: A poll treats every device that was due once, in turn, whatever became of the others. -/

import TrackerGateway.Polling.Families

set_option autoImplicit false
set_option relaxedAutoImplicit false

namespace TrackerGateway.Polling.Passes

open Foundation.Transition (run)
open Foundation.Wire (Text Bytes Instant)
open TrackerGateway.Runtime
open Server
open Server.Polling
open Services (Registry)
open Services.Gps103Poller
open Utils.Gps103CommandBuilder

structure Turn where
  imei : Text
  registry : Registry
  writing : Except Exn Unit

/-- What comes of it: a request to the connection of the device's present entry, unless the device
is gone, its identity makes no frame or the writer raises. -/
def Turn.asks (t : Turn) : Option Asked :=
  match t.registry.getDevice t.imei, buildSinglePosition t.imei, t.writing with
  | some entry, .ok payload, .ok () => some ⟨t.imei, entry.socket, payload, t.registry⟩
  | _, _, _ => none

def left : Poller → List Text
  | .sleeping => []
  | .asking poll | .draining poll _ _ => poll.rest

def wakes : Move → Bool
  | .wake .. => true
  | _ => false

section Runs

variable {cfg : Config} {pipes : Family → Pipeline} {p p' : System} {moves : List Move}

/-- The turn was taken in a run: it is a move, and the state before it. -/
def Taken (cfg : Config) (pipes : Family → Pipeline) (p : System) (moves : List Move) (t : Turn) :
    Prop :=
  ∃ before after q rest made, moves = before ++ .ask t.writing :: after ∧
    run (System.step cfg pipes) p before = some q ∧ q.gateway.registry = t.registry ∧
    q.poller = .asking ⟨t.imei :: rest, made⟩

theorem Taken.cons {t : Turn} {move : Move} (taken : Taken cfg pipes p' moves t)
    (moved : p.step cfg pipes move = some p') : Taken cfg pipes p (move :: moves) t := by
  obtain ⟨before, after, q, rest, made, rfl, ran, registry, at_⟩ := taken
  refine ⟨move :: before, after, q, rest, made, rfl, ?_, registry, at_⟩
  rw [run, moved, Option.bind_some, ran]

/-- One device after the other, each in a turn of its own. -/
structure Treats (cfg : Config) (pipes : Family → Pipeline) (p p' : System) (moves : List Move)
    (turns : List Turn) : Prop where
  inTurn : left p.poller = turns.map Turn.imei ++ left p'.poller
  asked : p'.asked = (turns.filterMap Turn.asks).reverse ++ p.asked
  taken : ∀ t ∈ turns, Taken cfg pipes p moves t

theorem Treats.skip {q : System} {move : Move} {turns : List Turn}
    (treats : Treats cfg pipes q p' moves turns) (moved : p.step cfg pipes move = some q)
    (same : left p.poller = left q.poller) (asked : q.asked = p.asked) :
    Treats cfg pipes p p' (move :: moves) turns where
  inTurn := same.trans treats.inTurn
  asked := asked ▸ treats.asked
  taken := fun t member => (treats.taken t member).cons moved

theorem Treats.turn {q : System} {t : Turn} {rest : List Text} {made : List Event}
    {turns : List Turn} (treats : Treats cfg pipes q p' moves turns)
    (moved : p.step cfg pipes (.ask t.writing) = some q)
    (at_ : p.poller = .asking ⟨t.imei :: rest, made⟩) (registry : p.gateway.registry = t.registry)
    (later : left q.poller = rest) (asked : q.asked = t.asks.toList ++ p.asked) :
    Treats cfg pipes p p' (.ask t.writing :: moves) (t :: turns) where
  inTurn := by
    rw [at_, List.map_cons, List.cons_append, ← treats.inTurn, later]
    rfl
  asked := by
    rw [treats.asked, asked, List.filterMap_cons]
    cases t.asks <;> simp
  taken := by
    intro other member
    rcases List.mem_cons.mp member with rfl | member
    · exact ⟨[], moves, p, rest, made, rfl, rfl, registry, at_⟩
    · exact (treats.taken other member).cons moved

theorem ask_asks (p : System) (imei : Text) (poll : Poll) (writing : Except Exn Unit) :
    (p.ask imei poll writing).asked =
      (Turn.asks ⟨imei, p.gateway.registry, writing⟩).toList ++ p.asked ∧
      left (p.ask imei poll writing).poller = poll.rest := by
  unfold System.ask Turn.asks
  dsimp only
  cases p.gateway.registry.getDevice imei <;> cases buildSinglePosition imei <;>
    cases writing <;> exact ⟨rfl, rfl⟩

/-- In every run within a pass the poller comes to the devices of its list in their order. -/
theorem treats (ran : run (System.step cfg pipes) p moves = some p')
    (one : ∀ move ∈ moves, wakes move = false) : ∃ turns, Treats cfg pipes p p' moves turns := by
  induction moves generalizing p with
  | nil =>
      obtain rfl := Option.some.inj ran
      exact ⟨[], rfl, rfl, by simp⟩
  | cons move moves ih =>
      obtain ⟨q, moved, later⟩ := Option.bind_eq_some_iff.mp ran
      obtain ⟨turns, treats⟩ := ih later fun m member => one m (List.mem_cons_of_mem _ member)
      have step := moved
      cases move with
      | wake now due => cases one _ List.mem_cons_self
      | gateway i =>
          rw [System.step] at step
          split at step
          · cases step
          · obtain ⟨gateway, -, rfl⟩ := Option.map_eq_some_iff.mp step
            exact ⟨turns, treats.skip moved rfl rfl⟩
      | drained outcome now =>
          rw [System.step] at step
          split at step
          · next at_ =>
              obtain ⟨-, same⟩ := ite_eq_some step
              cases same
              exact ⟨turns, treats.skip moved (by rw [at_]; rfl) rfl⟩
          · cases step
      | ask writing =>
          rw [System.step] at step
          split at step
          · next at_ =>
              obtain rfl := Option.some.inj step
              exact ⟨turns, treats.skip moved (by rw [at_]; rfl) rfl⟩
          · next imei rest made at_ =>
              obtain rfl := Option.some.inj step
              obtain ⟨asked, rests⟩ := ask_asks p imei ⟨rest, made⟩ writing
              exact ⟨⟨imei, p.gateway.registry, writing⟩ :: turns,
                treats.turn moved at_ rfl rests asked⟩
          · cases step

theorem turn_noted (p : System) (imei : Text) (asked : List Event) (outcome : Except Exn Unit)
    (now : Instant) : (p.noted imei asked outcome now).turn = p.gateway.turn := by
  unfold System.noted
  split
  · split <;> rfl
  · rfl

theorem ask_waits (p : System) (imei : Text) (poll : Poll) (writing : Except Exn Unit) :
    (p.ask imei poll writing).gateway.turn = p.gateway.turn ∧
      ((p.ask imei poll writing).poller = .asking poll ∨
        ∃ asked, (p.ask imei poll writing).poller = .draining poll imei asked) := by
  unfold System.ask
  split
  · exact ⟨rfl, .inr ⟨_, rfl⟩⟩
  · exact ⟨rfl, .inl rfl⟩

variable (cfg pipes) (writing outcome : Except Exn Unit) (now : Instant)

def Ends (p : System) : Prop :=
  ∃ moves p', (∀ move ∈ moves, move = .ask writing ∨ move = .drained outcome now) ∧
    run (System.step cfg pipes) p moves = some p' ∧ p'.poller = .sleeping

variable {cfg pipes writing outcome now}

theorem Ends.step {q : System} {move : Move} (ends : Ends cfg pipes writing outcome now q)
    (own : move = .ask writing ∨ move = .drained outcome now)
    (moved : p.step cfg pipes move = some q) : Ends cfg pipes writing outcome now p := by
  obtain ⟨moves, p', others, ran, slept⟩ := ends
  refine ⟨move :: moves, p', ?_, ?_, slept⟩
  · intro m member
    rcases List.mem_cons.mp member with rfl | member
    · exact own
    · exact others m member
  · rw [run, moved, Option.bind_some, ran]

theorem Ends.drained {poll : Poll} {imei : Text} {asked : List Event}
    (at_ : p.poller = .draining poll imei asked) (turn : p.gateway.turn = none)
    (later : ∀ q : System, q.poller = .asking poll → q.gateway.turn = none →
      Ends cfg pipes writing outcome now q) : Ends cfg pipes writing outcome now p := by
  refine (later { p with gateway := p.noted imei asked outcome now, poller := .asking poll } rfl
    ((turn_noted ..).trans turn)).step (.inr rfl) ?_
  simp only [System.step, at_, if_pos turn]

theorem ends_asking {rest : List Text} {made : List Event} (at_ : p.poller = .asking ⟨rest, made⟩)
    (turn : p.gateway.turn = none) : Ends cfg pipes writing outcome now p := by
  induction rest generalizing p with
  | nil =>
      refine ⟨[.ask writing], { p with poller := .sleeping }, by simp, ?_, rfl⟩
      simp only [run, System.step, at_, Option.bind_some]
  | cons imei rest ih =>
      have moved : p.step cfg pipes (.ask writing) = some (p.ask imei ⟨rest, made⟩ writing) := by
        simp only [System.step, at_]
      obtain ⟨still, waits⟩ := ask_waits p imei ⟨rest, made⟩ writing
      have free := still.trans turn
      rcases waits with on | ⟨asked, drains⟩
      · exact (ih on free).step (.inl rfl) moved
      · exact (Ends.drained drains free fun q on free => ih on free).step (.inl rfl) moved

/-- However its writes and drains turn out, a pass can go on to its end. -/
theorem ends (turn : p.gateway.turn = none) : Ends cfg pipes writing outcome now p := by
  cases at_ : p.poller with
  | sleeping => exact ⟨[], p, by simp, rfl, at_⟩
  | asking poll => exact ends_asking at_ turn
  | draining poll imei asked =>
      exact Ends.drained at_ turn fun q on free => ends_asking on free

end Runs

/-- Whatever happens during a poll, and whatever its writes and drains come to: once it is over, the
poller has come to each device that was due when it woke exactly once, one after the other, and has
asked it over the connection of its entry at that moment, unless the entry was gone, its identity
makes no frame or that very write raised. And whenever nobody has the turn, the poll can go on to
its end, even if everything it still writes and drains fails. -/
theorem pass_complete {cfg : Config} {pipes : Family → Pipeline} {p p' : System} {now : Instant}
    {due : List Text} {moves : List Move} (idle : p.poller = .sleeping)
    (ran : run (System.step cfg pipes) p (.wake now due :: moves) = some p')
    (one : ∀ move ∈ moves, wakes move = false) :
    due.Nodup ∧ (∀ imei, imei ∈ due ↔ imei ∈ dueDevices cfg now p.gateway.registry) ∧
      (p'.poller = .sleeping → ∃ turns : List Turn, turns.map Turn.imei = due ∧
        p'.asked = (turns.filterMap Turn.asks).reverse ++ p.asked ∧
        ∀ t ∈ turns, Taken cfg pipes p (.wake now due :: moves) t) ∧
      (p'.gateway.turn = none →
        ∀ writing outcome later, Ends cfg pipes writing outcome later p') := by
  obtain ⟨q, woke, later⟩ := Option.bind_eq_some_iff.mp ran
  have step := woke
  rw [System.step, idle] at step
  obtain ⟨⟨-, -, lists⟩, same⟩ := ite_eq_some step
  have perm := List.isPerm_iff.mp lists
  obtain ⟨turns, treats⟩ := treats later one
  refine ⟨perm.nodup_iff.mpr dueDevices_nodup, fun imei => perm.mem_iff, ?_,
    fun turn writing outcome later => ends turn⟩
  intro slept
  cases same
  have inTurn := treats.inTurn
  rw [slept, left, List.append_nil] at inTurn
  exact ⟨turns, inTurn.symm, treats.asked, fun t member => (treats.taken t member).cons woke⟩

def asleep : Poller → Bool
  | .sleeping => true
  | _ => false

theorem sleeping_of_asleep {poller : Poller} (rests : asleep poller = true) :
    poller = .sleeping := by
  cases poller with
  | sleeping => rfl
  | _ => cases rests

/-- The writer of the first device takes its request and is not drained in time; the second device
is asked all the same. -/
def brokenFirst : List Move :=
  [.ask (.ok ()), .drained (.error .timeoutError) 400000000, .ask (.ok ()),
    .drained (.ok ()) 400000000, .ask (.ok ())]

theorem pass_complete_broken : ∃ p p',
    run (System.step Families.polled (pipelines Families.polled)) .start
      (Families.trackerLogin 0 Families.first ++ Families.trackerLogin 1 Families.second) = some p ∧
    run (System.step Families.polled (pipelines Families.polled)) p
      (.wake 400000000 [Families.first, Families.second] :: brokenFirst) = some p' ∧
    p'.asked.map Asked.imei = [Families.second, Families.first] ∧
    ∃ turns : List Turn, turns.map Turn.imei = [Families.first, Families.second] ∧
      p'.asked = (turns.filterMap Turn.asks).reverse ++ p.asked := by
  have shown : ((run (System.step Families.polled (pipelines Families.polled)) .start
      (Families.trackerLogin 0 Families.first ++
        Families.trackerLogin 1 Families.second)).bind fun p =>
      (run (System.step Families.polled (pipelines Families.polled)) p
        (.wake 400000000 [Families.first, Families.second] :: brokenFirst)).map fun p' =>
        (asleep p.poller, asleep p'.poller, p'.asked.map Asked.imei)) =
      some (true, true, [Families.second, Families.first]) := by decide +kernel
  obtain ⟨p, ready, shown⟩ := Option.bind_eq_some_iff.mp shown
  obtain ⟨p', ran, shown⟩ := Option.map_eq_some_iff.mp shown
  simp only [Prod.mk.injEq] at shown
  obtain ⟨idle, slept, asked⟩ := shown
  obtain ⟨turns, inTurn, requests, -⟩ := (pass_complete (sleeping_of_asleep idle) ran
    (by decide)).2.2.1 (sleeping_of_asleep slept)
  exact ⟨p, p', ready, ran, asked, turns, inTurn, requests⟩

end TrackerGateway.Polling.Passes
