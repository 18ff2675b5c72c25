/- module: TrackerGateway/Invariants/Drain
   source: src/tcp_server.py (_try_acquire_slot, _release_slot, handle_device)
   digest: What the slot counter counts in every state of every run, and that the process can be
     brought to rest from each of them. -/

import TrackerGateway.Invariants.Slots

set_option autoImplicit false
set_option relaxedAutoImplicit false

namespace TrackerGateway.Invariants.Drain

open Foundation.Transition (Reachable run run_append run_induction reachable_of_free_run)
open Foundation.Wire (Text Bytes)
open TrackerGateway.Runtime
open TrackerGateway.Server
open Services (Registry)
open Slots (holds)

/-- Only the connection whose execution can go on without an await has the turn. -/
def Turned (g : Gateway) : Prop :=
  ∀ c, (g.tasks c).phase.runnable = true ↔ g.turn = some c

section Turns

variable {cfg : Config} {pipes : Family → Pipeline} {g g' : Gateway} {c : Conn}

theorem Turned.enter {g₁ : Gateway} {phase : Phase} (turned : Turned g)
    (turn : g.turn = none ∨ g.turn = some c)
    (same : ∀ c', (g₁.tasks c').phase = (g.tasks c').phase) : Turned (g₁.enter c phase) := by
  intro c'
  by_cases here : c' = c
  · subst here
    rw [Gateway.enter_phase_self, Gateway.enter_turn]
    split <;> simp_all
  · have idle : (g.tasks c').phase.runnable = false := by
      rw [Bool.eq_false_iff]
      intro runnable
      have holds := (turned c').mp runnable
      rcases turn with turn | turn
      · rw [turn] at holds
        cases holds
      · rw [turn] at holds
        exact here (Option.some.inj holds).symm
    rw [Gateway.enter_tasks_ne _ _ _ here, same, idle, Gateway.enter_turn]
    split
    · simpa using Ne.symm here
    · simp

theorem turned_step {i : Input} (turned : Turned g) (moves : Step cfg pipes g i g') :
    Turned g' := by
  have none_ : g.turn = none → ∀ c, (g.tasks c).phase.runnable = false := by
    intro turn c
    rw [Bool.eq_false_iff]
    intro runnable
    rw [(turned c).mp runnable] at turn
    cases turn
  -- A step that leaves the turn as it is, and gives no connection a phase that has it.
  have still : ∀ {g₁ : Gateway}, g.turn = none → g₁.turn = g.turn →
      (∀ c, (g₁.tasks c).phase.runnable = false) → Turned g₁ := by
    intro g₁ turn same idle c
    rw [idle c, same, turn]
    simp
  cases moves with
  | @refuse c ip turn at_ full =>
      refine still turn rfl ?_
      intro c'
      by_cases here : c' = c
      · subst here
        simp [Phase.runnable]
      · simpa [here] using none_ turn c'
  | @acquire c ip turn at_ free =>
      refine still turn rfl ?_
      intro c'
      by_cases here : c' = c
      · subst here
        simp [Phase.runnable]
      · simpa [here] using none_ turn c'
  | quiet turn move => exact turned.enter turn fun _ => rfl
  | detect turn at_ enabled => exact turned.enter (.inl turn) fun _ => by rfl
  | begin_ turn at_ open_ => exact turned.enter turn fun _ => by rfl
  | operate turn at_ => exact turned.enter turn fun _ => by simp
  | nameless turn at_ untrue => exact turned.enter turn fun _ => by rfl
  | named turn at_ real => exact turned.enter turn fun _ => by simp
  | raise turn at_ => exact turned.enter turn fun _ => by rfl
  | finish turn at_ => exact turned.enter turn fun _ => rfl
  | unregister turn at_ => exact turned.enter (.inl turn) fun _ => by rfl
  | crash turn at_ => exact turned.enter (.inl turn) fun _ => by rfl
  | release turn at_ => exact turned.enter (.inl turn) fun _ => by rfl
  | @lose c turn =>
      refine still turn rfl ?_
      intro c'
      by_cases here : c' = c
      · subst here
        simpa using none_ turn c'
      · simpa [here] using none_ turn c'
  | push turn found family => exact turned

theorem turned {permitted : Gateway → Input → Prop}
    (reached : Reachable (Gateway.step cfg pipes) permitted .start g) : Turned g := by
  refine reached.invariant ?_ fun _ _ _ turned _ moves => turned_step turned (step_cases moves)
  intro c
  simp [Gateway.start, Phase.runnable]

end Turns

/-- What moves one connection: its reads end, its calls return the answers, its device is marked
offline, its transport is gone. -/
inductive Moves (c : Conn) (answers : (o : Op) → Res o) : Input → Prop
  | arrive (outcome : ReadOutcome) : Moves c answers (.arrive c outcome)
  | resume : Moves c answers (.resume c answers)
  | offline : Moves c answers (.offline c (.ok ()))
  | waitClosed : Moves c answers (.waitClosed c)

/-- The connection alone leads from one state to another, with the slots and the other
connections as they were. -/
def Drives (cfg : Config) (pipes : Family → Pipeline) (answers : (o : Op) → Res o) (c : Conn)
    (g g' : Gateway) : Prop :=
  ∃ inputs, (∀ i ∈ inputs, Moves c answers i) ∧ run (Gateway.step cfg pipes) g inputs = some g' ∧
    g'.connectionCount = g.connectionCount ∧ ∀ c', c' ≠ c → g'.tasks c' = g.tasks c'

/-- The connection may move: nobody has the turn, or it has it and can go on. -/
def Free (g : Gateway) (c : Conn) : Prop :=
  g.turn = if (g.tasks c).phase.runnable then some c else none

def reset : Exn := .foreign "ConnectionResetError".toList []

/-- The connection waits for bytes, or leaves. -/
def Rests (g : Gateway) (c : Conn) : Prop :=
  (∃ s, (g.tasks c).phase = .reading s) ∨ ∃ imei, (g.tasks c).phase = .finishing imei

section Driving

variable {cfg : Config} {pipes : Family → Pipeline} {answers : (o : Op) → Res o}
  {g g' g'' : Gateway} {c : Conn}

theorem Drives.refl : Drives cfg pipes answers c g g := ⟨[], by simp, rfl, rfl, fun _ _ => rfl⟩

theorem Drives.trans (first : Drives cfg pipes answers c g g')
    (later : Drives cfg pipes answers c g' g'') : Drives cfg pipes answers c g g'' := by
  obtain ⟨inputs, own, ran, count, same⟩ := first
  obtain ⟨inputs', own', ran', count', same'⟩ := later
  refine ⟨inputs ++ inputs', ?_, ?_, count'.trans count, ?_⟩
  · intro i mem
    rcases List.mem_append.mp mem with mem | mem
    · exact own i mem
    · exact own' i mem
  · rw [run_append, ran, Option.bind_some, ran']
  · exact fun c' other => (same' c' other).trans (same c' other)

theorem Drives.step {i : Input} (own : Moves c answers i)
    (moves : Gateway.step cfg pipes g i = some g')
    (count : g'.connectionCount = g.connectionCount)
    (same : ∀ c', c' ≠ c → g'.tasks c' = g.tasks c') : Drives cfg pipes answers c g g' :=
  ⟨[i], by simpa using own, by simp [run, moves], count, same⟩

theorem free_enter (g : Gateway) (c : Conn) (phase : Phase) : Free (g.enter c phase) c := by
  rw [Free, Gateway.enter_phase_self, Gateway.enter_turn]

theorem Free.turn (free : Free g c) : g.turn = none ∨ g.turn = some c := by
  rw [Free] at free
  split at free
  · exact .inr free
  · exact .inl free

theorem Free.none (free : Free g c) (waits : (g.tasks c).phase.runnable = false) :
    g.turn = none := by
  rw [free, waits]
  rfl

theorem drives_resume {phase : Phase} {g₁ : Gateway} (free : Free g c)
    (moves : g.resume pipes c answers = some (g₁.enter c phase))
    (count : g₁.connectionCount = g.connectionCount)
    (same : ∀ c', c' ≠ c → g₁.tasks c' = g.tasks c') :
    Drives cfg pipes answers c g (g₁.enter c phase) := by
  refine .step .resume ?_ count ?_
  · rw [Gateway.step, if_pos free.turn, moves]
  · intro c' other
    rw [Gateway.enter_tasks_ne _ _ _ other, same c' other]

/-- A handler can be brought to its end, by induction on what is left of it. -/
theorem drives_handling {packets : List Bytes} (program : Handler (Option Text))
    (later : ∀ g s, (g.tasks c).phase = .batch s packets → Free g c →
      ∃ g', Drives cfg pipes answers c g g' ∧ Free g' c ∧ Rests g' c)
    {s : Session} (at_ : (g.tasks c).phase = .handling s program packets) (free : Free g c) :
    ∃ g', Drives cfg pipes answers c g g' ∧ Free g' c ∧ Rests g' c := by
  induction program generalizing g with
  | pure outcome =>
      cases named : truthy outcome with
      | none =>
          have moves : g.resume pipes c answers = some ((g.record (.returned c (.ok outcome))).enter
              c (.batch s packets)) := by
            simp only [Gateway.resume, at_, named]
          obtain ⟨g', drives, rests⟩ := later _ s (Gateway.enter_phase_self ..) (free_enter ..)
          exact ⟨g', (drives_resume free moves rfl fun _ _ => rfl).trans drives, rests⟩
      | some imei =>
          have moves : g.resume pipes c answers =
              some (((g.heard imei (answers .utcNow)).record (.returned c (.ok outcome))).enter
                c (.batch { s with imei := some imei } packets)) := by
            simp only [Gateway.resume, at_, named]
          obtain ⟨g', drives, rests⟩ := later _ _ (Gateway.enter_phase_self ..) (free_enter ..)
          exact ⟨g', (drives_resume free moves rfl fun _ _ => rfl).trans drives, rests⟩
  | throw e =>
      have moves : g.resume pipes c answers = some ((g.record (.returned c (.error e))).enter c
          (.finishing s.imei)) := by
        simp only [Gateway.resume, at_]
      exact ⟨_, drives_resume free moves rfl fun _ _ => rfl, free_enter .., .inr ⟨s.imei, by simp⟩⟩
  | call o next ih =>
      have moves : g.resume pipes c answers = some (((g.perform c answers o).2.record
          (.performed c ⟨o, (g.perform c answers o).1⟩)).enter c
          (.handling s (next (g.perform c answers o).1) packets)) := by
        simp only [Gateway.resume, at_]
      obtain ⟨g', drives, rests⟩ := ih _ (Gateway.enter_phase_self ..) (free_enter ..)
      refine ⟨g', (drives_resume free moves (by simp) ?_).trans drives, rests⟩
      intro c' other
      rw [Gateway.record_tasks, Gateway.perform_tasks_ne _ _ _ _ other]

variable (cfg pipes answers)

theorem drives_batch (packets : List Bytes) {s : Session}
    (at_ : (g.tasks c).phase = .batch s packets) (free : Free g c) :
    ∃ g', Drives cfg pipes answers c g g' ∧ Free g' c ∧ Rests g' c := by
  induction packets generalizing g s with
  | nil =>
      have moves : g.resume pipes c answers = some (g.enter c (.reading s)) := by
        simp only [Gateway.resume, at_]
      exact ⟨_, drives_resume free moves rfl fun _ _ => rfl, free_enter .., .inl ⟨s, by simp⟩⟩
  | cons raw packets ih =>
      by_cases quits : ((g.tasks c).writerClosed || (g.tasks c).lost) = true
      · have moves : g.resume pipes c answers = some (g.enter c (.reading s)) := by
          simp only [Gateway.resume, at_, if_pos quits]
        exact ⟨_, drives_resume free moves rfl fun _ _ => rfl, free_enter .., .inl ⟨s, by simp⟩⟩
      · have moves : g.resume pipes c answers = some ((g.record (.began c raw)).enter c
            (.handling s ((pipes s.protocol).handler (g.tasks c).ip raw) packets)) := by
          simp only [Gateway.resume, at_, if_neg quits]
        obtain ⟨g', drives, rests⟩ := drives_handling _ (fun g s => ih)
          (Gateway.enter_phase_self (g.record (.began c raw)) c
            (.handling s ((pipes s.protocol).handler (g.tasks c).ip raw) packets))
          (free_enter ..)
        exact ⟨g', (drives_resume free moves rfl fun _ _ => rfl).trans drives, rests⟩

def Settled (g : Gateway) (c : Conn) : Prop :=
  (∃ b, (g.tasks c).phase = .probing b) ∨ Rests g c ∨
    (∃ imei deviceId, (g.tasks c).phase = .offlining imei deviceId) ∨ (g.tasks c).phase = .closing

/-- The execution of a connection goes on to its next wait that no handler is part of. -/
theorem drives_settled (free : Free g c) (present : (g.tasks c).phase ≠ .absent)
    (going : (g.tasks c).phase ≠ .ended) :
    ∃ g', Drives cfg pipes answers c g g' ∧ Free g' c ∧ Settled g' c := by
  cases at_ : (g.tasks c).phase with
  | absent => exact absurd at_ present
  | ended => exact absurd at_ going
  | probing b => exact ⟨g, .refl, free, .inl ⟨b, at_⟩⟩
  | reading s => exact ⟨g, .refl, free, .inr (.inl (.inl ⟨s, at_⟩))⟩
  | finishing imei => exact ⟨g, .refl, free, .inr (.inl (.inr ⟨imei, at_⟩))⟩
  | offlining imei deviceId => exact ⟨g, .refl, free, .inr (.inr (.inl ⟨imei, deviceId, at_⟩))⟩
  | closing => exact ⟨g, .refl, free, .inr (.inr (.inr at_))⟩
  | batch s packets =>
      obtain ⟨g', drives, free', rests⟩ := drives_batch cfg pipes answers packets at_ free
      exact ⟨g', drives, free', .inr (.inl rests)⟩
  | handling s program packets =>
      obtain ⟨g', drives, free', rests⟩ := drives_handling program
        (fun _ _ batch free => drives_batch cfg pipes answers packets batch free) at_ free
      exact ⟨g', drives, free', .inr (.inl rests)⟩

theorem drives_leaving (free : Free g c) (settled : Settled g c) :
    ∃ g', Drives cfg pipes answers c g g' ∧ Free g' c ∧
      ((∃ imei, (g'.tasks c).phase = .finishing imei) ∨
        (∃ imei deviceId, (g'.tasks c).phase = .offlining imei deviceId) ∨
        (g'.tasks c).phase = .closing) := by
  rcases settled with ⟨b, at_⟩ | (⟨s, at_⟩ | ⟨imei, at_⟩) | ⟨imei, deviceId, at_⟩ | at_
  · have turn := free.none (by rw [at_]; rfl)
    refine ⟨g.enter c (.finishing none), .step (.arrive (.failed reset)) ?_ rfl ?_,
      free_enter .., .inl ⟨none, by simp⟩⟩
    · simp only [Gateway.step, if_pos turn, Gateway.arrive, at_]
    · exact fun c' other => Gateway.enter_tasks_ne _ _ _ other
  · have turn := free.none (by rw [at_]; rfl)
    refine ⟨g.enter c (.finishing s.imei), .step (.arrive (.failed reset)) ?_ rfl ?_,
      free_enter .., .inl ⟨s.imei, by simp⟩⟩
    · simp only [Gateway.step, if_pos turn, Gateway.arrive, at_]
    · exact fun c' other => Gateway.enter_tasks_ne _ _ _ other
  · exact ⟨g, .refl, free, .inl ⟨imei, at_⟩⟩
  · exact ⟨g, .refl, free, .inr (.inl ⟨imei, deviceId, at_⟩)⟩
  · exact ⟨g, .refl, free, .inr (.inr at_)⟩

theorem teardown_waits (registry : Registry) (c : Conn) (imei : Option Text) :
    Gateway.teardown registry c imei = .closing ∨
      ∃ imei' deviceId, Gateway.teardown registry c imei = .offlining imei' deviceId := by
  unfold Gateway.teardown
  split
  · exact .inl rfl
  · next cleanupImei _ =>
      split
      · exact .inl rfl
      · next device _ =>
          split
          · exact .inr ⟨cleanupImei, device.deviceId, rfl⟩
          · exact .inl rfl

theorem drives_offlining {imei deviceId : Text} (free : Free g c)
    (at_ : (g.tasks c).phase = .offlining imei deviceId) :
    ∃ g', Drives cfg pipes answers c g g' ∧ Free g' c ∧ (g'.tasks c).phase = .closing := by
  have turn := free.none (by rw [at_]; rfl)
  refine ⟨({ g with registry := g.registry.unregister id imei }.record
    (.offlined c imei deviceId (.ok ()))).enter c .closing, .step .offline ?_ rfl ?_,
    free_enter .., Gateway.enter_phase_self ..⟩
  · simp only [Gateway.step, if_pos turn, Gateway.offline, at_]
  · exact fun c' other => Gateway.enter_tasks_ne _ _ _ other

/-- A connection that leaves gets to the end of its `finally` block, if its device can be marked
offline. -/
theorem drives_closing (free : Free g c) (leaving : (∃ imei, (g.tasks c).phase = .finishing imei) ∨
      (∃ imei deviceId, (g.tasks c).phase = .offlining imei deviceId) ∨
      (g.tasks c).phase = .closing) :
    ∃ g', Drives cfg pipes answers c g g' ∧ Free g' c ∧ (g'.tasks c).phase = .closing := by
  rcases leaving with ⟨imei, at_⟩ | ⟨imei, deviceId, at_⟩ | at_
  · have moves : g.resume pipes c answers =
        some (g.enter c (Gateway.teardown g.registry c imei)) := by
      simp only [Gateway.resume, at_]
    have drives : Drives cfg pipes answers c g (g.enter c (Gateway.teardown g.registry c imei)) :=
      drives_resume free moves rfl fun _ _ => rfl
    rcases teardown_waits g.registry c imei with waits | ⟨imei', deviceId, waits⟩
    · exact ⟨_, drives, free_enter .., by rw [Gateway.enter_phase_self, waits]⟩
    · have entered := free_enter g c (Gateway.teardown g.registry c imei)
      obtain ⟨g', later, rest⟩ := drives_offlining cfg pipes answers entered
        ((Gateway.enter_phase_self ..).trans waits)
      exact ⟨g', drives.trans later, rest⟩
  · exact drives_offlining cfg pipes answers free at_
  · exact ⟨g, .refl, free, at_⟩

theorem drives_ended (free : Free g c) (present : (g.tasks c).phase ≠ .absent)
    (going : (g.tasks c).phase ≠ .ended) :
    ∃ inputs g', (∀ i ∈ inputs, Moves c answers i) ∧
      run (Gateway.step cfg pipes) g inputs = some g' ∧ (g'.tasks c).phase = .ended ∧
      g'.connectionCount = g.connectionCount - 1 ∧ g'.turn = none ∧
      ∀ c', c' ≠ c → g'.tasks c' = g.tasks c' := by
  obtain ⟨g₁, first, free₁, settled⟩ := drives_settled cfg pipes answers free present going
  obtain ⟨g₂, second, free₂, leaving⟩ := drives_leaving cfg pipes answers free₁ settled
  obtain ⟨g₃, third, free₃, closing⟩ := drives_closing cfg pipes answers free₂ leaving
  obtain ⟨inputs, own, ran, count, same⟩ := (first.trans second).trans third
  have turn := free₃.none (by rw [closing]; rfl)
  refine ⟨inputs ++ [.waitClosed c], ((({ g₃ with connectionCount := g₃.connectionCount - 1 }.record
    (.released c)).record (.ended c)).enter c .ended), ?_, ?_, ?_, ?_, rfl, ?_⟩
  · intro i mem
    rcases List.mem_append.mp mem with mem | mem
    · exact own i mem
    · rw [List.mem_singleton.mp mem]
      exact .waitClosed
  · rw [run_append, ran, Option.bind_some]
    simp only [run, Gateway.step, if_pos turn, Gateway.waitClosed, closing, Option.bind_some]
  · exact Gateway.enter_phase_self ..
  · rw [← count]
    rfl
  · intro c' other
    exact (Gateway.enter_tasks_ne _ _ _ other).trans (same c' other)

end Driving

def isRaised : Event → Bool
  | .offlined _ _ _ (.error _) => true
  | _ => false

def raised (h : List Event) : Nat := h.countP isRaised

@[simp] theorem raised_cons (e : Event) (h : List Event) :
    raised (e :: h) = raised h + if isRaised e then 1 else 0 := List.countP_cons

/-- The counter is the number of executions that hold a slot and of offline marks that raised. -/
def Tallied (g : Gateway) : Prop :=
  ∃ live : Finset Conn, (∀ c, c ∈ live ↔ holds (g.tasks c).phase = true) ∧
    g.connectionCount = live.card + raised g.history

section Tally

variable {cfg : Config} {pipes : Family → Pipeline} {g g' : Gateway} {c : Conn}

theorem Tallied.move (tallied : Tallied g)
    (holding : ∀ c, holds (g'.tasks c).phase = holds (g.tasks c).phase)
    (count : g'.connectionCount = g.connectionCount)
    (same : raised g'.history = raised g.history) : Tallied g' := by
  obtain ⟨live, members, total⟩ := tallied
  exact ⟨live, fun c => by rw [members, holding], by rw [count, same, total]⟩

theorem Tallied.enter {g₁ : Gateway} {phase : Phase} (tallied : Tallied g)
    (before : holds (g.tasks c).phase = true) (after : holds phase = true)
    (others : ∀ c', (g₁.tasks c').phase = (g.tasks c').phase)
    (count : g₁.connectionCount = g.connectionCount)
    (same : raised g₁.history = raised g.history) : Tallied (g₁.enter c phase) := by
  refine tallied.move ?_ count same
  intro c'
  rw [Gateway.enter_phase]
  split
  · next here => rw [after, here, before]
  · rw [others]

theorem Tallied.leave (tallied : Tallied g) (before : holds (g.tasks c).phase = true)
    (after : holds (g'.tasks c).phase = false) (others : ∀ c', c' ≠ c → g'.tasks c' = g.tasks c')
    (count : g'.connectionCount - raised g'.history = g.connectionCount - raised g.history - 1) :
    Tallied g' := by
  obtain ⟨live, members, total⟩ := tallied
  have member : c ∈ live := (members c).mpr before
  have shrunk := Finset.card_erase_add_one member
  refine ⟨live.erase c, ?_, by omega⟩
  intro c'
  by_cases here : c' = c
  · subst here
    simp [after]
  · simp [here, members, others c' here]

theorem tallied_step {i : Input} (tallied : Tallied g) (moves : Step cfg pipes g i g') :
    Tallied g' := by
  cases moves with
  | @refuse c ip turn at_ full =>
      refine tallied.move ?_ rfl (by simp [isRaised])
      intro c'
      by_cases here : c' = c
      · subst here
        simp [at_, holds]
      · simp [here]
  | @acquire c ip turn at_ free =>
      obtain ⟨live, members, total⟩ := tallied
      have fresh : c ∉ live := by simp [members, at_, holds]
      refine ⟨insert c live, ?_, ?_⟩
      · intro c'
        by_cases here : c' = c
        · subst here
          simp [holds]
        · simp [here, members]
      · rw [Finset.card_insert_of_notMem fresh]
        simp [isRaised, total]
        ring
  | quiet turn move =>
      obtain ⟨before, after⟩ := Slots.holds_quiet move
      exact tallied.enter before after (fun _ => rfl) rfl rfl
  | detect turn at_ enabled =>
      exact tallied.enter (by simp [at_, holds]) (Slots.holds_framed _ _) (fun _ => by rfl) rfl
        (by simp [isRaised])
  | begin_ turn at_ open_ =>
      exact tallied.enter (by simp [at_, holds]) rfl (fun _ => by rfl) rfl (by simp [isRaised])
  | operate turn at_ =>
      exact tallied.enter (by simp [at_, holds]) rfl (fun _ => by simp) (by simp)
        (by simp [isRaised])
  | nameless turn at_ untrue =>
      exact tallied.enter (by simp [at_, holds]) rfl (fun _ => by rfl) rfl (by simp [isRaised])
  | named turn at_ real =>
      exact tallied.enter (by simp [at_, holds]) rfl (fun _ => by simp) rfl (by simp [isRaised])
  | raise turn at_ =>
      exact tallied.enter (by simp [at_, holds]) rfl (fun _ => by rfl) rfl (by simp [isRaised])
  | finish turn at_ =>
      exact tallied.enter (by simp [at_, holds]) (Slots.holds_teardown _ _ _) (fun _ => rfl) rfl rfl
  | unregister turn at_ =>
      exact tallied.enter (by simp [at_, holds]) rfl (fun _ => by rfl) rfl (by simp [isRaised])
  | @crash c imei deviceId e turn at_ =>
      refine tallied.leave (c := c) (by simp [at_, holds]) (by simp [holds]) ?_ ?_
      · exact fun c' other => Gateway.enter_tasks_ne _ _ _ other
      · simp [isRaised]
        ring
  | @release c turn at_ =>
      refine tallied.leave (c := c) (by simp [at_, holds]) (by simp [holds]) ?_ ?_
      · exact fun c' other => Gateway.enter_tasks_ne _ _ _ other
      · simp [isRaised]
        ring
  | @lose c turn =>
      refine tallied.move ?_ rfl rfl
      intro c'
      by_cases here : c' = c
      · subst here
        simp
      · simp [here]
  | push turn found family => exact tallied.move (fun _ => rfl) rfl (by simp [isRaised])

theorem tallied {permitted : Gateway → Input → Prop}
    (reached : Reachable (Gateway.step cfg pipes) permitted .start g) : Tallied g := by
  refine reached.invariant ?_ fun _ _ _ tallied _ moves => tallied_step tallied (step_cases moves)
  exact ⟨∅, fun c => by simp [Gateway.start, holds], rfl⟩

end Tally

section Rest

variable {cfg : Config} {pipes : Family → Pipeline} {g : Gateway}

theorem going_of_holds {phase : Phase} (held : holds phase = true) :
    phase ≠ .absent ∧ phase ≠ .ended := by
  constructor <;> rintro rfl <;> cases held

variable (cfg pipes) (answers : (o : Op) → Res o)

theorem drives_await {c : Conn} (free : Free g c) (settled : Settled g c) :
    ∃ g', Drives cfg pipes answers c g g' ∧ g'.turn = none ∧ holds (g'.tasks c).phase = true := by
  rcases settled with ⟨b, at_⟩ | (⟨s, at_⟩ | ⟨imei, at_⟩) | ⟨imei, deviceId, at_⟩ | at_
  · exact ⟨g, .refl, free.none (by rw [at_]; rfl), by rw [at_]; rfl⟩
  · exact ⟨g, .refl, free.none (by rw [at_]; rfl), by rw [at_]; rfl⟩
  · have moves : g.resume pipes c answers =
        some (g.enter c (Gateway.teardown g.registry c imei)) := by
      simp only [Gateway.resume, at_]
    refine ⟨_, drives_resume free moves rfl fun _ _ => rfl, (free_enter ..).none ?_, ?_⟩
    · rw [Gateway.enter_phase_self]
      rcases teardown_waits g.registry c imei with waits | ⟨imei', deviceId, waits⟩ <;>
        rw [waits] <;> rfl
    · rw [Gateway.enter_phase_self]
      exact Slots.holds_teardown _ _ _
  · exact ⟨g, .refl, free.none (by rw [at_]; rfl), by rw [at_]; rfl⟩
  · exact ⟨g, .refl, free.none (by rw [at_]; rfl), by rw [at_]; rfl⟩

theorem yields (turned : Turned g) :
    ∃ inputs g', (∀ i ∈ inputs, ∃ c, Moves c answers i) ∧
      run (Gateway.step cfg pipes) g inputs = some g' ∧ g'.turn = none ∧
      g'.connectionCount = g.connectionCount ∧
      ∀ c, holds (g'.tasks c).phase = holds (g.tasks c).phase := by
  cases turn : g.turn with
  | none => exact ⟨[], g, by simp, rfl, turn, rfl, fun _ => rfl⟩
  | some c =>
      have runnable := (turned c).mpr turn
      have free : Free g c := by rw [Free, if_pos runnable, turn]
      have held : holds (g.tasks c).phase = true := by
        cases at_ : (g.tasks c).phase <;> first | rfl | (rw [at_] at runnable; cases runnable)
      obtain ⟨present, going⟩ := going_of_holds held
      obtain ⟨g₁, first, free₁, settled⟩ := drives_settled cfg pipes answers free present going
      obtain ⟨g₂, later, waits, held₂⟩ := drives_await cfg pipes answers free₁ settled
      obtain ⟨inputs, own, ran, count, same⟩ := first.trans later
      refine ⟨inputs, g₂, fun i mem => ⟨c, own i mem⟩, ran, waits, count, ?_⟩
      intro c'
      by_cases here : c' = c
      · rw [here, held₂, held]
      · rw [same c' here]

variable {cfg pipes} in
theorem turned_run {g' : Gateway} {inputs : List Input} (turned : Turned g)
    (ran : run (Gateway.step cfg pipes) g inputs = some g') : Turned g' :=
  run_induction (P := fun _ g => Turned g) turned
    (fun _ _ _ _ turned moves => turned_step turned (step_cases moves)) ran

/-- Without a turn, the executions can be ended one after the other, by induction on how many hold
a slot. -/
theorem drained (live : Finset Conn)
    (members : ∀ c, c ∈ live ↔ holds (g.tasks c).phase = true) (turned : Turned g)
    (turn : g.turn = none) :
    ∃ inputs g', (∀ i ∈ inputs, ∃ c, Moves c answers i) ∧
      run (Gateway.step cfg pipes) g inputs = some g' ∧
      (∀ c, holds (g'.tasks c).phase = false) ∧
      g'.connectionCount = g.connectionCount - live.card := by
  induction live using Finset.induction_on generalizing g with
  | empty =>
      refine ⟨[], g, by simp, rfl, ?_, by simp⟩
      intro c
      simpa using members c
  | insert c live fresh ih =>
      have held := (members c).mp (Finset.mem_insert_self c live)
      obtain ⟨present, going⟩ := going_of_holds held
      have free : Free g c := by
        rw [Free, if_neg, turn]
        intro runnable
        rw [(turned c).mp runnable] at turn
        cases turn
      obtain ⟨inputs, g₁, own, ran, ended, count, rest, same⟩ :=
        drives_ended cfg pipes answers free present going
      have members₁ : ∀ c', c' ∈ live ↔ holds (g₁.tasks c').phase = true := by
        intro c'
        by_cases here : c' = c
        · subst here
          simp [fresh, ended, holds]
        · rw [same c' here, ← members c']
          simp [here]
      obtain ⟨inputs', g₂, own', ran', released, count'⟩ := ih members₁ (turned_run turned ran) rest
      refine ⟨inputs ++ inputs', g₂, ?_, ?_, released, ?_⟩
      · intro i mem
        rcases List.mem_append.mp mem with mem | mem
        · exact ⟨c, own i mem⟩
        · exact own' i mem
      · rw [run_append, ran, Option.bind_some, ran']
      · rw [count', count, Finset.card_insert_of_notMem fresh]
        push_cast
        ring

/-- In every state of every run the counter counts the executions that hold a slot and the offline
marks that have raised. Whatever the calls answer, as long as no further mark raises, all
executions can be ended from there, and the marks that raised are all that stays counted. -/
theorem drainable {permitted : Gateway → Input → Prop}
    {g : Gateway} (reached : Reachable (Gateway.step cfg pipes) permitted .start g) :
    Tallied g ∧ ∀ answers : (o : Op) → Res o,
      ∃ inputs g', (∀ i ∈ inputs, ∃ c, Moves c answers i) ∧
        run (Gateway.step cfg pipes) g inputs = some g' ∧
        (∀ c, holds (g'.tasks c).phase = false) ∧ g'.connectionCount = raised g.history := by
  have tally := tallied reached
  refine ⟨tally, fun answers => ?_⟩
  obtain ⟨live, members, total⟩ := tally
  obtain ⟨inputs, g₁, own, ran, turn, count, holding⟩ :=
    yields cfg pipes answers (turned reached)
  obtain ⟨inputs', g₂, own', ran', released, count'⟩ := drained cfg pipes answers
    live (fun c => by rw [members, holding]) (turned_run (turned reached) ran) turn
  refine ⟨inputs ++ inputs', g₂, ?_, ?_, released, by omega⟩
  · intro i mem
    rcases List.mem_append.mp mem with mem | mem
    · exact own i mem
    · exact own' i mem
  · rw [run_append, ran, Option.bind_some, ran']

/-- After a mark has raised, one slot of the process at rest stays counted. -/
theorem leaking_drainable : ∃ g, run (Gateway.step defaults (pipelines defaults)) Gateway.start
    Slots.leakingInputs = some g ∧ Tallied g ∧ ∀ answers : (o : Op) → Res o,
      ∃ inputs g', (∀ i ∈ inputs, ∃ c, Moves c answers i) ∧
        run (Gateway.step defaults (pipelines defaults)) g inputs = some g' ∧
        (∀ c, holds (g'.tasks c).phase = false) ∧ g'.connectionCount = 1 := by
  have seen : (run (Gateway.step defaults (pipelines defaults)) Gateway.start
      Slots.leakingInputs).map (fun g => raised g.history) = some 1 := by decide +kernel
  obtain ⟨g, ran, one⟩ := Option.map_eq_some_iff.mp seen
  have reached := reachable_of_free_run .start ran
  have drains := drainable defaults (pipelines defaults) reached
  rw [one] at drains
  exact ⟨g, ran, drains⟩

end Rest

end TrackerGateway.Invariants.Drain
