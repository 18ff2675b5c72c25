/- module: TrackerGateway/Server/Sessions
   source: src/tcp_server.py
   digest: The life of a connection as an automaton over what happens to it, which every execution
     of `handle_device` follows, whatever the other connections do. -/

import TrackerGateway.Server.Frames

set_option autoImplicit false
set_option relaxedAutoImplicit false

namespace TrackerGateway.Server.Sessions

open Foundation.Coroutine (Program)
open Foundation.Transition (Reachable run run_append run_induction reachable_of_free_run)
open Foundation.Wire (Text Bytes)
open TrackerGateway.Runtime
open Services (Registry)

inductive Stage
  | unseen
  | admitted
  | speaking (protocol : Family)
  | inside (protocol : Family) (raw : Bytes)
  /-- a packet's handler has raised -/
  | parting
  | marked
  | released
  | crashed
  | over
  deriving DecidableEq

def Stage.leaves : Stage → Bool
  | .admitted | .speaking _ | .parting => true
  | _ => false

def Stage.spoke : Stage → Bool
  | .speaking _ | .parting => true
  | _ => false

/-- One event in the life of a connection: one detection, of an enabled family; packets one after
the other, each with its operations; at most one offline mark, for a connection that was heard; the
slot, given back once, unless the mark raised. -/
def advance (cfg : Config) : Stage → Event → Option Stage
  | .unseen, .acquired _ => some .admitted
  | .unseen, .refused _ => some .over
  | .admitted, .detected _ protocol =>
      if protocol ∈ cfg.enabledProtocols then some (.speaking protocol) else none
  | .speaking protocol, .began _ raw => some (.inside protocol raw)
  | .inside protocol raw, .performed _ _ => some (.inside protocol raw)
  | .inside protocol _, .returned _ (.ok _) => some (.speaking protocol)
  | .inside _ _, .returned _ (.error _) => some .parting
  | stage, .offlined _ _ _ (.ok _) => if stage.spoke then some .marked else none
  | stage, .offlined _ _ _ (.error _) => if stage.spoke then some .crashed else none
  | stage, .released _ => if stage.leaves || stage = .marked then some .released else none
  | stage, .ended _ => if stage = .released || stage = .crashed then some .over else none
  | _, _ => none

/-- The connection whose life an event belongs to. What others write to it does not. -/
def Event.lives : Event → Option Conn
  | .acquired c | .refused c | .detected c _ | .began c _ | .performed c _ | .returned c _
  | .offlined c .. | .released c | .ended c => some c
  | .pushed .. => none

def word (c : Conn) (h : List Event) : List Event :=
  (h.filter fun e => Event.lives e = some c).reverse

inductive Shows : Stage → Phase → Prop
  | absent : Shows .unseen .absent
  | probing (received : Bytes) : Shows .admitted (.probing received)
  | batch (s : Session) (packets : List Bytes) : Shows (.speaking s.protocol) (.batch s packets)
  | reading (s : Session) : Shows (.speaking s.protocol) (.reading s)
  | handling (s : Session) (raw : Bytes) (program : Handler (Option Text))
      (packets : List Bytes) : Shows (.inside s.protocol raw) (.handling s program packets)
  | finishing {stage : Stage} (leaves : stage.leaves = true) (imei : Option Text) :
      Shows stage (.finishing imei)
  | offlining {stage : Stage} (spoke : stage.spoke = true) (imei deviceId : Text) :
      Shows stage (.offlining imei deviceId)
  | closing {stage : Stage} (leaves : stage.leaves = true ∨ stage = .marked) : Shows stage .closing
  | ended : Shows .over .ended

/-- The life of a connection follows the automaton to the stage its execution shows. -/
def Lives (cfg : Config) (g : Gateway) (c : Conn) : Prop :=
  ∃ stage, run (advance cfg) .unseen (word c g.history) = some stage ∧
    Shows stage (g.tasks c).phase

section Words

variable {cfg : Config} {c : Conn} {e : Event} {h : List Event} {stage : Stage}

theorem word_own (own : Event.lives e = some c) : word c (e :: h) = word c h ++ [e] := by
  simp [word, own]

theorem word_other (other : Event.lives e ≠ some c) : word c (e :: h) = word c h := by
  simp [word, other]

theorem word_others {events : List Event} (others : ∀ e ∈ events, Event.lives e ≠ some c) :
    word c (events ++ h) = word c h := by
  induction events with
  | nil => rfl
  | cons e events ih =>
      rw [List.cons_append, word_other (others e List.mem_cons_self)]
      exact ih fun e' member => others e' (List.mem_cons_of_mem e member)

theorem run_own (own : Event.lives e = some c)
    (before : run (advance cfg) .unseen (word c h) = some stage) :
    run (advance cfg) .unseen (word c (e :: h)) = advance cfg stage e := by
  rw [word_own own, run_append, before, Option.bind_some]
  simp [run]

theorem advance_early {stage' : Stage} (moves : advance cfg stage e = some stage') :
    stage' ≠ .unseen ∧ (stage' = .admitted → stage = .unseen ∧ ∀ a, e ≠ .performed c a) := by
  unfold advance at moves
  split at moves <;> (try split at moves) <;> cases moves <;> simp

theorem unheard (ran : run (advance cfg) .unseen (word c h) = some .admitted) (a : Answered) :
    Event.performed c a ∉ word c h := by
  have early := run_induction (P := fun w stage => (stage = .unseen → w = []) ∧
    (stage = .admitted → Event.performed c a ∉ w)) ⟨fun _ => rfl, by simp⟩
    (fun w stage e stage' before moves => ?_) ran
  · exact early.2 rfl
  · obtain ⟨later, first⟩ := advance_early (c := c) moves
    refine ⟨fun same => absurd same later, ?_⟩
    intro admitted
    obtain ⟨rfl, other⟩ := first admitted
    rw [before.1 rfl, List.nil_append, List.mem_singleton]
    exact fun same => other a same.symm

theorem mem_word (own : Event.lives e = some c) : e ∈ word c h ↔ e ∈ h := by
  simp [word, own]

end Words

section Steps

variable {cfg : Config} {pipes : Family → Pipeline} {g g' : Gateway} {c : Conn}

theorem Lives.quiet (lives : Lives cfg g c) (events : List Event)
    (history : g'.history = events ++ g.history)
    (others : ∀ e ∈ events, Event.lives e ≠ some c)
    (moved : ∀ stage, Shows stage (g.tasks c).phase → Shows stage (g'.tasks c).phase) :
    Lives cfg g' c := by
  obtain ⟨stage, ran, shows_⟩ := lives
  refine ⟨stage, ?_, moved stage shows_⟩
  rw [history, word_others others]
  exact ran

theorem Lives.event (lives : Lives cfg g c) {e : Event} (own : Event.lives e = some c)
    (history : g'.history = e :: g.history)
    (moved : ∀ stage, Shows stage (g.tasks c).phase →
      ∃ stage', advance cfg stage e = some stage' ∧ Shows stage' (g'.tasks c).phase) :
    Lives cfg g' c := by
  obtain ⟨stage, ran, shows_⟩ := lives
  obtain ⟨stage', moves, shows'⟩ := moved stage shows_
  refine ⟨stage', ?_, shows'⟩
  rw [history, run_own own ran, moves]

theorem shows_framed (s : Session) : Shows (.speaking s.protocol) (Gateway.framed pipes s) := by
  rw [Gateway.framed]
  split
  · next packets rest cut => exact .batch { s with buffer := rest } packets
  · exact .finishing rfl s.imei

/-- A mark is only made for a connection that has registered a device. -/
theorem shows_teardown {imei : Option Text} {stage : Stage} (traced : Traced g)
    (ran : run (advance cfg) .unseen (word c g.history) = some stage)
    (leaves : stage.leaves = true) :
    Shows stage (Gateway.teardown g.registry c imei) := by
  rw [Gateway.teardown]
  split
  · exact .closing (.inl leaves)
  · next cleanupImei named =>
      split
      · exact .closing (.inl leaves)
      · next device found =>
          split
          · next own =>
              refine .offlining ?_ cleanupImei device.deviceId
              cases stage with
              | admitted =>
                  obtain ⟨e, member, registers⟩ := registrant_mem (traced.getDevice found)
                  rw [own] at registers
                  obtain ⟨ip, protocol, connectedAt, lastSeen, rfl⟩ :=
                    Event.eq_of_registration registers
                  exact absurd ((mem_word rfl).mpr member) (unheard ran _)
              | speaking protocol => rfl
              | parting => rfl
              | _ => cases leaves
          · exact .closing (.inl leaves)

theorem Lives.enter {phase : Phase} (lives : ∀ c, Lives cfg g c)
    (moved : ∀ stage, run (advance cfg) .unseen (word c g.history) = some stage →
      Shows stage (g.tasks c).phase → Shows stage phase) (c' : Conn) :
    Lives cfg (g.enter c phase) c' := by
  by_cases here : c' = c
  · subst here
    obtain ⟨stage, ran, shows_⟩ := lives c'
    refine ⟨stage, ran, ?_⟩
    rw [Gateway.enter_phase_self]
    exact moved stage ran shows_
  · refine (lives c').quiet [] rfl (by simp) ?_
    intro stage shows_
    rwa [Gateway.enter_tasks_ne _ _ _ here]

theorem Lives.record {g₁ : Gateway} {phase : Phase} {e : Event} (lives : ∀ c, Lives cfg g c)
    (own : Event.lives e = some c) (history : g₁.history = e :: g.history)
    (others : ∀ c', (g₁.tasks c').phase = (g.tasks c').phase)
    (moved : ∀ stage, Shows stage (g.tasks c).phase →
      ∃ stage', advance cfg stage e = some stage' ∧ Shows stage' phase) (c' : Conn) :
    Lives cfg (g₁.enter c phase) c' := by
  by_cases here : c' = c
  · subst here
    refine (lives c').event own history ?_
    rw [Gateway.enter_phase_self]
    exact moved
  · refine (lives c').quiet [e] history ?_ ?_
    · simpa [own] using Ne.symm here
    · intro stage shows_
      rwa [Gateway.enter_tasks_ne _ _ _ here, others]

theorem Lives.ends {g₁ : Gateway} {e : Event} (lives : ∀ c, Lives cfg g c)
    (own : Event.lives e = some c) (history : g₁.history = .ended c :: e :: g.history)
    (others : ∀ c', (g₁.tasks c').phase = (g.tasks c').phase)
    (moved : ∀ stage, Shows stage (g.tasks c).phase →
      ∃ stage', advance cfg stage e = some stage' ∧ (stage' = .released ∨ stage' = .crashed))
    (c' : Conn) : Lives cfg (g₁.enter c .ended) c' := by
  by_cases here : c' = c
  · subst here
    obtain ⟨stage, ran, shows_⟩ := lives c'
    obtain ⟨stage', moves, last⟩ := moved stage shows_
    refine ⟨.over, ?_, ?_⟩
    · rw [Gateway.enter_history, history, run_own rfl ((run_own own ran).trans moves)]
      rcases last with rfl | rfl <;> rfl
    · rw [Gateway.enter_phase_self]
      exact .ended
  · refine (lives c').quiet [.ended c, e] history ?_ ?_
    · intro e' member other
      have owned : Event.lives e' = some c := by
        rcases List.mem_cons.mp member with rfl | last
        · rfl
        · rwa [List.mem_singleton.mp last]
      exact here (Option.some.inj (other.symm.trans owned))
    · intro stage shows_
      rwa [Gateway.enter_tasks_ne _ _ _ here, others]

theorem lives_step {i : Input} (traced : Traced g) (lives : ∀ c, Lives cfg g c)
    (moves : Step cfg pipes g i g') (c' : Conn) : Lives cfg g' c' := by
  cases moves with
  | @refuse c ip turn at_ full =>
      by_cases here : c' = c
      · subst here
        refine (lives c').event (e := .refused c') rfl rfl ?_
        intro stage shows_
        rw [at_] at shows_
        cases shows_
        exact ⟨.over, rfl, by simpa using .ended⟩
      · refine (lives c').quiet [.refused c] rfl ?_ ?_
        · simpa [Event.lives] using Ne.symm here
        · intro stage shows_
          simpa [here] using shows_
  | @acquire c ip turn at_ free =>
      by_cases here : c' = c
      · subst here
        refine (lives c').event (e := .acquired c') rfl rfl ?_
        intro stage shows_
        rw [at_] at shows_
        cases shows_
        exact ⟨.admitted, rfl, by simpa using .probing []⟩
      · refine (lives c').quiet [.acquired c] rfl ?_ ?_
        · simpa [Event.lives] using Ne.symm here
        · intro stage shows_
          simpa [here] using shows_
  | @quiet i c phase turn move =>
      refine Lives.enter lives ?_ c'
      intro stage ran shows_
      generalize (g.tasks c).phase = before at move shows_
      cases move with
      | probe b b' =>
          cases shows_
          exact .probing b'
      | unknown b =>
          cases shows_
          exact .finishing rfl none
      | more s buffer =>
          cases shows_
          exact shows_framed { s with buffer }
      | stop s =>
          cases shows_
          exact .finishing rfl s.imei
      | rest s packets =>
          cases shows_
          exact .reading s
  | @detect i c b data protocol turn at_ enabled =>
      refine Lives.record (e := .detected c protocol) lives rfl rfl (fun _ => by rfl) ?_ c'
      intro stage shows_
      rw [at_] at shows_
      cases shows_
      exact ⟨.speaking protocol, if_pos enabled, shows_framed ⟨protocol, none, data⟩⟩
  | @begin_ c answers s raw packets turn at_ open_ =>
      refine Lives.record (e := .began c raw) lives rfl rfl (fun _ => by rfl) ?_ c'
      intro stage shows_
      rw [at_] at shows_
      cases shows_
      exact ⟨.inside s.protocol raw, rfl, .handling s raw _ packets⟩
  | @operate c answers s o next packets turn at_ =>
      refine Lives.record (e := .performed c ⟨o, (g.perform c answers o).1⟩) lives rfl (by simp)
        (fun c' => by simp) ?_ c'
      intro stage shows_
      rw [at_] at shows_
      cases shows_ with
      | handling s raw program packets => exact ⟨.inside s.protocol raw, rfl, .handling s raw _ _⟩
  | @nameless c answers s outcome packets turn at_ untrue =>
      refine Lives.record (e := .returned c (.ok outcome)) lives rfl rfl (fun _ => by rfl) ?_ c'
      intro stage shows_
      rw [at_] at shows_
      cases shows_ with
      | handling s raw program packets => exact ⟨.speaking s.protocol, rfl, .batch s packets⟩
  | @named c answers s imei packets turn at_ real =>
      refine Lives.record (e := .returned c (.ok (some imei))) lives rfl rfl
        (fun _ => by simp) ?_ c'
      intro stage shows_
      rw [at_] at shows_
      cases shows_ with
      | handling s raw program packets =>
          exact ⟨.speaking s.protocol, rfl, .batch { s with imei := some imei } packets⟩
  | @raise c answers s e packets turn at_ =>
      refine Lives.record (e := .returned c (.error e)) lives rfl rfl (fun _ => by rfl) ?_ c'
      intro stage shows_
      rw [at_] at shows_
      cases shows_ with
      | handling s raw program packets => exact ⟨.parting, rfl, .finishing rfl s.imei⟩
  | @finish c answers remembered turn at_ =>
      refine Lives.enter lives ?_ c'
      intro stage ran shows_
      rw [at_] at shows_
      cases shows_ with
      | finishing leaves imei => exact shows_teardown traced ran leaves
  | @unregister c imei deviceId turn at_ =>
      refine Lives.record (e := .offlined c imei deviceId (.ok ())) lives rfl rfl
        (fun _ => by rfl) ?_ c'
      intro stage shows_
      rw [at_] at shows_
      cases shows_ with
      | offlining spoke imei deviceId =>
          refine ⟨.marked, ?_, .closing (.inr rfl)⟩
          cases stage <;> first | rfl | cases spoke
  | @crash c imei deviceId e turn at_ =>
      refine Lives.ends (e := .offlined c imei deviceId (.error e)) lives rfl rfl
        (fun _ => by rfl) ?_ c'
      intro stage shows_
      rw [at_] at shows_
      cases shows_ with
      | offlining spoke imei deviceId =>
          refine ⟨.crashed, ?_, .inr rfl⟩
          cases stage <;> first | rfl | cases spoke
  | @release c turn at_ =>
      refine Lives.ends (e := .released c) lives rfl rfl (fun _ => by rfl) ?_ c'
      intro stage shows_
      rw [at_] at shows_
      cases shows_ with
      | closing leaves =>
          refine ⟨.released, ?_, .inl rfl⟩
          cases stage <;> first | rfl | simp [Stage.leaves] at leaves
  | @lose c turn =>
      refine (lives c').quiet [] rfl (by simp) ?_
      intro stage shows_
      by_cases here : c' = c
      · subst here
        simpa using shows_
      · simpa [here] using shows_
  | @push imei required payload device turn found family =>
      exact (lives c').quiet [.pushed device.socket payload] rfl (by simp [Event.lives])
        fun _ shows_ => shows_

theorem followed {permitted : Gateway → Input → Prop}
    (reached : Reachable (Gateway.step cfg pipes) permitted .start g) : ∀ c, Lives cfg g c := by
  refine reached.invariant_of_reached (P := fun g => ∀ c, Lives cfg g c) ?_ ?_
  · exact fun c => ⟨.unseen, rfl, .absent⟩
  · exact fun _ _ _ before lives _ moves => lives_step (traced before) lives (step_cases moves)

/-- In every run, whatever the other connections do and whatever the pipelines are, the life of a
connection follows the automaton, and its execution stands where the automaton does. -/
theorem session_followed {permitted : Gateway → Input → Prop}
    (reached : Reachable (Gateway.step cfg pipes) permitted .start g) (c : Conn) :
    ∃ stage, run (advance cfg) .unseen (word c g.history) = some stage ∧
      Shows stage (g.tasks c).phase := followed reached c

/-- The life of a connection that logs in. -/
theorem login_followed : ∃ g,
    run (Gateway.step defaults (pipelines defaults)) .start
      (loginInputs 0 1 (calm ['d']) ++ hangUp 0 (calm ['d'])) = some g ∧
    ∃ stage, run (advance defaults) .unseen (word 0 g.history) = some stage ∧
      Shows stage (g.tasks 0).phase := by
  have ran : (run (Gateway.step defaults (pipelines defaults)) .start
      (loginInputs 0 1 (calm ['d']) ++ hangUp 0 (calm ['d']))).isSome = true := by
    decide +kernel
  obtain ⟨g, ran⟩ := Option.isSome_iff_exists.mp ran
  exact ⟨g, ran, session_followed (reachable_of_free_run .start ran) 0⟩

end Steps

end TrackerGateway.Server.Sessions
