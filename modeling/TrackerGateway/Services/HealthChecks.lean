/- module: TrackerGateway/Services/HealthChecks
   source: src/services/health_service.py
   digest: Threads that ask for the health report at once: how often they probe the database, what
     they share, and which changes are logged. -/

import Mathlib.Data.List.Destutter
import TrackerGateway.Foundation.Transition.Run
import TrackerGateway.Services.HealthService

set_option autoImplicit false
set_option relaxedAutoImplicit false

namespace TrackerGateway.Services.HealthChecks

open Foundation.Transition
open Foundation.Wire (Text Instant)
open HealthService

/-- A probe of the database that is kept, with the time it was begun. -/
structure Cached extends Probe where
  begun : ℚ

structure Line where
  previous : Option Level
  state : Level
  reasons : List Text

/-- How far the thread of a request has come in `get_health`. -/
inductive Asking
  /-- the no-op has run on the event loop, and the database is next -/
  | looped (loop : Probe)
  /-- under the lock, awaiting the probe of the database -/
  | probing (loop : Probe) (now : ℚ)
  /-- the database has been checked, or skipped -/
  | checked (loop : Probe) (db : Option DbCheck)
  /-- the report is built, and its level is not yet compared with the last one -/
  | built (report : Report)
  /-- the level has changed, and the line that says so is not yet printed -/
  | logging (report : Report) (line : Line)
  | answered (report : Report)

def levelName : Level → Text
  | .ok => "ok".toList
  | .degraded => "degraded".toList
  | .down => "down".toList

def Line.text (l : Line) : Text :=
  "🩺 Health ".toList ++ (l.previous.map levelName).getD "unknown".toList ++ " -> ".toList ++
    levelName l.state ++ ": ".toList ++
    (if l.reasons.isEmpty then "all checks passing".toList
      else "; ".toList.intercalate l.reasons)

/-- A check that was answered from the cache or by a probe, with the probes that had ended. -/
structure Check where
  time : ℚ
  result : DbCheck
  probes : List Cached

/-- The globals of the module and its threads; each list starts with what happened last. -/
structure Desk where
  clock : ℚ
  dbCache : Option Cached
  dbLock : Option Nat
  lastLoggedState : Option Level
  threads : Nat → Option Asking
  /-- the probes that have ended -/
  probes : List Cached
  /-- the answers of `_db_check` -/
  checks : List Check
  /-- the levels that were compared with the last one -/
  compared : List Level
  /-- the changes that were found -/
  lines : List Line
  /-- what was printed -/
  log : List Text

def Desk.start (clock : ℚ) : Desk := ⟨clock, none, none, none, fun _ => none, [], [], [], [], []⟩

structure Around where
  pool : Option Pool
  startedAt : Instant
  now : Instant
  running : ℚ
  maxConnections : ℤ
  silenceSeconds : ℤ
  connected : Nat
  lastPacket : Option Instant

inductive Move
  /-- time passes -/
  | tick (clock : ℚ)
  /-- a request comes in, and its no-op has run on the loop or has not -/
  | asked (id : Nat) (loop : Probe)
  /-- a thread takes the lock of the cache -/
  | locked (id : Nat)
  /-- the probe of a thread has ended or has run out of time -/
  | probed (id : Nat) (result : Probe)
  /-- a thread builds its report -/
  | built (id : Nat) (around : Around)
  /-- a thread compares its level with the last one, and answers if it is the same -/
  | compared (id : Nat)
  /-- a thread prints its line, behind the lock, and answers -/
  | logged (id : Nat)

def failSeconds : ℚ := 3

/-- How long a probe is used again; a failure is tested again sooner. -/
def ttl (okSeconds : ℚ) (c : Cached) : ℚ := if c.ok then okSeconds else failSeconds

def Cached.check (c : Cached) (now : ℚ) : DbCheck := ⟨c.toProbe, rounded 1 (now - c.begun)⟩

namespace Desk

def put (d : Desk) (id : Nat) (asking : Asking) : Desk :=
  { d with threads := Function.update d.threads id (some asking) }

/-- `_db_check` up to the probe: a probe that is recent enough is used again. -/
def dbCheck (okSeconds : ℚ) (d : Desk) (id : Nat) (loop : Probe) : Desk :=
  match d.dbCache.filter fun c => d.clock - c.begun < ttl okSeconds c with
  | some c =>
      { d with checks := ⟨d.clock, c.check d.clock, d.probes⟩ :: d.checks }.put id
        (.checked loop (some (c.check d.clock)))
  | none => { d with dbLock := some id }.put id (.probing loop d.clock)

/-- The end of a probe: it is kept with the time it was begun, and the lock is given back. -/
def dbProbed (d : Desk) (id : Nat) (loop : Probe) (now : ℚ) (result : Probe) : Desk :=
  let kept : Cached := ⟨{ result with ms := result.ms.map (rounded 1) }, now⟩
  let check : DbCheck := ⟨kept.toProbe, 0⟩
  { d with
    dbCache := some kept
    dbLock := none
    probes := kept :: d.probes
    checks := ⟨now, check, kept :: d.probes⟩ :: d.checks }.put id (.checked loop (some check))

/-- The report of a thread. Without the event loop its findings do not look at the database. -/
def report (around : Around) (loop : Probe) (db : Option DbCheck) : Report :=
  getHealth around.maxConnections around.silenceSeconds
    ⟨loop, db.getD ⟨⟨false, none, none⟩, 0⟩, around.pool, around.startedAt, around.now,
      around.running⟩ around.connected around.lastPacket

/-- `_log_state_change` under its lock: a line for a change, none for the same level again. -/
def logStateChange (d : Desk) (id : Nat) (report : Report) : Desk :=
  let compared := { d with compared := report.status :: d.compared }
  if d.lastLoggedState = some report.status then compared.put id (.answered report)
  else
    let line : Line := ⟨d.lastLoggedState, report.status, report.reasons⟩
    { compared with
      lastLoggedState := some report.status
      lines := line :: d.lines }.put id (.logging report line)

def step (okSeconds : ℚ) (d : Desk) : Move → Option Desk
  | .tick clock => if d.clock ≤ clock then some { d with clock } else none
  | .asked id loop =>
      match d.threads id with
      | none => some (d.put id (if loop.ok then .looped loop else .checked loop none))
      | some _ => none
  | .locked id =>
      match d.threads id with
      | some (.looped loop) => if d.dbLock = none then some (d.dbCheck okSeconds id loop) else none
      | _ => none
  | .probed id result =>
      match d.threads id with
      | some (.probing loop now) => some (d.dbProbed id loop now result)
      | _ => none
  | .built id around =>
      match d.threads id with
      | some (.checked loop db) => some (d.put id (.built (report around loop db)))
      | _ => none
  | .compared id =>
      match d.threads id with
      | some (.built report) => some (d.logStateChange id report)
      | _ => none
  | .logged id =>
      match d.threads id with
      | some (.logging report line) =>
          some ({ d with log := line.text :: d.log }.put id (.answered report))
      | _ => none

end Desk

def answering : Probe := ⟨true, some 5, none⟩

def timedOut : Probe := ⟨false, none, some "timeout".toList⟩

def quiet : Around := ⟨none, 0, 1000000, 1, 100, 600, 1, some 0⟩

/-- Three requests: the first probes, the second comes in time to use its probe, and behind the
time of it the third one probes and fails, and prints its line before the first one does. -/
def visits : List Move :=
  [.asked 0 answering, .locked 0, .probed 0 answering, .built 0 quiet, .compared 0, .tick 5,
    .asked 1 answering, .locked 1, .built 1 quiet, .compared 1, .tick 10, .asked 2 answering,
    .locked 2, .probed 2 timedOut, .built 2 quiet, .compared 2, .logged 2, .logged 0]

theorem visits_run : (run (Desk.step 10) (.start 0) visits).isSome = true := by
  decide +kernel

def visited : Desk := (run (Desk.step 10) (.start 0) visits).get visits_run

theorem visited_reached : Reachable (Desk.step 10) (fun _ _ => True) (.start 0) visited :=
  reachable_of_free_run .start (Option.some_get visits_run).symm

section Parts

variable (d : Desk) (id : Nat) (asking : Asking)

@[simp] theorem put_clock : (d.put id asking).clock = d.clock := rfl
@[simp] theorem put_dbCache : (d.put id asking).dbCache = d.dbCache := rfl
@[simp] theorem put_dbLock : (d.put id asking).dbLock = d.dbLock := rfl
@[simp] theorem put_probes : (d.put id asking).probes = d.probes := rfl
@[simp] theorem put_checks : (d.put id asking).checks = d.checks := rfl
@[simp] theorem put_compared : (d.put id asking).compared = d.compared := rfl
@[simp] theorem put_lines : (d.put id asking).lines = d.lines := rfl
@[simp] theorem put_log : (d.put id asking).log = d.log := rfl
@[simp] theorem put_lastLoggedState :
    (d.put id asking).lastLoggedState = d.lastLoggedState := rfl

@[simp] theorem put_threads_self : (d.put id asking).threads id = some asking :=
  Function.update_self ..

theorem put_threads_ne {other : Nat} (distinct : other ≠ id) :
    (d.put id asking).threads other = d.threads other :=
  Function.update_of_ne distinct ..

end Parts

inductive Step (okSeconds : ℚ) (d : Desk) : Move → Desk → Prop
  | tick {clock : ℚ} (later : d.clock ≤ clock) : Step okSeconds d (.tick clock) { d with clock }
  | turns {id : Nat} {loop : Probe} (free : d.threads id = none) (turns : loop.ok = true) :
      Step okSeconds d (.asked id loop) (d.put id (.looped loop))
  | stuck {id : Nat} {loop : Probe} (free : d.threads id = none) (stuck : loop.ok = false) :
      Step okSeconds d (.asked id loop) (d.put id (.checked loop none))
  | reuse {id : Nat} {loop : Probe} {c : Cached} (at_ : d.threads id = some (.looped loop))
      (unlocked : d.dbLock = none) (kept : d.dbCache = some c)
      (recent : d.clock - c.begun < ttl okSeconds c) :
      Step okSeconds d (.locked id)
        ({ d with checks := ⟨d.clock, c.check d.clock, d.probes⟩ :: d.checks }.put id
          (.checked loop (some (c.check d.clock))))
  | lock {id : Nat} {loop : Probe} (at_ : d.threads id = some (.looped loop))
      (unlocked : d.dbLock = none)
      (old : ∀ c, d.dbCache = some c → ttl okSeconds c ≤ d.clock - c.begun) :
      Step okSeconds d (.locked id) ({ d with dbLock := some id }.put id (.probing loop d.clock))
  | probed {id : Nat} {loop result : Probe} {now : ℚ}
      (at_ : d.threads id = some (.probing loop now)) :
      Step okSeconds d (.probed id result) (d.dbProbed id loop now result)
  | built {id : Nat} {loop : Probe} {db : Option DbCheck} (around : Around)
      (at_ : d.threads id = some (.checked loop db)) :
      Step okSeconds d (.built id around) (d.put id (.built (Desk.report around loop db)))
  | same {id : Nat} {report : Report} (at_ : d.threads id = some (.built report))
      (same : d.lastLoggedState = some report.status) :
      Step okSeconds d (.compared id)
        ({ d with compared := report.status :: d.compared }.put id (.answered report))
  | changed {id : Nat} {report : Report} {line : Line} (at_ : d.threads id = some (.built report))
      (changed : d.lastLoggedState ≠ some report.status)
      (is : line = ⟨d.lastLoggedState, report.status, report.reasons⟩) :
      Step okSeconds d (.compared id)
        ({ d with
          compared := report.status :: d.compared
          lastLoggedState := some report.status
          lines := line :: d.lines }.put id (.logging report line))
  | logged {id : Nat} {report : Report} {line : Line}
      (at_ : d.threads id = some (.logging report line)) :
      Step okSeconds d (.logged id)
        ({ d with log := line.text :: d.log }.put id (.answered report))

theorem step_cases {okSeconds : ℚ} {d d' : Desk} {move : Move}
    (moves : d.step okSeconds move = some d') : Step okSeconds d move d' := by
  cases move with
  | tick clock =>
      rw [Desk.step] at moves
      split at moves
      · cases moves
        exact .tick ‹_›
      · cases moves
  | asked id loop =>
      simp only [Desk.step] at moves
      split at moves
      · next free =>
          cases moves
          split
          · exact .turns free ‹_›
          · exact .stuck free (Bool.eq_false_iff.mpr ‹_›)
      · cases moves
  | locked id =>
      simp only [Desk.step] at moves
      split at moves
      · next loop at_ =>
          split at moves
          · next unlocked =>
              cases moves
              rw [Desk.dbCheck]
              split
              · next c found =>
                  obtain ⟨kept, recent⟩ := Option.filter_eq_some_iff.mp found
                  exact .reuse at_ unlocked kept (by simpa using recent)
              · next none_ =>
                  refine .lock at_ unlocked ?_
                  intro c kept
                  simpa [kept] using none_
          · cases moves
      · cases moves
  | probed id result =>
      simp only [Desk.step] at moves
      split at moves
      · cases moves
        exact .probed ‹_›
      · cases moves
  | built id around =>
      simp only [Desk.step] at moves
      split at moves
      · cases moves
        exact .built around ‹_›
      · cases moves
  | compared id =>
      simp only [Desk.step] at moves
      split at moves
      · next report at_ =>
          cases moves
          rw [Desk.logStateChange]
          split
          · exact .same at_ ‹_›
          · exact .changed at_ ‹_› rfl
      · cases moves
  | logged id =>
      simp only [Desk.step] at moves
      split at moves
      · cases moves
        exact .logged ‹_›
      · cases moves

/-! ### Probes -/

/-- A check tells what the last probe came to: one that it made itself, or one that is recent. -/
def Check.Fair (okSeconds : ℚ) (k : Check) : Prop :=
  ∃ c, k.probes.head? = some c ∧ k.result.toProbe = c.toProbe ∧
    (k.time = c.begun ∧ k.result.cachedAge = 0 ∨
      k.time - c.begun < ttl okSeconds c ∧ k.result.cachedAge = rounded 1 (k.time - c.begun))

/-- The second probe was not begun before the first had lost its value. -/
def Spaced (okSeconds : ℚ) (newer older : Cached) : Prop :=
  ttl okSeconds older ≤ newer.begun - older.begun

def Asking.Backed (checks : List Check) : Asking → Prop
  | .checked loop db =>
      (loop.ok = true → db.isSome = true) ∧
        ∀ check, db = some check → ∃ k ∈ checks, k.result = check
  | .built report | .logging report _ | .answered report =>
      ∀ check pool, report.database = .checked check pool → ∃ k ∈ checks, k.result = check
  | _ => True

theorem Asking.Backed.mono {checks checks' : List Check} {asking : Asking}
    (backed : asking.Backed checks) (grown : checks <:+ checks') : asking.Backed checks' := by
  have wider : ∀ check, (∃ k ∈ checks, k.result = check) → ∃ k ∈ checks', k.result = check := by
    rintro check ⟨k, member, told⟩
    exact ⟨k, grown.subset member, told⟩
  cases asking with
  | checked loop db => exact ⟨backed.1, fun check known => wider check (backed.2 check known)⟩
  | built report => exact fun check pool told => wider check (backed check pool told)
  | logging report line => exact fun check pool told => wider check (backed check pool told)
  | answered report => exact fun check pool told => wider check (backed check pool told)
  | _ => trivial

theorem backed_report {checks : List Check} {loop : Probe} {db : Option DbCheck} {around : Around}
    (backed : (Asking.checked loop db).Backed checks) :
    (Asking.built (Desk.report around loop db)).Backed checks := by
  intro check pool told
  simp only [Desk.report, getHealth] at told
  split at told
  · next turns =>
      obtain ⟨known, rfl⟩ := Option.isSome_iff_exists.mp (backed.1 turns)
      obtain ⟨rfl, -⟩ := DatabaseReport.checked.inj told
      exact backed.2 known rfl
  · cases told

structure Sound (okSeconds : ℚ) (d : Desk) : Prop where
  cache : d.dbCache = d.probes.head?
  begun : ∀ c ∈ d.probes, c.begun ≤ d.clock
  spaced : d.probes.Pairwise (Spaced okSeconds)
  locked : ∀ id loop now, d.threads id = some (.probing loop now) → d.dbLock = some id ∧
    now ≤ d.clock ∧ ∀ c ∈ d.probes, ttl okSeconds c ≤ now - c.begun
  fair : ∀ k ∈ d.checks, k.Fair okSeconds ∧ k.probes <:+ d.probes
  backed : ∀ id asking, d.threads id = some asking → asking.Backed d.checks

section Steps

variable {okSeconds : ℚ} {d d' : Desk}

/-- A thread that goes on, with nobody new under the lock. -/
private theorem Sound.put {id : Nat} {asking : Asking} (sound : Sound okSeconds d)
    (outside : ∀ loop now, asking ≠ .probing loop now) (backed : asking.Backed d.checks) :
    Sound okSeconds (d.put id asking) := by
  refine ⟨sound.cache, sound.begun, sound.spaced, ?_, sound.fair, ?_⟩
  · intro other loop now at_
    by_cases here : other = id
    · subst here
      rw [put_threads_self] at at_
      exact absurd (Option.some.inj at_) (outside loop now)
    · rw [put_threads_ne _ _ _ here] at at_
      exact sound.locked other loop now at_
  · intro other asking' at_
    by_cases here : other = id
    · subst here
      rw [put_threads_self] at at_
      cases at_
      exact backed
    · rw [put_threads_ne _ _ _ here] at at_
      exact sound.backed other asking' at_

theorem Sound.old_enough (sound : Sound okSeconds d)
    (old : ∀ c, d.dbCache = some c → ttl okSeconds c ≤ d.clock - c.begun) :
    ∀ c ∈ d.probes, ttl okSeconds c ≤ d.clock - c.begun := by
  intro c member
  have spaced := sound.spaced
  have begun := sound.begun
  rw [sound.cache] at old
  cases probes : d.probes with
  | nil => simp [probes] at member
  | cons last earlier =>
      rw [probes] at member spaced begun old
      rcases List.mem_cons.mp member with rfl | before
      · exact old c rfl
      · have apart : ttl okSeconds c ≤ last.begun - c.begun :=
          (List.pairwise_cons.mp spaced).1 c before
        have past := begun last List.mem_cons_self
        linarith

theorem sound_step {move : Move} (sound : Sound okSeconds d) (moves : Step okSeconds d move d') :
    Sound okSeconds d' := by
  cases moves with
  | @tick clock later =>
      refine ⟨sound.cache, ?_, sound.spaced, ?_, sound.fair, sound.backed⟩
      · exact fun c member => (sound.begun c member).trans later
      · intro id loop now at_
        obtain ⟨holds, past, apart⟩ := sound.locked id loop now at_
        exact ⟨holds, past.trans later, apart⟩
  | turns free turns => exact sound.put (by simp) trivial
  | @stuck id loop free stuck =>
      refine sound.put (by simp) ⟨?_, by simp⟩
      intro turns
      rw [stuck] at turns
      cases turns
  | @reuse id loop c at_ unlocked kept recent =>
      have known := sound.cache.symm.trans kept
      have checked : Sound okSeconds
          { d with checks := ⟨d.clock, c.check d.clock, d.probes⟩ :: d.checks } := by
        refine ⟨sound.cache, sound.begun, sound.spaced, sound.locked, ?_, ?_⟩
        · intro k member
          rcases List.mem_cons.mp member with rfl | earlier
          · exact ⟨⟨c, known, rfl, .inr ⟨recent, rfl⟩⟩, List.suffix_refl _⟩
          · exact sound.fair k earlier
        · exact fun id asking at_ => (sound.backed id asking at_).mono (List.suffix_cons _ _)
      refine checked.put (by simp) ⟨fun _ => rfl, ?_⟩
      rintro _ ⟨⟩
      exact ⟨_, List.mem_cons_self, rfl⟩
  | @lock id loop at_ unlocked old =>
      refine ⟨sound.cache, sound.begun, sound.spaced, ?_, sound.fair, ?_⟩
      · intro other loop' now at_'
        by_cases here : other = id
        · subst here
          rw [put_threads_self] at at_'
          cases at_'
          exact ⟨rfl, le_refl d.clock, sound.old_enough old⟩
        · rw [put_threads_ne _ _ _ here] at at_'
          obtain ⟨holds, -⟩ := sound.locked other loop' now at_'
          rw [unlocked] at holds
          cases holds
      · intro other asking at_'
        by_cases here : other = id
        · subst here
          rw [put_threads_self] at at_'
          cases at_'
          trivial
        · rw [put_threads_ne _ _ _ here] at at_'
          exact sound.backed other asking at_'
  | @probed id loop result now at_ =>
      obtain ⟨holds, past, apart⟩ := sound.locked id loop now at_
      refine ⟨rfl, ?_, ?_, ?_, ?_, ?_⟩
      · intro c member
        rcases List.mem_cons.mp member with rfl | earlier
        · exact past
        · exact sound.begun c earlier
      · exact List.pairwise_cons.mpr ⟨fun c member => apart c member, sound.spaced⟩
      · intro other loop' now' at_'
        by_cases here : other = id
        · subst here
          rw [Desk.dbProbed, put_threads_self] at at_'
          cases at_'
        · rw [Desk.dbProbed, put_threads_ne _ _ _ here] at at_'
          have both := holds.symm.trans (sound.locked other loop' now' at_').1
          exact absurd (Option.some.inj both).symm here
      · intro k member
        rcases List.mem_cons.mp member with rfl | earlier
        · exact ⟨⟨_, rfl, rfl, .inl ⟨rfl, rfl⟩⟩, List.suffix_refl _⟩
        · obtain ⟨fair, before⟩ := sound.fair k earlier
          exact ⟨fair, before.trans (List.suffix_cons _ _)⟩
      · intro other asking at_'
        by_cases here : other = id
        · subst here
          rw [Desk.dbProbed, put_threads_self] at at_'
          cases at_'
          refine ⟨fun _ => rfl, ?_⟩
          rintro _ ⟨⟩
          exact ⟨_, List.mem_cons_self, rfl⟩
        · rw [Desk.dbProbed, put_threads_ne _ _ _ here] at at_'
          exact (sound.backed other asking at_').mono (List.suffix_cons _ _)
  | @built id loop db around at_ =>
      exact sound.put (by simp) (backed_report (sound.backed id _ at_))
  | @same id report at_ _ =>
      have told : (Asking.built report).Backed d.checks := sound.backed id _ at_
      refine Sound.put ?_ (by simp) told
      exact ⟨sound.cache, sound.begun, sound.spaced, sound.locked, sound.fair, sound.backed⟩
  | @changed id report line at_ _ _ =>
      have told : (Asking.built report).Backed d.checks := sound.backed id _ at_
      refine Sound.put ?_ (by simp) told
      exact ⟨sound.cache, sound.begun, sound.spaced, sound.locked, sound.fair, sound.backed⟩
  | @logged id report line at_ =>
      have told : (Asking.logging report line).Backed d.checks := sound.backed id _ at_
      refine Sound.put ?_ (by simp) told
      exact ⟨sound.cache, sound.begun, sound.spaced, sound.locked, sound.fair, sound.backed⟩

theorem sound {clock : ℚ} {permitted : Desk → Move → Prop}
    (reached : Reachable (Desk.step okSeconds) permitted (.start clock) d) : Sound okSeconds d := by
  refine reached.invariant ?_ fun _ _ _ sound _ moves => sound_step sound (step_cases moves)
  exact ⟨rfl, by simp [Desk.start], .nil, by simp [Desk.start], by simp [Desk.start],
    by simp [Desk.start]⟩

end Steps

def within (since until_ : ℚ) (probes : List Cached) : List Cached :=
  probes.filter fun c => since ≤ c.begun ∧ c.begun ≤ until_

theorem length_spaced {okSeconds since : ℚ} {last : Cached} {earlier : List Cached}
    (spaced : (last :: earlier).Pairwise (Spaced okSeconds))
    (begun : ∀ c ∈ last :: earlier, since ≤ c.begun) :
    earlier.length * min okSeconds failSeconds ≤ last.begun - since := by
  induction earlier generalizing last with
  | nil =>
      have own := begun last List.mem_cons_self
      simpa using own
  | cons c earlier ih =>
      obtain ⟨apart, spaced⟩ := List.pairwise_cons.mp spaced
      have rest := ih spaced fun c' member => begun c' (List.mem_cons_of_mem last member)
      have step : min okSeconds failSeconds ≤ last.begun - c.begun := by
        refine le_trans ?_ (apart c List.mem_cons_self)
        rw [ttl]
        split
        · exact min_le_left _ _
        · exact min_le_right _ _
      rw [List.length_cons, Nat.cast_succ, add_mul, one_mul]
      linarith

structure Economical (okSeconds : ℚ) (d : Desk) : Prop where
  spaced : d.probes.Pairwise (Spaced okSeconds)
  few : ∀ since until_, since ≤ until_ →
    ((within since until_ d.probes).length - 1 : ℕ) * min okSeconds failSeconds ≤ until_ - since
  alone : ∀ id id' loop loop' now now', d.threads id = some (.probing loop now) →
    d.threads id' = some (.probing loop' now') → id = id'
  told : ∀ id report check pool, d.threads id = some (.answered report) →
    report.database = .checked check pool →
    ∃ k ∈ d.checks, k.result = check ∧ k.Fair okSeconds ∧ k.probes <:+ d.probes

/-- However many threads ask, one at a time probes the database, no probe is begun while the last
one is still good, so that no span of time has more than its share of them, and a report tells what
the last probe before came to, which was made for it or was still good. -/
theorem economical {okSeconds clock : ℚ} {permitted : Desk → Move → Prop} {d : Desk}
    (reached : Reachable (Desk.step okSeconds) permitted (.start clock) d) :
    Economical okSeconds d := by
  have sound := sound reached
  refine ⟨sound.spaced, ?_, ?_, ?_⟩
  · intro since until_ ordered
    have spaced : (within since until_ d.probes).Pairwise (Spaced okSeconds) :=
      sound.spaced.sublist List.filter_sublist
    have bounds : ∀ c ∈ within since until_ d.probes, since ≤ c.begun ∧ c.begun ≤ until_ := by
      intro c member
      simpa using (List.mem_filter.mp member).2
    cases probes : within since until_ d.probes with
    | nil => simpa using ordered
    | cons last earlier =>
        rw [probes] at spaced bounds
        have few := length_spaced spaced fun c member => (bounds c member).1
        have ends := (bounds last List.mem_cons_self).2
        rw [List.length_cons, Nat.add_sub_cancel]
        linarith
  · intro id id' loop loop' now now' one other
    have both := (sound.locked id loop now one).1.symm.trans (sound.locked id' loop' now' other).1
    exact Option.some.inj both
  · intro id report check pool at_ told
    obtain ⟨k, member, same⟩ := sound.backed id _ at_ check pool told
    exact ⟨k, member, same, sound.fair k member⟩

theorem visited_economical : Economical 10 visited := economical visited_reached

/-! ### Lines -/

/-- The level is lowered exactly where there is a reason. -/
def Explained (f : Findings) : Prop := f.reasons = [] ↔ f.state = .ok

section Reasons

variable {f : Findings}

theorem explained_flag {level : Level} {reason : Text} (worse : 0 < level.rank) :
    Explained (f.flag level reason) := by
  have lowered : (f.flag level reason).state ≠ .ok := by
    intro same
    have rank : (f.flag level reason).state.rank = max f.state.rank level.rank := rank_flag
    rw [same] at rank
    have worst := Nat.le_max_right f.state.rank level.rank
    rw [← rank] at worst
    exact absurd (Nat.lt_of_lt_of_le worse worst) (Nat.lt_irrefl 0)
  have told : (f.flag level reason).reasons ≠ [] := by simp [Findings.flag]
  exact iff_of_false told lowered

theorem explained_ite {p : Prop} [Decidable p] {level : Level} {reason : Text}
    (worse : 0 < level.rank) (explained : Explained f) :
    Explained (if p then f.flag level reason else f) := by
  split
  · exact explained_flag worse
  · exact explained

theorem explained_checkDatabase (db : DbCheck) (explained : Explained f) :
    Explained (checkDatabase db f) := by
  rw [checkDatabase]
  split
  · exact explained_flag Nat.two_pos
  · split
    · exact explained_ite Nat.one_pos explained
    · exact explained

theorem explained_checkPool (pool : Option Pool) (explained : Explained f) :
    Explained (checkPool pool f) := by
  unfold checkPool
  split
  · exact explained_ite Nat.one_pos explained
  · exact explained

theorem explained_getHealth (maxConnections silenceSeconds : ℤ) (sight : Sight) (connected : Nat)
    (lastPacket : Option Instant) :
    (getHealth maxConnections silenceSeconds sight connected lastPacket).reasons = [] ↔
      (getHealth maxConnections silenceSeconds sight connected lastPacket).status = .ok := by
  have served : Explained (checkLoop sight.loop ⟨.ok, []⟩) := by
    rw [checkLoop]
    split
    · exact iff_of_true rfl rfl
    · exact explained_flag Nat.two_pos
  have stored : Explained (if sight.loop.ok then checkPool sight.pool (checkDatabase sight.db
      (checkLoop sight.loop ⟨.ok, []⟩)) else checkLoop sight.loop ⟨.ok, []⟩) := by
    split
    · exact explained_checkPool _ (explained_checkDatabase _ served)
    · exact served
  exact explained_ite Nat.one_pos (explained_ite Nat.one_pos stored)

end Reasons

def Asking.Explained : Asking → Prop
  | .built report => report.reasons = [] ↔ report.status = .ok
  | _ => True

/-- The levels of lines, each as the level before the next line. -/
def told (lines : List Line) : List (Option Level) := lines.map fun l : Line => some l.state

/-- The lines that threads have made and not yet printed, with their threads. -/
structure Awaiting (d : Desk) (pending : List (Nat × Line)) : Prop where
  once : (pending.map Prod.fst).Nodup
  exactly : ∀ id line, (id, line) ∈ pending ↔ ∃ report, d.threads id = some (.logging report line)

structure Logged (d : Desk) : Prop where
  last : d.lastLoggedState = d.compared.head?
  states : d.lines.map Line.state = d.compared.destutter (· ≠ ·)
  previous : d.lines.map Line.previous = (told d.lines ++ [none]).tail
  reasons : ∀ l ∈ d.lines, l.reasons = [] ↔ l.state = .ok
  built : ∀ id asking, d.threads id = some asking → asking.Explained

/-- Each line has been printed, or is about to be. -/
def Printed (d : Desk) : Prop :=
  ∃ pending, Awaiting d pending ∧
    (d.log ++ pending.map fun p : Nat × Line => p.2.text).Perm (d.lines.map Line.text)

section Logs

variable {okSeconds : ℚ} {d d' : Desk}

theorem head_destutter {α : Type} [DecidableEq α] (l : List α) :
    (l.destutter (· ≠ ·)).head? = l.head? := by
  cases l with
  | nil => rfl
  | cons x l =>
      induction l generalizing x with
      | nil => rfl
      | cons y l ih =>
          rw [List.destutter_cons_cons]
          split
          · rfl
          · next same =>
              obtain rfl := not_not.mp same
              exact ih x

/-- A level that is compared adds a line exactly if it differs from the one before it. -/
theorem destutter_cons_head {α : Type} [DecidableEq α] (x : α) (l : List α) :
    (x :: l).destutter (· ≠ ·) =
      if l.head? = some x then l.destutter (· ≠ ·) else x :: l.destutter (· ≠ ·) := by
  cases l with
  | nil => rfl
  | cons y l =>
      rw [List.destutter_cons_cons]
      by_cases same : y = x
      · subst same
        simp [List.destutter_cons']
      · simp [same, Ne.symm same, List.destutter_cons']

private theorem Logged.put {id : Nat} {asking : Asking} (logged : Logged d)
    (explained : asking.Explained) : Logged (d.put id asking) := by
  refine ⟨logged.last, logged.states, logged.previous, logged.reasons, ?_⟩
  intro other asking' at_
  by_cases here : other = id
  · subst here
    rw [put_threads_self] at at_
    cases at_
    exact explained
  · rw [put_threads_ne _ _ _ here] at at_
    exact logged.built other asking' at_

theorem logged_changed (logged : Logged d) {report : Report} {line : Line}
    (explained : report.reasons = [] ↔ report.status = .ok)
    (changed : d.lastLoggedState ≠ some report.status)
    (is : line = ⟨d.lastLoggedState, report.status, report.reasons⟩) :
    Logged { d with
      compared := report.status :: d.compared
      lastLoggedState := some report.status
      lines := line :: d.lines } := by
  obtain ⟨last, states, previous, reasons, built⟩ := logged
  subst is
  have newest : d.lastLoggedState = (d.lines.map Line.state).head? := by
    rw [states, head_destutter, last]
  refine ⟨rfl, ?_, ?_, ?_, built⟩
  · rw [destutter_cons_head, ← last, if_neg changed, List.map_cons, states]
  · rw [List.map_cons, previous, newest]
    cases d.lines with
    | nil => rfl
    | cons l lines => rfl
  · intro l member
    rcases List.mem_cons.mp member with rfl | earlier
    · exact explained
    · exact reasons l earlier

theorem logged_step {move : Move} (logged : Logged d) (moves : Step okSeconds d move d') :
    Logged d' := by
  have ⟨last, states, previous, reasons, built⟩ := logged
  cases moves with
  | tick later => exact ⟨last, states, previous, reasons, built⟩
  | turns free turns => exact logged.put trivial
  | stuck free stuck => exact logged.put trivial
  | reuse at_ unlocked kept recent =>
      refine Logged.put ⟨last, states, previous, reasons, built⟩ ?_
      trivial
  | lock at_ unlocked old =>
      refine Logged.put ⟨last, states, previous, reasons, built⟩ ?_
      trivial
  | probed at_ =>
      refine Logged.put ⟨last, states, previous, reasons, built⟩ ?_
      trivial
  | built around at_ => exact logged.put (explained_getHealth _ _ _ _ _)
  | same at_ same =>
      refine Logged.put ⟨same, ?_, previous, reasons, built⟩ ?_
      · rw [destutter_cons_head, ← last, if_pos same, states]
      · trivial
  | @changed id report line at_ changed is =>
      have explained : report.reasons = [] ↔ report.status = .ok := logged.built id _ at_
      refine Logged.put (logged_changed logged explained changed is) ?_
      trivial
  | logged at_ =>
      refine Logged.put ⟨last, states, previous, reasons, built⟩ ?_
      trivial

private theorem Awaiting.put {pending : List (Nat × Line)} {id : Nat} {asking : Asking}
    (awaiting : Awaiting d pending)
    (before : ∀ report line, d.threads id ≠ some (.logging report line))
    (after : ∀ report line, asking ≠ .logging report line) :
    Awaiting (d.put id asking) pending := by
  refine ⟨awaiting.once, ?_⟩
  intro other line
  rw [awaiting.exactly]
  by_cases here : other = id
  · subst here
    rw [put_threads_self]
    apply iff_of_false
    · rintro ⟨report, at_⟩
      exact before report line at_
    · rintro ⟨report, at_⟩
      exact after report line (Option.some.inj at_)
  · rw [put_threads_ne _ _ _ here]

private theorem Awaiting.made {pending : List (Nat × Line)} {id : Nat} {report : Report}
    {line : Line} (awaiting : Awaiting d pending)
    (before : ∀ report line, d.threads id ≠ some (.logging report line)) :
    Awaiting (d.put id (.logging report line)) ((id, line) :: pending) := by
  have fresh : id ∉ pending.map Prod.fst := by
    intro member
    obtain ⟨⟨_, line'⟩, inside, rfl⟩ := List.mem_map.mp member
    obtain ⟨report', at_⟩ := (awaiting.exactly _ line').mp inside
    exact before report' line' at_
  refine ⟨List.nodup_cons.mpr ⟨fresh, awaiting.once⟩, ?_⟩
  intro other line'
  rw [List.mem_cons, Prod.mk.injEq, awaiting.exactly]
  by_cases here : other = id
  · subst here
    rw [put_threads_self]
    constructor
    · rintro (⟨-, rfl⟩ | ⟨report', at_⟩)
      · exact ⟨report, rfl⟩
      · exact absurd at_ (before report' line')
    · rintro ⟨report', at_⟩
      cases at_
      exact .inl ⟨rfl, rfl⟩
  · rw [put_threads_ne _ _ _ here]
    simp [here]

private theorem Awaiting.printed {pending : List (Nat × Line)} {id : Nat} {report : Report}
    {line : Line} (awaiting : Awaiting d pending)
    (at_ : d.threads id = some (.logging report line)) :
    ∃ rest, Awaiting (d.put id (.answered report)) rest ∧ pending.Perm ((id, line) :: rest) := by
  have inside : (id, line) ∈ pending := (awaiting.exactly id line).mpr ⟨report, at_⟩
  obtain ⟨front, back, rfl⟩ := List.append_of_mem inside
  have moved : (front ++ (id, line) :: back).Perm ((id, line) :: (front ++ back)) :=
    List.perm_middle
  have once : (id :: (front ++ back).map Prod.fst).Nodup :=
    (moved.map Prod.fst).nodup_iff.mp awaiting.once
  obtain ⟨fresh, once⟩ := List.nodup_cons.mp once
  refine ⟨front ++ back, ⟨once, ?_⟩, moved⟩
  intro other line'
  by_cases here : other = id
  · subst here
    rw [put_threads_self]
    apply iff_of_false
    · exact fun member => fresh (List.mem_map_of_mem member)
    · rintro ⟨report', said⟩
      cases said
  · rw [put_threads_ne _ _ _ here, ← awaiting.exactly, moved.mem_iff]
    simp [here]

theorem printed_step {move : Move} (printed : Printed d) (moves : Step okSeconds d move d') :
    Printed d' := by
  obtain ⟨pending, awaiting, all⟩ := printed
  have ⟨once, exactly⟩ := awaiting
  cases moves with
  | tick later => exact ⟨pending, ⟨once, exactly⟩, all⟩
  | turns free turns => exact ⟨pending, awaiting.put (by simp [free]) (by simp), all⟩
  | stuck free stuck => exact ⟨pending, awaiting.put (by simp [free]) (by simp), all⟩
  | reuse at_ unlocked kept recent =>
      exact ⟨pending, Awaiting.put ⟨once, exactly⟩ (by simp [at_]) (by simp), all⟩
  | lock at_ unlocked old =>
      exact ⟨pending, Awaiting.put ⟨once, exactly⟩ (by simp [at_]) (by simp), all⟩
  | probed at_ => exact ⟨pending, Awaiting.put ⟨once, exactly⟩ (by simp [at_]) (by simp), all⟩
  | built around at_ => exact ⟨pending, awaiting.put (by simp [at_]) (by simp), all⟩
  | same at_ same => exact ⟨pending, Awaiting.put ⟨once, exactly⟩ (by simp [at_]) (by simp), all⟩
  | @changed id report line at_ changed is =>
      refine ⟨(id, line) :: pending, Awaiting.made ⟨once, exactly⟩ (by simp [at_]), ?_⟩
      exact List.perm_middle.trans (all.cons _)
  | @logged id report line at_ =>
      obtain ⟨rest, awaits, taken⟩ :=
        Awaiting.printed (d := { d with log := line.text :: d.log }) ⟨once, exactly⟩ at_
      refine ⟨rest, awaits, ?_⟩
      have texts := taken.map fun p : Nat × Line => p.2.text
      exact (List.perm_middle.symm.trans (texts.symm.append_left d.log)).trans all

/-- Each change of the level is told once: the lines are the levels of the reports without
repetitions, each line names the level of the line before, the best level is the one that comes
without reasons, and what is printed, in whatever order, are these lines, but for those that their
threads have not yet printed. -/
theorem lines_tell {clock : ℚ} {permitted : Desk → Move → Prop}
    (reached : Reachable (Desk.step okSeconds) permitted (.start clock) d) :
    d.lines.map Line.state = d.compared.destutter (· ≠ ·) ∧
      d.lines.map Line.previous = (told d.lines ++ [none]).tail ∧
      (∀ l ∈ d.lines, l.reasons = [] ↔ l.state = .ok) ∧ Printed d := by
  have logged : Logged d := by
    refine reached.invariant ?_ fun _ _ _ logged _ moves => logged_step logged (step_cases moves)
    exact ⟨rfl, rfl, rfl, by simp [Desk.start], by simp [Desk.start]⟩
  have printed : Printed d := by
    refine reached.invariant ?_ fun _ _ _ printed _ moves => printed_step printed (step_cases moves)
    exact ⟨[], ⟨.nil, by simp [Desk.start]⟩, .refl _⟩
  exact ⟨logged.states, logged.previous, logged.reasons, printed⟩

theorem visited_lines_tell :
    visited.lines.map Line.state = visited.compared.destutter (· ≠ ·) ∧
      visited.lines.map Line.previous = (told visited.lines ++ [none]).tail ∧
      (∀ l ∈ visited.lines, l.reasons = [] ↔ l.state = .ok) ∧ Printed visited ∧
      visited.log = (visited.lines.map Line.text).reverse :=
  have ⟨states, previous, reasons, printed⟩ := lines_tell visited_reached
  ⟨states, previous, reasons, printed, by decide +kernel⟩

end Logs

end TrackerGateway.Services.HealthChecks
