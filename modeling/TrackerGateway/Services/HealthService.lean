/- module: TrackerGateway/Services/HealthService
   source: src/services/health_service.py
   digest: The health report: its checks, the worst of their levels and the reasons they give. -/

import TrackerGateway.Config
import TrackerGateway.Foundation.Wire.Binary64
import TrackerGateway.Foundation.Wire.Calendar
import TrackerGateway.Foundation.Wire.Texts

set_option autoImplicit false
set_option relaxedAutoImplicit false

namespace TrackerGateway.Services.HealthService

open Foundation.Wire (Text Instant binary64 roundTo decimalInt)

inductive Level
  | ok | degraded | down
  deriving DecidableEq

def Level.rank : Level → Nat
  | .ok => 0
  | .degraded => 1
  | .down => 2

/-- What a coroutine on the main loop came to: whether it ended in time, after how many
milliseconds, or why it did not. -/
structure Probe where
  ok : Bool
  ms : Option ℚ
  error : Option Text

structure DbCheck extends Probe where
  cachedAge : ℚ

structure Pool where
  size : Nat
  idle : Nat
  max : Nat

inductive DatabaseReport
  | skipped
  | checked (check : DbCheck) (pool : Option Pool)

structure Report where
  status : Level
  reasons : List Text
  eventLoop : Probe
  database : DatabaseReport
  devicesConnected : Nat
  lastPacketAge : Option ℚ
  uptime : ℤ

/-- The worst level so far, and the reasons in the order they were found. -/
structure Findings where
  state : Level
  reasons : List Text

def Findings.flag (f : Findings) (level : Level) (reason : Text) : Findings where
  state := if f.state.rank < level.rank then level else f.state
  reasons := f.reasons ++ [reason]

/-- `round(value, places)` of the double nearest to a value. -/
def rounded (places : Nat) (value : ℚ) : ℚ := roundTo places (binary64 value)

def slowDbMs : ℚ := 1500

def capacityWarnRatio : ℚ := binary64 (9 / 10)

def errorName (error : Option Text) : Text := error.getD "None".toList

def checkLoop (loop : Probe) (f : Findings) : Findings :=
  if loop.ok then f
  else f.flag .down ("event loop not responding (".toList ++ errorName loop.error ++
    ") - device sockets are not being served".toList)

def checkDatabase (db : DbCheck) (f : Findings) : Findings :=
  if !db.ok then
    f.flag .down ("database unreachable (".toList ++ errorName db.error ++
      ") - location data cannot be saved".toList)
  else
    match db.ms with
    | some ms =>
        if slowDbMs < ms then
          f.flag .degraded ("database slow (".toList ++ decimalInt ⌊ms⌋ ++
            " ms for SELECT 1)".toList)
        else f
    | none => f

def checkPool (pool : Option Pool) (f : Findings) : Findings :=
  match pool with
  | some pool =>
      if pool.max ≠ 0 ∧ pool.idle = 0 ∧ pool.max ≤ pool.size then
        f.flag .degraded ("database pool exhausted (".toList ++ decimalInt pool.size ++ ['/'] ++
          decimalInt pool.max ++ " connections in use)".toList)
      else f
  | none => f

def checkCapacity (maxConnections : ℤ) (connected : Nat) (f : Findings) : Findings :=
  if 0 < maxConnections ∧ binary64 (binary64 maxConnections * capacityWarnRatio) ≤ connected then
    f.flag .degraded (decimalInt connected ++ " devices connected, near the ".toList ++
      decimalInt maxConnections ++ " connection limit".toList)
  else f

/-- Before the first packet the silence is measured from the start of the process. -/
def silentFor (lastPacket : Option Instant) (startedAt now : Instant) : ℤ :=
  now - lastPacket.getD startedAt

def silenceReason (lastPacket : Option Instant) (startedAt now : Instant) : Text :=
  let minutes := decimalInt (silentFor lastPacket startedAt now / 60000000)
  match lastPacket with
  | some _ => "no valid packet from any device for ".toList ++ minutes ++ " min".toList
  | none => "no valid packet from any device since the gateway started ".toList ++ minutes ++
      " min ago".toList

def checkSilence (silenceSeconds : ℤ) (lastPacket : Option Instant) (startedAt now : Instant)
    (f : Findings) : Findings :=
  if silenceSeconds * 1000000 < silentFor lastPacket startedAt now then
    f.flag .degraded (silenceReason lastPacket startedAt now)
  else f

structure Sight where
  loop : Probe
  db : DbCheck
  pool : Option Pool
  startedAt : Instant
  now : Instant
  /-- seconds on the monotonic clock -/
  running : ℚ

/-- Without the event loop the database is not asked. -/
def findings (maxConnections silenceSeconds : ℤ) (sight : Sight) (connected : Nat)
    (lastPacket : Option Instant) : Findings :=
  let served := checkLoop sight.loop ⟨.ok, []⟩
  let stored :=
    if sight.loop.ok then checkPool sight.pool (checkDatabase sight.db served) else served
  checkSilence silenceSeconds lastPacket sight.startedAt sight.now
    (checkCapacity maxConnections connected stored)

def getHealth (maxConnections silenceSeconds : ℤ) (sight : Sight) (connected : Nat)
    (lastPacket : Option Instant) : Report :=
  let found := findings maxConnections silenceSeconds sight connected lastPacket
  { status := found.state
    reasons := found.reasons
    eventLoop := { sight.loop with ms := sight.loop.ms.map (rounded 2) }
    database := if sight.loop.ok then .checked sight.db sight.pool else .skipped
    devicesConnected := connected
    lastPacketAge := lastPacket.map fun last => rounded 1 ((sight.now - last : ℤ) / 1000000 : ℚ)
    uptime := ⌊sight.running⌋ }

section Laws

variable (maxConnections : ℤ) (connected : Nat) {silenceSeconds : ℤ} {sight : Sight}
  {lastPacket : Option Instant} {f : Findings} {level : Level} {reason : Text}

theorem Level.rank_inj {one other : Level} (same : one.rank = other.rank) : one = other := by
  cases one <;> cases other <;> first | rfl | cases same

@[simp] theorem rank_flag : (f.flag level reason).state.rank = max f.state.rank level.rank := by
  have worse := Nat.lt_or_ge f.state.rank level.rank
  rcases worse with worse | kept
  · rw [Findings.flag, if_pos worse, Nat.max_eq_right (Nat.le_of_lt worse)]
  · rw [Findings.flag, if_neg (Nat.not_lt.mpr kept), Nat.max_eq_left kept]

theorem rank_checkCapacity : (checkCapacity maxConnections connected f).state.rank ≤
    max f.state.rank Level.degraded.rank := by
  rw [checkCapacity]
  split
  · rw [rank_flag]
  · exact Nat.le_max_left _ _

theorem rank_checkPool (pool : Option Pool) :
    (checkPool pool f).state.rank ≤ max f.state.rank Level.degraded.rank := by
  unfold checkPool
  split
  · split
    · rw [rank_flag]
    · exact Nat.le_max_left _ _
  · exact Nat.le_max_left _ _

theorem rank_checkDatabase {db : DbCheck} (answers : db.ok = true) :
    (checkDatabase db f).state.rank ≤ max f.state.rank Level.degraded.rank := by
  rw [checkDatabase, answers]
  split
  · contradiction
  · split
    · split
      · rw [rank_flag]
      · exact Nat.le_max_left _ _
    · exact Nat.le_max_left _ _

/-- What is found before the silence is measured, when the loop and the database answer. -/
theorem rank_before_silence (turns : sight.loop.ok = true) (answers : sight.db.ok = true) :
    (checkCapacity maxConnections connected (checkPool sight.pool
      (checkDatabase sight.db (checkLoop sight.loop ⟨.ok, []⟩)))).state.rank ≤
      Level.degraded.rank := by
  have served : checkLoop sight.loop ⟨.ok, []⟩ = ⟨.ok, []⟩ := if_pos turns
  rw [served]
  have asked := rank_checkDatabase (f := ⟨.ok, []⟩) answers
  have pooled := rank_checkPool (f := checkDatabase sight.db ⟨.ok, []⟩) sight.pool
  have counted := rank_checkCapacity maxConnections connected
    (f := checkPool sight.pool (checkDatabase sight.db ⟨.ok, []⟩))
  simp only [Level.rank] at asked pooled counted ⊢
  omega

variable (silent : silenceSeconds * 1000000 < silentFor lastPacket sight.startedAt sight.now)

include silent

theorem silence_reported :
    silenceReason lastPacket sight.startedAt sight.now ∈
        (getHealth maxConnections silenceSeconds sight connected lastPacket).reasons ∧
      Level.degraded.rank ≤
        (getHealth maxConnections silenceSeconds sight connected lastPacket).status.rank := by
  simp only [getHealth, findings, checkSilence, if_pos silent]
  refine ⟨?_, ?_⟩
  · rw [Findings.flag]
    exact List.mem_append_right _ List.mem_cons_self
  · rw [rank_flag]
    exact Nat.le_max_right _ _

theorem silence_degrades (turns : sight.loop.ok = true) (answers : sight.db.ok = true) :
    (getHealth maxConnections silenceSeconds sight connected lastPacket).status = .degraded := by
  have before := rank_before_silence maxConnections connected turns answers
  apply Level.rank_inj
  simp only [getHealth, findings, checkSilence, if_pos silent, turns, if_true, rank_flag]
  exact Nat.max_eq_right before

end Laws

end TrackerGateway.Services.HealthService
