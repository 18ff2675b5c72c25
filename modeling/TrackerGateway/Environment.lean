/- module: TrackerGateway/Environment
   source: src/config.py
   digest: The settings a process reads from its environment, and the families they name. -/

import TrackerGateway.Config
import TrackerGateway.Foundation.Wire.Numeral

set_option autoImplicit false
set_option relaxedAutoImplicit false

namespace TrackerGateway

open Foundation.Wire

/-- The variables of a process, by their names. -/
abbrev Environment := Text → Option Text

namespace Environment

variable (env : Environment)

/-- `os.getenv` with a default. -/
def getenv (name default : String) : Text := (env name.toList).getD default.toList

/-- `int(os.getenv(..))`; a text that is no integer ends the start of the process. -/
def intSetting (name default : String) : Option ℤ := parseInt (env.getenv name default)

def floatSetting (name default : String) : Option Number := parseFloat (env.getenv name default)

/-- `_int_env`: a text that is no integer counts as the default. -/
def intEnv (name : String) (default : ℤ) : ℤ :=
  match env name.toList with
  | some text => (parseInt text).getD default
  | none => default

def isTrue (text : Text) : Bool := lowerText text = "true".toList

def allProtocols : List Family := [.gt06, .gps103, .teltonika]

/-- `ENABLED_PROTOCOLS_REQUESTED`: the names between the commas, trimmed and in capitals. -/
def enabledProtocolsRequested : List Text :=
  (((env.getenv "ENABLED_PROTOCOLS" "GT06,GPS103").splitOn ',').filter
    fun name => !(stripText name).isEmpty).map fun name => upperText (stripText name)

/-- `ENABLED_PROTOCOLS`: unknown names are ignored. -/
def enabledProtocols : List Family :=
  allProtocols.filter fun family => env.enabledProtocolsRequested.contains family.name

/-- The mode of the name; any other name means the selective one. -/
def rawPacketMode : RawPacketMode :=
  let mode := lowerText (stripText (env.getenv "RAW_PACKET_MODE" "selective"))
  if mode = "off".toList then .off else if mode = "all".toList then .all else .selective

/-- `min(1.0, max(0.0, x))`; a comparison with not-a-number keeps the zero. -/
def clampRate : Number → ℚ
  | .finite q => min 1 (max 0 q)
  | .infinite negative => if negative then 0 else 1
  | .nan => 0

def rawPacketSampleRate : ℚ :=
  ((env.floatSetting "RAW_PACKET_SAMPLE_RATE" "0.02").map clampRate).getD (binary64 (2 / 100))

/-- The settings of a process, if it starts. Some of the numbers that have to be there are used by
code that is not modelled. -/
def settings : Option Config := do
  let _ ← env.intSetting "PORT" "9000"
  let _ ← env.intSetting "CONNECTION_TIMEOUT" "300"
  let maxConnections ← env.intSetting "MAX_CONNECTIONS" "500"
  let _ ← env.floatSetting "PROBE_TIMEOUT" "1.0"
  let gps103MaxUnframedBytes ← env.intSetting "GPS103_MAX_UNFRAMED_BYTES" "2048"
  let teltonikaMaxPacketBytes ← env.intSetting "TELTONIKA_MAX_PACKET_BYTES" "4096"
  let teltonikaMaxFutureSeconds ← env.intSetting "TELTONIKA_MAX_FUTURE_SECONDS" "600"
  let _ ← env.intSetting "DB_POOL_MIN" "5"
  let _ ← env.intSetting "DB_POOL_MAX" "150"
  let _ ← env.intSetting "LOW_BATTERY_THRESHOLD" "2"
  let _ ← env.intSetting "OVERSPEED_THRESHOLD" "80"
  let cfg : Config := {
    maxConnections
    enabledProtocols := env.enabledProtocols
    gps103SpeedInKmh := isTrue (env.getenv "GPS103_SPEED_IN_KMH" "false")
    gps103MaxUnframedBytes
    gps103PollSeconds := 0
    gps103PollIdleSeconds := 0
    teltonikaMaxPacketBytes
    teltonikaMaxFutureSeconds
    rawPacketMode := env.rawPacketMode
    rawPacketSampleRate := env.rawPacketSampleRate
    gpsTrackingIdempotent := isTrue (stripText (env.getenv "GPS_TRACKING_IDEMPOTENT" "false")) }
  return cfg.withPolling (env.intEnv "GPS103_POLL_SECONDS" 0)
    (env.intEnv "GPS103_POLL_IDLE_SECONDS" 300)

/-- The family is named between two commas, in any case and with any blanks around it. -/
def Lists (family : Family) : Prop :=
  ∃ name ∈ (env.getenv "ENABLED_PROTOCOLS" "GT06,GPS103").splitOn ',',
    upperText (stripText name) = family.name

end Environment

deriving instance DecidableEq for Config

/-- Without variables the settings are the defaults. -/
example : Environment.settings (fun _ => none) = some defaults := by decide +kernel

section Laws

variable {env : Environment} {cfg : Config} {family : Family}

namespace Environment

theorem mem_enabledProtocols : family ∈ env.enabledProtocols ↔ env.Lists family := by
  have known : family ∈ allProtocols := by
    cases family <;> decide
  have named : (family.name).isEmpty = false := by
    cases family <;> rfl
  simp only [enabledProtocols, List.mem_filter, known, true_and, List.contains_iff_mem,
    enabledProtocolsRequested, List.mem_map, Lists]
  constructor
  · rintro ⟨name, ⟨member, -⟩, same⟩
    exact ⟨name, member, same⟩
  · rintro ⟨name, member, same⟩
    refine ⟨name, ⟨member, ?_⟩, same⟩
    cases blank : stripText name with
    | nil =>
        rw [blank] at same
        rw [← same] at named
        cases named
    | cons c rest => rfl

theorem clampRate_bounds (x : Number) : 0 ≤ clampRate x ∧ clampRate x ≤ 1 := by
  cases x with
  | finite q => exact ⟨le_min zero_le_one (le_max_left 0 q), min_le_left 1 _⟩
  | infinite negative => cases negative <;> simp [clampRate]
  | nan => simp [clampRate]

theorem rawPacketSampleRate_bounds :
    0 ≤ env.rawPacketSampleRate ∧ env.rawPacketSampleRate ≤ 1 := by
  rw [rawPacketSampleRate]
  cases env.floatSetting "RAW_PACKET_SAMPLE_RATE" "0.02" with
  | none =>
      have between := binary64_between 0 1 (q := 2 / 100) (by norm_num) (by norm_num) (by norm_num)
      exact ⟨by exact_mod_cast between.1, by exact_mod_cast between.2⟩
  | some x => exact clampRate_bounds x

theorem settings_eq_some (starts : env.settings = some cfg) :
    cfg.enabledProtocols = env.enabledProtocols ∧
      cfg.rawPacketSampleRate = env.rawPacketSampleRate ∧
      ∃ before : Config, cfg = before.withPolling (env.intEnv "GPS103_POLL_SECONDS" 0)
        (env.intEnv "GPS103_POLL_IDLE_SECONDS" 300) := by
  simp only [settings, Option.bind_eq_bind, Option.bind_eq_some_iff, Option.pure_def,
    Option.some.injEq] at starts
  obtain ⟨_, -, _, -, _, -, _, -, _, -, _, -, _, -, _, -, _, -, _, -, _, -, rfl⟩ := starts
  exact ⟨rfl, rfl, _, rfl⟩

theorem pollSeconds_bounds (starts : env.settings = some cfg) :
    (cfg.gps103PollSeconds = 0 ∨ 10 ≤ cfg.gps103PollSeconds) ∧
      cfg.gps103PollSeconds ≤ cfg.gps103PollIdleSeconds := by
  obtain ⟨-, -, before, rfl⟩ := settings_eq_some starts
  refine ⟨?_, before.withPolling_le _ _⟩
  rw [Config.withPolling]
  dsimp only
  split
  · exact .inl rfl
  · exact .inr (le_max_left 10 _)

end Environment

end Laws

end TrackerGateway
