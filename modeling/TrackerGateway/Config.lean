/- module: TrackerGateway/Config
   source: src/config.py, src/protocols/detect.py
   digest: The settings the gateway reads and the wire families it can speak. -/

import TrackerGateway.Foundation.Wire.Binary64
import TrackerGateway.Foundation.Wire.Bytes

set_option autoImplicit false
set_option relaxedAutoImplicit false

namespace TrackerGateway

open Foundation.Wire (Text Bytes slice)

/-- The device families that share the port. -/
inductive Family
  | gt06 | gps103 | teltonika
  deriving DecidableEq, Repr

/-- The name a family has in the settings and in the database. -/
def Family.name : Family → Text
  | .gt06 => "GT06".toList
  | .gps103 => "GPS103".toList
  | .teltonika => "TELTONIKA".toList

/-- Which packets leave their bytes in the `RawPackets` table. -/
inductive RawPacketMode
  | all | selective | off
  deriving DecidableEq, Repr

/-- The environment settings the modelled code reads. -/
structure Config where
  maxConnections : ℤ
  enabledProtocols : List Family
  gps103SpeedInKmh : Bool
  gps103MaxUnframedBytes : ℤ
  gps103PollSeconds : ℤ
  gps103PollIdleSeconds : ℤ
  teltonikaMaxPacketBytes : ℤ
  teltonikaMaxFutureSeconds : ℤ
  rawPacketMode : RawPacketMode
  rawPacketSampleRate : ℚ
  gpsTrackingIdempotent : Bool

/-- The settings of a process started with an empty environment. -/
def defaults : Config where
  maxConnections := 500
  enabledProtocols := [.gt06, .gps103]
  gps103SpeedInKmh := false
  gps103MaxUnframedBytes := 2048
  gps103PollSeconds := 0
  gps103PollIdleSeconds := 300
  teltonikaMaxPacketBytes := 4096
  teltonikaMaxFutureSeconds := 600
  rawPacketMode := .selective
  rawPacketSampleRate := Foundation.Wire.binary64 (2 / 100)
  gpsTrackingIdempotent := false

/-- `GPS103_POLL_SECONDS` and `GPS103_POLL_IDLE_SECONDS`, from the integers of the environment. -/
def Config.withPolling (cfg : Config) (poll idle : ℤ) : Config :=
  let pollSeconds := if poll ≤ 0 then 0 else max 10 poll
  { cfg with
    gps103PollSeconds := pollSeconds
    gps103PollIdleSeconds := max pollSeconds idle }

/-- A parked device is never asked more often than a moving one. -/
theorem Config.withPolling_le (cfg : Config) (poll idle : ℤ) :
    (cfg.withPolling poll idle).gps103PollSeconds ≤
      (cfg.withPolling poll idle).gps103PollIdleSeconds :=
  le_max_left _ _

/-- The family whose signature the first bytes carry, enabled or not. -/
def sniff (firstBytes : Bytes) : Option Family :=
  if firstBytes.isEmpty then none
  else if firstBytes.take 2 = [0x78, 0x78] ∨ firstBytes.take 2 = [0x79, 0x79] then some .gt06
  else if [0x23, 0x23].isPrefixOf firstBytes ∨
      [0x69, 0x6d, 0x65, 0x69, 0x3a].isPrefixOf firstBytes then some .gps103
  else if firstBytes.take 2 = [0x00, 0x0f] ∧
      (slice firstBytes 2 17).all (fun b => 48 ≤ b && b ≤ 57) then
    some .teltonika
  else none

/-- The enabled family of a connection that starts with these bytes. -/
def detectProtocol (cfg : Config) (firstBytes : Bytes) : Option Family :=
  (sniff firstBytes).filter (cfg.enabledProtocols.contains ·)

theorem detectProtocol_enabled {cfg : Config} {firstBytes : Bytes} {family : Family}
    (detected : detectProtocol cfg firstBytes = some family) : family ∈ cfg.enabledProtocols := by
  obtain ⟨-, enabled⟩ := Option.filter_eq_some_iff.mp detected
  simpa using enabled

end TrackerGateway
