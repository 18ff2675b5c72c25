/- module: TrackerGateway/Services/Gps103Poller
   source: src/services/gps103_poller.py
   digest: Which TK103 devices are asked for a position, and what is remembered of it. -/

import TrackerGateway.Services.DeviceRegistry
import TrackerGateway.Utils.Gps103CommandBuilder

set_option autoImplicit false
set_option relaxedAutoImplicit false

namespace TrackerGateway.Services.Gps103Poller

open Foundation.Wire
open TrackerGateway.Runtime

def aboveZero : Number → Bool
  | .finite q => 0 < q
  | .infinite negative => !negative
  | .nan => false

def intervalFor (cfg : Config) (entry : Entry) : ℤ :=
  if entry.lastSpeed.any aboveZero then cfg.gps103PollSeconds else cfg.gps103PollIdleSeconds

/-- The last position, poll or connection of a device, whichever is newest. A device that has never
reported counts from the moment it connected. -/
def newest (entry : Entry) : Instant :=
  let since := entry.lastPositionAt.getD entry.connectedAt
  match entry.lastPollAt with
  | some lastPoll => max since lastPoll
  | none => since

def isDue (cfg : Config) (now : Instant) (entry : Entry) : Bool :=
  entry.protocol = .gps103 && intervalFor cfg entry * 1000000 ≤ now - newest entry

def dueDevices (cfg : Config) (now : Instant) (registry : Registry) : List Text :=
  (registry.byImei.entries.filter fun row => isDue cfg now row.2).map Sigma.fst

def notePoll (registry : Registry) (imei : Text) (now : Instant) : Registry :=
  registry.modify imei fun entry => { entry with lastPollAt := some now }

section Laws

variable {cfg : Config} {now : Instant} {registry : Registry} {imei : Text}

theorem isDue_iff {entry : Entry} : isDue cfg now entry = true ↔ entry.protocol = .gps103 ∧
    intervalFor cfg entry * 1000000 ≤ now - entry.lastPositionAt.getD entry.connectedAt ∧
    ∀ asked ∈ entry.lastPollAt, intervalFor cfg entry * 1000000 ≤ now - asked := by
  rw [isDue, Bool.and_eq_true, decide_eq_true_eq, decide_eq_true_eq]
  apply and_congr_right
  intro _
  rw [newest]
  cases entry.lastPollAt with
  | none => simp
  | some asked =>
      simp only [Option.mem_some_iff, forall_eq']
      omega

theorem entry_of_due (due : imei ∈ dueDevices cfg now registry) :
    ∃ entry, registry.getDevice imei = some entry ∧ isDue cfg now entry = true := by
  obtain ⟨⟨key, entry⟩, member, rfl⟩ := List.mem_map.mp due
  obtain ⟨listed, asked⟩ := List.mem_filter.mp member
  exact ⟨entry, AList.mem_lookup_iff.mpr listed, asked⟩

theorem due_of_entry {entry : Entry} (found : registry.getDevice imei = some entry)
    (due : isDue cfg now entry = true) : imei ∈ dueDevices cfg now registry :=
  List.mem_map.mpr ⟨⟨imei, entry⟩, List.mem_filter.mpr ⟨AList.mem_lookup_iff.mp found, due⟩, rfl⟩

theorem dueDevices_nodup : (dueDevices cfg now registry).Nodup := by
  have keys : (registry.byImei.entries.map Sigma.fst).Nodup := registry.byImei.nodupKeys
  exact keys.sublist (List.filter_sublist.map Sigma.fst)

theorem route_of_due (due : imei ∈ dueDevices cfg now registry) :
    ∃ conn, registry.route imei = some (conn, .gps103) := by
  obtain ⟨entry, found, asked⟩ := entry_of_due due
  obtain ⟨family, -⟩ := isDue_iff.mp asked
  exact ⟨entry.socket, by rw [Registry.route, found, Option.map_some, family]⟩

theorem interval_since_poll {entry : Entry} {asked : Instant} (due : isDue cfg now entry = true)
    (polled : entry.lastPollAt = some asked) :
    asked + intervalFor cfg entry * 1000000 ≤ now := by
  have waited := (isDue_iff.mp due).2.2 asked polled
  linarith

theorem pollSeconds_le (ordered : cfg.gps103PollSeconds ≤ cfg.gps103PollIdleSeconds)
    (entry : Entry) : cfg.gps103PollSeconds ≤ intervalFor cfg entry := by
  unfold intervalFor
  split
  · exact le_refl _
  · exact ordered

theorem route_notePoll (other : Text) :
    (notePoll registry imei now).route other = registry.route other := by
  apply Registry.route_modify <;> exact fun _ => rfl

end Laws

end TrackerGateway.Services.Gps103Poller
