/- module: TrackerGateway/Delivery/EndToEnd
   source: src/tcp_server.py, src/utils/packet_buffer.py, src/parsers/v5_parser.py,
     src/services/packet_handler.py, src/services/device_registry.py
   digest: From the values that a device of the V5 family encodes to the rows and replies they come
     to, in every run of the gateway. -/

import TrackerGateway.Delivery.Dialogue

set_option autoImplicit false
set_option relaxedAutoImplicit false

namespace TrackerGateway.Delivery

open Foundation.Coroutine
open Foundation.Transition (Reachable run run_append reachable_of_free_run)
open Foundation.Wire
open TrackerGateway.Runtime
open Fixtures.Logins (gt06Login zfill)
open Framing
open Invariants.Tenure
open Messages
open Packets.Identity (Imei)
open Server
open Server.Sessions

/-- What a device of the V5 family has to say: its login, and its messages with their serials. -/
structure Speech where
  imei : Imei
  serial : Nat
  messages : List (Message × Nat)

namespace Speech

variable (speech : Speech)

def login : Bytes := gt06Login speech.imei.digits speech.serial

def later : List Bytes := speech.messages.map fun m => m.1.frame m.2

def packets : List Bytes := speech.login :: speech.later

def told (deviceId : Text) (vehicle : Option Text) : List Deed :=
  loginDeeds deviceId vehicle speech.imei.digits speech.serial ++
    speech.messages.flatMap fun m => m.1.deeds deviceId vehicle m.2

end Speech

section Packets_

variable {cfg : Config} {speech : Speech} {deviceId : Text} {vehicle : Option Text}

theorem carried_login : Carried 0x01 speech.login := by
  rw [Speech.login, gt06Login_eq]
  refine carried_frame 0x01 speech.serial ?_
  have packed := (hex_unhex (t := zfill 16 speech.imei.digits) ?_ ?_).2
  · rw [packed, zfill, speech.imei.fifteen]
    simp [speech.imei.fifteen]
  · simp [zfill, speech.imei.fifteen]
  · intro c member
    rcases List.mem_append.mp member with zero | digit
    · exact ⟨0, by decide, (List.mem_replicate.mp zero).2⟩
    · exact Imei.hexDigit_of_isDigit (speech.imei.isDigit digit)

theorem leads_login (first : speech.imei.digits.head? ≠ some '0') :
    leads deviceId vehicle speech.login =
      loginDeeds deviceId vehicle speech.imei.digits speech.serial := by
  have recovers : (Parsers.V5.parseLoginPacket speech.login).imei = speech.imei.digits := by
    have same := speech.imei.recovered_gt06 speech.serial
    rw [(Packets.Identity.dropWhile_eq_self_iff speech.imei).mpr first] at same
    exact Except.ok.inj same
  have serial := serialBytes_frame 0x01 (unhex (zfill 16 speech.imei.digits)) speech.serial
  rw [← gt06Login_eq] at serial
  rw [leads, carried_login.getD, if_pos rfl, recovers, Speech.login, serial]
  rfl

theorem flatMap_leads (first : speech.imei.digits.head? ≠ some '0') :
    speech.packets.flatMap (leads deviceId vehicle) = speech.told deviceId vehicle := by
  rw [Speech.packets, List.flatMap_cons, leads_login first, Speech.told, Speech.later,
    List.flatMap_map]
  simp only [leads_message]

theorem spoken_of_mem {raw : Bytes} (member : raw ∈ speech.packets) :
    ∃ protocol, Carried protocol raw ∧ Spoken protocol := by
  rcases List.mem_cons.mp member with rfl | later
  · exact ⟨0x01, carried_login, .inl rfl⟩
  · obtain ⟨⟨message, serial⟩, -, rfl⟩ := List.mem_map.mp later
    exact ⟨message.protocol, message.carried serial, message.spoken.1⟩

theorem loginOf_login : LoginOf cfg .gt06 speech.login := by
  refine ⟨carried_login.formed, ?_, carried_login.stands⟩
  rw [Speech.login, gt06Login_eq]
  obtain ⟨length, back, whole, -⟩ :=
    frame_parts 0x01 (unhex (zfill 16 speech.imei.digits)) speech.serial
  rw [whole]
  rfl

theorem frameOf_later {raw : Bytes} (member : raw ∈ speech.later) : FrameOf cfg .gt06 raw := by
  obtain ⟨⟨message, serial⟩, -, rfl⟩ := List.mem_map.mp member
  exact (message.carried serial).formed

theorem told_registered {imei deviceId' : Text}
    (member : .registered imei deviceId' ∈ speech.told deviceId vehicle) :
    imei = speech.imei.digits ∧ deviceId' = deviceId := by
  simpa [Speech.told, loginDeeds, reply, Message.deeds] using member

theorem told_open : Deed.closed ∉ speech.told deviceId vehicle := by
  simp [Speech.told, loginDeeds, reply, Message.deeds]

end Packets_

section Runs

variable {speech : Speech} {deviceId : Text} {vehicle : Option Text} {c : Conn}

theorem answers_of_recalls {raw : Bytes} {a : Answered} (works : Works deviceId vehicle a)
    (recalls : Recalls speech.imei.digits deviceId (raw ≠ speech.login) a) :
    Answers speech.imei.digits deviceId vehicle raw a := by
  have later : raw.getD 3 0 ≠ 0x01 → raw ≠ speech.login := by
    rintro other rfl
    exact other carried_login.getD
  obtain ⟨o, x⟩ := a
  cases o with
  | getImeiBySocket => exact fun other => recalls (later other)
  | getDevice asked => exact fun same other => recalls same (later other)
  | getDeviceByImei imei protocolType defaultModel => exact works
  | getVehicleByDevice asked => exact works
  | execute statement => exact works
  | _ => trivial

theorem answers_answering (imei deviceId : Text) (vehicle : Option Text) (raw : Bytes) (o : Op) :
    Answers imei deviceId vehicle raw ⟨o, answering imei deviceId vehicle o⟩ := by
  cases o with
  | getImeiBySocket => exact fun _ => rfl
  | getDevice asked => exact fun _ _ => ⟨_, rfl, rfl⟩
  | getDeviceByImei imei protocolType defaultModel => exact rfl
  | getVehicleByDevice asked => exact rfl
  | execute statement => exact ⟨true, rfl⟩
  | _ => trivial

/-- In every run in which a connection reads what a device of the V5 family has to say, in whatever
pieces, no other connection logs in as this device, and the calls for the connection are answered:
the rows, registrations and replies that the gateway makes for the connection are those that the
encoded values say, in their order and each once, as far as the connection has got; and when it
waits for more and all has been read, they are complete. -/
theorem session_told (cfg : Config) {inputs : List Server.Input} {g : Gateway} {reads : List Bytes}
    (enabled : .gt06 ∈ cfg.enabledProtocols) (first : speech.imei.digits.head? ≠ some '0')
    (real : deviceId ≠ [])
    (ran : run (Gateway.step cfg (pipelines cfg)) .start inputs = some g)
    (read : outcomes c inputs = reads.map .data) (nonempty : ∀ read ∈ reads, read ≠ [])
    (part : reads.flatten <+: speech.packets.flatten)
    (alone : ∀ c', Registers c' speech.imei.digits g.history → c' = c)
    (works : ∀ a, .performed c a ∈ g.history → Works deviceId vehicle a) :
    deeds deed c g.history <+: speech.told deviceId vehicle ∧
      ∀ s, (g.tasks c).phase = .reading s → reads.flatten = speech.packets.flatten →
        (g.tasks c).lost = false → deeds deed c g.history = speech.told deviceId vehicle := by
  have leads_ : speech.packets.flatMap (leads deviceId vehicle) = speech.told deviceId vehicle :=
    flatMap_leads first
  rw [← leads_]
  have logs : .registered speech.imei.digits deviceId ∈ leads deviceId vehicle speech.login := by
    rw [leads_login first]
    exact List.mem_cons_self
  have only : ∀ imei' deviceId', .registered imei' deviceId' ∈
      speech.packets.flatMap (leads deviceId vehicle) →
        imei' = speech.imei.digits ∧ deviceId' = deviceId := fun _ _ member =>
    told_registered (leads_ ▸ member)
  have open_ : Deed.closed ∉ speech.packets.flatMap (leads deviceId vehicle) := fun member =>
    told_open (leads_ ▸ member)
  have plans : ∀ ip raw, raw ∈ speech.packets →
      Attempts (Answers speech.imei.digits deviceId vehicle raw) deed
        ((pipelines cfg .gt06).handler ip raw) (leads deviceId vehicle raw) := by
    intro ip raw member
    obtain ⟨protocol, carried, spoken⟩ := spoken_of_mem member
    exact attempts_processPacket carried.formed carried.at_ carried.stands spoken real
      (digits_ne_nil speech.imei)
  exact told_of_plans watches_deed logs only open_ plans
    (answering speech.imei.digits deviceId vehicle)
    (fun raw _ o => answers_answering speech.imei.digits deviceId vehicle raw o)
    enabled loginOf_login (fun _ => frameOf_later) rfl ran read nonempty part alone
    fun a raw performed _ recalls => answers_of_recalls (works a performed) recalls

def someSpeech : Speech where
  imei := ⟨"359000000000001".toList, by decide, by decide⟩
  serial := 1
  messages := [(.position false Packets.GpsBlock.colombo ⟨[], by decide⟩, 2),
    (.heartbeat ⟨⟨true, false, true, false, true⟩, ⟨0, by decide⟩, 6, 4⟩ ⟨[], by decide⟩, 3)]

/-- Two reads, the first of which ends in the middle of the position. -/
def someReads : List Bytes :=
  [someSpeech.packets.flatten.take 20, someSpeech.packets.flatten.drop 20]

def someInputs : List Server.Input :=
  [.connect 0 [], .arrive 0 (.data (someSpeech.packets.flatten.take 20))] ++
    List.replicate 15 (.resume 0 (calm ['d'])) ++
    [.arrive 0 (.data (someSpeech.packets.flatten.drop 20))] ++
    List.replicate 24 (.resume 0 (calm ['d']))

theorem session_told_some : ∃ g,
    run (Gateway.step defaults (pipelines defaults)) .start someInputs = some g ∧
      deeds deed 0 g.history = someSpeech.told ['d'] none ∧
      (deeds deed 0 g.history).length = 8 := by
  have seen : (run (Gateway.step defaults (pipelines defaults)) .start someInputs).map (fun g =>
      (g.history.all calmly, waits (g.tasks 0),
        decide (g.history.filterMap Event.registration =
          [(0, someSpeech.imei.digits, ['d'])]))) = some (true, true, true) := by decide +kernel
  obtain ⟨g, ran, shown⟩ := Option.map_eq_some_iff.mp seen
  obtain ⟨calm_, shown⟩ := Prod.mk.inj shown
  obtain ⟨waiting, only⟩ := Prod.mk.inj shown
  have registered := of_decide_eq_true only
  obtain ⟨⟨s, at_⟩, here⟩ := waits_iff.mp waiting
  have alone := alone_of_registration registered
  have complete : deeds deed 0 g.history = someSpeech.told ['d'] none :=
    (session_told defaults (by decide) (by decide) (by decide) ran
      (show outcomes 0 someInputs = someReads.map .data from rfl) (by decide) (by decide +kernel)
      alone fun a member => works_of_calmly (List.all_eq_true.mp calm_ _ member)).2 s at_
        (by decide +kernel) here
  refine ⟨g, ran, complete, ?_⟩
  rw [complete]
  decide +kernel

end Runs

end TrackerGateway.Delivery
