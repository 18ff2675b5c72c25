/- module: TrackerGateway/Invariants/ObjectIds
   source: src/services/device_registry.py (register_device, unregister_device, get_imei_by_socket)
   digest: The object id of an unreachable connection leaves nothing to the next one that has it. -/

import TrackerGateway.Invariants.Inverse

set_option autoImplicit false
set_option relaxedAutoImplicit false

namespace TrackerGateway.Invariants.ObjectIds

open Foundation.Transition (run run_induction)
open Foundation.Wire (Text)
open TrackerGateway.Runtime
open Services (Registry)
open Inverse (Operation perform held held_register held_unregister)

variable (ident : Conn → Nat)

/-- Every key of the reverse map is the object id of the connection in the entry of the identity
that it maps to. -/
def Anchored (r : Registry) : Prop :=
  ∀ key imei, r.bySocket.lookup key = some imei → held ident r imei = some key

section Operations

variable {ident} {r : Registry}

theorem anchored_empty : Anchored ident .empty := by
  intro key imei found
  cases found

theorem forgetSocket_other (anchored : Anchored ident r) {imei other : Text} {key : Nat}
    (found : (r.forgetSocket ident imei).lookup key = some other) :
    other ≠ imei ∧ held ident r other = some key := by
  cases known : r.getDevice imei with
  | none =>
      rw [Registry.forgetSocket, known] at found
      have holds : held ident r other = some key := anchored key other found
      refine ⟨?_, holds⟩
      rintro rfl
      rw [held, known] at holds
      cases holds
  | some existing =>
      rw [Registry.forgetSocket, known] at found
      by_cases same : key = ident existing.socket
      · rw [same, AList.lookup_erase] at found
        cases found
      · rw [AList.lookup_erase_ne same] at found
        have holds : held ident r other = some key := anchored key other found
        refine ⟨?_, holds⟩
        rintro rfl
        rw [held, known] at holds
        exact same (Option.some.inj holds).symm

/-- No operation leaves a key behind, whatever connection it is given. -/
theorem perform_anchored (anchored : Anchored ident r) (op : Operation) :
    Anchored ident (perform ident r op) := by
  intro key other found
  cases op with
  | register imei ip deviceId conn protocol connectedAt lastSeen =>
      rw [perform, held_register]
      by_cases same : key = ident conn
      · subst same
        have stored : some imei = some other := by
          rw [← found]
          exact (AList.lookup_insert (r.forgetSocket ident imei)).symm
        rw [if_pos (Option.some.inj stored).symm]
      · have kept : (r.forgetSocket ident imei).lookup key = some other := by
          rw [← found]
          exact (AList.lookup_insert_ne same).symm
        obtain ⟨distinct, holds⟩ := forgetSocket_other anchored kept
        rw [if_neg distinct, holds]
  | unregister imei =>
      obtain ⟨distinct, holds⟩ := forgetSocket_other anchored found
      rw [perform, held_unregister, if_neg distinct, holds]

theorem perform_all_anchored (anchored : Anchored ident r) (ops : List Operation) :
    Anchored ident (ops.foldl (perform ident) r) := by
  induction ops generalizing r with
  | nil => exact anchored
  | cons op rest ih => exact ih (perform_anchored anchored op)

end Operations

/-- The registry, and the connection objects that other parts of the program refer to. -/
structure Memory where
  registry : Registry
  created : List Conn
  referenced : List Conn

namespace Memory

def start : Memory := ⟨.empty, [], []⟩

def sockets (m : Memory) : List Conn := m.registry.byImei.entries.map fun entry => entry.2.socket

/-- The objects that cannot be collected: the registry's references keep an object alive. -/
def live (m : Memory) : List Conn := m.referenced ++ m.sockets

end Memory

inductive Event
  | create (conn : Conn)
  | release (conn : Conn)
  | operate (op : Operation)

def registered : Operation → Option Conn
  | .register _ _ _ conn .. => some conn
  | .unregister _ => none

def Event.registers (conn : Conn) : Event → Bool
  | .operate op => registered op = some conn
  | _ => false

/-- A new object takes an id that no live object has, be it one that a collected object had. Only a
live object can be given to an operation. -/
def advance (m : Memory) : Event → Option Memory
  | .create conn =>
      if conn ∈ m.created then none
      else if (m.live.map ident).contains (ident conn) then none
      else some { m with created := conn :: m.created, referenced := conn :: m.referenced }
  | .release conn => some { m with referenced := m.referenced.filter (· ≠ conn) }
  | .operate op =>
      if (registered op).all (m.live.contains ·) then
        some { m with registry := perform ident m.registry op }
      else none

section Runs

variable {ident} {m m' : Memory}

theorem mem_sockets {conn : Conn} :
    conn ∈ m.sockets ↔ ∃ imei entry, m.registry.getDevice imei = some entry ∧
      entry.socket = conn := by
  simp only [Memory.sockets, List.mem_map, Registry.getDevice]
  constructor
  · rintro ⟨⟨imei, entry⟩, member, same⟩
    exact ⟨imei, entry, AList.mem_lookup_iff.mpr member, same⟩
  · rintro ⟨imei, entry, found, same⟩
    exact ⟨⟨imei, entry⟩, AList.mem_lookup_iff.mp found, same⟩

theorem sockets_perform {op : Operation} {conn : Conn}
    (member : conn ∈ ({ m with registry := perform ident m.registry op } : Memory).sockets) :
    conn ∈ m.sockets ∨ registered op = some conn := by
  obtain ⟨imei, entry, found, same⟩ := mem_sockets.mp member
  by_cases own : imei = op.imei
  · subst own
    cases op with
    | register imei ip deviceId other protocol connectedAt lastSeen =>
        have stored := Registry.getDevice_register_self.symm.trans found
        cases stored
        exact .inr (congrArg some same)
    | unregister imei =>
        have gone := Registry.getDevice_unregister_self.symm.trans found
        cases gone
  · have kept : (perform ident m.registry op).getDevice imei = m.registry.getDevice imei := by
      cases op with
      | register => exact Registry.getDevice_register_ne own
      | unregister => exact Registry.getDevice_unregister_ne own
    exact .inl (mem_sockets.mpr ⟨imei, entry, kept.symm.trans found, same⟩)

/-- What holds in every state of a run: the keys are anchored, live objects have ids of their own,
and the entries hold connections that the run has registered. -/
structure Sound (ident : Conn → Nat) (events : List Event) (m : Memory) : Prop where
  anchored : Anchored ident m.registry
  apart : ∀ c ∈ m.live, ∀ c' ∈ m.live, ident c = ident c' → c = c'
  entered : ∀ c ∈ m.sockets, ∃ e ∈ events, e.registers c = true

theorem sound_create {events : List Event} {conn : Conn} (sound : Sound ident events m)
    (moves : advance ident m (.create conn) = some m') :
    Sound ident (events ++ [.create conn]) m' := by
  rw [advance] at moves
  split at moves
  · cases moves
  · split at moves
    · cases moves
    · next unused =>
        cases moves
        have apart : ∀ c ∈ m.live, ident c ≠ ident conn := by
          intro c member same
          apply unused
          rw [List.contains_iff_mem, ← same]
          exact List.mem_map_of_mem member
        refine ⟨sound.anchored, ?_, ?_⟩
        · intro c member c' member' same
          rcases List.mem_cons.mp member with rfl | member
          · rcases List.mem_cons.mp member' with rfl | member'
            · rfl
            · exact absurd same.symm (apart c' member')
          · rcases List.mem_cons.mp member' with rfl | member'
            · exact absurd same (apart c member)
            · exact sound.apart c member c' member' same
        · intro c member
          obtain ⟨e, before, registers⟩ := sound.entered c member
          exact ⟨e, List.mem_append_left _ before, registers⟩

theorem sound_release {events : List Event} {conn : Conn} (sound : Sound ident events m)
    (moves : advance ident m (.release conn) = some m') :
    Sound ident (events ++ [.release conn]) m' := by
  cases moves
  have fewer : ∀ c ∈ ({ m with referenced := m.referenced.filter (· ≠ conn) } : Memory).live,
      c ∈ m.live := by
    intro c member
    rcases List.mem_append.mp member with member | member
    · exact List.mem_append_left _ (List.mem_filter.mp member).1
    · exact List.mem_append_right _ member
  refine ⟨sound.anchored, ?_, ?_⟩
  · intro c member c' member' same
    exact sound.apart c (fewer c member) c' (fewer c' member') same
  · intro c member
    obtain ⟨e, before, registers⟩ := sound.entered c member
    exact ⟨e, List.mem_append_left _ before, registers⟩

theorem sound_operate {events : List Event} {op : Operation} (sound : Sound ident events m)
    (moves : advance ident m (.operate op) = some m') :
    Sound ident (events ++ [.operate op]) m' := by
  rw [advance] at moves
  split at moves
  · next held =>
      cases moves
      have fewer : ∀ c ∈ ({ m with registry := perform ident m.registry op } : Memory).live,
          c ∈ m.live := by
        intro c member
        rcases List.mem_append.mp member with member | member
        · exact List.mem_append_left _ member
        · rcases sockets_perform member with member | given
          · exact List.mem_append_right _ member
          · rw [given, Option.all_some] at held
            exact List.contains_iff_mem.mp held
      refine ⟨perform_anchored sound.anchored op, ?_, ?_⟩
      · intro c member c' member' same
        exact sound.apart c (fewer c member) c' (fewer c' member') same
      · intro c member
        rcases sockets_perform member with member | given
        · obtain ⟨e, before, registers⟩ := sound.entered c member
          exact ⟨e, List.mem_append_left _ before, registers⟩
        · exact ⟨.operate op, by simp, by simpa [Event.registers] using given⟩
  · cases moves

theorem sound_run {events : List Event} (ran : run (advance ident) .start events = some m) :
    Sound ident events m := by
  refine run_induction ?_ ?_ ran
  · refine ⟨anchored_empty, ?_, ?_⟩
    · intro c member
      cases member
    · intro c member
      cases member
  · intro events m e m' sound moves
    cases e with
    | create conn => exact sound_create sound moves
    | release conn => exact sound_release sound moves
    | operate op => exact sound_operate sound moves

/-- A live object whose id is a key of the reverse map is the connection in the entry. -/
theorem Sound.holder {events : List Event} (sound : Sound ident events m) {key : Nat} {imei : Text}
    (found : m.registry.bySocket.lookup key = some imei) :
    ∃ entry, m.registry.getDevice imei = some entry ∧ ident entry.socket = key ∧
      ∀ conn ∈ m.live, ident conn = key → conn = entry.socket := by
  have holds := sound.anchored key imei found
  rw [held, Option.map_eq_some_iff] at holds
  obtain ⟨entry, known, same⟩ := holds
  refine ⟨entry, known, same, ?_⟩
  intro conn member also
  have kept : entry.socket ∈ m.live :=
    List.mem_append_right _ (mem_sockets.mpr ⟨imei, entry, known, rfl⟩)
  exact sound.apart conn member entry.socket kept (also.trans same.symm)

theorem Sound.unregistered {events : List Event} (sound : Sound ident events m) {conn : Conn}
    (alive : conn ∈ m.live) (never : ∀ e ∈ events, e.registers conn = false) :
    m.registry.getImeiBySocket ident conn = none := by
  cases found : m.registry.getImeiBySocket ident conn with
  | none => rfl
  | some imei =>
      obtain ⟨entry, known, -, holder⟩ := sound.holder found
      have same : conn = entry.socket := holder conn alive rfl
      obtain ⟨e, member, registers⟩ :=
        sound.entered conn (mem_sockets.mpr ⟨imei, entry, known, same.symm⟩)
      rw [never e member] at registers
      cases registers

end Runs

/-- After any registrations and unregistrations the keys of the reverse map are the object ids of
the connections in the entries they lead to. In every run in which objects are created and
collected, the only live object with such an id is that connection, and a live connection that was
never registered has no identity. -/
theorem no_identity_inherited :
    (∀ ops : List Operation, Anchored ident (ops.foldl (perform ident) .empty)) ∧
    ∀ events m, run (advance ident) .start events = some m →
      (∀ key imei, m.registry.bySocket.lookup key = some imei →
        ∃ entry, m.registry.getDevice imei = some entry ∧ ident entry.socket = key ∧
          ∀ conn ∈ m.live, ident conn = key → conn = entry.socket) ∧
      ∀ conn ∈ m.live, (∀ e ∈ events, e.registers conn = false) →
        m.registry.getImeiBySocket ident conn = none := by
  refine ⟨fun ops => perform_all_anchored anchored_empty ops, ?_⟩
  intro events m ran
  have sound := sound_run ran
  refine ⟨?_, ?_⟩
  · intro key imei found
    exact sound.holder found
  · intro conn alive never
    exact sound.unregistered alive never

/-- A connection is registered, taken over and collected, and a new one gets its id. -/
def reuse : List Event :=
  [.create 0, .operate (.register ['1'] [] ['d'] 0 .gps103 0 0), .create 1,
    .operate (.register ['1'] [] ['d'] 1 .gps103 0 0), .release 0, .create 2]

theorem reused_id_unregistered :
    ∃ m, run (advance (· % 2)) .start reuse = some m ∧
      m.registry.getImeiBySocket (· % 2) 1 = some ['1'] ∧
      m.registry.getImeiBySocket (· % 2) 2 = none := by
  refine ⟨_, rfl, rfl, ?_⟩
  exact ((no_identity_inherited (· % 2)).2 reuse _ rfl).2 2 (by decide) (by decide)

end TrackerGateway.Invariants.ObjectIds
