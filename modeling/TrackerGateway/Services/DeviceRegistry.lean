/- module: TrackerGateway/Services/DeviceRegistry
   source: src/services/device_registry.py
   digest: The two maps that identify connections, and what each operation changes in them. -/

import Mathlib.Data.List.AList
import TrackerGateway.Runtime.Effects

set_option autoImplicit false
set_option relaxedAutoImplicit false

namespace TrackerGateway.Services

open Foundation.Wire (Text Number Instant)
open TrackerGateway.Runtime

/-- The entries by identity, and the identities by the object id of a connection. -/
structure Registry where
  byImei : AList fun _ : Text => Entry
  bySocket : AList fun _ : Nat => Text

namespace Registry

variable (ident : Conn → Nat)

def empty : Registry := ⟨∅, ∅⟩

def getDevice (r : Registry) (imei : Text) : Option Entry := r.byImei.lookup imei

def getImeiBySocket (r : Registry) (conn : Conn) : Option Text := r.bySocket.lookup (ident conn)

/-- Drop the reverse entry of the connection an identity is registered for. -/
def forgetSocket (r : Registry) (imei : Text) : AList fun _ : Nat => Text :=
  match r.getDevice imei with
  | some existing => r.bySocket.erase (ident existing.socket)
  | none => r.bySocket

def register (r : Registry) (imei ip deviceId : Text) (conn : Conn) (protocol : Family)
    (connectedAt lastSeen : Instant) : Registry where
  byImei := r.byImei.insert imei {
    deviceId, ip, protocol
    socket := conn
    connectedAt, lastSeen
    lastPositionAt := none
    lastSpeed := none
    lastPollAt := none }
  bySocket := (r.forgetSocket ident imei).insert (ident conn) imei

def unregister (r : Registry) (imei : Text) : Registry where
  byImei := r.byImei.erase imei
  bySocket := r.forgetSocket ident imei

def modify (r : Registry) (imei : Text) (f : Entry → Entry) : Registry :=
  match r.getDevice imei with
  | some device => { r with byImei := r.byImei.insert imei (f device) }
  | none => r

def notePosition (r : Registry) (imei : Text) (speed : Number) (now : Instant) : Registry :=
  r.modify imei fun device => { device with lastPositionAt := some now, lastSpeed := some speed }

def updateLastSeen (r : Registry) (imei : Text) (now : Instant) : Registry :=
  r.modify imei fun device => { device with lastSeen := now }

section Laws

variable {ident} {r : Registry} {imei other ip deviceId : Text} {conn conn' : Conn}
  {protocol : Family} {connectedAt lastSeen : Instant}

@[simp] theorem getDevice_empty (imei : Text) : empty.getDevice imei = none := rfl

@[simp] theorem getImeiBySocket_empty (conn : Conn) : empty.getImeiBySocket ident conn = none := rfl

@[simp] theorem getDevice_register_self :
    (r.register ident imei ip deviceId conn protocol connectedAt lastSeen).getDevice imei =
      some { deviceId, ip, protocol, socket := conn, connectedAt, lastSeen,
             lastPositionAt := none, lastSpeed := none, lastPollAt := none } :=
  AList.lookup_insert _

theorem getDevice_register_ne (distinct : other ≠ imei) :
    (r.register ident imei ip deviceId conn protocol connectedAt lastSeen).getDevice other =
      r.getDevice other :=
  AList.lookup_insert_ne distinct

@[simp] theorem getImeiBySocket_register_self :
    (r.register ident imei ip deviceId conn protocol connectedAt lastSeen).getImeiBySocket ident
      conn = some imei :=
  AList.lookup_insert _

theorem getImeiBySocket_register_ne (distinct : ident conn' ≠ ident conn) :
    (r.register ident imei ip deviceId conn protocol connectedAt lastSeen).getImeiBySocket ident
      conn' = if (r.getDevice imei).any (fun e => ident e.socket = ident conn') then none
        else r.getImeiBySocket ident conn' := by
  unfold getImeiBySocket register forgetSocket
  rw [AList.lookup_insert_ne distinct]
  cases found : r.getDevice imei with
  | none => rfl
  | some existing =>
      by_cases same : ident existing.socket = ident conn'
      · simp [same]
      · simp [same, AList.lookup_erase_ne (Ne.symm same)]

@[simp] theorem getDevice_unregister_self : (r.unregister ident imei).getDevice imei = none :=
  AList.lookup_erase _ _

theorem getDevice_unregister_ne (distinct : other ≠ imei) :
    (r.unregister ident imei).getDevice other = r.getDevice other :=
  AList.lookup_erase_ne distinct

theorem getImeiBySocket_unregister (conn : Conn) :
    (r.unregister ident imei).getImeiBySocket ident conn =
      if (r.getDevice imei).any (fun e => ident e.socket = ident conn) then none
      else r.getImeiBySocket ident conn := by
  unfold getImeiBySocket unregister forgetSocket
  cases found : r.getDevice imei with
  | none => rfl
  | some existing =>
      by_cases same : ident existing.socket = ident conn
      · simp [same]
      · simp [same, AList.lookup_erase_ne (Ne.symm same)]

@[simp] theorem getImeiBySocket_modify (f : Entry → Entry) :
    (r.modify imei f).getImeiBySocket ident conn = r.getImeiBySocket ident conn := by
  rw [modify]
  split <;> rfl

theorem getDevice_modify (f : Entry → Entry) :
    (r.modify imei f).getDevice other =
      if other = imei then (r.getDevice other).map f else r.getDevice other := by
  rw [modify]
  by_cases same : other = imei
  · subst same
    cases found : r.getDevice other with
    | none => simp [found]
    | some device =>
        rw [if_pos rfl, Option.map_some]
        exact AList.lookup_insert r.byImei
  · rw [if_neg same]
    split
    · exact AList.lookup_insert_ne same
    · rfl

end Laws

def owner (r : Registry) (imei : Text) : Option Conn := (r.getDevice imei).map Entry.socket

def deviceOf (r : Registry) (imei : Text) : Option Text := (r.getDevice imei).map Entry.deviceId

def route (r : Registry) (imei : Text) : Option (Conn × Family) :=
  (r.getDevice imei).map fun entry => (entry.socket, entry.protocol)

def identities (r : Registry) (c : Conn) : List Text :=
  (r.byImei.entries.filter fun entry => entry.2.socket = c).map Sigma.fst

theorem mem_identities {r : Registry} {c : Conn} {imei : Text} :
    imei ∈ r.identities c ↔ r.owner imei = some c := by
  have listed : ∀ e, r.getDevice imei = some e ↔ ⟨imei, e⟩ ∈ r.byImei.entries :=
    fun _ => AList.mem_lookup_iff
  simp only [identities, List.mem_map, List.mem_filter, decide_eq_true_eq, owner,
    Option.map_eq_some_iff, listed]
  constructor
  · rintro ⟨⟨_, e⟩, ⟨member, socket⟩, rfl⟩
    exact ⟨e, member, socket⟩
  · rintro ⟨e, member, socket⟩
    exact ⟨⟨imei, e⟩, ⟨member, socket⟩, rfl⟩

/-- Two registries that identify the same connections and devices. -/
structure SameView (r r' : Registry) : Prop where
  owner (imei : Text) : r'.owner imei = r.owner imei
  device (imei : Text) : r'.deviceOf imei = r.deviceOf imei
  socket (c : Conn) : r'.getImeiBySocket id c = r.getImeiBySocket id c

theorem SameView.refl (r : Registry) : SameView r r := ⟨fun _ => rfl, fun _ => rfl, fun _ => rfl⟩

section Views

variable {r : Registry} {imei ip deviceId : Text} {conn : Conn} {protocol : Family}
  {connectedAt lastSeen : Instant}

theorem owner_register (other : Text) :
    (r.register id imei ip deviceId conn protocol connectedAt lastSeen).owner other =
      if other = imei then some conn else r.owner other := by
  unfold owner
  by_cases same : other = imei
  · subst same
    simp
  · rw [getDevice_register_ne same, if_neg same]

theorem deviceOf_register (other : Text) :
    (r.register id imei ip deviceId conn protocol connectedAt lastSeen).deviceOf other =
      if other = imei then some deviceId else r.deviceOf other := by
  unfold deviceOf
  by_cases same : other = imei
  · subst same
    simp
  · rw [getDevice_register_ne same, if_neg same]

private theorem any_socket (imei : Text) (c : Conn) :
    (r.getDevice imei).any (fun e => id e.socket = id c) = decide (r.owner imei = some c) := by
  rw [owner]
  cases r.getDevice imei <;> simp

theorem socket_register (c : Conn) :
    (r.register id imei ip deviceId conn protocol connectedAt lastSeen).getImeiBySocket id c =
      if c = conn then some imei else if r.owner imei = some c then none
      else r.getImeiBySocket id c := by
  by_cases same : c = conn
  · subst same
    simp
  · rw [getImeiBySocket_register_ne (show id c ≠ id conn from same), any_socket, if_neg same]
    simp only [decide_eq_true_eq]

theorem owner_unregister (other : Text) :
    (r.unregister id imei).owner other = if other = imei then none else r.owner other := by
  unfold owner
  by_cases same : other = imei
  · subst same
    simp
  · rw [getDevice_unregister_ne same, if_neg same]

theorem deviceOf_unregister (other : Text) :
    (r.unregister id imei).deviceOf other = if other = imei then none else r.deviceOf other := by
  unfold deviceOf
  by_cases same : other = imei
  · subst same
    simp
  · rw [getDevice_unregister_ne same, if_neg same]

theorem socket_unregister (c : Conn) :
    (r.unregister id imei).getImeiBySocket id c =
      if r.owner imei = some c then none else r.getImeiBySocket id c := by
  rw [getImeiBySocket_unregister, any_socket]
  simp only [decide_eq_true_eq]

theorem route_register (other : Text) :
    (r.register id imei ip deviceId conn protocol connectedAt lastSeen).route other =
      if other = imei then some (conn, protocol) else r.route other := by
  unfold route
  by_cases same : other = imei
  · subst same
    simp
  · rw [getDevice_register_ne same, if_neg same]

theorem route_unregister (other : Text) :
    (r.unregister id imei).route other = if other = imei then none else r.route other := by
  unfold route
  by_cases same : other = imei
  · subst same
    simp
  · rw [getDevice_unregister_ne same, if_neg same]

theorem route_modify {f : Entry → Entry} (socket : ∀ e, (f e).socket = e.socket)
    (protocol : ∀ e, (f e).protocol = e.protocol) (other : Text) :
    (r.modify imei f).route other = r.route other := by
  simp only [route, getDevice_modify]
  split
  · cases r.getDevice other <;> simp [socket, protocol]
  · rfl

theorem route_notePosition (speed : Number) (now : Instant) (other : Text) :
    (r.notePosition imei speed now).route other = r.route other := by
  apply route_modify <;> exact fun _ => rfl

theorem route_updateLastSeen (now : Instant) (other : Text) :
    (r.updateLastSeen imei now).route other = r.route other := by
  apply route_modify <;> exact fun _ => rfl

private theorem sameView_modify {f : Entry → Entry} (socket : ∀ e, (f e).socket = e.socket)
    (device : ∀ e, (f e).deviceId = e.deviceId) : SameView r (r.modify imei f) where
  owner other := by
    simp only [owner, getDevice_modify]
    split
    · cases r.getDevice other <;> simp [socket]
    · rfl
  device other := by
    simp only [deviceOf, getDevice_modify]
    split
    · cases r.getDevice other <;> simp [device]
    · rfl
  socket c := by rw [getImeiBySocket_modify]

theorem sameView_notePosition (speed : Number) (now : Instant) :
    SameView r (r.notePosition imei speed now) :=
  sameView_modify (fun _ => rfl) fun _ => rfl

theorem sameView_updateLastSeen (now : Instant) : SameView r (r.updateLastSeen imei now) :=
  sameView_modify (fun _ => rfl) fun _ => rfl

end Views

end Registry

end TrackerGateway.Services
