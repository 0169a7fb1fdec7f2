import Lb.Connections

/-!
# Pinned flows

A flow stays pinned to a backend as long as its entry in the connection table
has not expired: what is done for other flows does not disturb it, and what is
done for the flow itself starts its time to live anew.
-/
namespace Lb.Connections
open Lb.Addr Lb.Types Lb.Packet Lb.Slots

/-- The hash that a call is about. -/
def TableOp.hash : TableOp → UInt64
  | .insert hash _ _ _ | .touch hash | .mark_established hash | .mark_closing hash => hash

namespace ConnTable

/-- The call is an insertion for which no slot is left. -/
def Drops (t : ConnTable) (call : TableCall) : Prop :=
  match call.op with
  | .insert hash backend_ip proto tcp_state => (t.insert hash backend_ip proto tcp_state call.now).2 = .DroppedFull
  | _ => False

instance (t : ConnTable) (call : TableCall) : Decidable (t.Drops call) :=
  match call with
  | ⟨now,.insert hash backend_ip proto tcp_state⟩ =>
    inferInstanceAs (Decidable ((t.insert hash backend_ip proto tcp_state now).2 = .DroppedFull))
  | ⟨_,.touch _⟩ | ⟨_,.mark_established _⟩ | ⟨_,.mark_closing _⟩ => isFalse id

/-- The time to live of the entry that a lookup of the hash ends at. -/
def entry_ttl (t : ConnTable) (hash : UInt64) : Nat :=
  match t.probe hash with
  | some idx => ttl_for t.ttls (entry_at t.entries idx).proto (entry_at t.entries idx).tcp_state
  | none => 0

/-- The table holds an entry of the hash for the backend that was seen just now. -/
structure Fresh (t : ConnTable) (hash : UInt64) (backend_ip : IpAddr) (now : Nat) : Prop where
  sound : t.Sound now
  entry : ∃ e, t.Holds now e ∧ e.hash = hash ∧ e.backend_ip = backend_ip ∧ e.last_seen = now

/-- The table holds a live entry of the hash for the backend, as long as no more
    than its time to live has passed since it was seen. -/
structure Pins (t : ConnTable) (hash : UInt64) (backend_ip : IpAddr) (seen ttl now : Nat) : Prop where
  sound : t.Sound now
  entry : now ≤ seen + ttl → ∃ e, t.Holds now e ∧ e.hash = hash ∧ e.backend_ip = backend_ip ∧ e.last_seen = seen ∧
    ttl_for t.ttls e.proto e.tcp_state = ttl

variable {t : ConnTable} {hash : UInt64} {backend_ip : IpAddr} {seen ttl now : Nat}

theorem with_matching_entry_ttls {f : ConnEntry → ConnEntry} :
    (t.with_matching_entry hash f).ttls = t.ttls ∧ (t.with_matching_entry hash f).entries.length = t.entries.length := by
  unfold with_matching_entry
  cases t.probe hash with
  | none => exact ⟨rfl,rfl⟩
  | some idx => exact ⟨rfl,List.length_set⟩

theorem apply_ttls (call : TableCall) : (t.apply call).ttls = t.ttls ∧ (t.apply call).scheme = t.scheme := by
  obtain ⟨now,op⟩ := call
  cases op with
  | insert hash backend_ip proto tcp_state => exact ⟨rfl,insert_scheme _ _ _ _ _ _⟩
  | touch hash => exact ⟨with_matching_entry_ttls.1,scheme_eq with_matching_entry_ttls.2⟩
  | mark_established hash => exact ⟨with_matching_entry_ttls.1,scheme_eq with_matching_entry_ttls.2⟩
  | mark_closing hash => exact ⟨with_matching_entry_ttls.1,scheme_eq with_matching_entry_ttls.2⟩

/-! ### Other flows -/

theorem Pins.later {now' : Nat} (pins : t.Pins hash backend_ip seen ttl now) (later : now ≤ now') :
    t.Pins hash backend_ip seen ttl now' := by
  refine ⟨pins.sound.later later,fun within => ?_⟩
  obtain ⟨e,⟨_,idx,inside,at_idx⟩,same,backend,last,time_to_live⟩ := pins.entry (by omega)
  refine ⟨e,⟨?_,idx,inside,at_idx⟩,same,backend,last,time_to_live⟩
  simp only [Live,is_expired,time_to_live,last,decide_eq_false_iff_not]
  omega

/-- An update in place leaves the entries of other hashes alone. -/
theorem holds_with_matching_entry {f : ConnEntry → ConnEntry} (keeps : ∀ e, (f e).hash = e.hash ∧
    (f e).occupied = e.occupied) {e : ConnEntry} (held : t.Holds now e) (other : e.hash ≠ hash) :
    (t.with_matching_entry hash f).Holds now e := by
  obtain ⟨alive,idx,inside,at_idx⟩ := held
  unfold Holds Probing.Holds
  rw [scheme_eq with_matching_entry_ttls.2,with_matching_entry_ttls.1]
  refine ⟨alive,idx,inside,?_⟩
  rw [with_matching_entry]
  cases found : t.probe hash with
  | none => exact at_idx
  | some idx' =>
    obtain ⟨inside',at_idx',same,occupied⟩ := probe_found t.sized found
    have elsewhere : idx ≠ idx' := by
      rintro rfl
      rw [at_idx'] at at_idx
      cases at_idx
      exact other same
    dsimp only
    rw [store,slots_set inside' ((keeps _).2.trans occupied),Function.update_of_ne elsewhere]
    exact at_idx

theorem holds_insert {hash' : UInt64} {backend_ip' : IpAddr} {proto : FlowProto} {tcp_state : TcpFlowState}
    (sound : t.Sound now) (safe : t.ReclaimSafe hash' now)
    (room : (t.insert hash' backend_ip' proto tcp_state now).2 ≠ .DroppedFull) {e : ConnEntry} (held : t.Holds now e)
    (other : e.hash ≠ hash') : (t.insert hash' backend_ip' proto tcp_state now).1.Holds now e := by
  obtain ⟨outcome,result,_,_,contents⟩ := insert_outcome backend_ip' proto tcp_state sound safe
  unfold Holds
  rw [insert_scheme]
  cases outcome with
  | inserted => exact (contents e).mpr (.inl held)
  | reclaimed => exact (contents e).mpr (.inl held)
  | updated old => exact (contents.2.2 e).mpr (.inl ⟨held,other⟩)
  | dropped lost => exact absurd result room

/-- What is done for another flow leaves a flow pinned. -/
theorem Pins.apply (call : TableCall) (pins : t.Pins hash backend_ip seen ttl call.now) (other : call.op.hash ≠ hash)
    (safe : t.Safe call) (room : ¬ t.Drops call) : (t.apply call).Pins hash backend_ip seen ttl call.now := by
  refine ⟨apply_sound pins.sound safe,fun within => ?_⟩
  obtain ⟨e,held,rfl,backend,last,time_to_live⟩ := pins.entry within
  refine ⟨e,?_,rfl,backend,last,by rw [(apply_ttls call).1]; exact time_to_live⟩
  obtain ⟨now,op⟩ := call
  cases op with
  | insert hash' backend_ip' proto tcp_state => exact holds_insert pins.sound safe room held (Ne.symm other)
  | touch hash' =>
    exact holds_with_matching_entry (f := fun e => { e with last_seen := now }) (fun _ => ⟨rfl,rfl⟩) held (Ne.symm other)
  | mark_established hash' =>
    exact holds_with_matching_entry (fun e => by split_ifs <;> exact ⟨rfl,rfl⟩) held (Ne.symm other)
  | mark_closing hash' =>
    exact holds_with_matching_entry (fun e => by split_ifs <;> exact ⟨rfl,rfl⟩) held (Ne.symm other)

/-! ### The flow itself -/

theorem fresh_with_matching_entry {f : ConnEntry → ConnEntry} (keeps : ∀ e, (f e).hash = e.hash ∧
    (f e).occupied = e.occupied) (sound : t.Sound now) {idx : Nat} (found : t.probe hash = some idx)
    (backend : (f (entry_at t.entries idx)).backend_ip = backend_ip)
    (seen : (f (entry_at t.entries idx)).last_seen = now) :
    (t.with_matching_entry hash f).Fresh hash backend_ip now := by
  obtain ⟨inside,at_idx,same,occupied⟩ := probe_found t.sized found
  refine ⟨with_matching_entry_sound keeps sound,f (entry_at t.entries idx),⟨live_now seen,idx,?_,?_⟩,
    (keeps _).1.trans same,backend,seen⟩
  · rw [scheme_eq with_matching_entry_ttls.2]
    exact inside
  · rw [with_matching_entry,found]
    dsimp only
    rw [store,slots_set inside ((keeps _).2.trans occupied),Function.update_self]

theorem Fresh.found (fresh : t.Fresh hash backend_ip now) : ∃ idx, t.probe hash = some idx ∧
    (entry_at t.entries idx).backend_ip = backend_ip ∧ (entry_at t.entries idx).last_seen = now := by
  obtain ⟨e,⟨alive,idx,inside,at_idx⟩,rfl,backend,last⟩ := fresh.entry
  refine ⟨idx,fresh.sound.probe at_idx alive,?_⟩
  rw [(slots_eq_some at_idx).1]
  exact ⟨backend,last⟩

/-- A flow that was seen just now is pinned for the time to live of its entry. -/
theorem Fresh.pins (fresh : t.Fresh hash backend_ip now) : t.Pins hash backend_ip now (t.entry_ttl hash) now := by
  refine ⟨fresh.sound,fun _ => ?_⟩
  obtain ⟨e,held,rfl,backend,last⟩ := fresh.entry
  obtain ⟨alive,idx,inside,at_idx⟩ := held
  refine ⟨e,⟨alive,idx,inside,at_idx⟩,rfl,backend,last,?_⟩
  rw [entry_ttl,fresh.sound.probe at_idx alive,← (slots_eq_some at_idx).1]

/-- A pinned flow is looked up at its backend. -/
theorem Pins.get (pins : t.Pins hash backend_ip seen ttl now) (within : now ≤ seen + ttl) :
    t.get hash now = some backend_ip := by
  obtain ⟨e,held,rfl,rfl,_⟩ := pins.entry within
  exact pins.sound.get held

/-- A hit refreshes the entry. -/
theorem fresh_touch (sound : t.Sound now) (hit : t.get hash now = some backend_ip) :
    (t.touch hash now).Fresh hash backend_ip now := by
  rw [ConnTable.get] at hit
  cases found : t.probe hash with
  | none => simp [found] at hit
  | some idx =>
    simp only [found,Option.ite_none_left_eq_some] at hit
    exact fresh_with_matching_entry (fun _ => ⟨rfl,rfl⟩) sound found (Option.some.inj hit.2) rfl

/-- An insertion that finds a slot pins the flow to the backend. -/
theorem fresh_insert {proto : FlowProto} {tcp_state : TcpFlowState} (sound : t.Sound now)
    (safe : t.ReclaimSafe hash now) (room : (t.insert hash backend_ip proto tcp_state now).2 ≠ .DroppedFull) :
    (t.insert hash backend_ip proto tcp_state now).1.Fresh hash backend_ip now := by
  obtain ⟨outcome,result,_,sound',contents⟩ := insert_outcome backend_ip proto tcp_state sound safe
  refine ⟨sound',?_⟩
  unfold Holds
  rw [insert_scheme]
  cases outcome with
  | inserted => exact ⟨_,(contents _).mpr (.inr rfl),rfl,rfl,rfl⟩
  | reclaimed => exact ⟨_,(contents _).mpr (.inr rfl),rfl,rfl,rfl⟩
  | updated old => exact ⟨_,(contents.2.2 _).mpr (.inr rfl),contents.2.1,rfl,rfl⟩
  | dropped lost => exact absurd result room

/-- A change in place that leaves the backend alone and makes the entry no older. -/
theorem Fresh.with_matching_entry (fresh : t.Fresh hash backend_ip now) {f : ConnEntry → ConnEntry}
    (keeps : ∀ e, (f e).hash = e.hash ∧ (f e).occupied = e.occupied) (same : ∀ e, (f e).backend_ip = e.backend_ip)
    (no_older : ∀ e, (f e).last_seen = now ∨ (f e).last_seen = e.last_seen) :
    (t.with_matching_entry hash f).Fresh hash backend_ip now := by
  obtain ⟨idx,found,backend,last⟩ := fresh.found
  refine fresh_with_matching_entry keeps fresh.sound found ((same _).trans backend) ?_
  rcases no_older (entry_at t.entries idx) with seen | kept
  · exact seen
  · exact kept.trans last

/-- The TCP flags of the flow's own packet leave its entry as fresh as it is. -/
theorem Fresh.mark_closing (fresh : t.Fresh hash backend_ip now) :
    (t.mark_closing hash now).Fresh hash backend_ip now := by
  refine fresh.with_matching_entry (fun e => ?_) (fun e => ?_) (fun e => ?_) <;> split_ifs <;> simp
theorem Fresh.mark_established (fresh : t.Fresh hash backend_ip now) :
    (t.mark_established hash now).Fresh hash backend_ip now := by
  refine fresh.with_matching_entry (fun e => ?_) (fun e => ?_) (fun e => ?_) <;> split_ifs <;> simp

end ConnTable

end Lb.Connections
