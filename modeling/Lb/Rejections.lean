import Lb.Copies
import Lb.Connections

/-!
# Rejected insertions

An insertion learns that the connection table is full only once it has been past
every slot. If it has displaced no entry on the way, the table is as it was;
otherwise the new entry is stored after all, and the one that is dropped in the
end is of another flow.
-/
namespace Lb.Connections
open Lb.Addr Lb.Types Lb.Packet Lb.Slots

namespace ConnTable

/-- No entry is closer to its home than an insertion of the hash is to its own
    when it comes to the slot. -/
def Level (t : ConnTable) (hash : UInt64) : Prop := Probing.Level t.scheme (slots t.entries) hash

variable {t : ConnTable} {hash : UInt64} {backend_ip : IpAddr} {proto : FlowProto} {tcp_state : TcpFlowState}
  {now : Nat}

/-- What a rejected insertion is to the probing table. -/
theorem insert_dropped (full : (t.insert hash backend_ip proto tcp_state now).2 = .DroppedFull) :
    ∃ lost, (Probing.insert t.scheme (Live t.ttls now) merge_entry (slots t.entries)
      (new_entry hash backend_ip proto tcp_state now)).2 = .dropped lost := by
  rw [(t.insert_eq hash backend_ip proto tcp_state now).2] at full
  cases outcome : (Probing.insert t.scheme (Live t.ttls now) merge_entry (slots t.entries)
      (new_entry hash backend_ip proto tcp_state now)).2 with
  | dropped lost => exact ⟨lost,rfl⟩
  | inserted | reclaimed | updated _ => simp [outcome,insertResult] at full

/-- What `get` answers depends on the occupied slots alone. -/
theorem get_congr {t' : ConnTable} {hash : UInt64} (ttls : t'.ttls = t.ttls)
    (length : t'.entries.length = t.entries.length)
    (same : slots t'.entries = slots t.entries) (time : Nat) : t'.get hash time = t.get hash time := by
  have found : t'.probe hash = t.probe hash := by
    rw [probe,probe,probe_eq t'.sized,probe_eq t.sized,same]
    simp only [length]
  rw [get,get,found]
  cases at_idx : t.probe hash with
  | none => rfl
  | some idx =>
    obtain ⟨_,held,_,_⟩ := probe_found t.sized at_idx
    rw [← same] at held
    simp only [(slots_eq_some held).1,ttls]

/-- A rejected insertion that displaces no entry leaves the slots as they are. -/
theorem Level.insert_dropped (level : t.Level hash)
    (full : (t.insert hash backend_ip proto tcp_state now).2 = .DroppedFull) :
    slots (t.insert hash backend_ip proto tcp_state now).1.entries = slots t.entries := by
  obtain ⟨lost,dropped⟩ := ConnTable.insert_dropped full
  rw [(t.insert_eq hash backend_ip proto tcp_state now).1]
  exact Probing.Level.dropped level dropped

/-- A rejected insertion that displaces an entry has stored the new entry, which
    was not found before. -/
theorem displaced_stores (uneven : ¬ t.Level hash)
    (full : (t.insert hash backend_ip proto tcp_state now).2 = .DroppedFull) :
    t.get hash now = none ∧ (t.insert hash backend_ip proto tcp_state now).1.get hash now = some backend_ip := by
  obtain ⟨lost,dropped⟩ := ConnTable.insert_dropped full
  obtain ⟨missing,idx,found,stored⟩ := @Probing.displaced_dropped _ _ t.scheme (Live t.ttls now) (slots t.entries) _ _
    merge_entry (new_entry hash backend_ip proto tcp_state now) lost uneven dropped
  rw [← (t.insert_eq hash backend_ip proto tcp_state now).1] at found stored
  have before : t.probe hash = none := by
    rw [probe,probe_eq t.sized]
    exact missing
  have after : (t.insert hash backend_ip proto tcp_state now).1.probe hash = some idx := by
    rw [probe,probe_eq (t.insert hash backend_ip proto tcp_state now).1.sized]
    change Probing.find (t.insert hash backend_ip proto tcp_state now).1.scheme _ _ = _
    rw [insert_scheme]
    exact found
  refine ⟨by rw [get,before],?_⟩
  have fresh : is_expired t.ttls (new_entry hash backend_ip proto tcp_state now) now = false := live_now rfl
  rw [get,after]
  simp only [(slots_eq_some stored).1]
  exact if_neg (by simp [ConnTable.insert,fresh])

end ConnTable

/-- A rejected insertion leaves what the lookups answer as it was if and only if no
    entry is closer to its home than the insertion is to its own. -/
theorem rejected_insert_iff (t : ConnTable) (hash : UInt64) (backend_ip : IpAddr) (proto : FlowProto)
    (tcp_state : TcpFlowState) (now : Nat)
    (full : (t.insert hash backend_ip proto tcp_state now).2 = .DroppedFull) :
    (∀ h time, (t.insert hash backend_ip proto tcp_state now).1.get h time = t.get h time) ↔ t.Level hash := by
  constructor
  · intro unchanged
    by_contra uneven
    obtain ⟨missing,stored⟩ := ConnTable.displaced_stores uneven full
    rw [unchanged,missing] at stored
    cases stored
  · intro level h time
    have same := level.insert_dropped full
    exact @ConnTable.get_congr t (t.insert hash backend_ip proto tcp_state now).1 h rfl (t.insert_length ..) same time

private def arrival (hash : UInt64) (backend : UInt8) : TableCall :=
  ⟨0,.insert hash (.V4 ⟨10,0,0,backend⟩) .Udp .NotTcp⟩
private def packed (hashes : List UInt64) : ConnTable :=
  (hashes.map fun hash => arrival hash 1).foldl ConnTable.apply
    (ConnTable.new 2 (by decide) (.with_established (from_secs 60)) 0)

theorem rejected_insert_level :
    (∀ h time, ((packed [0,4,8,12]).insert 16 (.V4 ⟨10,0,0,2⟩) .Udp .NotTcp 0).1.get h time =
      (packed [0,4,8,12]).get h time) ↔ (packed [0,4,8,12]).Level 16 :=
  rejected_insert_iff (packed [0,4,8,12]) 16 (.V4 ⟨10,0,0,2⟩) .Udp .NotTcp 0 (by decide)

/-- Hashes 0 to 3 are at home when hash 4 arrives: it displaces hash 1, which
    displaces hash 2, which displaces hash 3, for which no slot is left. -/
theorem rejected_insert_displaces :
    ¬ ∀ (bits : Nat) (small : bits < 64) (ttls : ConnTtls) (start : Nat) (calls : List TableCall),
      Runs.Clocked TableCall.now start calls →
      let t := calls.foldl ConnTable.apply (ConnTable.new bits small ttls start)
      ∀ hash backend_ip proto tcp_state now, Runs.lastTime TableCall.now start calls ≤ now →
        (t.insert hash backend_ip proto tcp_state now).2 = .DroppedFull →
          ∀ h time, (t.insert hash backend_ip proto tcp_state now).1.get h time = t.get h time := by
  intro unchanged
  have rejected := unchanged 2 (by decide) (.with_established (from_secs 60)) 0
    ([0,1,2,3].map fun hash => arrival hash 1) (by decide) 4 (.V4 ⟨10,0,0,2⟩) .Udp .NotTcp 0 (by decide) (by decide)
  exact absurd (rejected 3 0) (by decide)

end Lb.Connections
