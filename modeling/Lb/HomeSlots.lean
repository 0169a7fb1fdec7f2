import Lb.Pipeline
import Lb.Residues

/-!
# Queues and home slots

Steering reduces the hash of a flow modulo the number of queues, and the connection
table of the thread behind the queue keeps the low bits of the same hash. With an
even number of queues both look at the same bit.
-/
namespace Lb.HomeSlots
open Lb.Addr Lb.Types Lb.Packet Lb.Slots Lb.Connections Lb.Rewriter Lb.Threading Lb.Residues

/-- The queue that steering puts the flows with a hash on. -/
def queue (hash : UInt64) (num_queues : Nat) : Nat := hash.toNat % num_queues
/-- The slot where a table looks first for the flows with a hash. -/
def home (t : ConnTable) (hash : UInt64) : Nat := hash.toNat &&& t.mask

theorem assign_queue_eq (x : Xxh3) (pkt_meta : PacketMeta) (num_queues : Nat) :
    assign_queue x pkt_meta num_queues = queue (pkt_meta.flow_hash x) num_queues := rfl

theorem probe_eq (t : ConnTable) (hash : UInt64) :
    t.probe hash = probe_from t.entries t.mask hash t.capacity (home t hash) 0 := rfl

variable {t : ConnTable} {hash : UInt64} {n : Nat}

theorem capacity_length (t : ConnTable) : t.entries.length = t.capacity := t.sized.capacity_eq.symm

theorem capacity_pos (t : ConnTable) : 0 < t.capacity := Nat.succ_pos _

theorem home_eq (t : ConnTable) (hash : UInt64) : home t hash = hash.toNat % t.capacity := by
  rw [home,land_mask t.sized,capacity_length]

/-- The home slot has no probe distance. -/
theorem probe_distance_home (t : ConnTable) (hash : UInt64) : probe_distance t.mask hash (home t hash) = 0 := by
  have wraps : home t hash + 2 ^ 64 - (hash.toNat &&& t.mask) = 2 ^ 64 := by
    rw [home]
    omega
  rw [probe_distance,wraps,Nat.mod_self,Nat.zero_and]

/-- The queue of a flow says something about its home slot, as far as the number of
    queues and the capacity have a common divisor. -/
theorem home_follows_queue (t : ConnTable) (hash : UInt64) (n : Nat) :
    queue hash n % n.gcd t.capacity = home t hash % n.gcd t.capacity := by
  rw [queue,home_eq]
  exact remainders_agree hash.toNat n t.capacity

theorem independent_of_hashes :
    Independent n t.capacity (2 ^ 64) ↔
      ∀ q < n, ∀ s < t.capacity, ∃ hash, queue hash n = q ∧ home t hash = s := by
  unfold Independent
  constructor
  · intro all q below s inside
    obtain ⟨h,small,left,right⟩ := all q below s inside
    have same : (UInt64.ofNat h).toNat = h := UInt64.toNat_ofNat_of_lt' small
    refine ⟨UInt64.ofNat h,?_,?_⟩
    · rw [queue,same,left]
    · rw [home_eq,same,right]
  · intro all q below s inside
    obtain ⟨hash,left,right⟩ := all q below s inside
    rw [home_eq] at right
    exact ⟨hash.toNat,hash.toNat_lt,left,right⟩

/-- A power of two has nothing in common with odd numbers. -/
theorem coprime_capacity (t : ConnTable) : n.Coprime t.capacity ↔ Odd n ∨ t.capacity = 1 := by
  obtain ⟨bits,_,length,_⟩ := t.sized
  rw [capacity_length] at length
  rw [length]
  cases bits with
  | zero => simp
  | succ bits =>
    rw [Nat.coprime_pow_right_iff (Nat.succ_pos bits),Nat.coprime_two_right]
    simp

/-- Every slot of a table is a home slot for every queue exactly if the number of
    queues is odd, or the table has one slot, and there are enough hashes. -/
theorem every_slot_home_iff {n : Nat} (some_queue : 0 < n) (t : ConnTable) :
    (∀ q < n, ∀ s < t.capacity, ∃ hash, queue hash n = q ∧ home t hash = s) ↔
      (Odd n ∨ t.capacity = 1) ∧ n * t.capacity ≤ 2 ^ 64 := by
  rw [← independent_of_hashes,← coprime_capacity]
  exact independent_iff some_queue (capacity_pos t)

/-- A table of four slots. -/
private def four_slots : ConnTable := .new 2 two_bits minutes 0

theorem every_slot_home_three_queues :
    (∀ q < 3, ∀ s < four_slots.capacity, ∃ hash, queue hash 3 = q ∧ home four_slots hash = s) ↔
      (Odd 3 ∨ four_slots.capacity = 1) ∧ 3 * four_slots.capacity ≤ 2 ^ 64 :=
  every_slot_home_iff (by decide) four_slots

/-- With two queues, the flows of the first are never at home in an odd slot. -/
theorem two_queues_partition :
    ¬ ∀ n : Nat, 0 < n → ∀ t : ConnTable, ∀ q < n, ∀ s < t.capacity, ∃ hash, queue hash n = q ∧ home t hash = s := by
  intro every
  obtain ⟨hash,first,odd⟩ := every 2 (by decide) four_slots 0 (by decide) 1 (by decide)
  have follows := home_follows_queue four_slots hash 2
  rw [first,odd] at follows
  exact absurd follows (by decide)

end Lb.HomeSlots
