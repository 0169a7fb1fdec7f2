import Lb.Probing
import Mathlib.Data.Nat.Bitwise
import Mathlib.Data.List.Basic

/-!
# Slot arrays

A probing table over an array of entries that carry a 64-bit hash. The number of
slots is a power of two, and a mask takes slot numbers back into the array.
-/
namespace Lb.Slots
open Lb.Probing (Scheme)

/-- What a table keeps in a slot. -/
class Slot (Entry : Type) where
  hash : Entry → UInt64
  occupied : Entry → Bool
  empty : Entry

variable {Entry : Type} [Slot Entry]

/-- The capacity is a power of two that fits a 64-bit index, and the mask keeps
    the bits of a slot number. -/
def Sized (capacity mask : Nat) : Prop := ∃ bits < 64, capacity = 2 ^ bits ∧ mask = 2 ^ bits - 1

/-- The subtraction wraps in 64 bits, and the mask absorbs the wrap. -/
def probe_distance (mask : Nat) (hash : UInt64) (idx : Nat) : Nat :=
  ((idx + 2 ^ 64 - (hash.toNat &&& mask)) % 2 ^ 64) &&& mask

def entry_at (entries : List Entry) (idx : Nat) : Entry := entries.getD idx Slot.empty

/-- The loop of the lookups: the slot of the entry with the hash, from slot
    `idx` on, `dist` steps from the home of the hash. -/
def probe_from (entries : List Entry) (mask : Nat) (hash : UInt64) : Nat → Nat → Nat → Option Nat
  | 0, _, _ => none
  | fuel + 1, idx, dist =>
    let entry := entry_at entries idx
    if !Slot.occupied entry then none
    else if probe_distance mask (Slot.hash entry) idx < dist then none
    else if Slot.hash entry = hash then some idx
    else probe_from entries mask hash fuel ((idx + 1) &&& mask) (dist + 1)
def probe (entries : List Entry) (mask : Nat) (hash : UInt64) : Option Nat :=
  probe_from entries mask hash (mask + 1) (hash.toNat &&& mask) 0

/-! ### Slots and masks -/

section
variable {capacity mask : Nat}

theorem Sized.pos (sized : Sized capacity mask) : 0 < capacity := by
  obtain ⟨bits,_,rfl,_⟩ := sized
  exact Nat.two_pow_pos bits
theorem Sized.capacity_eq (sized : Sized capacity mask) : mask + 1 = capacity := by
  obtain ⟨bits,_,rfl,rfl⟩ := sized
  have := Nat.two_pow_pos bits
  omega

theorem land_mask (sized : Sized capacity mask) (x : Nat) : x &&& mask = x % capacity := by
  obtain ⟨bits,_,rfl,rfl⟩ := sized
  exact Nat.and_two_pow_sub_one_eq_mod x bits

variable (Entry) in
/-- A ring of `n` slots, where a hash belongs in the slot of its low bits. -/
def scheme (n : Nat) (pos : 0 < n) : Scheme Entry UInt64 where
  n := n
  key := Slot.hash
  home := fun hash => hash.toNat % n
  home_lt := fun _ => Nat.mod_lt _ pos

theorem probe_distance_eq (sized : Sized capacity mask) (entry : Entry) (idx : Nat) :
    probe_distance mask (Slot.hash entry) idx = (scheme Entry capacity sized.pos).far entry idx := by
  have home : (Slot.hash entry).toNat % capacity < capacity := Nat.mod_lt _ sized.pos
  rw [probe_distance,land_mask sized,land_mask sized]
  obtain ⟨bits,small,rfl,_⟩ := sized
  have wide : 2 ^ bits ∣ 2 ^ 64 := Nat.pow_dvd_pow 2 (by omega)
  obtain ⟨k,whole⟩ := wide
  rw [Nat.mod_mod_of_dvd _ ⟨k,whole⟩]
  show _ = (idx + 2 ^ bits - (Slot.hash entry).toNat % 2 ^ bits) % 2 ^ bits
  have kpos : 0 < k := by
    rcases Nat.eq_zero_or_pos k with rfl | kpos
    · simp at whole
    · exact kpos
  have split : idx + 2 ^ 64 - (Slot.hash entry).toNat % 2 ^ bits =
      (idx + 2 ^ bits - (Slot.hash entry).toNat % 2 ^ bits) + 2 ^ bits * (k - 1) := by
    have := Nat.mul_sub_one (2 ^ bits) k
    have := Nat.le_mul_of_pos_right (2 ^ bits) kpos
    omega
  rw [split,Nat.add_mul_mod_self_left]

variable (Entry) in
theorem home_slot (sized : Sized capacity mask) (hash : UInt64) :
    hash.toNat &&& mask = (scheme Entry capacity sized.pos).slot hash 0 := by
  rw [land_mask sized]
  exact (Ring.slotAt_zero ((scheme Entry capacity sized.pos).home_lt hash)).symm
variable (Entry) in
theorem next_slot (sized : Sized capacity mask) (hash : UInt64) (d : Nat) :
    ((scheme Entry capacity sized.pos).slot hash d + 1) &&& mask =
      (scheme Entry capacity sized.pos).slot hash (d + 1) := by
  rw [land_mask sized,Scheme.slot_succ]
  rfl
/-- The slot after an entry's own, as the entry counts it. -/
theorem next_far (sized : Sized capacity mask) (entry : Entry) {idx : Nat} (inside : idx < capacity) :
    (idx + 1) &&& mask =
      (scheme Entry capacity sized.pos).slot (Slot.hash entry)
        ((scheme Entry capacity sized.pos).far entry idx + 1) := by
  have here : (scheme Entry capacity sized.pos).slot (Slot.hash entry)
      ((scheme Entry capacity sized.pos).far entry idx) = idx :=
    (scheme Entry capacity sized.pos).slot_far entry inside
  rw [← next_slot Entry sized,here]

end

/-! ### What the slots hold -/

/-- The entry that a slot holds. -/
def slots (entries : List Entry) (i : Nat) : Option Entry :=
  entries[i]?.bind fun entry => if Slot.occupied entry then some entry else none

section
variable {entries : List Entry} {idx : Nat} {e cur : Entry}

theorem slots_occupied (inside : idx < entries.length) (occupied : Slot.occupied (entry_at entries idx) = true) :
    slots entries idx = some (entry_at entries idx) := by
  have read : entries[idx]? = some (entry_at entries idx) := by
    rw [entry_at,List.getD_eq_getElem _ _ inside,List.getElem?_eq_getElem inside]
  simp [slots,read,occupied]
theorem slots_free (free : Slot.occupied (entry_at entries idx) = false) : slots entries idx = none := by
  by_cases inside : idx < entries.length
  · have read : entries[idx]? = some (entry_at entries idx) := by
      rw [entry_at,List.getD_eq_getElem _ _ inside,List.getElem?_eq_getElem inside]
    simp [slots,read,free]
  · simp [slots,List.getElem?_eq_none (Nat.le_of_not_lt inside)]
theorem slots_inside (found : slots entries idx = some e) : idx < entries.length := by
  by_contra outside
  simp [slots,List.getElem?_eq_none (Nat.le_of_not_lt outside)] at found
theorem slots_eq_some (found : slots entries idx = some e) : entry_at entries idx = e ∧ Slot.occupied e = true := by
  cases occupied : Slot.occupied (entry_at entries idx) with
  | false => rw [slots_free occupied] at found; cases found
  | true =>
    rw [slots_occupied (slots_inside found) occupied] at found
    cases found
    exact ⟨rfl,occupied⟩
theorem slots_set (inside : idx < entries.length) (occupied : Slot.occupied cur = true) :
    slots (entries.set idx cur) = Function.update (slots entries) idx (some cur) := by
  funext i
  by_cases here : i = idx
  · subst here
    simp [slots,List.getElem?_set_self inside,occupied]
  · rw [Function.update_of_ne here]
    simp [slots,List.getElem?_set_ne (Ne.symm here)]
/-- Slots that have not been taken hold nothing. -/
theorem slots_replicate {n : Nat} (free : Slot.occupied e = false) : slots (List.replicate n e) = fun _ => none := by
  funext i
  by_cases inside : i < n <;> simp [slots,inside,free]

variable {mask : Nat} {hash : UInt64}

private theorem probe_from_eq (sized : Sized entries.length mask) (fuel d : Nat) :
    probe_from entries mask hash fuel ((scheme Entry entries.length sized.pos).slot hash d) d =
      Probing.findFrom (scheme Entry entries.length sized.pos) (slots entries) hash fuel d := by
  induction fuel generalizing d with
  | zero => rfl
  | succ fuel ih =>
    have inside := (scheme Entry entries.length sized.pos).slot_lt hash d
    rw [probe_from,Probing.findFrom]
    cases occupied : Slot.occupied (entry_at entries ((scheme Entry entries.length sized.pos).slot hash d)) with
    | false => simp [slots_free occupied]
    | true =>
      simp only [slots_occupied inside occupied,Bool.not_true,Bool.false_eq_true,if_false,
        probe_distance_eq sized,next_slot Entry sized,ih]
      rfl

/-- The lookup loop is the lookup of the probing table. -/
theorem probe_eq (sized : Sized entries.length mask) :
    probe entries mask hash = Probing.find (scheme Entry entries.length sized.pos) (slots entries) hash := by
  rw [probe,home_slot Entry sized,probe_from_eq sized,sized.capacity_eq]
  rfl

/-- The slot that a lookup ends at holds an entry of the hash. -/
theorem probe_found (sized : Sized entries.length mask) (found : probe entries mask hash = some idx) :
    idx < entries.length ∧ slots entries idx = some (entry_at entries idx) ∧
      Slot.hash (entry_at entries idx) = hash ∧ Slot.occupied (entry_at entries idx) = true := by
  rw [probe_eq sized] at found
  obtain ⟨e,inside,at_idx,same,_⟩ := Probing.find_correct.mp found
  obtain ⟨rfl,occupied⟩ := slots_eq_some at_idx
  exact ⟨inside,at_idx,same,occupied⟩

end

end Lb.Slots
