import Lb.Types
import Mathlib.Data.ZMod.Basic
import Mathlib.Data.Nat.Prime.Basic
import Mathlib.Algebra.Field.ZMod
import Mathlib.Data.List.GetD
import Mathlib.Tactic.FieldSimp
import Mathlib.Tactic.Ring
import Mathlib.Tactic.Push

/-!
# Maglev lookup tables

Backends take turns, as many in a row as their weight, to claim the next free
slot of their own permutation of the slots, until every slot is claimed. The
number of slots is prime, so that a permutation reaches every slot and no turn
looks for a free slot in vain.
-/
namespace Lb.Maglev
open Lb.Addr Lb.Types

/-- Table sizes are prime. -/
abbrev TableSize := Nat.Primes

variable (x : Xxh3)

/-- Where the permutation of a backend starts. -/
def offset (name : List UInt8) (m : Nat) : Nat := (x.xxh3_64_with_seed name 0).toNat % m
/-- The step of the permutation of a backend. -/
def skip (name : List UInt8) (m : Nat) : Nat := (x.xxh3_64_with_seed name 1).toNat % (m - 1) + 1

/-- The slots claimed so far, by the index of the backend, how far each backend
    is in its permutation, and the number of claimed slots. -/
structure FillState where
  entries : List (Option Nat)
  next : List Nat
  filled : Nat

/-- From `k` on, the first position of the permutation whose slot is free. -/
def seek (entries : List (Option Nat)) (o s m : Nat) : Nat → Nat → Nat
  | 0, k => k
  | fuel + 1, k => if (entries.getD ((o + k * s) % m) none).isSome then seek entries o s m fuel (k + 1) else k

/-- Backend `i` claims a slot. -/
def claim (m : Nat) (params : List (Nat × Nat)) (i : Nat) (st : FillState) : FillState :=
  let (o,s) := params.getD i (0,0)
  let k := seek st.entries o s m m (st.next.getD i 0)
  { entries := st.entries.set ((o + k * s) % m) (some i), next := st.next.set i (k + 1), filled := st.filled + 1 }

/-- Up to so many claims of backend `i` in a row. -/
def turn (m : Nat) (params : List (Nat × Nat)) (i : Nat) : Nat → FillState → FillState
  | 0, st => st
  | chances + 1, st =>
    let st' := claim m params i st
    if st'.filled = m then st' else turn m params i chances st'
/-- One turn of each backend, given with its number of chances. -/
def pass (m : Nat) (params : List (Nat × Nat)) : List (Nat × Nat) → FillState → FillState
  | [], st => st
  | (i,chances) :: rest, st =>
    let st' := turn m params i chances st
    if st'.filled = m then st' else pass m params rest st'
/-- Passes until every slot is claimed. -/
def fill (m : Nat) (params : List (Nat × Nat)) (turns : List (Nat × Nat)) : Nat → FillState → FillState
  | 0, st => st
  | fuel + 1, st =>
    let st' := pass m params turns st
    if st'.filled = m then st' else fill m params turns fuel st'

/-- The backends that take traffic. -/
def active (backends : List Backend) : List Backend := backends.filter (fun b => 0 < b.weight)

def params (m : Nat) (active : List Backend) : List (Nat × Nat) :=
  active.map (fun b => (offset x (as_bytes b.name) m,skip x (as_bytes b.name) m))
def turns (active : List Backend) : List (Nat × Nat) :=
  active.zipIdx.map (fun (b,i) => (i,b.weight.toNat))

/-- The fill of a table of `m` slots. -/
def filled (active : List Backend) (m : Nat) : FillState :=
  fill m (params x m active) (turns active) m
    { entries := List.replicate m none, next := List.replicate active.length 0, filled := 0 }

/-! ### The fill ends with every slot claimed -/

/-- Some slot of the next `fuel` positions being free, the search ends at a free slot. -/
theorem seek_free {entries : List (Option Nat)} {o s m : Nat} :
    ∀ {fuel k j}, j < fuel → entries.getD ((o + (k + j) * s) % m) none = none →
      entries.getD ((o + seek entries o s m fuel k * s) % m) none = none := by
  intro fuel
  induction fuel with
  | zero => intro k j before; omega
  | succ fuel ih =>
    intro k j before free
    rw [seek]
    split_ifs with taken
    · cases j with
      | zero => simp_all
      | succ j => exact ih (by omega : j < fuel) (by rwa [show k + 1 + j = k + (j + 1) by omega])
    · simpa using taken

/-- Steps that are no multiple of a prime reach every slot within `m` positions. -/
theorem position_exists {m : Nat} (prime : m.Prime) {o s k c : Nat} (stepPos : 0 < s) (stepLt : s < m) (inside : c < m) :
    ∃ j < m, (o + (k + j) * s) % m = c := by
  have : Fact m.Prime := ⟨prime⟩
  have nonzero : (s : ZMod m) ≠ 0 := by
    intro zero
    have divides := (ZMod.natCast_eq_zero_iff s m).mp zero
    exact absurd (Nat.le_of_dvd stepPos divides) (by omega)
  refine ⟨((c - o : ZMod m) / s - k).val,ZMod.val_lt _,?_⟩
  have cast : ((o + (k + ((c - o : ZMod m) / s - k).val) * s : Nat) : ZMod m) = (c : ZMod m) := by
    push_cast
    rw [ZMod.natCast_zmod_val]
    field_simp
    ring
  have residue := (ZMod.natCast_eq_natCast_iff' _ _ _).mp cast
  rwa [Nat.mod_eq_of_lt inside] at residue

/-- The slots of a fill of `n` backends, as many claimed as it counts. -/
structure Filling (m n : Nat) (st : FillState) : Prop where
  sized : st.entries.length = m
  counted : st.entries.countP Option.isSome = st.filled
  valid : ∀ i, some i ∈ st.entries → i < n

/-- Every backend steps through the slots by less than their number. -/
def Stepping (m n : Nat) (params : List (Nat × Nat)) : Prop :=
  ∀ i < n, 0 < (params.getD i (0,0)).2 ∧ (params.getD i (0,0)).2 < m

variable {m n : Nat} {ps : List (Nat × Nat)} {st : FillState}

theorem Filling.free (filling : Filling m n st) (more : st.filled < m) :
    ∃ c < m, st.entries.getD c none = none := by
  by_contra none_free
  push Not at none_free
  have all : ∀ e ∈ st.entries, e.isSome = true := by
    intro e listed
    obtain ⟨c,inside,rfl⟩ := List.getElem_of_mem listed
    have taken := none_free c (filling.sized ▸ inside)
    rw [List.getD_eq_getElem _ _ inside] at taken
    exact Option.isSome_iff_ne_none.mpr taken
  have count := List.countP_eq_length.mpr all
  rw [filling.counted,filling.sized] at count
  omega

private theorem countP_set {entries : List (Option Nat)} {c i : Nat} (inside : c < entries.length)
    (free : entries.getD c none = none) :
    (entries.set c (some i)).countP Option.isSome = entries.countP Option.isSome + 1 := by
  rw [List.getD_eq_getElem _ _ inside] at free
  rw [List.countP_set inside,free]
  simp

/-- The slot that a claim comes to. -/
def claimed (m : Nat) (params : List (Nat × Nat)) (i : Nat) (st : FillState) : Nat :=
  ((params.getD i (0,0)).1 +
    seek st.entries (params.getD i (0,0)).1 (params.getD i (0,0)).2 m m (st.next.getD i 0) * (params.getD i (0,0)).2) % m

theorem claim_entries (i : Nat) : (claim m ps i st).entries = st.entries.set (claimed m ps i st) (some i) := rfl

/-- It is a free one, as long as there are any. -/
theorem Filling.claimed_free (prime : m.Prime) (filling : Filling m n st) (more : st.filled < m)
    (stepping : Stepping m n ps) {i : Nat} (inside : i < n) :
    claimed m ps i st < st.entries.length ∧ st.entries.getD (claimed m ps i st) none = none := by
  obtain ⟨c,cInside,cFree⟩ := filling.free more
  obtain ⟨stepPos,stepLt⟩ := stepping i inside
  obtain ⟨j,before,reaches⟩ := position_exists (o := (ps.getD i (0,0)).1) (k := st.next.getD i 0) prime stepPos stepLt
    cInside
  constructor
  · rw [filling.sized]
    exact Nat.mod_lt _ prime.pos
  · exact seek_free (k := st.next.getD i 0) before (by rw [reaches]; exact cFree)

theorem Filling.claim (prime : m.Prime) (filling : Filling m n st) (more : st.filled < m) (stepping : Stepping m n ps)
    {i : Nat} (inside : i < n) : Filling m n (claim m ps i st) ∧ (claim m ps i st).filled = st.filled + 1 := by
  obtain ⟨slot_lt,free⟩ := filling.claimed_free prime more stepping inside
  refine ⟨⟨?_,?_,?_⟩,rfl⟩
  · rw [claim_entries,List.length_set]
    exact filling.sized
  · rw [claim_entries,countP_set slot_lt free,filling.counted]
    rfl
  · intro i' listed
    rw [claim_entries] at listed
    rcases List.mem_or_eq_of_mem_set listed with old | new
    · exact filling.valid i' old
    · cases new
      exact inside

/-- A turn of at least one chance claims a slot. -/
theorem Filling.turn (prime : m.Prime) (stepping : Stepping m n ps) {i : Nat} (inside : i < n) :
    ∀ chances {st : FillState}, Filling m n st → st.filled < m →
      Filling m n (turn m ps i chances st) ∧ (turn m ps i chances st).filled ≤ m ∧
        st.filled + min chances 1 ≤ (turn m ps i chances st).filled := by
  intro chances
  induction chances with
  | zero => intro st filling more; exact ⟨filling,by simp [Maglev.turn]; omega,by simp [Maglev.turn]⟩
  | succ chances ih =>
    intro st filling more
    obtain ⟨filling',one⟩ := filling.claim prime more stepping inside
    rw [Maglev.turn]
    split_ifs with done
    · exact ⟨filling',by omega,by omega⟩
    · obtain ⟨filling'',le,grows⟩ := ih filling' (by omega)
      exact ⟨filling'',le,by omega⟩

/-- A pass leaves the table filled, or has claimed a slot for each backend. -/
theorem Filling.pass (prime : m.Prime) (stepping : Stepping m n ps) :
    ∀ turns {st : FillState}, (∀ t ∈ turns, t.1 < n ∧ 0 < t.2) → Filling m n st → st.filled < m →
      Filling m n (pass m ps turns st) ∧ (pass m ps turns st).filled ≤ m ∧
        (turns ≠ [] → st.filled < (pass m ps turns st).filled) := by
  intro turns
  induction turns with
  | nil => intro st _ filling more; exact ⟨filling,by simp [Maglev.pass]; omega,by simp⟩
  | cons t rest ih =>
    intro st good filling more
    obtain ⟨inside,some_chance⟩ := good t (List.mem_cons_self ..)
    obtain ⟨filling',le,grows⟩ := Filling.turn prime stepping inside t.2 filling more
    rw [Maglev.pass]
    split_ifs with done
    · exact ⟨filling',by omega,fun _ => by omega⟩
    · obtain ⟨filling'',le',_⟩ := ih (fun t' listed => good t' (List.mem_cons_of_mem _ listed)) filling' (by omega)
      refine ⟨filling'',le',fun _ => ?_⟩
      by_cases last : rest = []
      · subst last
        simp only [Maglev.pass]
        omega
      · obtain ⟨_,_,more'⟩ := ih (fun t' listed => good t' (List.mem_cons_of_mem _ listed)) filling' (by omega)
        have := more' last
        omega

/-- As many passes as there are free slots fill the table. -/
theorem Filling.fill (prime : m.Prime) (stepping : Stepping m n ps) {turns : List (Nat × Nat)} (some_turn : turns ≠ [])
    (good : ∀ t ∈ turns, t.1 < n ∧ 0 < t.2) :
    ∀ fuel {st : FillState}, Filling m n st → st.filled < m → m ≤ st.filled + fuel →
      Filling m n (fill m ps turns fuel st) ∧ (fill m ps turns fuel st).filled = m := by
  intro fuel
  induction fuel with
  | zero => intro st _ more enough; omega
  | succ fuel ih =>
    intro st filling more enough
    obtain ⟨filling',le,grows⟩ := Filling.pass prime stepping turns good filling more
    have progress := grows some_turn
    rw [Maglev.fill]
    split_ifs with done
    · exact ⟨filling',done⟩
    · exact ih filling' (by omega) (by omega)

variable {x}

theorem params_stepping (prime : m.Prime) (active : List Backend) : Stepping m active.length (params x m active) := by
  intro i inside
  have two := prime.two_le
  rw [params,List.getD_eq_getElem _ _ (by simpa using inside),List.getElem_map]
  refine ⟨Nat.succ_pos _,?_⟩
  simp only [skip]
  have := Nat.mod_lt (x.xxh3_64_with_seed (as_bytes active[i].name) 1).toNat (by omega : 0 < m - 1)
  omega

theorem turns_good {backends : List Backend} {t : Nat × Nat} (listed : t ∈ turns (active backends)) :
    t.1 < (active backends).length ∧ 0 < t.2 := by
  simp only [turns,List.mem_map] at listed
  obtain ⟨⟨b,i⟩,indexed,rfl⟩ := listed
  have inside := (List.mem_zipIdx' indexed).1
  have weighted : b ∈ active backends := (List.mem_zipIdx' indexed).2 ▸ List.getElem_mem _
  simp only [active,List.mem_filter,decide_eq_true_eq] at weighted
  exact ⟨inside,weighted.2⟩

theorem filled_complete (m : TableSize) {backends : List Backend} (some_active : active backends ≠ []) :
    Filling m (active backends).length (filled x (active backends) m) ∧
      (filled x (active backends) m).filled = m := by
  refine Filling.fill m.2 (params_stepping m.2 _) ?_ (fun _ => turns_good) m ⟨by simp,?_,?_⟩ m.2.pos (by simp)
  · intro empty
    exact some_active (by simpa [turns] using empty)
  · simp [List.countP_replicate]
  · intro i listed
    simp at listed

/-! ### Lookup tables -/

/-- Every slot holds the index of a backend. -/
structure LookupTable where
  entries : List Nat
  backends : List Backend
  table_size : Nat
  sized : entries.length = table_size
  pos : 0 < table_size
  valid : ∀ e ∈ entries, e < backends.length
deriving DecidableEq

/-- Every slot of a filled table is claimed. -/
theorem filled_isSome (m : TableSize) {backends : List Backend} (some_active : active backends ≠ []) :
    ∀ e ∈ (filled x (active backends) m).entries, ∃ i < (active backends).length, e = some i := by
  obtain ⟨filling,full⟩ := filled_complete (x := x) m some_active
  have claimed := List.countP_eq_length.mp (filling.counted.trans (full.trans filling.sized.symm))
  intro e listed
  obtain ⟨i,rfl⟩ := Option.isSome_iff_exists.mp (claimed e listed)
  exact ⟨i,filling.valid i listed,rfl⟩
theorem filled_valid (m : TableSize) {backends : List Backend} (some_active : active backends ≠ []) :
    ∀ e ∈ (filled x (active backends) m).entries.map (·.getD 0), e < (active backends).length := by
  intro e listed
  obtain ⟨entry,slot,rfl⟩ := List.mem_map.mp listed
  obtain ⟨i,inside,rfl⟩ := filled_isSome m some_active entry slot
  exact inside
theorem filled_sized (m : TableSize) {backends : List Backend} (some_active : active backends ≠ []) :
    ((filled x (active backends) m).entries.map (·.getD 0)).length = m := by
  rw [List.length_map]
  exact (filled_complete m some_active).1.sized

variable (x) in
/-- Backends of weight zero take no traffic; with none left there is no table. -/
def LookupTable.build (backends : List Backend) (m : TableSize) : Except String LookupTable :=
  if none_active : active backends = [] then .error "cannot build lookup table: no backends with weight > 0"
  else
    .ok {
      entries := (filled x (active backends) m).entries.map (·.getD 0)
      backends := active backends
      table_size := m
      sized := filled_sized m none_active
      pos := m.2.pos
      valid := filled_valid m none_active }

namespace LookupTable

def lookup (t : LookupTable) (hash : UInt64) : Backend :=
  have idx_lt : hash.toNat % t.table_size < t.entries.length := Nat.lt_of_lt_of_eq (Nat.mod_lt _ t.pos) t.sized.symm
  have backend_lt : t.entries[hash.toNat % t.table_size] < t.backends.length := t.valid _ (List.getElem_mem _)
  t.backends[t.entries[hash.toNat % t.table_size]]

variable {backends : List Backend} {m : TableSize} {t : LookupTable}

theorem active_eq_nil : active backends = [] ↔ ∀ b ∈ backends, b.weight = 0 := by
  simp [active,List.filter_eq_nil_iff]

theorem build_isOk : (build x backends m).isOk ↔ ∃ b ∈ backends, 0 < b.weight := by
  unfold build
  split_ifs with none_active
  · rw [active_eq_nil] at none_active
    simp only [Except.isOk,Except.toBool,Bool.false_eq_true,false_iff,not_exists,not_and]
    intro b listed
    simp [none_active b listed]
  · rw [active_eq_nil] at none_active
    push Not at none_active
    obtain ⟨b,listed,nonzero⟩ := none_active
    simp only [Except.isOk,Except.toBool,true_iff]
    exact ⟨b,listed,UInt32.pos_iff_ne_zero.mpr nonzero⟩

/-- The entries of a table are the slots of its fill. -/
theorem build_entries (built : build x backends m = .ok t) :
    active backends ≠ [] ∧ t.entries.map some = (filled x (active backends) m).entries ∧ t.backends = active backends := by
  unfold build at built
  split_ifs at built with none_active
  cases built
  refine ⟨none_active,?_,rfl⟩
  rw [List.map_map]
  conv_rhs => rw [← List.map_id (filled x (active backends) m).entries]
  refine List.map_congr_left fun e listed => ?_
  obtain ⟨i,_,rfl⟩ := filled_isSome m none_active e listed
  rfl

theorem lookup_mem (t : LookupTable) (hash : UInt64) : t.lookup hash ∈ t.backends := List.getElem_mem _

/-- A built table answers with backends of positive weight among those given. -/
theorem build_backends (built : build x backends m = .ok t) {b : Backend} (listed : b ∈ t.backends) :
    b ∈ backends ∧ 0 < b.weight := by
  unfold build at built
  split_ifs at built
  cases built
  simpa [active] using listed

end LookupTable

end Lb.Maglev
