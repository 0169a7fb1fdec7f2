import Lb.Checked
import Lb.Maglev

/-!
# Lookup tables as they are built

The fill of a lookup table as the code performs it: loops that may not end,
accesses that may be out of bounds and sums that may overflow. Where the slots of
a backend come from is left open, so that the slots that are computed on the fly
and the lists of them that they stand for run through the same fill.
-/
namespace Lb.Preferences
open Lb.Types Lb.Checked Lb.Maglev

/-- The slot at a position in the preferences of a backend. -/
abbrev Slots := Nat → Nat → Option Nat

/-- `(o + next * s) % m` in 64 bits. -/
def on_the_fly (m : Nat) (params : List (Nat × Nat)) : Slots := fun i next => do
  let (o,s) ← read params i
  let product ← mul 64 next s
  let sum ← add 64 o product
  if 0 < m then some (sum % m) else none

def preference_list (x : Xxh3) (name : List UInt8) (m : Nat) : List Nat :=
  (List.range m).map fun j => (offset x name m + j * skip x name m) % m
/-- The slots are read from the lists of all of them. -/
def materialised (lists : List (List Nat)) : Slots := fun i next => do read (← read lists i) next

/-- The loop that looks for a free slot: the slot, how far the backend is then, and
    how far it was for each slot that was computed. -/
def seek (slots : Slots) (entries : List (Option Nat)) (i : Nat) : Nat → Nat → Option (Nat × Nat × List Nat)
  | 0, _ => none
  | fuel + 1, next => do
    let c ← slots i next
    let entry ← read entries c
    if entry.isSome then
      let (c,last,computed) ← seek slots entries i fuel (← add 64 next 1)
      some (c,last,next :: computed)
    else some (c,next,[next])

section
variable (slots : Slots) (fuel m : Nat)

/-- One chance of a backend. -/
def claim (i : Nat) (st : FillState) : Option (FillState × List Nat) := do
  let next ← read st.next i
  let (c,last,computed) ← seek slots st.entries i fuel next
  let entries ← write st.entries c (some i)
  let next ← write st.next i (← add 64 last 1)
  let filled ← add 64 st.filled 1
  some ({ entries, next, filled },computed)

/-- The loops stop in the middle once all slots are filled. -/
def turn (i : Nat) : Nat → FillState → Option (FillState × List Nat)
  | 0, st => some (st,[])
  | chances + 1, st => do
    let (st,computed) ← claim slots fuel i st
    if st.filled = m then some (st,computed)
    else
      let (st,later) ← turn i chances st
      some (st,computed ++ later)
def pass : List (Nat × Nat) → FillState → Option (FillState × List Nat)
  | [], st => some (st,[])
  | (i,chances) :: rest, st => do
    let (st,computed) ← turn slots fuel m i chances st
    if st.filled = m then some (st,computed)
    else
      let (st,later) ← pass rest st
      some (st,computed ++ later)
def fill (turns : List (Nat × Nat)) : Nat → FillState → Option (FillState × List Nat)
  | 0, _ => none
  | rounds + 1, st => do
    let (st,computed) ← pass slots fuel m turns st
    if st.filled = m then some (st,computed)
    else
      let (st,later) ← fill turns rounds st
      some (st,computed ++ later)

end

/-- A table as it is left by the fill. -/
structure Table where
  entries : List (Option Nat)
  backends : List Backend
  table_size : Nat

def Table.lookup (t : Table) (hash : UInt64) : Option Backend := do
  if 0 < t.table_size then
    let entry ← read t.entries (hash.toNat % t.table_size)
    read t.backends (← entry)
  else none

/-- The table, and how far the backends were for the slots that were computed, with
    so many rounds at most of each loop. -/
def build (slots : Slots) (fuel : Nat) (backends : List Backend) (m : Nat) :
    Option (Except String (Table × List Nat)) :=
  if active backends = [] then some (.error "cannot build lookup table: no backends with weight > 0")
  else do
    let (st,computed) ← fill slots fuel m (turns (active backends)) fuel
      { entries := List.replicate m none, next := List.replicate (active backends).length 0, filled := 0 }
    some (.ok ({ entries := st.entries, backends := active backends, table_size := m },computed))

/-- The build of the code, and the one with the lists of all slots. -/
def build_on_the_fly (x : Xxh3) (fuel : Nat) (backends : List Backend) (m : Nat) :
    Option (Except String (Table × List Nat)) :=
  build (on_the_fly m (params x m (active backends))) fuel backends m
def build_materialised (x : Xxh3) (fuel : Nat) (backends : List Backend) (m : Nat) :
    Option (Except String (Table × List Nat)) :=
  build (materialised ((active backends).map fun b => preference_list x (as_bytes b.name) m)) fuel backends m

/-! ### Every search ends -/

/-- The slot at a position of a permutation. -/
def position (m : Nat) (params : List (Nat × Nat)) (i k : Nat) : Nat :=
  ((params.getD i (0,0)).1 + k * (params.getD i (0,0)).2) % m
/-- The slot at a position is taken. -/
def Taken (m : Nat) (params : List (Nat × Nat)) (entries : List (Option Nat)) (i k : Nat) : Prop :=
  (entries.getD (position m params i k) none).isSome = true

/-- The first `m` positions are where the slots come from. -/
def Lists (slots : Slots) (m n : Nat) (params : List (Nat × Nat)) : Prop :=
  ∀ i < n, ∀ k < m, slots i k = some (position m params i k)

/-- What a backend has left behind is taken. -/
structure Progress (m n : Nat) (params : List (Nat × Nat)) (st : FillState) : Prop extends Filling m n st where
  paced : st.next.length = n
  behind : ∀ i < n, ∀ k < st.next.getD i 0, Taken m params st.entries i k

section
variable {slots : Slots} {m n : Nat} {params : List (Nat × Nat)} {st : FillState} {i : Nat}

/-- The next free slot of a backend is the first of its preferences that is free. -/
theorem Progress.first_free (prime : m.Prime) (progress : Progress m n params st) (more : st.filled < m)
    (stepping : Stepping m n params) (inside : i < n) :
    ∃ k < m, st.next.getD i 0 ≤ k ∧ ¬ Taken m params st.entries i k ∧ ∀ j < k, Taken m params st.entries i j := by
  obtain ⟨c,cInside,cFree⟩ := progress.toFilling.free more
  obtain ⟨stepPos,stepLt⟩ := stepping i inside
  obtain ⟨j,jLt,reaches⟩ := position_exists (o := (params.getD i (0,0)).1) (k := 0) prime stepPos stepLt cInside
  have some_free : ∃ k, ¬ Taken m params st.entries i k := by
    refine ⟨j,?_⟩
    rw [Nat.zero_add] at reaches
    rw [Taken,position,reaches,cFree]
    simp
  classical
  have free := Nat.find_spec some_free
  have before : ∀ k < Nat.find some_free, Taken m params st.entries i k := fun k early =>
    not_not.mp (Nat.find_min some_free early)
  refine ⟨Nat.find some_free,?_,?_,free,before⟩
  · refine (Nat.find_min' some_free ?_).trans_lt jLt
    rw [Nat.zero_add] at reaches
    rw [Taken,position,reaches,cFree]
    simp
  · by_contra early
    exact free (progress.behind i inside _ (by omega))

/-- The search stops there, and has computed no slot beyond. -/
theorem seek_eq (lists : Lists slots m n params) (prime : m.Prime) (small : m < 2 ^ 64) {entries : List (Option Nat)}
    (sized : entries.length = m) (inside : i < n) {k : Nat} (kLt : k < m) (free : ¬ Taken m params entries i k)
    (before : ∀ j < k, Taken m params entries i j) (fuel fuel' : Nat) {next : Nat} (reached : next ≤ k)
    (enough : k < next + fuel) (enough' : k ≤ next + fuel') :
    (∃ computed, seek slots entries i fuel next = some (position m params i k,k,computed) ∧ ∀ j ∈ computed, j < m) ∧
      Maglev.seek entries (params.getD i (0,0)).1 (params.getD i (0,0)).2 m fuel' next = k := by
  induction fuel generalizing fuel' next with
  | zero => omega
  | succ fuel ih =>
    have slot_lt : position m params i next < entries.length := by
      rw [sized]
      exact Nat.mod_lt _ prime.pos
    have entry := read_eq none slot_lt
    by_cases here : next = k
    · subst here
      constructor
      · refine ⟨[next],?_,?_⟩
        · have unclaimed : (entries.getD (position m params i next) none).isSome = false := by
            simpa [Taken] using free
          rw [seek,lists i inside next kLt]
          simp only [Option.bind_eq_bind,Option.bind_some,entry,unclaimed]
          rfl
        · simpa using kLt
      · cases fuel' with
        | zero => rfl
        | succ fuel' =>
          rw [Maglev.seek]
          exact if_neg free
    · have taken := before next (by omega)
      cases fuel' with
      | zero => omega
      | succ fuel' =>
        obtain ⟨⟨computed,found,bounded⟩,same⟩ := @ih fuel' (next + 1) (by omega) (by omega) (by omega)
        constructor
        · refine ⟨next :: computed,?_,?_⟩
          · rw [Taken] at taken
            rw [seek,lists i inside next (by omega)]
            simp only [Option.bind_eq_bind,Option.bind_some,entry,taken,if_true]
            rw [add_eq (by omega)]
            simp only [Option.bind_some,found]
          · intro j listed
            rcases List.mem_cons.mp listed with rfl | listed
            · omega
            · exact bounded j listed
        · rw [Maglev.seek]
          exact (if_pos taken).trans same

/-- What is computed for a claim, and the table that it leaves. -/
theorem Progress.claim (lists : Lists slots m n params) (prime : m.Prime) (small : m < 2 ^ 64)
    (stepping : Stepping m n params) (progress : Progress m n params st) (more : st.filled < m) (inside : i < n)
    {fuel : Nat} (enough : m ≤ fuel) :
    (∃ computed, Preferences.claim slots fuel i st = some (Maglev.claim m params i st,computed) ∧
      ∀ k ∈ computed, k < m) ∧ Progress m n params (Maglev.claim m params i st) := by
  obtain ⟨k,kLt,reached,free,before⟩ := progress.first_free prime more stepping inside
  obtain ⟨⟨computed,found,bounded⟩,same⟩ := seek_eq lists prime small progress.sized inside kLt free before fuel m
    reached (by omega) (by omega)
  have slot_lt : position m params i k < st.entries.length := by
    rw [progress.sized]
    exact Nat.mod_lt _ prime.pos
  have next_lt : i < st.next.length := progress.paced ▸ inside
  have claimed : Maglev.claim m params i st =
      { entries := st.entries.set (position m params i k) (some i), next := st.next.set i (k + 1),
        filled := st.filled + 1 } := by
    simp only [Maglev.claim,same]
    rfl
  constructor
  · refine ⟨computed,?_,bounded⟩
    rw [Preferences.claim,read_eq 0 next_lt,claimed]
    simp only [Option.bind_eq_bind,Option.bind_some,found]
    rw [write_eq _ slot_lt,add_eq (by omega)]
    simp only [Option.bind_some]
    rw [write_eq _ next_lt,add_eq (by omega)]
    rfl
  · refine ⟨(progress.toFilling.claim prime more stepping inside).1,?_,?_⟩
    · rw [claimed,List.length_set,progress.paced]
    · rw [claimed]
      intro i' inside' j left
      unfold Taken
      dsimp only at left ⊢
      by_cases claims : position m params i' j = position m params i k
      · rw [claims,List.getD_eq_getElem _ _ (by rwa [List.length_set]),List.getElem_set_self]
        rfl
      · have kept : Taken m params st.entries i' j := by
          by_cases own : i' = i
          · subst own
            rw [List.getD_eq_getElem _ _ (by rwa [List.length_set]),List.getElem_set_self] at left
            rcases Nat.lt_or_eq_of_le (Nat.le_of_lt_succ left) with early | rfl
            · exact before j early
            · exact absurd rfl claims
          · refine progress.behind i' inside' j ?_
            rwa [List.getD_eq_getElem?_getD,List.getElem?_set_ne (Ne.symm own),← List.getD_eq_getElem?_getD] at left
        rwa [List.getD_eq_getElem?_getD,List.getElem?_set_ne (Ne.symm claims),← List.getD_eq_getElem?_getD]

theorem Progress.turn (lists : Lists slots m n params) (prime : m.Prime) (small : m < 2 ^ 64)
    (stepping : Stepping m n params) (inside : i < n) {fuel : Nat} (enough : m ≤ fuel) (chances : Nat)
    (progress : Progress m n params st) (more : st.filled < m) :
    (∃ computed, Preferences.turn slots fuel m i chances st = some (Maglev.turn m params i chances st,computed) ∧
      ∀ k ∈ computed, k < m) ∧ Progress m n params (Maglev.turn m params i chances st) := by
  induction chances generalizing st with
  | zero => exact ⟨⟨[],rfl,by simp⟩,progress⟩
  | succ chances ih =>
    obtain ⟨⟨computed,claims,bounded⟩,progress'⟩ := progress.claim lists prime small stepping more inside enough
    have one : (Maglev.claim m params i st).filled = st.filled + 1 := rfl
    rw [Preferences.turn,Maglev.turn,claims]
    simp only [Option.bind_eq_bind,Option.bind_some]
    split_ifs with complete
    · exact ⟨⟨computed,rfl,bounded⟩,progress'⟩
    · obtain ⟨⟨later,turns,bounded'⟩,progress''⟩ := ih progress' (by omega)
      refine ⟨⟨computed ++ later,?_,?_⟩,progress''⟩
      · rw [turns]
        rfl
      · intro k listed
        exact (List.mem_append.mp listed).elim (bounded k) (bounded' k)

theorem Progress.pass (lists : Lists slots m n params) (prime : m.Prime) (small : m < 2 ^ 64)
    (stepping : Stepping m n params) {fuel : Nat} (enough : m ≤ fuel) (turns : List (Nat × Nat))
    (good : ∀ t ∈ turns, t.1 < n ∧ 0 < t.2) (progress : Progress m n params st) (more : st.filled < m) :
    (∃ computed, Preferences.pass slots fuel m turns st = some (Maglev.pass m params turns st,computed) ∧
      ∀ k ∈ computed, k < m) ∧ Progress m n params (Maglev.pass m params turns st) := by
  induction turns generalizing st with
  | nil => exact ⟨⟨[],rfl,by simp⟩,progress⟩
  | cons t rest ih =>
    obtain ⟨inside,some_chance⟩ := good t List.mem_cons_self
    obtain ⟨⟨computed,claims,bounded⟩,progress'⟩ := progress.turn lists prime small stepping inside enough t.2 more
    have le := (Filling.turn prime stepping inside t.2 progress.toFilling more).2.1
    rw [Preferences.pass,Maglev.pass,claims]
    simp only [Option.bind_eq_bind,Option.bind_some]
    split_ifs with complete
    · exact ⟨⟨computed,rfl,bounded⟩,progress'⟩
    · obtain ⟨⟨later,passes,bounded'⟩,progress''⟩ :=
        ih (fun t' listed => good t' (List.mem_cons_of_mem t listed)) progress' (by omega)
      refine ⟨⟨computed ++ later,?_,?_⟩,progress''⟩
      · rw [passes]
        rfl
      · intro k listed
        exact (List.mem_append.mp listed).elim (bounded k) (bounded' k)

theorem Progress.fill (lists : Lists slots m n params) (prime : m.Prime) (small : m < 2 ^ 64)
    (stepping : Stepping m n params) {fuel : Nat} (enough : m ≤ fuel) {turns : List (Nat × Nat)} (some_turn : turns ≠ [])
    (good : ∀ t ∈ turns, t.1 < n ∧ 0 < t.2) (rounds rounds' : Nat) (progress : Progress m n params st)
    (more : st.filled < m) (suffices_rounds : m ≤ st.filled + rounds) (suffices_rounds' : m ≤ st.filled + rounds') :
    ∃ computed, Preferences.fill slots fuel m turns rounds st = some (Maglev.fill m params turns rounds' st,computed) ∧
      ∀ k ∈ computed, k < m := by
  induction rounds generalizing st rounds' with
  | zero => omega
  | succ rounds ih =>
    cases rounds' with
    | zero => omega
    | succ rounds' =>
      obtain ⟨⟨computed,passes,bounded⟩,progress'⟩ := progress.pass lists prime small stepping enough turns good more
      obtain ⟨_,le,grows⟩ := Filling.pass prime stepping turns good progress.toFilling more
      have progresses := grows some_turn
      rw [Preferences.fill,Maglev.fill,passes]
      simp only [Option.bind_eq_bind,Option.bind_some]
      split_ifs with complete
      · exact ⟨computed,rfl,bounded⟩
      · obtain ⟨later,fills,bounded'⟩ := ih rounds' progress' (by omega) (by omega) (by omega)
        refine ⟨computed ++ later,?_,?_⟩
        · rw [fills]
          rfl
        · intro k listed
          exact (List.mem_append.mp listed).elim (bounded k) (bounded' k)

end

/-! ### The slots of a backend -/

section
variable {x : Xxh3} {m : Nat}

/-- The preferences of a backend are all slots, each once. -/
theorem preference_list_perm (prime : m.Prime) (x : Xxh3) (name : List UInt8) :
    (preference_list x name m).Perm (List.range m) := by
  have two := prime.two_le
  have step_lt : skip x name m < m := by
    have := Nat.mod_lt (x.xxh3_64_with_seed name 1).toNat (show 0 < m - 1 by omega)
    rw [skip]
    omega
  have covers : List.range m ⊆ preference_list x name m := by
    intro c listed
    obtain ⟨j,jLt,reaches⟩ := position_exists (o := offset x name m) (k := 0) prime (Nat.succ_pos _) step_lt
      (List.mem_range.mp listed)
    rw [Nat.zero_add] at reaches
    exact List.mem_map.mpr ⟨j,List.mem_range.mpr jLt,reaches⟩
  refine ((List.nodup_range.subperm covers).perm_of_length_le ?_).symm
  simp [preference_list]

theorem params_getD (active : List Backend) {i : Nat} (inside : i < active.length) :
    (params x m active).getD i (0,0) = (offset x (as_bytes active[i].name) m,skip x (as_bytes active[i].name) m) := by
  rw [params,List.getD_eq_getElem _ _ (by simpa using inside),List.getElem_map]

/-- Nothing overflows on the way to a slot. -/
theorem on_the_fly_lists (prime : m.Prime) (small : m < 2 ^ 32) (active : List Backend) :
    Lists (on_the_fly m (params x m active)) m active.length (params x m active) := by
  intro i inside k kLt
  have inside' : i < (params x m active).length := by simpa [params] using inside
  obtain ⟨_,stepLt⟩ := params_stepping (x := x) prime active i inside
  have offset_lt : ((params x m active).getD i (0,0)).1 < m := by
    rw [params_getD active inside]
    exact Nat.mod_lt _ prime.pos
  have product : k * ((params x m active).getD i (0,0)).2 ≤ (2 ^ 32 - 1) * (2 ^ 32 - 1) :=
    Nat.mul_le_mul (by omega) (by omega)
  rw [on_the_fly,read_eq (0,0) inside']
  simp only [Option.bind_eq_bind,Option.bind_some]
  rw [mul_eq (by omega),Option.bind_some,add_eq (by omega),Option.bind_some,if_pos prime.pos]
  rfl

/-- The lists hold the slots that are computed otherwise. -/
theorem materialised_lists (active : List Backend) :
    Lists (materialised (active.map fun b => preference_list x (as_bytes b.name) m)) m active.length
      (params x m active) := by
  intro i inside k kLt
  have listed : k < (preference_list x (as_bytes active[i].name) m).length := by simpa [preference_list] using kLt
  rw [materialised,read_eq [] (by simpa using inside),List.getD_eq_getElem _ _ (by simpa using inside),List.getElem_map]
  simp only [Option.bind_eq_bind,Option.bind_some]
  rw [read_eq 0 listed,List.getD_eq_getElem _ _ listed,position,params_getD active inside]
  simp [preference_list]

end

/-! ### The table -/

/-- A table is built: no slot is computed too far on in a permutation, every lookup
    has a backend, and with the lists of all slots the table is the same. -/
structure Built (x : Xxh3) (backends : List Backend) (m : TableSize) (fuel : Nat) (t : Table) (computed : List Nat) :
    Prop where
  ends : build_on_the_fly x fuel backends m = some (.ok (t,computed))
  in_range : ∀ next ∈ computed, next < m
  valid : ∀ e ∈ t.entries, ∃ i < t.backends.length, e = some i
  answers : ∀ hash, (t.lookup hash).isSome
  reference : ∃ computed', build_materialised x fuel backends m = some (.ok (t,computed'))
  table : ∃ t', LookupTable.build x backends m = .ok t' ∧ t.entries = t'.entries.map some ∧ t.backends = t'.backends

section
variable {x : Xxh3} {backends : List Backend} {m : TableSize} {slots : Slots}

/-- Wherever the slots come from, the fill leaves the same table. -/
theorem build_eq (small : (m : Nat) < 2 ^ 32) (some_active : active backends ≠ [])
    (lists : Lists slots m (active backends).length (params x m (active backends))) {fuel : Nat} (enough : m ≤ fuel) :
    ∃ computed, build slots fuel backends m = some (.ok (
      { entries := (filled x (active backends) m).entries, backends := active backends, table_size := m },computed)) ∧
      ∀ next ∈ computed, next < m := by
  have unfilled : Progress m (active backends).length (params x m (active backends))
      { entries := List.replicate m none, next := List.replicate (active backends).length 0, filled := 0 } := by
    refine ⟨⟨by simp,by simp [List.countP_replicate],by simp⟩,by simp,?_⟩
    intro i inside k left
    simp [inside] at left
  have some_turn : turns (active backends) ≠ [] := fun empty => some_active (by simpa [turns] using empty)
  have word : (2 : Nat) ^ 32 < 2 ^ 64 := by decide
  obtain ⟨computed,fills,bounded⟩ := Progress.fill lists m.2 (small.trans word) (params_stepping m.2 _) enough some_turn
    (fun _ => turns_good) fuel m unfilled m.2.pos (by simpa using enough) (by simp)
  refine ⟨computed,?_,bounded⟩
  rw [build,if_neg some_active,fills]
  rfl

end

/-- For every prime below 2 ^ 32 as the number of slots and backends of which one
    has a weight the code builds a table, whatever the hashes are. -/
theorem build_total (x : Xxh3) (m : TableSize) (small : (m : Nat) < 2 ^ 32) (backends : List Backend)
    (some_weight : ∃ b ∈ backends, 0 < b.weight) (fuel : Nat) (enough : m ≤ fuel) :
    ∃ t computed, Built x backends m fuel t computed := by
  have some_active : active backends ≠ [] := by
    obtain ⟨b,listed,weighted⟩ := some_weight
    exact List.ne_nil_of_mem (List.mem_filter.mpr ⟨listed,by simpa using weighted⟩)
  have claimed := filled_isSome (x := x) m some_active
  have sized := (filled_complete (x := x) m some_active).1.sized
  obtain ⟨computed,ends,in_range⟩ := build_eq small some_active (on_the_fly_lists (x := x) m.2 small _) enough
  obtain ⟨computed',reference,_⟩ := build_eq small some_active (materialised_lists (x := x) (active backends)) enough
  refine ⟨{ entries := (filled x (active backends) m).entries, backends := active backends, table_size := m },computed,
    { ends, in_range, valid := claimed, answers := ?_, reference := ⟨computed',reference⟩, table := ?_ }⟩
  · intro hash
    have idx_lt : hash.toNat % m < (filled x (active backends) m).entries.length := by
      rw [sized]
      exact Nat.mod_lt _ m.2.pos
    obtain ⟨i,inside,entry⟩ := claimed _ (List.getElem_mem idx_lt)
    rw [Table.lookup,if_pos m.2.pos,Checked.read,List.getElem?_eq_getElem idx_lt,entry]
    simp [Checked.read,inside]
  · obtain ⟨t',built⟩ : ∃ t', LookupTable.build x backends m = .ok t' := ⟨_,dif_neg some_active⟩
    obtain ⟨_,entries,retained⟩ := LookupTable.build_entries built
    exact ⟨t',built,entries.symm,retained.symm⟩

/-- Two backends, of which one weighs twice as much as the other. -/
theorem build_total_two :
    ∃ t computed, Built { xxh3_64 := fun _ => 0, xxh3_64_with_seed := fun name seed => UInt64.ofNat name.length + seed }
      [⟨.V4 ⟨10,0,0,1⟩,443,2,false⟩,⟨.V4 ⟨10,0,0,2⟩,8443,1,false⟩] ⟨3,Nat.prime_three⟩ 3 t computed :=
  build_total { xxh3_64 := fun _ => 0, xxh3_64_with_seed := fun name seed => UInt64.ofNat name.length + seed }
    ⟨3,Nat.prime_three⟩ (by decide) [⟨.V4 ⟨10,0,0,1⟩,443,2,false⟩,⟨.V4 ⟨10,0,0,2⟩,8443,1,false⟩] (by decide) 3 (le_refl 3)

end Lb.Preferences
