import Lb.Ring
import Mathlib.Logic.Function.Basic

/-!
# Open addressing with Robin Hood displacement

A table is a ring of slots. A lookup of a key walks forward from the key's home
slot and gives up at an empty slot or at an entry that sits closer to its own
home than the lookup has walked. Which of the live entries such a lookup still
finds depends on the entries before them; the rules below say what parking an
entry, displacing one and walking past one do to that.
-/
namespace Lb.Probing
open Lb.Ring

/-- The ring, and where the entries of a table belong in it. -/
structure Scheme (Entry Key : Type*) where
  n : Nat
  key : Entry → Key
  home : Key → Nat
  home_lt : ∀ k, home k < n

variable {Entry Key : Type*} (S : Scheme Entry Key)

namespace Scheme

/-- The slot a probe for the key looks at after `d` steps. -/
def slot (k : Key) (d : Nat) : Nat := slotAt S.n (S.home k) d
/-- How far slot `i` is from the home of the entry. -/
def far (e : Entry) (i : Nat) : Nat := dist S.n (S.home (S.key e)) i

theorem pos (k : Key) : 0 < S.n := Nat.zero_lt_of_lt (S.home_lt k)
theorem slot_lt (k : Key) (d : Nat) : S.slot k d < S.n := slotAt_lt _ _ (S.pos k)
theorem far_lt (e : Entry) (i : Nat) : S.far e i < S.n := dist_lt _ _ (S.pos (S.key e))
theorem slot_far (e : Entry) {i : Nat} (inside : i < S.n) : S.slot (S.key e) (S.far e i) = i :=
  slotAt_dist (S.home_lt _) inside
theorem far_slot (e : Entry) {d : Nat} (short : d < S.n) : S.far e (S.slot (S.key e) d) = d :=
  dist_slotAt (S.home_lt _) short
theorem far_of_key {e : Entry} {k : Key} (same : S.key e = k) {d : Nat} (short : d < S.n) :
    S.far e (S.slot k d) = d := by
  subst same
  exact S.far_slot e short
theorem far_inj {e e' : Entry} (same : S.key e = S.key e') {i j : Nat} (inside : i < S.n) (inside' : j < S.n)
    (equal : S.far e i = S.far e' j) : i = j := by
  unfold far at equal
  rw [same] at equal
  exact dist_inj (S.home_lt _) inside inside' equal
theorem slot_ne {k : Key} {d d' : Nat} (before : d' < d) (short : d < S.n) : S.slot k d' ≠ S.slot k d := by
  intro same
  have distance : dist S.n (S.home k) (S.slot k d') = dist S.n (S.home k) (S.slot k d) := by rw [same]
  rw [slot,slot,dist_slotAt (S.home_lt k) (by omega),dist_slotAt (S.home_lt k) short] at distance
  omega
theorem slot_succ (k : Key) (d : Nat) : S.slot k (d + 1) = (S.slot k d + 1) % S.n := slotAt_succ _ _ _
theorem far_next (e : Entry) {i : Nat} (inside : i < S.n) :
    S.far e ((i + 1) % S.n) = S.far e i + 1 ∨ S.far e ((i + 1) % S.n) = 0 := dist_succ (S.home_lt _) inside

end Scheme

/-- A probe for the key walks on past its first `d` slots. -/
def Passes (t : Nat → Option Entry) (k : Key) (d : Nat) : Prop :=
  ∀ d' < d, ∃ e, t (S.slot k d') = some e ∧ d' ≤ S.far e (S.slot k d') ∧ S.key e ≠ k

/-- Every live entry is where a probe for its key ends. -/
def Sound (live : Entry → Prop) (t : Nat → Option Entry) : Prop :=
  ∀ i < S.n, ∀ e, t i = some e → live e → Passes S t (S.key e) (S.far e i)

/-- An entry of key `k`, put `d` steps from its home, neither ends nor answers
    the probe for a live entry that lies beyond. -/
def Yields (live : Entry → Prop) (t : Nat → Option Entry) (k : Key) (d : Nat) : Prop :=
  ∀ i < S.n, ∀ e, t i = some e → live e → S.far e (S.slot k d) < S.far e i →
    S.far e (S.slot k d) ≤ d ∧ S.key e ≠ k

/-- The table holds the entry, live. -/
def Holds (live : Entry → Prop) (t : Nat → Option Entry) (e : Entry) : Prop :=
  live e ∧ ∃ i < S.n, t i = some e

variable {S} {live live' : Entry → Prop} {t : Nat → Option Entry}

/-- An entry of a table in which a slot is filled anew. -/
theorem update_eq_some {i s : Nat} {cur e : Entry} (at_i : Function.update t s (some cur) i = some e) :
    (i = s ∧ cur = e) ∨ (i ≠ s ∧ t i = some e) := by
  by_cases here : i = s
  · subst here
    rw [Function.update_self] at at_i
    exact .inl ⟨rfl,Option.some.inj at_i⟩
  · rw [Function.update_of_ne here] at at_i
    exact .inr ⟨here,at_i⟩

theorem passes_zero (k : Key) : Passes S t k 0 := fun _ before => absurd before (Nat.not_lt_zero _)

theorem passes_succ {k : Key} {d : Nat} {e : Entry} (passes : Passes S t k d) (found : t (S.slot k d) = some e)
    (far : d ≤ S.far e (S.slot k d)) (other : S.key e ≠ k) : Passes S t k (d + 1) := by
  intro d' before
  rcases Nat.lt_succ_iff_lt_or_eq.mp before with earlier | rfl
  · exact passes d' earlier
  · exact ⟨e,found,far,other⟩

/-- An entry seen on the way of a live entry beyond is farther from home, and
    of another key. -/
theorem Sound.crossed (sound : Sound S live t) {i s : Nat} {e inc : Entry} (insideI : i < S.n) (insideS : s < S.n)
    (at_i : t i = some e) (alive : live e) (at_s : t s = some inc) (crosses : S.far e s < S.far e i) :
    S.far e s ≤ S.far inc s ∧ S.key inc ≠ S.key e := by
  obtain ⟨e',found,far,other⟩ := sound i insideI e at_i alive (S.far e s) crosses
  rw [S.slot_far e insideS] at found far
  rw [at_s] at found
  cases found
  exact ⟨far,other⟩

/-- Two live entries of one key are one entry, in one slot. -/
theorem Sound.unique (sound : Sound S live t) {i j : Nat} {e e' : Entry} (insideI : i < S.n) (insideJ : j < S.n)
    (at_i : t i = some e) (at_j : t j = some e') (alive : live e) (alive' : live e') (same : S.key e = S.key e') :
    i = j := by
  have apart : ∀ {i j : Nat} {e e' : Entry}, i < S.n → j < S.n → t i = some e → t j = some e' → live e →
      S.key e = S.key e' → ¬ S.far e j < S.far e i := by
    intro i j e e' insideI insideJ at_i at_j alive same crosses
    exact (sound.crossed insideI insideJ at_i alive at_j crosses).2 same.symm
  have first := apart insideI insideJ at_i at_j alive same
  have second := apart insideJ insideI at_j at_i alive' same.symm
  have swapped : S.far e' i = S.far e i ∧ S.far e' j = S.far e j := by
    simp only [Scheme.far,same,and_self]
  exact S.far_inj rfl insideI insideJ (by omega : S.far e i = S.far e j)

/-- Fewer live entries are sound wherever more are. -/
theorem Sound.weaken (sound : Sound S live t) (fewer : ∀ e, live' e → live e) : Sound S live' t :=
  fun i inside e at_i alive => sound i inside e at_i (fewer e alive)

/-! ### Parking an entry -/

/-- Parking an entry that yields to the live entries beyond keeps every live
    entry where its probe ends. -/
theorem Sound.park (sound : Sound S live t) (cur : Entry) {d : Nat} (short : d < S.n)
    (passes : Passes S t (S.key cur) d) (yields : Yields S live t (S.key cur) d) :
    Sound S live (Function.update t (S.slot (S.key cur) d) (some cur)) := by
  intro i inside e at_i alive
  obtain ⟨rfl,rfl⟩ | ⟨here,at_i⟩ := update_eq_some at_i
  · intro d' before
    rw [S.far_slot cur short] at before
    obtain ⟨e',found,far,other⟩ := passes d' before
    exact ⟨e',by rwa [Function.update_of_ne (S.slot_ne before short)],far,other⟩
  · intro d' before
    by_cases parked : S.slot (S.key e) d' = S.slot (S.key cur) d
    · have shortE : d' < S.n := by have := S.far_lt e i; omega
      have reach : S.far e (S.slot (S.key cur) d) = d' := by rw [← parked,S.far_slot e shortE]
      obtain ⟨near,other⟩ := yields i inside e at_i alive (by rw [reach]; exact before)
      refine ⟨cur,by rw [parked,Function.update_self],?_,Ne.symm other⟩
      rw [parked,S.far_slot cur short]
      omega
    · obtain ⟨e',found,far,other⟩ := sound i inside e at_i alive d' before
      exact ⟨e',by rwa [Function.update_of_ne parked],far,other⟩

/-- Nothing lies beyond an empty slot. -/
theorem Sound.yields_empty (sound : Sound S live t) {cur : Entry} {d : Nat}
    (empty : t (S.slot (S.key cur) d) = none) : Yields S live t (S.key cur) d := by
  intro i inside e at_i alive crosses
  obtain ⟨e',found,_,_⟩ := sound i inside e at_i alive _ crosses
  rw [S.slot_far e (S.slot_lt _ _),empty] at found
  cases found

/-- An entry takes the place of one of its own key, or of one closer to home. -/
theorem Sound.yields_over (sound : Sound S live t) {cur : Entry} (inc : Entry) {d : Nat} (short : d < S.n)
    (found : t (S.slot (S.key cur) d) = some inc)
    (rank : S.key inc = S.key cur ∨ S.far inc (S.slot (S.key cur) d) < d) : Yields S live t (S.key cur) d := by
  intro i inside e at_i alive crosses
  obtain ⟨near,other⟩ := sound.crossed inside (S.slot_lt _ _) at_i alive found crosses
  rcases rank with same | closer
  · rw [S.far_of_key same short] at near
    exact ⟨near,fun equal => other (same.trans equal.symm)⟩
  · refine ⟨by omega,fun equal => ?_⟩
    rw [S.far_of_key equal short] at near
    omega

/-! ### The displaced entry -/

/-- What holds of an entry that has been displaced and is carried on, `d` steps
    from its home: no live entry has its key, and it yields wherever it is put. -/
structure Displaced (S : Scheme Entry Key) (live : Entry → Prop) (t : Nat → Option Entry) (cur : Entry) (d : Nat) :
    Prop where
  alone : ∀ i < S.n, ∀ e, t i = some e → live e → S.key e ≠ S.key cur
  ahead : ∀ i < S.n, ∀ e, t i = some e → live e → S.far e (S.slot (S.key cur) d) < S.far e i →
    S.far e (S.slot (S.key cur) d) ≤ d

theorem Displaced.yields {cur : Entry} {d : Nat} (displaced : Displaced S live t cur d) : Yields S live t (S.key cur) d :=
  fun i inside e at_i alive crosses =>
    ⟨displaced.ahead i inside e at_i alive crosses,displaced.alone i inside e at_i alive⟩

private theorem ahead_next {d : Nat} {k : Key} (alive : Entry → Prop)
    (ahead : ∀ i < S.n, ∀ e, t i = some e → alive e → S.far e (S.slot k d) < S.far e i → S.far e (S.slot k d) ≤ d) :
    ∀ i < S.n, ∀ e, t i = some e → alive e → S.far e (S.slot k (d + 1)) < S.far e i →
      S.far e (S.slot k (d + 1)) ≤ d + 1 := by
  intro i inside e at_i living crosses
  rw [S.slot_succ] at crosses ⊢
  rcases S.far_next e (S.slot_lt k d) with farther | back
  · have := ahead i inside e at_i living (by omega)
    omega
  · omega

/-- Walking past an entry of another key that is no closer to its home. -/
theorem Displaced.keep {cur : Entry} {d : Nat} (displaced : Displaced S live t cur d) :
    Displaced S live t cur (d + 1) :=
  ⟨displaced.alone,ahead_next live displaced.ahead⟩

/-- The incumbent of a slot that `cur` takes over, one step farther on. -/
theorem Sound.displace (sound : Sound S live t) {cur inc : Entry} {d : Nat} (short : d < S.n)
    (found : t (S.slot (S.key cur) d) = some inc) (alive : live inc) (other : S.key inc ≠ S.key cur)
    (closer : S.far inc (S.slot (S.key cur) d) < d) :
    Passes S (Function.update t (S.slot (S.key cur) d) (some cur)) (S.key inc)
        (S.far inc (S.slot (S.key cur) d) + 1) ∧
      Displaced S live (Function.update t (S.slot (S.key cur) d) (some cur)) inc
        (S.far inc (S.slot (S.key cur) d) + 1) := by
  set s := S.slot (S.key cur) d with slotIs
  have inside : s < S.n := S.slot_lt _ _
  have incSlot : S.slot (S.key inc) (S.far inc s) = s := S.slot_far inc inside
  refine ⟨?_,?_,?_⟩
  · refine passes_succ (e := cur) ?_ (by rw [incSlot,Function.update_self]) ?_ (Ne.symm other)
    · intro d' before
      obtain ⟨e',seen,far,differs⟩ := sound s inside inc found alive d' before
      have apart : S.slot (S.key inc) d' ≠ s := by
        have := S.slot_ne (k := S.key inc) before (S.far_lt inc s)
        rwa [incSlot] at this
      exact ⟨e',by rwa [Function.update_of_ne apart],far,differs⟩
    · have parked : S.far cur s = d := S.far_slot cur short
      rw [incSlot]
      omega
  · intro i insideI e at_i living same
    obtain ⟨rfl,rfl⟩ | ⟨here,at_i⟩ := update_eq_some at_i
    · exact other same.symm
    · exact here (sound.unique insideI inside at_i found living alive same)
  · refine ahead_next live ?_
    rw [incSlot]
    intro i insideI e at_i living crosses
    obtain ⟨rfl,rfl⟩ | ⟨here,at_i⟩ := update_eq_some at_i
    · exact absurd crosses (lt_irrefl _)
    · exact (sound.crossed insideI inside at_i living found crosses).1

/-! ### What a table holds -/

/-- Parking over a slot that holds nothing live adds the entry. -/
theorem holds_park {cur : Entry} {s : Nat} (inside : s < S.n) (alive : live cur)
    (free : ∀ e, t s = some e → ¬ live e) (e : Entry) :
    Holds S live (Function.update t s (some cur)) e ↔ Holds S live t e ∨ e = cur := by
  constructor
  · rintro ⟨living,i,insideI,at_i⟩
    obtain ⟨rfl,rfl⟩ | ⟨here,at_i⟩ := update_eq_some at_i
    · exact .inr rfl
    · exact .inl ⟨living,i,insideI,at_i⟩
  · rintro (⟨living,i,insideI,at_i⟩ | rfl)
    · have here : i ≠ s := fun same => free e (same ▸ at_i) living
      exact ⟨living,i,insideI,by rwa [Function.update_of_ne here]⟩
    · exact ⟨alive,s,inside,Function.update_self ..⟩

/-- Taking over the slot of a live entry exchanges the two. -/
theorem holds_exchange {cur inc : Entry} {s : Nat} (inside : s < S.n) (alive : live cur) (found : t s = some inc)
    (incAlive : live inc) (e : Entry) :
    (Holds S live (Function.update t s (some cur)) e ∨ e = inc) ↔ (Holds S live t e ∨ e = cur) := by
  constructor
  · rintro (⟨living,i,insideI,at_i⟩ | rfl)
    · obtain ⟨rfl,rfl⟩ | ⟨here,at_i⟩ := update_eq_some at_i
      · exact .inr rfl
      · exact .inl ⟨living,i,insideI,at_i⟩
    · exact .inl ⟨incAlive,s,inside,found⟩
  · rintro (⟨living,i,insideI,at_i⟩ | rfl)
    · by_cases here : i = s
      · subst here
        rw [found] at at_i
        cases at_i
        exact .inr rfl
      · exact .inl ⟨living,i,insideI,by rwa [Function.update_of_ne here]⟩
    · exact .inl ⟨alive,s,inside,Function.update_self ..⟩

/-- Taking over the slot of the only live entry of a key replaces that entry. -/
theorem Sound.holds_replace (sound : Sound S live t) {cur old : Entry} {s : Nat} (inside : s < S.n)
    (alive : live cur) (found : t s = some old) (oldAlive : live old) (same : S.key cur = S.key old) (e : Entry) :
    Holds S live (Function.update t s (some cur)) e ↔ (Holds S live t e ∧ S.key e ≠ S.key cur) ∨ e = cur := by
  constructor
  · rintro ⟨living,i,insideI,at_i⟩
    obtain ⟨rfl,rfl⟩ | ⟨here,at_i⟩ := update_eq_some at_i
    · exact .inr rfl
    · refine .inl ⟨⟨living,i,insideI,at_i⟩,fun equal => here ?_⟩
      exact sound.unique insideI inside at_i found living oldAlive (equal.trans same)
  · rintro (⟨⟨living,i,insideI,at_i⟩,other⟩ | rfl)
    · have here : i ≠ s := by
        rintro rfl
        rw [found] at at_i
        cases at_i
        exact other same.symm
      exact ⟨living,i,insideI,by rwa [Function.update_of_ne here]⟩
    · exact ⟨alive,s,inside,Function.update_self ..⟩

/-! ### Looking up and inserting -/

section
variable (S) [DecidableEq Key]

/-- The early-terminating lookup, from `d` steps on, over at most `fuel` slots. -/
def findFrom (t : Nat → Option Entry) (k : Key) : Nat → Nat → Option Nat
  | 0, _ => none
  | fuel + 1, d =>
    match t (S.slot k d) with
    | none => none
    | some e =>
      if S.far e (S.slot k d) < d then none
      else if S.key e = k then some (S.slot k d)
      else findFrom t k fuel (d + 1)
/-- The slot that a lookup of the key ends at, when it finds the key. -/
def find (t : Nat → Option Entry) (k : Key) : Option Nat := findFrom S t k S.n 0

/-- What became of an inserted entry. -/
inductive Outcome (Entry : Type*)
  | inserted
  | reclaimed
  | updated (old : Entry)
  | dropped (lost : Entry)

variable (live : Entry → Prop) [DecidablePred live] (merge : Entry → Entry → Entry)

/-- Insertion of `cur` from `d` steps on, over at most `fuel` slots: the first
    slot that is free, whose entry is not live, or whose entry has the key takes
    the entry; an entry closer to its home is displaced and carried on. -/
def insertFrom : Nat → (Nat → Option Entry) → Entry → Nat → (Nat → Option Entry) × Outcome Entry
  | 0, t, cur, _ => (t,.dropped cur)
  | fuel + 1, t, cur, d =>
    match t (S.slot (S.key cur) d) with
    | none => (Function.update t (S.slot (S.key cur) d) (some cur),.inserted)
    | some inc =>
      if ¬ live inc then (Function.update t (S.slot (S.key cur) d) (some cur),.reclaimed)
      else if S.key inc = S.key cur then
        (Function.update t (S.slot (S.key cur) d) (some (merge inc cur)),.updated inc)
      else if S.far inc (S.slot (S.key cur) d) < d then
        insertFrom fuel (Function.update t (S.slot (S.key cur) d) (some cur)) inc
          (S.far inc (S.slot (S.key cur) d) + 1)
      else insertFrom fuel t cur (d + 1)
/-- Insertion of a new entry, starting at its home. -/
def insert (t : Nat → Option Entry) (cur : Entry) : (Nat → Option Entry) × Outcome Entry :=
  insertFrom S live merge S.n t cur 0

/-- When the insertion of the key, on its way past live entries, comes to one
    that is not live, the key may take its slot without hiding or doubling a
    live entry beyond. -/
def ReclaimSafe (t : Nat → Option Entry) (k : Key) : Prop :=
  ∀ d < S.n, (∀ d' < d, ∃ e, t (S.slot k d') = some e ∧ live e ∧ S.key e ≠ k ∧ d' ≤ S.far e (S.slot k d')) →
    ∀ old, t (S.slot k d) = some old → ¬ live old → Yields S live t k d

instance (t : Nat → Option Entry) (k : Key) (d : Nat) : Decidable (Yields S live t k d) :=
  inferInstanceAs (Decidable (∀ i < S.n, ∀ e ∈ t i, live e → S.far e (S.slot k d) < S.far e i →
    S.far e (S.slot k d) ≤ d ∧ S.key e ≠ k))
instance (t : Nat → Option Entry) (k : Key) : Decidable (ReclaimSafe S live t k) :=
  inferInstanceAs (Decidable (∀ d < S.n, (∀ d' < d, ∃ e ∈ t (S.slot k d'), live e ∧ S.key e ≠ k ∧
    d' ≤ S.far e (S.slot k d')) → ∀ old ∈ t (S.slot k d), ¬ live old → Yields S live t k d))

end

section
variable [DecidableEq Key]

theorem findFrom_correct {k : Key} :
    ∀ fuel d, d + fuel = S.n → Passes S t k d →
      ∀ i, findFrom S t k fuel d = some i ↔
        ∃ e, i < S.n ∧ t i = some e ∧ S.key e = k ∧ d ≤ S.far e i ∧ Passes S t k (S.far e i) := by
  intro fuel
  induction fuel with
  | zero =>
    intro d full passes i
    simp only [findFrom,reduceCtorEq,false_iff]
    rintro ⟨e,_,_,_,beyond,_⟩
    have := S.far_lt e i
    omega
  | succ fuel ih =>
    intro d full passes i
    have short : d < S.n := by omega
    rw [findFrom]
    -- An entry of the key at or beyond `d` is at `d` or seen past it.
    have beyond : ∀ e, i < S.n → S.key e = k → d < S.far e i → Passes S t k (S.far e i) →
        ∃ e', t (S.slot k d) = some e' ∧ d ≤ S.far e' (S.slot k d) ∧ S.key e' ≠ k :=
      fun e _ _ farther ends => ends d farther
    have here : ∀ e, i < S.n → S.key e = k → S.far e i = d → i = S.slot k d := by
      intro e inside same equal
      rw [← S.slot_far e inside,same,equal]
    cases found : t (S.slot k d) with
    | none =>
      simp only [reduceCtorEq,false_iff]
      rintro ⟨e,inside,at_i,same,atLeast,ends⟩
      rcases Nat.lt_or_eq_of_le atLeast with farther | equal
      · obtain ⟨e',seen,_⟩ := beyond e inside same farther ends
        rw [found] at seen
        cases seen
      · rw [here e inside same equal.symm,found] at at_i
        cases at_i
    | some inc =>
      by_cases closer : S.far inc (S.slot k d) < d
      · simp only [closer,if_true,reduceCtorEq,false_iff]
        rintro ⟨e,inside,at_i,same,atLeast,ends⟩
        rcases Nat.lt_or_eq_of_le atLeast with farther | equal
        · obtain ⟨e',seen,far,_⟩ := beyond e inside same farther ends
          rw [found] at seen
          cases seen
          omega
        · rw [here e inside same equal.symm,found] at at_i
          cases at_i
          rw [S.far_of_key same short] at closer
          omega
      · by_cases same : S.key inc = k
        · simp only [closer,if_false,same,if_true,Option.some.injEq]
          constructor
          · rintro rfl
            refine ⟨inc,S.slot_lt _ _,found,same,?_,?_⟩
            · rw [S.far_of_key same short]
            · rwa [S.far_of_key same short]
          · rintro ⟨e,inside,at_i,same',atLeast,ends⟩
            rcases Nat.lt_or_eq_of_le atLeast with farther | equal
            · obtain ⟨e',seen,_,other⟩ := beyond e inside same' farther ends
              rw [found] at seen
              cases seen
              exact absurd same other
            · exact (here e inside same' equal.symm).symm
        · simp only [closer,if_false,same]
          rw [ih (d + 1) (by omega) (passes_succ passes found (by omega) same) i]
          constructor
          · rintro ⟨e,inside,at_i,same',atLeast,ends⟩
            exact ⟨e,inside,at_i,same',by omega,ends⟩
          · rintro ⟨e,inside,at_i,same',atLeast,ends⟩
            refine ⟨e,inside,at_i,same',?_,ends⟩
            rcases Nat.lt_or_eq_of_le atLeast with farther | equal
            · exact farther
            · rw [here e inside same' equal.symm,found] at at_i
              cases at_i
              exact absurd same' same

/-- A lookup finds a key exactly where the probe for the key ends. -/
theorem find_correct {k : Key} {i : Nat} :
    find S t k = some i ↔ ∃ e, i < S.n ∧ t i = some e ∧ S.key e = k ∧ Passes S t k (S.far e i) := by
  rw [find,findFrom_correct S.n 0 (by omega) (passes_zero k)]
  simp

/-- In a sound table a lookup finds every live entry. -/
theorem Sound.find (sound : Sound S live t) {i : Nat} {e : Entry} (inside : i < S.n) (at_i : t i = some e)
    (alive : live e) : find S t (S.key e) = some i :=
  find_correct.mpr ⟨e,inside,at_i,rfl,sound i inside e at_i alive⟩

/-- Replacing the entry that a lookup finds by one of the same key. -/
theorem Sound.refresh (sound : Sound S live t) {i : Nat} {e e' : Entry} (found : Probing.find S t (S.key e') = some i)
    (at_i : t i = some e) : Sound S live (Function.update t i (some e')) := by
  obtain ⟨e'',inside,at_i',same,passes⟩ := find_correct.mp found
  rw [at_i] at at_i'
  cases at_i'
  have distance : S.far e' i = S.far e i := by rw [Scheme.far,Scheme.far,same]
  have here : S.slot (S.key e') (S.far e i) = i := by rw [← distance,S.slot_far e' inside]
  have parked := sound.park e' (S.far_lt e i) passes
    (sound.yields_over e (S.far_lt e i) (by rw [here,at_i]) (.inl same))
  rwa [here] at parked

end

section
variable [DecidableEq Key] [DecidablePred live] {merge : Entry → Entry → Entry}

/-- What an insertion does to what the table holds. -/
def Contents (S : Scheme Entry Key) (live : Entry → Prop) (merge : Entry → Entry → Entry) (t : Nat → Option Entry)
    (cur : Entry) (t' : Nat → Option Entry) : Outcome Entry → Prop
  | .inserted | .reclaimed => ∀ e, Holds S live t' e ↔ Holds S live t e ∨ e = cur
  | .updated old => Holds S live t old ∧ S.key old = S.key cur ∧
      ∀ e, Holds S live t' e ↔ (Holds S live t e ∧ S.key e ≠ S.key cur) ∨ e = merge old cur
  | .dropped lost => live lost ∧ ∀ e, (Holds S live t' e ∨ e = lost) ↔ (Holds S live t e ∨ e = cur)

omit [DecidableEq Key] [DecidablePred live] in
/-- An insertion goes on with the entry that it took out, if that changes nothing for
    any entry. -/
private theorem contents_exchange {t t' t'' : Nat → Option Entry} {cur inc : Entry} {outcome : Outcome Entry}
    (exchange : ∀ e, (Holds S live t' e ∨ e = inc) ↔ (Holds S live t e ∨ e = cur))
    (contents : Contents S live merge t' inc t'' outcome) (fresh : ∀ old, outcome ≠ .updated old) :
    Contents S live merge t cur t'' outcome := by
  cases outcome with
  | inserted => exact fun e => (contents e).trans (exchange e)
  | reclaimed => exact fun e => (contents e).trans (exchange e)
  | updated old => exact absurd rfl (fresh old)
  | dropped lost => exact ⟨contents.1,fun e => (contents.2 e).trans (exchange e)⟩

private theorem insertFrom_displaced (merge : Entry → Entry → Entry) :
    ∀ fuel t cur d, d + fuel ≤ S.n → live cur → Sound S live t → Passes S t (S.key cur) d →
      Displaced S live t cur d →
      Sound S live (insertFrom S live merge fuel t cur d).1 ∧
        Contents S live merge t cur (insertFrom S live merge fuel t cur d).1
          (insertFrom S live merge fuel t cur d).2 ∧
        ∀ old, (insertFrom S live merge fuel t cur d).2 ≠ .updated old := by
  intro fuel
  induction fuel with
  | zero =>
    intro t cur d _ alive sound _ _
    exact ⟨sound,⟨alive,fun e => Iff.rfl⟩,fun old => by simp [insertFrom]⟩
  | succ fuel ih =>
    intro t cur d room alive sound passes displaced
    have short : d < S.n := by omega
    have inside : S.slot (S.key cur) d < S.n := S.slot_lt _ _
    rw [insertFrom]
    cases found : t (S.slot (S.key cur) d) with
    | none =>
      refine ⟨sound.park cur short passes displaced.yields,?_,by simp⟩
      exact holds_park inside alive (fun e at_s => by rw [found] at at_s; cases at_s)
    | some inc =>
      by_cases living : live inc
      · have other : S.key inc ≠ S.key cur := displaced.alone _ inside inc found living
        by_cases closer : S.far inc (S.slot (S.key cur) d) < d
        · simp only [living,not_true_eq_false,if_false,other,closer,if_true]
          obtain ⟨passes',displaced'⟩ := sound.displace short found living other closer
          have parked := sound.park cur short passes displaced.yields
          obtain ⟨sound',contents,fresh⟩ := ih _ inc _ (by omega) living parked passes' displaced'
          exact ⟨sound',contents_exchange (holds_exchange inside alive found living) contents fresh,fresh⟩
        · simp only [living,not_true_eq_false,if_false,other,closer]
          exact ih t cur (d + 1) (by omega) alive sound (passes_succ passes found (by omega) other) displaced.keep
      · simp only [living,not_false_eq_true,if_true]
        refine ⟨sound.park cur short passes displaced.yields,?_,by simp⟩
        exact holds_park inside alive (fun e at_s dead => by rw [found] at at_s; cases at_s; exact living dead)

private theorem insertFrom_fresh (keyed : ∀ old new, S.key old = S.key new → S.key (merge old new) = S.key new)
    {t : Nat → Option Entry} {cur : Entry} (lively : ∀ old, live old → live (merge old cur)) (alive : live cur)
    (sound : Sound S live t) (safe : ReclaimSafe S live t (S.key cur)) :
    ∀ fuel d, d + fuel ≤ S.n → Passes S t (S.key cur) d →
      (∀ d' < d, ∃ e, t (S.slot (S.key cur) d') = some e ∧ live e ∧ S.key e ≠ S.key cur ∧
        d' ≤ S.far e (S.slot (S.key cur) d')) →
      Sound S live (insertFrom S live merge fuel t cur d).1 ∧
        Contents S live merge t cur (insertFrom S live merge fuel t cur d).1
          (insertFrom S live merge fuel t cur d).2 := by
  intro fuel
  induction fuel with
  | zero =>
    intro d _ _ _
    exact ⟨sound,alive,fun e => Iff.rfl⟩
  | succ fuel ih =>
    intro d room passes walked
    have short : d < S.n := by omega
    have inside : S.slot (S.key cur) d < S.n := S.slot_lt _ _
    rw [insertFrom]
    cases found : t (S.slot (S.key cur) d) with
    | none =>
      refine ⟨sound.park cur short passes (sound.yields_empty found),?_⟩
      exact holds_park inside alive (fun e at_s => by rw [found] at at_s; cases at_s)
    | some inc =>
      by_cases living : live inc
      · by_cases same : S.key inc = S.key cur
        · simp only [living,not_true_eq_false,if_false,same,if_true]
          have merged := keyed inc cur same
          have parked := sound.park (merge inc cur) short (by rwa [merged])
            (sound.yields_over inc short (by rwa [merged]) (.inl (same.trans merged.symm)))
          rw [merged] at parked
          refine ⟨parked,⟨living,_,inside,found⟩,same,fun e => ?_⟩
          have replaced := sound.holds_replace inside (lively inc living) found living
            (merged.trans same.symm) e
          rwa [merged] at replaced
        · by_cases closer : S.far inc (S.slot (S.key cur) d) < d
          · simp only [living,not_true_eq_false,if_false,same,closer,if_true]
            obtain ⟨passes',displaced⟩ := sound.displace short found living same closer
            have parked := sound.park cur short passes (sound.yields_over inc short found (.inr closer))
            obtain ⟨sound',contents,fresh⟩ :=
              insertFrom_displaced merge fuel _ inc _ (by omega) living parked passes' displaced
            exact ⟨sound',contents_exchange (holds_exchange inside alive found living) contents fresh⟩
          · simp only [living,not_true_eq_false,if_false,same,closer]
            refine ih (d + 1) (by omega) (passes_succ passes found (by omega) same) ?_
            intro d' before
            rcases Nat.lt_succ_iff_lt_or_eq.mp before with earlier | rfl
            · exact walked d' earlier
            · exact ⟨inc,found,living,same,by omega⟩
      · simp only [living,not_false_eq_true,if_true]
        refine ⟨sound.park cur short passes (safe d short walked inc found living),?_⟩
        exact holds_park inside alive (fun e at_s dead => by rw [found] at at_s; cases at_s; exact living dead)

/-- Insertion keeps a table sound, and holds what it should, unless it reclaims
    the slot of an entry that is not live in front of a live one that needs it. -/
theorem insert_correct (keyed : ∀ old new, S.key old = S.key new → S.key (merge old new) = S.key new)
    {t : Nat → Option Entry} {cur : Entry} (lively : ∀ old, live old → live (merge old cur)) (alive : live cur)
    (sound : Sound S live t) (safe : ReclaimSafe S live t (S.key cur)) :
    Sound S live (insert S live merge t cur).1 ∧
      Contents S live merge t cur (insert S live merge t cur).1 (insert S live merge t cur).2 :=
  insertFrom_fresh keyed lively alive sound safe S.n 0 (by omega) (passes_zero _)
    (fun _ before => absurd before (Nat.not_lt_zero _))

/-- What holds of the entries of a table and of the new one holds of all entries
    afterwards. -/
theorem insertFrom_all {P : Entry → Prop}
    (merged : ∀ old new, P old → P new → S.key old = S.key new → P (merge old new)) :
    ∀ fuel t cur d, (∀ i e, t i = some e → P e) → P cur →
      ∀ i e, (insertFrom S live merge fuel t cur d).1 i = some e → P e := by
  intro fuel
  induction fuel with
  | zero => exact fun t cur d all _ => all
  | succ fuel ih =>
    intro t cur d all new
    have stored : ∀ s e, P e → ∀ i e', Function.update t s (some e) i = some e' → P e' := by
      intro s e holds i e' at_i
      rcases update_eq_some at_i with ⟨_,rfl⟩ | ⟨_,at_i⟩
      · exact holds
      · exact all i e' at_i
    rw [insertFrom]
    cases found : t (S.slot (S.key cur) d) with
    | none => exact stored _ cur new
    | some inc =>
      have held := all _ inc found
      dsimp only
      split_ifs with alive same closer
      · exact stored _ _ (merged inc cur held new same)
      · exact ih _ inc _ (stored _ cur new) held
      · exact ih t cur _ all new
      · exact stored _ cur new

/-- Nothing changes on the way past live entries that are no closer to home. -/
theorem insertFrom_walk {t : Nat → Option Entry} {cur : Entry} (fuel : Nat) :
    ∀ d, (∀ d' < d, ∃ e, t (S.slot (S.key cur) d') = some e ∧ live e ∧ S.key e ≠ S.key cur ∧
        d' ≤ S.far e (S.slot (S.key cur) d')) →
      insertFrom S live merge (fuel + d) t cur 0 = insertFrom S live merge fuel t cur d := by
  intro d
  induction d generalizing fuel with
  | zero => intro _; rfl
  | succ d ih =>
    intro walked
    obtain ⟨e,found,living,other,far⟩ := walked d (Nat.lt_succ_self d)
    have closer : ¬ S.far e (S.slot (S.key cur) d) < d := by omega
    have step := ih (fuel + 1) (fun d' before => walked d' (by omega))
    rw [insertFrom] at step
    simp only [found,living,not_true_eq_false,if_false,other,closer] at step
    rw [← step]
    congr 1
    omega

/-- The condition on reclaiming is exact: an insertion that does not meet it
    leaves a live entry where no probe for its key ends. -/
theorem insert_sound_iff (keyed : ∀ old new, S.key old = S.key new → S.key (merge old new) = S.key new)
    {t : Nat → Option Entry} {cur : Entry} (lively : ∀ old, live old → live (merge old cur)) (alive : live cur)
    (sound : Sound S live t) :
    Sound S live (insert S live merge t cur).1 ↔ ReclaimSafe S live t (S.key cur) := by
  refine ⟨fun sound' d short walked old found dead => ?_,fun safe => (insert_correct keyed lively alive sound safe).1⟩
  have walk := @insertFrom_walk _ _ S live _ _ merge t cur (S.n - d) d walked
  obtain ⟨room,roomIs⟩ : ∃ room, S.n - d = room + 1 := ⟨S.n - d - 1,by omega⟩
  rw [Nat.sub_add_cancel (by omega),roomIs,insertFrom] at walk
  simp only [found,dead,not_false_eq_true,if_true] at walk
  rw [insert,walk] at sound'
  dsimp only at sound'
  intro i inside e at_i living crosses
  have here : i ≠ S.slot (S.key cur) d := by
    rintro rfl
    exact absurd crosses (lt_irrefl _)
  have parked : S.far cur (S.slot (S.key cur) d) = d := S.far_slot cur short
  have crossed := sound'.crossed inside (S.slot_lt _ _) (by rwa [Function.update_of_ne here]) living
    (Function.update_self ..) crosses
  rw [parked] at crossed
  exact ⟨crossed.1,Ne.symm crossed.2⟩

/-! ### A full table -/

/-- Every slot holds a live entry. -/
def Full (S : Scheme Entry Key) (live : Entry → Prop) (t : Nat → Option Entry) : Prop :=
  ∀ i < S.n, ∃ e, t i = some e ∧ live e

private theorem insertFrom_dropped {lost : Entry} :
    ∀ fuel t cur d, fuel ≤ S.n → (insertFrom S live merge fuel t cur d).2 = .dropped lost →
      ∀ j < fuel, ∃ e, t (slotAt S.n (S.slot (S.key cur) d) j) = some e ∧ live e := by
  intro fuel
  induction fuel with
  | zero => intro t cur d _ _ j before; omega
  | succ fuel ih =>
    intro t cur d room dropped j before
    have inside : S.slot (S.key cur) d < S.n := S.slot_lt _ _
    rw [insertFrom] at dropped
    cases found : t (S.slot (S.key cur) d) with
    | none => simp [found] at dropped
    | some inc =>
      by_cases living : live inc
      · by_cases same : S.key inc = S.key cur
        · simp [found,living,same] at dropped
        -- Both kinds of step go on at the next slot, with this one done.
        have onward : ∀ t' e' d', S.slot (S.key e') d' = (S.slot (S.key cur) d + 1) % S.n →
            (∀ i, i ≠ S.slot (S.key cur) d → t' i = t i) →
            (insertFrom S live merge fuel t' e' d').2 = .dropped lost →
            ∃ e, t (slotAt S.n (S.slot (S.key cur) d) j) = some e ∧ live e := by
          intro t' e' d' next elsewhere dropped'
          cases j with
          | zero => exact ⟨inc,by rwa [slotAt_zero inside],living⟩
          | succ j =>
            obtain ⟨e,at_j,alive⟩ := ih t' e' d' (by omega) dropped' j (by omega)
            have shift : slotAt S.n ((S.slot (S.key cur) d + 1) % S.n) j =
                slotAt S.n (S.slot (S.key cur) d) (j + 1) := by
              simp only [slotAt,Nat.mod_add_mod]
              congr 1
              omega
            rw [next,shift] at at_j
            refine ⟨e,?_,alive⟩
            rw [← at_j]
            refine (elsewhere _ fun back => ?_).symm
            have distance := dist_slotAt inside (d := j + 1) (by omega)
            rw [back,dist_home inside] at distance
            omega
        by_cases closer : S.far inc (S.slot (S.key cur) d) < d
        · simp only [found,living,not_true_eq_false,if_false,same,closer,if_true] at dropped
          refine onward _ inc _ ?_ (fun i apart => Function.update_of_ne apart ..) dropped
          rw [S.slot_succ,S.slot_far inc inside]
        · simp only [found,living,not_true_eq_false,if_false,same,closer] at dropped
          exact onward _ cur _ (S.slot_succ _ _) (fun _ _ => rfl) dropped
      · simp [found,living] at dropped

/-- An entry is dropped from a full table only. -/
theorem insert_dropped {t : Nat → Option Entry} {cur lost : Entry}
    (dropped : (insert S live merge t cur).2 = .dropped lost) : Full S live t := by
  intro i inside
  have start : S.slot (S.key cur) 0 = S.home (S.key cur) := slotAt_zero (S.home_lt _)
  obtain ⟨e,at_i,alive⟩ := insertFrom_dropped S.n t cur 0 (le_refl _) dropped _ (dist_lt _ _ (S.pos (S.key cur)))
  rw [start,slotAt_dist (S.home_lt _) inside] at at_i
  exact ⟨e,at_i,alive⟩

end

end Lb.Probing
