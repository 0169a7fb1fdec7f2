import Lb.Probing

/-!
# Entries of one key

A table may come to hold several entries of a key. What keeps them in order is
that an entry that counts is never behind another one of its key; where every
entry counts, a key then has one entry at most.
-/
namespace Lb.Probing
open Lb.Ring

variable {Entry Key : Type*} {S : Scheme Entry Key} {live counts : Entry → Prop} {t : Nat → Option Entry}

/-- No entry of the key that counts is behind another entry of the key. -/
def Fronted (S : Scheme Entry Key) (counts : Entry → Prop) (t : Nat → Option Entry) (k : Key) : Prop :=
  ∀ i < S.n, ∀ j < S.n, ∀ e e', t i = some e → t j = some e' → S.key e = k → S.key e' = k → S.far e i < S.far e' j →
    ¬ counts e'

/-- An entry of the key is carried on, `d` steps from its home: the others of the
    key are not in front of it, and do not count. -/
def Carried (S : Scheme Entry Key) (counts : Entry → Prop) (t : Nat → Option Entry) (k : Key) (d : Nat) : Prop :=
  ∀ i < S.n, ∀ e, t i = some e → S.key e = k → d ≤ S.far e i ∧ ¬ counts e

/-- An insertion of the key comes to each of its entries that counts, past live
    entries that are no closer to their homes. -/
def Uncut (S : Scheme Entry Key) (live counts : Entry → Prop) (t : Nat → Option Entry) (k : Key) : Prop :=
  ∀ i < S.n, ∀ e, t i = some e → S.key e = k → counts e →
    ∀ d < S.far e i, ∃ e', t (S.slot k d) = some e' ∧ live e' ∧ d ≤ S.far e' (S.slot k d)

instance [DecidableEq Key] [DecidablePred live] [DecidablePred counts] (t : Nat → Option Entry) (k : Key) :
    Decidable (Uncut S live counts t k) :=
  inferInstanceAs (Decidable (∀ i < S.n, ∀ e ∈ t i, S.key e = k → counts e →
    ∀ d < S.far e i, ∃ e' ∈ t (S.slot k d), live e' ∧ d ≤ S.far e' (S.slot k d)))

variable {k : Key}

theorem fronted_empty : Fronted S counts (fun _ => none) k := fun _ _ _ _ _ _ at_i => nomatch at_i

theorem Fronted.weaken {counts' : Entry → Prop} (fronted : Fronted S counts t k) (fewer : ∀ e, counts' e → counts e) :
    Fronted S counts' t k :=
  fun i insideI j insideJ e e' at_i at_j same same' behind counted =>
    fronted i insideI j insideJ e e' at_i at_j same same' behind (fewer e' counted)

/-- At most one entry of the key counts. -/
theorem Fronted.unique (fronted : Fronted S counts t k) {i j : Nat} {e e' : Entry} (insideI : i < S.n)
    (insideJ : j < S.n) (at_i : t i = some e) (at_j : t j = some e') (same : S.key e = k) (same' : S.key e' = k)
    (counted : counts e) (counted' : counts e') : i = j := by
  rcases Nat.lt_trichotomy (S.far e i) (S.far e' j) with front | here | behind
  · exact absurd counted' (fronted i insideI j insideJ e e' at_i at_j same same' front)
  · exact S.far_inj (same.trans same'.symm) insideI insideJ here
  · exact absurd counted (fronted j insideJ i insideI e' e at_j at_i same' same behind)

/-- An entry of another key may be put anywhere. -/
theorem Fronted.update_other (fronted : Fronted S counts t k) (s : Nat) {cur : Entry} (other : S.key cur ≠ k) :
    Fronted S counts (Function.update t s (some cur)) k := by
  have old : ∀ {i e}, Function.update t s (some cur) i = some e → S.key e = k → t i = some e := by
    intro i e at_i same
    obtain ⟨rfl,rfl⟩ | ⟨_,at_i⟩ := update_eq_some at_i
    · exact absurd same other
    · exact at_i
  intro i insideI j insideJ e e' at_i at_j same same'
  exact fronted i insideI j insideJ e e' (old at_i same) (old at_j same') same same'

/-- An entry of the key may take the place of the first entry of the key. -/
theorem Fronted.update_first (fronted : Fronted S counts t k) {s : Nat} {old cur : Entry} (inside : s < S.n)
    (found : t s = some old) (same : S.key old = k) (same' : S.key cur = k)
    (first : ∀ i < S.n, ∀ e, t i = some e → S.key e = k → S.far old s ≤ S.far e i) :
    Fronted S counts (Function.update t s (some cur)) k := by
  have place : S.far cur s = S.far old s := by unfold Scheme.far; rw [same,same']
  intro i insideI j insideJ e e' at_i at_j ofKey ofKey' behind
  obtain ⟨rfl,rfl⟩ | ⟨_,old_j⟩ := update_eq_some at_j
  · obtain ⟨rfl,rfl⟩ | ⟨_,old_i⟩ := update_eq_some at_i
    · exact absurd behind (lt_irrefl _)
    · have := first i insideI e old_i ofKey
      omega
  · obtain ⟨rfl,rfl⟩ | ⟨_,old_i⟩ := update_eq_some at_i
    · exact fronted i insideI j insideJ old e' found old_j same ofKey' (place ▸ behind)
    · exact fronted i insideI j insideJ e e' old_i old_j ofKey ofKey' behind

/-- The entry that is carried may be parked. -/
theorem Carried.park {d : Nat} (carried : Carried S counts t k d) (short : d < S.n) {cur : Entry}
    (same : S.key cur = k) : Fronted S counts (Function.update t (S.slot k d) (some cur)) k := by
  have place : S.far cur (S.slot k d) = d := S.far_of_key same short
  intro i insideI j insideJ e e' at_i at_j ofKey ofKey' behind
  obtain ⟨rfl,rfl⟩ | ⟨_,at_j⟩ := update_eq_some at_j
  · obtain ⟨rfl,rfl⟩ | ⟨_,at_i⟩ := update_eq_some at_i
    · exact absurd behind (lt_irrefl _)
    · have := (carried i insideI e at_i ofKey).1
      omega
  · exact (carried j insideJ e' at_j ofKey').2

theorem Carried.fronted {d : Nat} (carried : Carried S counts t k d) : Fronted S counts t k :=
  fun _ _ j insideJ _ e' _ at_j _ ofKey' _ => (carried j insideJ e' at_j ofKey').2

/-- The walk goes on past an entry of another key. -/
theorem Carried.next {d : Nat} (carried : Carried S counts t k d) {inc : Entry} (found : t (S.slot k d) = some inc)
    (other : S.key inc ≠ k) : Carried S counts t k (d + 1) := by
  intro i inside e at_i same
  obtain ⟨atLeast,uncounted⟩ := carried i inside e at_i same
  refine ⟨?_,uncounted⟩
  rcases Nat.lt_or_eq_of_le atLeast with farther | equal
  · exact farther
  · have here : i = S.slot k d := by rw [← S.slot_far e inside,same,equal]
    rw [here,found] at at_i
    cases at_i
    exact absurd same other

/-- An entry that counts and is displaced by one of another key is carried on. -/
theorem Fronted.displace (fronted : Fronted S counts t k) {s : Nat} {inc cur : Entry} (inside : s < S.n)
    (found : t s = some inc) (counted : counts inc) (same : S.key inc = k) (other : S.key cur ≠ k) :
    Carried S counts (Function.update t s (some cur)) k (S.far inc s + 1) := by
  intro i insideI e at_i ofKey
  obtain ⟨rfl,rfl⟩ | ⟨here,at_i⟩ := update_eq_some at_i
  · exact absurd ofKey other
  · have behind : S.far inc s < S.far e i := by
      rcases Nat.lt_trichotomy (S.far inc s) (S.far e i) with behind | equal | front
      · exact behind
      · exact absurd (S.far_inj (same.trans ofKey.symm) inside insideI equal).symm here
      · exact absurd counted (fronted i insideI s inside e inc at_i found ofKey same front)
    exact ⟨behind,fronted s inside i insideI inc e found at_i same ofKey behind⟩

/-! ### Insertion -/

section
variable [DecidableEq Key] [DecidablePred live] {merge : Entry → Entry → Entry}

/-- An entry of the updated table was there before, or is the new one. -/
private theorem update_mem {s i : Nat} {cur e : Entry} (at_i : Function.update t s (some cur) i = some e) :
    t i = some e ∨ e = cur := by
  obtain ⟨rfl,rfl⟩ | ⟨here,at_i⟩ := update_eq_some at_i
  · exact .inr rfl
  · exact .inl at_i

variable (merge) in
/-- Insertion keeps the entries of a key in order, and makes none of the key but
    the one it began with. -/
theorem insertFrom_fronted (keyed : ∀ old new, S.key old = S.key new → S.key (merge old new) = S.key new)
    (counted : ∀ e, live e → counts e) :
    ∀ fuel t cur d, d + fuel ≤ S.n → (S.key cur = k → Carried S counts t k d) →
      (S.key cur ≠ k → Fronted S counts t k) →
      Fronted S counts (insertFrom S live merge fuel t cur d).1 k ∧
        ∀ i < S.n, ∀ e, (insertFrom S live merge fuel t cur d).1 i = some e → S.key e = k →
          (∃ j < S.n, t j = some e) ∨ e = cur := by
  intro fuel
  induction fuel with
  | zero =>
    intro t cur d _ carried fronted
    refine ⟨?_,fun i inside e at_i _ => .inl ⟨i,inside,at_i⟩⟩
    by_cases same : S.key cur = k
    · exact (carried same).fronted
    · exact fronted same
  | succ fuel ih =>
    intro t cur d room carried fronted
    have short : d < S.n := by omega
    have parked : Fronted S counts (Function.update t (S.slot (S.key cur) d) (some cur)) k := by
      by_cases same : S.key cur = k
      · rw [same]
        exact (carried same).park short same
      · exact (fronted same).update_other _ same
    have members : ∀ i < S.n, ∀ e, Function.update t (S.slot (S.key cur) d) (some cur) i = some e →
        (∃ j < S.n, t j = some e) ∨ e = cur :=
      fun i inside e at_i => (update_mem at_i).imp_left fun before => ⟨i,inside,before⟩
    rw [insertFrom]
    cases found : t (S.slot (S.key cur) d) with
    | none => exact ⟨parked,fun i inside e at_i _ => members i inside e at_i⟩
    | some inc =>
      by_cases living : live inc
      · by_cases matched : S.key inc = S.key cur
        · simp only [living,not_true_eq_false,if_false,matched,if_true]
          by_cases same : S.key cur = k
          · exact absurd (counted inc living) (carried same _ (S.slot_lt _ _) inc found (matched.trans same)).2
          · have merged : S.key (merge inc cur) ≠ k := by rwa [keyed inc cur matched]
            refine ⟨(fronted same).update_other _ merged,fun i inside e at_i ofKey => ?_⟩
            rcases update_mem at_i with before | rfl
            · exact .inl ⟨i,inside,before⟩
            · exact absurd ofKey merged
        · by_cases closer : S.far inc (S.slot (S.key cur) d) < d
          · simp only [living,not_true_eq_false,if_false,matched,closer,if_true]
            obtain ⟨after,entries⟩ := ih (Function.update t (S.slot (S.key cur) d) (some cur)) inc
              (S.far inc (S.slot (S.key cur) d) + 1) (by omega)
              (fun same => (fronted fun ofKey => matched (same.trans ofKey.symm)).displace (S.slot_lt _ _) found
                (counted inc living) same fun ofKey => matched (same.trans ofKey.symm))
              (fun _ => parked)
            refine ⟨after,fun i inside e at_i ofKey => ?_⟩
            rcases entries i inside e at_i ofKey with ⟨j,insideJ,at_j⟩ | rfl
            · exact members j insideJ e at_j
            · exact .inl ⟨_,S.slot_lt _ _,found⟩
          · simp only [living,not_true_eq_false,if_false,matched,closer]
            refine ih t cur (d + 1) (by omega) (fun same => ?_) fronted
            subst same
            exact (carried rfl).next found matched
      · simp only [living,not_false_eq_true,if_true]
        exact ⟨parked,fun i inside e at_i _ => members i inside e at_i⟩

/-- An insertion of another key leaves the entries of a key in order, and adds
    none. -/
theorem Fronted.insert_other (fronted : Fronted S counts t k) {cur : Entry} (other : S.key cur ≠ k)
    (keyed : ∀ old new, S.key old = S.key new → S.key (merge old new) = S.key new) (counted : ∀ e, live e → counts e) :
    Fronted S counts (insert S live merge t cur).1 k ∧
      ∀ i < S.n, ∀ e, (insert S live merge t cur).1 i = some e → S.key e = k → ∃ j < S.n, t j = some e := by
  obtain ⟨after,entries⟩ := insertFrom_fronted merge keyed counted S.n t cur 0 (by omega)
    (fun same => absurd same other) fun _ => fronted
  refine ⟨after,fun i inside e at_i ofKey => ?_⟩
  rcases entries i inside e at_i ofKey with before | rfl
  · exact before
  · exact absurd ofKey other

/-- The insertion comes to this slot, past live entries of other keys that are no
    closer to their homes. -/
def Comes (S : Scheme Entry Key) (live : Entry → Prop) (t : Nat → Option Entry) (k : Key) (d : Nat) : Prop :=
  ∀ d' < d, ∃ e, t (S.slot k d') = some e ∧ live e ∧ S.key e ≠ k ∧ d' ≤ S.far e (S.slot k d')

/-- An insertion goes on from the slot that it comes to. -/
theorem Comes.insert {cur : Entry} {d : Nat} (comes : Comes S live t (S.key cur) d) (within : d ≤ S.n) :
    Probing.insert S live merge t cur = insertFrom S live merge (S.n - d) t cur d := by
  have walk : insertFrom S live merge (S.n - d + d) t cur 0 = _ := insertFrom_walk (S.n - d) d comes
  rwa [Nat.sub_add_cancel within] at walk
theorem Comes.insert_succ {cur : Entry} {d : Nat} (comes : Comes S live t (S.key cur) d) (short : d < S.n) :
    Probing.insert S live merge t cur = insertFrom S live merge (S.n - d - 1 + 1) t cur d := by
  rw [comes.insert (by omega),Nat.sub_add_cancel (by omega)]

/-- An insertion that comes to the entry of its key, past live entries that are
    no closer to their homes, changes the slot of that entry alone. -/
theorem insert_found {cur old : Entry} {i : Nat} (inside : i < S.n) (found : t i = some old)
    (same : S.key old = S.key cur) (comes : Comes S live t (S.key cur) (S.far old i)) :
    (insert S live merge t cur).1 = Function.update t i (some (if live old then merge old cur else cur)) := by
  have here : S.slot (S.key cur) (S.far old i) = i := by rw [← same,S.slot_far old inside]
  rw [comes.insert_succ (S.far_lt old i),insertFrom,here,found]
  by_cases living : live old <;> simp [living,same]

omit [DecidableEq Key] in
/-- The entry of the key that counts comes before the others. -/
theorem Fronted.first (fronted : Fronted S counts t k) {i : Nat} {old : Entry} (inside : i < S.n)
    (found : t i = some old) (same : S.key old = k) (counted : counts old) :
    ∀ j < S.n, ∀ e, t j = some e → S.key e = k → S.far old i ≤ S.far e j := by
  intro j insideJ e at_j ofKey
  by_contra front
  exact fronted j insideJ i inside e old at_j found ofKey same (by omega) counted

/-- An insertion that comes to the entry of its key that counts changes the slot
    of that entry alone. -/
theorem Fronted.insert_counted {cur old : Entry} (fronted : Fronted S counts t (S.key cur))
    (uncut : Uncut S live counts t (S.key cur)) {i : Nat} (inside : i < S.n) (found : t i = some old)
    (same : S.key old = S.key cur) (counted : counts old) :
    (insert S live merge t cur).1 = Function.update t i (some (if live old then merge old cur else cur)) := by
  refine insert_found inside found same fun d before => ?_
  obtain ⟨e,at_d,living,far⟩ := uncut i inside old found same counted d before
  refine ⟨e,at_d,living,fun ofKey => ?_,far⟩
  have behind := fronted.first inside found same counted _ (S.slot_lt _ _) e at_d ofKey
  rw [S.far_of_key ofKey (by have := S.far_lt old i; omega)] at behind
  omega

/-- An insertion that comes to the entry of its key that counts keeps the entries
    of the key in order; those that count afterwards are the new entry, or what it
    has made of a live one. -/
theorem Fronted.insert_own {cur : Entry} (fronted : Fronted S counts t (S.key cur))
    (keyed : ∀ old new, S.key old = S.key new → S.key (merge old new) = S.key new) (counted : ∀ e, live e → counts e)
    (uncut : Uncut S live counts t (S.key cur)) :
    Fronted S counts (insert S live merge t cur).1 (S.key cur) ∧
      ∀ i < S.n, ∀ e, (insert S live merge t cur).1 i = some e → S.key e = S.key cur → counts e →
        e = cur ∨ ∃ old, live old ∧ (∃ j < S.n, t j = some old) ∧ S.key old = S.key cur ∧ e = merge old cur := by
  by_cases exists_one : ∃ i < S.n, ∃ e, t i = some e ∧ S.key e = S.key cur ∧ counts e
  · obtain ⟨i,inside,old,found,same,counting⟩ := exists_one
    rw [fronted.insert_counted uncut inside found same counting]
    refine ⟨fronted.update_first inside found same ?_ (fronted.first inside found same counting),?_⟩
    · split_ifs
      · exact keyed old cur same
      · rfl
    · intro j insideJ e at_j ofKey counts_too
      rcases update_mem at_j with before | rfl
      · -- Another entry that counts would be a second one.
        have here := fronted.unique inside insideJ found before same ofKey counting counts_too
        subst here
        rw [Function.update_self] at at_j
        cases at_j
        split_ifs
        · exact .inr ⟨old,‹_›,⟨i,inside,found⟩,same,rfl⟩
        · exact .inl rfl
      · split_ifs
        · exact .inr ⟨old,‹_›,⟨i,inside,found⟩,same,rfl⟩
        · exact .inl rfl
  · have carried : Carried S counts t (S.key cur) 0 :=
      fun i inside e at_i same => ⟨Nat.zero_le _,fun counting => exists_one ⟨i,inside,e,at_i,same,counting⟩⟩
    obtain ⟨after,entries⟩ := insertFrom_fronted merge keyed counted S.n t cur 0 (by omega)
      (fun _ => carried) fun other => absurd rfl other
    refine ⟨after,fun i inside e at_i ofKey counting => ?_⟩
    rcases entries i inside e at_i ofKey with ⟨j,insideJ,at_j⟩ | rfl
    · exact absurd ⟨j,insideJ,e,at_j,ofKey,counting⟩ exists_one
    · exact .inl rfl

end

/-! ### Entries that are dropped -/

section
variable [DecidableEq Key] [DecidablePred live] {merge : Entry → Entry → Entry} {cur lost : Entry}

/-- Insertion over so many slots changes no other slot. -/
theorem insertFrom_elsewhere :
    ∀ fuel t (cur : Entry) d i, (∀ j < fuel, i ≠ slotAt S.n (S.slot (S.key cur) d) j) →
      (insertFrom S live merge fuel t cur d).1 i = t i := by
  intro fuel
  induction fuel with
  | zero => intros; rfl
  | succ fuel ih =>
    intro t cur d i elsewhere
    have inside : S.slot (S.key cur) d < S.n := S.slot_lt _ _
    have here : i ≠ S.slot (S.key cur) d := by
      have first := elsewhere 0 (Nat.succ_pos fuel)
      rwa [slotAt_zero inside] at first
    have onward : ∀ j < fuel, i ≠ slotAt S.n ((S.slot (S.key cur) d + 1) % S.n) j := by
      intro j before
      have later := elsewhere (j + 1) (by omega)
      simp only [slotAt,Nat.mod_add_mod] at later ⊢
      rwa [show S.slot (S.key cur) d + 1 + j = S.slot (S.key cur) d + (j + 1) by omega]
    rw [insertFrom]
    cases found : t (S.slot (S.key cur) d) with
    | none => exact Function.update_of_ne here ..
    | some inc =>
      dsimp only
      split_ifs
      · exact Function.update_of_ne here ..
      · exact (ih _ inc _ i (by rwa [S.slot_succ,S.slot_far inc inside])).trans (Function.update_of_ne here ..)
      · exact ih t cur (d + 1) i (by rwa [S.slot_succ])
      · exact Function.update_of_ne here ..

/-- What an insertion comes to before it drops an entry. -/
private theorem dropped_next {d : Nat} (short : d < S.n) (comes : Comes S live t (S.key cur) d)
    (dropped : (insert S live merge t cur).2 = .dropped lost) :
    ∃ e, t (S.slot (S.key cur) d) = some e ∧ live e ∧ S.key e ≠ S.key cur := by
  rw [comes.insert_succ short,insertFrom] at dropped
  cases found : t (S.slot (S.key cur) d) with
  | none => simp [found] at dropped
  | some inc =>
    by_cases living : live inc
    · by_cases matched : S.key inc = S.key cur
      · simp [found,living,matched] at dropped
      · exact ⟨inc,rfl,living,matched⟩
    · simp [found,living] at dropped

private theorem dropped_comes (dropped : (insert S live merge t cur).2 = .dropped lost) {d : Nat} (within : d ≤ S.n)
    (level : ∀ d' < d, ∀ e, t (S.slot (S.key cur) d') = some e → d' ≤ S.far e (S.slot (S.key cur) d')) :
    Comes S live t (S.key cur) d := by
  induction d with
  | zero => exact fun _ before => absurd before (Nat.not_lt_zero _)
  | succ d ih =>
    have comes := ih (by omega) fun d' before => level d' (by omega)
    intro d' before
    rcases Nat.lt_succ_iff_lt_or_eq.mp before with earlier | rfl
    · exact comes d' earlier
    · obtain ⟨e,found,living,other⟩ := dropped_next (by omega) comes dropped
      exact ⟨e,found,living,other,level d' (by omega) e found⟩

/-- No entry on the way of the key is closer to its home than the key is to its
    own. -/
def Level (S : Scheme Entry Key) (t : Nat → Option Entry) (k : Key) : Prop :=
  ∀ d < S.n, ∀ e, t (S.slot k d) = some e → d ≤ S.far e (S.slot k d)

/-- An insertion that drops an entry without displacing one changes nothing. -/
theorem Level.dropped (level : Level S t (S.key cur)) (dropped : (insert S live merge t cur).2 = .dropped lost) :
    (insert S live merge t cur).1 = t := by
  rw [(dropped_comes dropped (Nat.le_refl _) level).insert (Nat.le_refl _),Nat.sub_self,insertFrom]

/-- An insertion that displaces an entry before it drops one has stored the new
    entry, under a key that was not found before. -/
theorem displaced_dropped (uneven : ¬ Level S t (S.key cur)) (dropped : (insert S live merge t cur).2 = .dropped lost) :
    find S t (S.key cur) = none ∧
      ∃ i, find S (insert S live merge t cur).1 (S.key cur) = some i ∧ (insert S live merge t cur).1 i = some cur := by
  classical
  -- The first slot with an entry that is closer to its home.
  have closer : ∃ d, d < S.n ∧ ∃ e, t (S.slot (S.key cur) d) = some e ∧ S.far e (S.slot (S.key cur) d) < d := by
    by_contra none_closer
    refine uneven fun d short e at_d => ?_
    by_contra near
    exact none_closer ⟨d,short,e,at_d,by omega⟩
  obtain ⟨short,inc,found,near⟩ := Nat.find_spec closer
  have level : ∀ d' < Nat.find closer, ∀ e, t (S.slot (S.key cur) d') = some e →
      d' ≤ S.far e (S.slot (S.key cur) d') := by
    intro d' before e at_d
    by_contra far
    exact Nat.find_min closer before ⟨by omega,e,at_d,by omega⟩
  generalize Nat.find closer = d at short found near level
  have comes := dropped_comes dropped (by omega) level
  obtain ⟨inc',found',living,other⟩ := dropped_next short comes dropped
  rw [found] at found'
  cases found'
  -- The new entry takes that slot, and the walk of the displaced one does not come back.
  have walk : insert S live merge t cur = _ := comes.insert_succ short
  rw [insertFrom] at walk
  simp only [found,living,not_true_eq_false,if_false,other,near,if_true] at walk
  have stays : ∀ d' ≤ d, (insert S live merge t cur).1 (S.slot (S.key cur) d') =
      Function.update t (S.slot (S.key cur) d) (some cur) (S.slot (S.key cur) d') := by
    intro d' upTo
    rw [walk]
    refine insertFrom_elsewhere (S.n - d - 1) _ inc _ _ fun j before => ?_
    have next : slotAt S.n (S.slot (S.key inc) (S.far inc (S.slot (S.key cur) d) + 1)) j =
        S.slot (S.key cur) (d + 1 + j) := by
      rw [S.slot_succ,S.slot_far inc (S.slot_lt _ _),← S.slot_succ]
      simp only [Scheme.slot,slotAt,Nat.mod_add_mod]
      congr 1
      omega
    rw [next]
    exact S.slot_ne (by omega) (by omega)
  have stored : (insert S live merge t cur).1 (S.slot (S.key cur) d) = some cur := by
    rw [stays d (Nat.le_refl d),Function.update_self]
  refine ⟨?_,S.slot (S.key cur) d,?_,stored⟩
  · by_contra present
    obtain ⟨i,present⟩ := Option.ne_none_iff_exists'.mp present
    obtain ⟨e,inside,at_i,ofKey,passes⟩ := find_correct.mp present
    have place : S.slot (S.key cur) (S.far e i) = i := by rw [← ofKey,S.slot_far e inside]
    rcases Nat.lt_trichotomy (S.far e i) d with front | here | behind
    · obtain ⟨e',at_front,_,differs,_⟩ := comes _ front
      rw [place,at_i] at at_front
      cases at_front
      exact differs ofKey
    · rw [← here,place,at_i] at found
      cases found
      exact other ofKey
    · obtain ⟨e',at_d,far,_⟩ := passes d behind
      rw [found] at at_d
      cases at_d
      omega
  · refine find_correct.mpr ⟨cur,S.slot_lt _ _,stored,rfl,?_⟩
    rw [S.far_slot cur short]
    intro d' before
    obtain ⟨e,at_d,_,differs,far⟩ := comes d' before
    exact ⟨e,by rw [stays d' (by omega),Function.update_of_ne (S.slot_ne before short),at_d],far,differs⟩

end

/-! ### Updates in place -/

theorem Fronted.refresh [DecidableEq Key] {k' : Key} (fronted : Fronted S counts t k) {i : Nat} {e e' : Entry}
    (found : find S t k' = some i) (at_i : t i = some e) (same : S.key e' = k') :
    Fronted S counts (Function.update t i (some e')) k := by
  by_cases own : k' = k
  · subst own
    obtain ⟨e'',inside,at_i',ofKey,passes⟩ := find_correct.mp found
    rw [at_i] at at_i'
    cases at_i'
    refine fronted.update_first inside at_i ofKey same fun j insideJ e'' at_j ofKey' => ?_
    by_contra front
    obtain ⟨inc,seen,_,other⟩ := passes (S.far e'' j) (by omega)
    rw [← ofKey',S.slot_far e'' insideJ,at_j] at seen
    cases seen
    exact other ofKey'
  · exact fronted.update_other i (by rwa [same])

end Lb.Probing
