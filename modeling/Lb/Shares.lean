import Lb.Preferences
import Lb.Rounds
import Mathlib.Algebra.Order.Field.Rat
import Mathlib.Tactic.Linarith
import Mathlib.Tactic.NormNum.Prime

/-!
# Shares of a lookup table

Each chance in the fill of a lookup table claims one slot, so that a backend has
as many slots as it has had chances by the time the table is full. Which slots
these are, and which were taken already, makes no difference.
-/
namespace Lb.Shares
open Lb.Addr Lb.Types Lb.Maglev Lb.Rounds

/-- The order of the chances in a pass. -/
def chances (turns : List (Nat × Nat)) : List Nat := turns.flatMap fun t => List.replicate t.2 t.1

/-- Claims of the backends in some order, up to the one that fills the table. -/
def claims (m : Nat) (params : List (Nat × Nat)) : FillState → List Nat → FillState :=
  upTo (fun st i => claim m params i st) (fun st => st.filled = m)

section
variable {m n : Nat} {ps : List (Nat × Nat)} {st : FillState}

theorem claims_append (more : st.filled ≠ m) (xs ys : List Nat) :
    claims m ps st (xs ++ ys) =
      if (claims m ps st xs).filled = m then claims m ps st xs else claims m ps (claims m ps st xs) ys :=
  @upTo_append FillState Nat (fun st i => claim m ps i st) (fun st => st.filled = m) _ st more xs ys

theorem claims_eq (more : st.filled < m) (xs : List Nat) :
    claims m ps st xs = (xs.take (m - st.filled)).foldl (fun st i => claim m ps i st) st :=
  @upTo_eq_foldl FillState Nat (fun st i => claim m ps i st) FillState.filled m (fun _ _ => rfl) st more xs

theorem turn_eq (i count : Nat) (st : FillState) : turn m ps i count st = claims m ps st (List.replicate count i) := by
  induction count generalizing st with
  | zero => rfl
  | succ count ih =>
    rw [turn,ih,List.replicate_succ]
    rfl

theorem pass_eq (turns : List (Nat × Nat)) (more : st.filled ≠ m) :
    pass m ps turns st = claims m ps st (chances turns) := by
  induction turns generalizing st with
  | nil => rfl
  | cons t rest ih =>
    rw [Maglev.pass,chances,List.flatMap_cons,claims_append more,← turn_eq]
    split_ifs with complete
    · rfl
    · exact ih complete

theorem fill_eq (turns : List (Nat × Nat)) (fuel : Nat) (more : st.filled ≠ m) :
    fill m ps turns fuel st = claims m ps st (rounds fuel (chances turns)) := by
  induction fuel generalizing st with
  | zero => rfl
  | succ fuel ih =>
    rw [fill,rounds_succ,claims_append more,← pass_eq turns more]
    split_ifs with complete
    · rfl
    · exact ih complete

/-- A run of claims gives each backend a slot for each of its claims. -/
theorem count_claims (prime : m.Prime) (stepping : Stepping m n ps) (xs : List Nat) (inside : ∀ i ∈ xs, i < n)
    (filling : Filling m n st) (room : st.filled + xs.length ≤ m) (i : Nat) :
    (xs.foldl (fun st i => claim m ps i st) st).entries.count (some i) = st.entries.count (some i) + xs.count i := by
  induction xs generalizing st with
  | nil => rfl
  | cons j xs ih =>
    rw [List.length_cons] at room
    have jLt := inside j List.mem_cons_self
    obtain ⟨slot_lt,free⟩ := filling.claimed_free prime (by omega) stepping jLt
    obtain ⟨filling',one⟩ := filling.claim prime (by omega) stepping jLt
    rw [List.getD_eq_getElem _ _ slot_lt] at free
    rw [List.foldl_cons,ih (fun i listed => inside i (List.mem_cons_of_mem j listed)) filling' (by omega),
      claim_entries,List.count_set slot_lt,free,List.count_cons]
    simp only [beq_iff_eq,Option.some.injEq,reduceCtorEq,if_false]
    omega

end

section
variable {x : Xxh3} {backends : List Backend} {m : TableSize} {t : LookupTable}

/-- The weights of the backends that take traffic. -/
def weights (backends : List Backend) : List Nat := (active backends).map (·.weight.toNat)

theorem chances_weighted (bs : List Backend) (first : Nat) :
    chances ((bs.zipIdx first).map fun (b,i) => (i,b.weight.toNat)) = weighted (bs.map (·.weight.toNat)) first := by
  induction bs generalizing first with
  | nil => rfl
  | cons b bs ih =>
    rw [List.zipIdx_cons,List.map_cons,chances,List.flatMap_cons,List.map_cons,weighted,← ih]
    rfl

theorem weights_length (backends : List Backend) : (weights backends).length = (active backends).length := by
  simp [weights]

/-- A round has a chance for each backend. -/
theorem weights_pos {i : Nat} (inside : i < (weights backends).length) : 0 < (weights backends)[i] := by
  obtain ⟨b,listed,weight⟩ := List.mem_map.mp (List.getElem_mem inside)
  rw [← weight]
  exact of_decide_eq_true (List.mem_filter.mp listed).2

theorem some_chance (some_active : active backends ≠ []) : 0 < (weighted (weights backends) 0).length := by
  have inside : 0 < (weights backends).length := by
    rw [weights_length]
    exact List.length_pos_of_ne_nil some_active
  have weight := weights_pos inside
  rw [weighted_length]
  cases ws : weights backends with
  | nil => simp [ws] at inside
  | cons w rest =>
    simp only [ws,List.getElem_cons_zero] at weight
    rw [List.sum_cons]
    omega

theorem enough_rounds (m : TableSize) (some_active : active backends ≠ []) :
    (m : Nat) ≤ m * (weighted (weights backends) 0).length := Nat.le_mul_of_pos_right _ (some_chance some_active)

/-- The backends have a slot for each of the first chances. -/
theorem build_count (built : LookupTable.build x backends m = .ok t) (i : Nat) :
    t.entries.count i = ((rounds m (weighted (weights backends) 0)).take m).count i := by
  obtain ⟨some_active,entries,_⟩ := LookupTable.build_entries built
  have order : chances (turns (active backends)) = weighted (weights backends) 0 := chances_weighted _ 0
  have length : ((rounds m (weighted (weights backends) 0)).take m).length = m := by
    rw [List.length_take_of_le]
    rw [rounds_length]
    exact enough_rounds m some_active
  have inside : ∀ j ∈ (rounds m (weighted (weights backends) 0)).take m, j < (active backends).length := by
    intro j listed
    rw [mem_take_rounds (enough_rounds m some_active)] at listed
    have bounds := weighted_bounds (List.mem_of_mem_take listed)
    rw [weights_length] at bounds
    omega
  have unfilled : Filling m (active backends).length
      { entries := List.replicate m none, next := List.replicate (active backends).length 0, filled := 0 } :=
    ⟨by simp,by simp [List.countP_replicate],by simp⟩
  have run := count_claims m.2 (params_stepping (x := x) m.2 (active backends)) _ inside unfilled
    (by rw [length,Nat.zero_add]) i
  have filling := @fill_eq _ (params x m (active backends))
    { entries := List.replicate m none, next := List.replicate (active backends).length 0, filled := 0 }
    (turns (active backends)) m m.2.pos.ne
  rw [order,claims_eq m.2.pos,Nat.sub_zero] at filling
  rw [← List.count_map_of_injective t.entries some (Option.some_injective Nat) i,entries,filled,filling,run]
  simp [List.count_replicate]

/-- The slots of a backend, by the whole passes over all of them. -/
theorem share (built : LookupTable.build x backends m = .ok t) {i : Nat} (inside : i < (weights backends).length) :
    (weights backends)[i] * (m / (weights backends).sum) ≤ t.entries.count i ∧
      t.entries.count i ≤ (weights backends)[i] * (m / (weights backends).sum + 1) := by
  obtain ⟨some_active,_,_⟩ := LookupTable.build_entries built
  have turns := @count_weighted (weights backends) 0 i inside
  have bounds := count_take_rounds (some_chance some_active) (enough_rounds m some_active) i
  rw [Nat.zero_add] at turns
  rwa [turns,weighted_length,← build_count built] at bounds

/-- A backend has a slot if the weights before its own leave one. -/
theorem owns_iff (built : LookupTable.build x backends m = .ok t) {i : Nat} (inside : i < (weights backends).length) :
    i ∈ t.entries ↔ ((weights backends).take i).sum < m := by
  obtain ⟨some_active,_,_⟩ := LookupTable.build_entries built
  have first := @mem_take_weighted (weights backends) 0 i m inside (weights_pos inside)
  rw [Nat.zero_add] at first
  rw [← first,← mem_take_rounds (enough_rounds m some_active),← List.count_pos_iff,← List.count_pos_iff,
    ← build_count built]

end

/-- What is within a multiple of `k` and of `k + 1` is close to the exact share. -/
theorem close_to_share {w total m slots : Nat} (some_weight : 0 < total) (lower : w * (m / total) ≤ slots)
    (upper : slots ≤ w * (m / total + 1)) : |(slots : ℚ) - m * w / total| ≤ w := by
  have pos : (0 : ℚ) < total := by exact_mod_cast some_weight
  have whole : total * (m / total) ≤ m := Nat.mul_div_le m total
  have rest : m ≤ total * (m / total + 1) := (Nat.lt_mul_div_succ m some_weight).le
  have at_least : (w : ℚ) * (m / total : Nat) ≤ m * w / total := by
    rw [le_div_iff₀ pos]
    exact_mod_cast (by nlinarith : w * (m / total) * total ≤ m * w)
  have at_most : (m * w / total : ℚ) ≤ w * ((m / total : Nat) + 1) := by
    rw [div_le_iff₀ pos]
    exact_mod_cast (by nlinarith : m * w ≤ w * (m / total + 1) * total)
  have lower' : (w : ℚ) * (m / total : Nat) ≤ slots := by exact_mod_cast lower
  have upper' : (slots : ℚ) ≤ w * ((m / total : Nat) + 1) := by exact_mod_cast upper
  rw [abs_sub_le_iff]
  constructor <;> linarith

/-- The slots of each backend are in proportion to its weight: with `total` the sum
    of the weights, it has one for each of its chances in the whole passes, and for
    some of those in the last one. -/
theorem balanced (x : Xxh3) (backends : List Backend) (positive : ∀ b ∈ backends, 0 < b.weight) (m : TableSize)
    (t : LookupTable) (built : LookupTable.build x backends m = .ok t) (i : Nat) (inside : i < backends.length) :
    let w := backends[i].weight.toNat
    let total := (backends.map (·.weight.toNat)).sum
    (w * (m / total) ≤ t.entries.count i ∧ t.entries.count i ≤ w * (m / total + 1)) ∧
      |(t.entries.count i : ℚ) - m * w / total| ≤ w ∧
      ((∀ b ∈ backends, b.weight = 1) → ∀ j < backends.length, t.entries.count i ≤ t.entries.count j + 1) := by
  have all : active backends = backends := List.filter_eq_self.mpr fun b listed => by simpa using positive b listed
  have same : weights backends = backends.map (·.weight.toNat) := by rw [weights,all]
  have one : ∀ j (inside : j < backends.length),
      backends[j].weight.toNat * (m / (backends.map (·.weight.toNat)).sum) ≤ t.entries.count j ∧
        t.entries.count j ≤ backends[j].weight.toNat * (m / (backends.map (·.weight.toNat)).sum + 1) := by
    intro j inside
    have bounds := share built (i := j) (by rw [weights_length,all]; exact inside)
    simpa only [same,List.getElem_map] using bounds
  have some_weight : 0 < (backends.map (·.weight.toNat)).sum := by
    rw [← same,← weighted_length (weights backends) 0]
    exact some_chance (LookupTable.build_entries built).1
  intro w total
  obtain ⟨lower,upper⟩ := one i inside
  refine ⟨⟨lower,upper⟩,close_to_share some_weight lower upper,?_⟩
  intro unit j inside'
  have lower' := (one j inside').1
  rw [unit _ (List.getElem_mem inside)] at upper
  rw [unit _ (List.getElem_mem inside')] at lower'
  simp only [UInt32.toNat_one,Nat.one_mul] at upper lower'
  omega

theorem build_ok (x : Xxh3) {backends : List Backend} (m : TableSize) (some_active : active backends ≠ []) :
    ∃ t, LookupTable.build x backends m = .ok t := ⟨_,dif_neg some_active⟩

/-- A backend that weighs three times as much as the other two. -/
theorem balanced_three :
    ∃ t, LookupTable.build ⟨fun _ => 0,fun _ _ => 0⟩
        [⟨.V4 ⟨10,0,0,1⟩,443,3,false⟩,⟨.V4 ⟨10,0,0,2⟩,443,1,false⟩,⟨.V4 ⟨10,0,0,3⟩,443,1,false⟩] ⟨17,by norm_num⟩ = .ok t ∧
      (3 * (17 / 5) ≤ t.entries.count 0 ∧ t.entries.count 0 ≤ 3 * (17 / 5 + 1)) := by
  obtain ⟨t,built⟩ := @build_ok ⟨fun _ => 0,fun _ _ => 0⟩
    [⟨.V4 ⟨10,0,0,1⟩,443,3,false⟩,⟨.V4 ⟨10,0,0,2⟩,443,1,false⟩,⟨.V4 ⟨10,0,0,3⟩,443,1,false⟩] ⟨17,by norm_num⟩ (by decide)
  exact ⟨t,built,(balanced ⟨fun _ => 0,fun _ _ => 0⟩
    [⟨.V4 ⟨10,0,0,1⟩,443,3,false⟩,⟨.V4 ⟨10,0,0,2⟩,443,1,false⟩,⟨.V4 ⟨10,0,0,3⟩,443,1,false⟩] (by decide)
    ⟨17,by norm_num⟩ t built 0 (by decide)).1⟩

/-! ### Starvation -/

/-- All backends of some weight have a slot exactly if the weights of all of them but
    the last leave one. -/
theorem no_starvation_iff (x : Xxh3) (backends : List Backend) (m : TableSize) (t : LookupTable)
    (built : LookupTable.build x backends m = .ok t) :
    (∀ i < (active backends).length, i ∈ t.entries) ↔ (weights backends).dropLast.sum < m := by
  obtain ⟨some_active,_,_⟩ := LookupTable.build_entries built
  have some_backend := List.length_pos_of_ne_nil some_active
  rw [← weights_length] at some_backend ⊢
  rw [List.dropLast_eq_take]
  constructor
  · intro all
    exact (owns_iff built (by omega)).mp (all ((weights backends).length - 1) (by omega))
  · intro leaves i inside
    have fewer : (weights backends).take i <+: (weights backends).take ((weights backends).length - 1) :=
      List.take_prefix_take_left (by omega)
    have less := fewer.sublist.sum_le_sum fun _ _ => Nat.zero_le _
    exact (owns_iff built inside).mpr (by omega)

/-- As many slots as a pool has by default. -/
private def default_size : TableSize := ⟨65537,by norm_num⟩
private def heavy_first : List Backend := [⟨.V4 ⟨10,0,0,1⟩,443,65537,false⟩,⟨.V4 ⟨10,0,0,2⟩,443,1,false⟩]

theorem no_starvation_iff_heavy :
    ∃ t, LookupTable.build ⟨fun _ => 0,fun _ _ => 0⟩ heavy_first default_size = .ok t ∧
      ((∀ i < (active heavy_first).length, i ∈ t.entries) ↔ (weights heavy_first).dropLast.sum < 65537) := by
  obtain ⟨t,built⟩ := @build_ok ⟨fun _ => 0,fun _ _ => 0⟩ heavy_first default_size (by decide)
  exact ⟨t,built,no_starvation_iff ⟨fun _ => 0,fun _ _ => 0⟩ heavy_first default_size t built⟩

/-- The first of two backends fills the table before the other has had a chance. -/
theorem heavy_first_starves :
    ¬ ∀ (x : Xxh3) (backends : List Backend) (m : TableSize) (t : LookupTable), (active backends).length ≤ m →
      LookupTable.build x backends m = .ok t → ∀ i < (active backends).length, i ∈ t.entries := by
  intro none_starves
  obtain ⟨t,built⟩ := @build_ok ⟨fun _ => 0,fun _ _ => 0⟩ heavy_first default_size (by decide)
  have owns := none_starves ⟨fun _ => 0,fun _ _ => 0⟩ heavy_first default_size t (by decide) built 1 (by decide)
  have leaves := (owns_iff built (i := 1) (by decide)).mp owns
  exact absurd leaves (by decide)

end Lb.Shares
