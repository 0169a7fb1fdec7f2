import Mathlib.Algebra.GroupWithZero.Nat
import Mathlib.Data.List.Count

/-!
# Rounds

A loop goes through a list round after round and stops after a number of steps.
What it has gone through by then is so many whole rounds and the beginning of
one more, so that each element has had its turn as often as its share of a round
has it.
-/
namespace Lb.Rounds
variable {State A : Type*}

/-- The list, so many times in a row. -/
def rounds (n : Nat) (xs : List A) : List A := (List.replicate n xs).flatten

section
variable (step : State → A → State) (stop : State → Prop) [DecidablePred stop]

/-- Steps over a list, up to the first after which it stops. -/
def upTo : State → List A → State
  | s, [] => s
  | s, a :: rest => if stop (step s a) then step s a else upTo (step s a) rest

end

section
variable {step : State → A → State} {stop : State → Prop} [DecidablePred stop]

theorem upTo_append {s : State} (goes_on : ¬ stop s) (xs ys : List A) :
    upTo step stop s (xs ++ ys) =
      if stop (upTo step stop s xs) then upTo step stop s xs else upTo step stop (upTo step stop s xs) ys := by
  induction xs generalizing s with
  | nil => rw [List.nil_append,upTo,if_neg goes_on]
  | cons a rest ih =>
    rw [List.cons_append,upTo,upTo]
    by_cases stops : stop (step s a)
    · simp only [stops,if_true]
    · simp only [stops,if_false]
      exact ih stops

/-- Where each step counts, the loop takes as many as are left to the limit. -/
theorem upTo_eq_foldl {count : State → Nat} {limit : Nat} (counts : ∀ s a, count (step s a) = count s + 1) {s : State}
    (more : count s < limit) (xs : List A) :
    upTo step (fun s => count s = limit) s xs = (xs.take (limit - count s)).foldl step s := by
  induction xs generalizing s with
  | nil => simp [upTo]
  | cons a rest ih =>
    obtain ⟨left,remaining⟩ : ∃ left, limit - count s = left + 1 := ⟨limit - count s - 1,by omega⟩
    have one := counts s a
    rw [upTo,remaining,List.take_succ_cons,List.foldl_cons]
    by_cases last : count (step s a) = limit
    · obtain rfl : left = 0 := by omega
      rw [if_pos last]
      rfl
    · rw [if_neg last,ih (by omega),show limit - count (step s a) = left by omega]

end

section
variable {n m : Nat} {xs : List A}

theorem rounds_succ (n : Nat) (xs : List A) : rounds (n + 1) xs = xs ++ rounds n xs := by
  rw [rounds,List.replicate_succ,List.flatten_cons,rounds]

theorem rounds_length (n : Nat) (xs : List A) : (rounds n xs).length = n * xs.length := by
  simp [rounds]

/-- The first steps are whole rounds, and the beginning of one more. -/
theorem take_rounds (some_step : 0 < xs.length) (enough : m ≤ n * xs.length) :
    (rounds n xs).take m = rounds (m / xs.length) xs ++ xs.take (m % xs.length) := by
  induction n generalizing m with
  | zero =>
    obtain rfl : m = 0 := by omega
    simp [rounds]
  | succ n ih =>
    rw [rounds_succ]
    by_cases within : m < xs.length
    · rw [List.take_append_of_le_length (Nat.le_of_lt within),Nat.div_eq_of_lt within,Nat.mod_eq_of_lt within]
      rfl
    · obtain ⟨rest,rfl⟩ : ∃ rest, m = xs.length + rest := ⟨m - xs.length,by omega⟩
      rw [Nat.add_mul,Nat.one_mul] at enough
      rw [List.take_length_add_append,ih (by omega),Nat.add_div_left rest some_step,Nat.add_mod_left,rounds_succ,
        List.append_assoc]

/-- An element has had a turn if it has had one in the first round. -/
theorem mem_take_rounds (enough : m ≤ n * xs.length) (a : A) :
    a ∈ (rounds n xs).take m ↔ a ∈ xs.take m := by
  cases n with
  | zero =>
    obtain rfl : m = 0 := by omega
    simp
  | succ n =>
    by_cases within : m < xs.length
    · rw [rounds_succ,List.take_append_of_le_length (Nat.le_of_lt within)]
    · rw [List.take_of_length_le (Nat.le_of_not_lt within)]
      constructor
      · intro taken
        obtain ⟨round,listed,inside⟩ := List.mem_flatten.mp (List.mem_of_mem_take taken)
        rwa [List.eq_of_mem_replicate listed] at inside
      · intro listed
        rw [rounds_succ,List.take_append]
        exact List.mem_append_left _ (by rwa [List.take_of_length_le (Nat.le_of_not_lt within)])

variable [DecidableEq A]

theorem count_rounds (n : Nat) (xs : List A) (a : A) : (rounds n xs).count a = n * xs.count a := by
  simp [rounds,List.count_flatten]

/-- An element has had its turn once for each time it is in a whole round, and once
    more at most for each time it is in the last one. -/
theorem count_take_rounds (some_step : 0 < xs.length) (enough : m ≤ n * xs.length) (a : A) :
    xs.count a * (m / xs.length) ≤ ((rounds n xs).take m).count a ∧
      ((rounds n xs).take m).count a ≤ xs.count a * (m / xs.length + 1) := by
  have partial_round := (List.take_sublist (m % xs.length) xs).count_le a
  rw [take_rounds some_step enough,List.count_append,count_rounds,Nat.mul_comm (m / xs.length),Nat.mul_add,Nat.mul_one]
  omega

end

/-! ### Weighted rounds -/

/-- A round in which the indices from `first` on have as many turns in a row as
    their weights. -/
def weighted : List Nat → Nat → List Nat
  | [], _ => []
  | w :: ws, first => List.replicate w first ++ weighted ws (first + 1)

section
variable {ws : List Nat} {first i : Nat}

theorem weighted_length (ws : List Nat) (first : Nat) : (weighted ws first).length = ws.sum := by
  induction ws generalizing first with
  | nil => rfl
  | cons w ws ih => rw [weighted,List.length_append,List.length_replicate,ih,List.sum_cons]

theorem weighted_bounds (listed : i ∈ weighted ws first) : first ≤ i ∧ i < first + ws.length := by
  induction ws generalizing first with
  | nil => cases listed
  | cons w ws ih =>
    rw [List.length_cons]
    rcases List.mem_append.mp listed with here | later
    · have := List.eq_of_mem_replicate here
      omega
    · have := ih later
      omega

theorem first_notMem_weighted : first ∉ weighted ws (first + 1) := by
  intro listed
  have := weighted_bounds listed
  omega

/-- An index has its weight of turns. -/
theorem count_weighted (inside : i < ws.length) : (weighted ws first).count (first + i) = ws[i] := by
  induction ws generalizing first i with
  | nil => cases inside
  | cons w ws ih =>
    rw [weighted,List.count_append,List.count_replicate]
    cases i with
    | zero =>
      rw [Nat.add_zero,List.count_eq_zero_of_not_mem first_notMem_weighted]
      simp
    | succ i =>
      have rest := @ih (first + 1) i (by simpa using inside)
      rw [show first + 1 + i = first + (i + 1) by omega] at rest
      rw [rest,if_neg (by simp),Nat.zero_add,List.getElem_cons_succ]

/-- An index of some weight is among the first steps if the weights before it leave
    one of them. -/
theorem mem_take_weighted {m : Nat} (inside : i < ws.length) (weight : 0 < ws[i]) :
    first + i ∈ (weighted ws first).take m ↔ (ws.take i).sum < m := by
  induction ws generalizing first i m with
  | nil => cases inside
  | cons w ws ih =>
    rw [weighted,List.take_append,List.mem_append,List.take_replicate,List.length_replicate]
    cases i with
    | zero =>
      have later : first ∉ (weighted ws (first + 1)).take (m - w) := fun listed =>
        first_notMem_weighted (List.mem_of_mem_take listed)
      rw [List.getElem_cons_zero] at weight
      rw [Nat.add_zero]
      simp only [later,or_false,List.mem_replicate,and_true,List.take_zero,List.sum_nil]
      omega
    | succ i =>
      have rest := @ih (first + 1) i (m - w) (by simpa using inside) (by simpa using weight)
      rw [show first + 1 + i = first + (i + 1) by omega] at rest
      rw [rest,List.take_succ_cons,List.sum_cons]
      simp only [List.mem_replicate]
      omega

end

end Lb.Rounds
