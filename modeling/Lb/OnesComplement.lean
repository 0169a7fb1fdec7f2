import Mathlib.Data.Nat.ModEq

/-!
# Ones' complement sums

Sums in which the carry out of the top digit is added back in at the bottom. To
the modulus one below the base nothing is lost by that, so that the sum of a
list of digits is that of its digits' weights, which alternate within words of
two digits.
-/
namespace Lb.OnesComplement

/-- Carries are folded back in while there are any. -/
def fold (base : Nat) : Nat → Nat → Nat
  | 0, sum => sum
  | fuel + 1, sum => if base ≤ sum then fold base fuel (sum % base + sum / base) else sum

/-- The sum of the words of two digits; a last odd digit is a high one. -/
def words (radix : Nat) : List Nat → Nat
  | [] => 0
  | [hi] => hi * radix
  | hi :: lo :: rest => hi * radix + lo + words radix rest

/-- What a digit counts for in the sum of the words. -/
def weight (radix i : Nat) : Nat := if i % 2 = 0 then radix else 1

section
variable {base : Nat}

theorem carry_modEq (some_base : 0 < base) (sum : Nat) : sum % base + sum / base ≡ sum [MOD base - 1] := by
  obtain ⟨top,rfl⟩ : ∃ top, base = top + 1 := ⟨base - 1,by omega⟩
  rw [Nat.add_sub_cancel]
  have split : sum % (top + 1) + sum / (top + 1) + top * (sum / (top + 1)) = sum := by
    rw [Nat.add_assoc,Nat.add_comm (sum / (top + 1)),← Nat.add_one_mul]
    exact Nat.mod_add_div sum (top + 1)
  have whole := Nat.add_mul_mod_self_left (sum % (top + 1) + sum / (top + 1)) top (sum / (top + 1))
  rw [split] at whole
  exact whole.symm

theorem fold_modEq (some_base : 0 < base) (fuel sum : Nat) : fold base fuel sum ≡ sum [MOD base - 1] := by
  induction fuel generalizing sum with
  | zero => rfl
  | succ fuel ih =>
    rw [fold]
    split_ifs
    · exact (ih _).trans (carry_modEq some_base sum)
    · rfl

theorem fold_pos {fuel sum : Nat} (some_base : 0 < base) (pos : 0 < sum) : 0 < fold base fuel sum := by
  induction fuel generalizing sum with
  | zero => exact pos
  | succ fuel ih =>
    rw [fold]
    split_ifs with carries
    · have := Nat.div_pos carries some_base
      exact ih (by omega)
    · exact pos

/-- With enough rounds no carry is left. -/
theorem fold_lt {fuel sum : Nat} (two : 2 ≤ base) (enough : sum < base + fuel) : fold base fuel sum < base := by
  induction fuel generalizing sum with
  | zero => simpa [fold] using enough
  | succ fuel ih =>
    rw [fold]
    split_ifs with carries
    · have split := Nat.mod_add_div sum base
      have pos := Nat.div_pos carries (by omega)
      have := Nat.mul_le_mul_right (sum / base) two
      exact ih (by omega)
    · omega

/-- A sum is all ones, once its carries are in, exactly if it is a multiple of the
    modulus. -/
theorem fold_eq_top {fuel sum : Nat} (two : 2 ≤ base) (small : fold base fuel sum < base) (pos : 0 < sum) :
    fold base fuel sum = base - 1 ↔ base - 1 ∣ sum := by
  have same := fold_modEq (by omega : 0 < base) fuel sum
  have some_carry := @fold_pos base fuel sum (by omega) pos
  rw [Nat.dvd_iff_mod_eq_zero,← same]
  constructor
  · intro top
    rw [top,Nat.mod_self]
  · intro whole
    obtain ⟨times,multiple⟩ := Nat.dvd_of_mod_eq_zero whole
    have once : times = 1 := by
      rcases times with _ | _ | times
      · omega
      · rfl
      · have := Nat.mul_le_mul_left (base - 1) (show 2 ≤ times + 1 + 1 by omega)
        omega
    rw [multiple,once,Nat.mul_one]

end

section
variable {radix : Nat}

theorem weight_succ_succ (i : Nat) : weight radix (i + 2) = weight radix i := by
  rw [weight,weight,Nat.add_mod_right]

/-- The sum of the words with one digit replaced. -/
theorem words_set {digits : List Nat} (digit : Nat) {i : Nat} (inside : i < digits.length) :
    words radix (digits.set i digit) + weight radix i * digits.getD i 0 =
      words radix digits + weight radix i * digit := by
  induction digits using words.induct generalizing i with
  | case1 => simp at inside
  | case2 hi =>
    obtain rfl : i = 0 := by simpa using inside
    simp [words,weight,Nat.mul_comm,Nat.add_comm]
  | case3 hi lo rest ih =>
    match i with
    | 0 =>
      simp only [List.set_cons_zero,words,weight,List.getD_cons_zero,Nat.zero_mod,if_true]
      rw [Nat.mul_comm radix hi,Nat.mul_comm radix digit]
      omega
    | 1 =>
      have low : weight radix 1 = 1 := rfl
      simp only [List.set_cons_succ,List.set_cons_zero,words,low,List.getD_cons_succ,List.getD_cons_zero]
      omega
    | i + 2 =>
      have replaced := ih (i := i) (by simpa using inside)
      simp only [List.set_cons_succ,words,List.getD_cons_succ,weight_succ_succ]
      omega

end

end Lb.OnesComplement
