import Mathlib.Data.Fintype.BigOperators
import Mathlib.Data.Nat.ChineseRemainder

/-!
# Two residues of one number

The remainders of a number by two moduli agree modulo what the moduli have in
common. They are independent of each other if the moduli have nothing in common and
there are enough numbers.
-/
namespace Lb.Residues
variable {n m bound : Nat}

/-- Every pair of remainders is that of a number below the bound. -/
def Independent (n m bound : Nat) : Prop := ∀ q < n, ∀ s < m, ∃ h < bound, h % n = q ∧ h % m = s

/-- Both remainders are the same modulo a common divisor. -/
theorem remainders_agree (h n m : Nat) : h % n % n.gcd m = h % m % n.gcd m := by
  rw [Nat.mod_mod_of_dvd h (Nat.gcd_dvd_left n m),Nat.mod_mod_of_dvd h (Nat.gcd_dvd_right n m)]

theorem Independent.coprime (all : Independent n m bound) (some_n : 0 < n) (some_m : 0 < m) : n.Coprime m := by
  by_cases several : 1 < m
  · obtain ⟨h,_,zero,one⟩ := all 0 some_n 1 several
    have agree := remainders_agree h n m
    rw [zero,one,Nat.zero_mod] at agree
    exact Nat.eq_one_of_dvd_one (Nat.dvd_of_mod_eq_zero agree.symm)
  · have one : m = 1 := by omega
    rw [one]
    exact Nat.coprime_one_right n

/-- The two remainders of a number. -/
private def remainders (some_n : 0 < n) (some_m : 0 < m) (h : Fin bound) : Fin n × Fin m :=
  (⟨h % n,Nat.mod_lt _ some_n⟩,⟨h % m,Nat.mod_lt _ some_m⟩)

/-- Different pairs need different numbers. -/
theorem Independent.le (all : Independent n m bound) (some_n : 0 < n) (some_m : 0 < m) : n * m ≤ bound := by
  have onto : Function.Surjective (@remainders n m bound some_n some_m) := by
    rintro ⟨q,s⟩
    obtain ⟨h,below,left,right⟩ := all q q.2 s s.2
    exact ⟨⟨h,below⟩,Prod.ext (Fin.ext left) (Fin.ext right)⟩
  simpa using Fintype.card_le_of_surjective _ onto

/-- There is a number for every pair of remainders exactly if the moduli are coprime
    and there are as many numbers as pairs. -/
theorem independent_iff (some_n : 0 < n) (some_m : 0 < m) : Independent n m bound ↔ n.Coprime m ∧ n * m ≤ bound := by
  constructor
  · intro all
    exact ⟨all.coprime some_n some_m,all.le some_n some_m⟩
  · rintro ⟨coprime,enough⟩ q below s inside
    obtain ⟨left,right⟩ := (Nat.chineseRemainder coprime q s).2
    have small := Nat.chineseRemainder_lt_mul coprime q s some_n.ne' some_m.ne'
    refine ⟨Nat.chineseRemainder coprime q s,Nat.lt_of_lt_of_le small enough,?_,?_⟩
    · rw [left,Nat.mod_eq_of_lt below]
    · rw [right,Nat.mod_eq_of_lt inside]

end Lb.Residues
