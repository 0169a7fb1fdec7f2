import Mathlib.Data.Nat.Basic
import Mathlib.Tactic.Linarith

/-!
# Walking around a ring of slots

Slots are numbered below `n`. A walk starts at a home slot and goes forward one
slot at a time, from the last slot to the first.
-/
namespace Lb.Ring

/-- The slot reached after `d` steps from `home`. -/
def slotAt (n home d : Nat) : Nat := (home + d) % n
/-- The number of steps from `home` forward to slot `i`. -/
def dist (n home i : Nat) : Nat := (i + n - home) % n

section
variable {n home i d : Nat}

theorem slotAt_lt (home d : Nat) (pos : 0 < n) : slotAt n home d < n := Nat.mod_lt _ pos
theorem dist_lt (home i : Nat) (pos : 0 < n) : dist n home i < n := Nat.mod_lt _ pos

@[simp] theorem slotAt_zero (inside : home < n) : slotAt n home 0 = home := by
  simp [slotAt,Nat.mod_eq_of_lt inside]

/-- Both cases of a distance: slots at or after the home, and slots before it. -/
theorem dist_cases (homeInside : home < n) (inside : i < n) :
    (home ≤ i ∧ dist n home i = i - home) ∨ (i < home ∧ dist n home i = i + n - home) := by
  by_cases after : home ≤ i
  · refine .inl ⟨after,?_⟩
    rw [dist,show i + n - home = (i - home) + n by omega,Nat.add_mod_right,Nat.mod_eq_of_lt (by omega)]
  · exact .inr ⟨by omega,by rw [dist,Nat.mod_eq_of_lt (by omega)]⟩

/-- Both cases of a walk: within the numbering, and past its end. -/
theorem slotAt_cases (homeInside : home < n) (short : d < n) :
    (home + d < n ∧ slotAt n home d = home + d) ∨ (n ≤ home + d ∧ slotAt n home d = home + d - n) := by
  by_cases within : home + d < n
  · exact .inl ⟨within,Nat.mod_eq_of_lt within⟩
  · refine .inr ⟨by omega,?_⟩
    rw [slotAt,Nat.mod_eq_sub_mod (by omega),Nat.mod_eq_of_lt (by omega)]

/-- The walk of the distance to a slot ends at the slot. -/
theorem slotAt_dist (homeInside : home < n) (inside : i < n) : slotAt n home (dist n home i) = i := by
  have short := dist_lt home i (by omega : 0 < n)
  rcases dist_cases homeInside inside with ⟨_,far⟩ | ⟨_,far⟩ <;>
    rcases slotAt_cases homeInside short with ⟨_,ends⟩ | ⟨_,ends⟩ <;> omega

/-- A walk shorter than the ring is the distance to where it ends. -/
theorem dist_slotAt (homeInside : home < n) (short : d < n) : dist n home (slotAt n home d) = d := by
  have inside := slotAt_lt home d (by omega : 0 < n)
  rcases slotAt_cases homeInside short with ⟨_,ends⟩ | ⟨_,ends⟩ <;>
    rcases dist_cases homeInside inside with ⟨_,far⟩ | ⟨_,far⟩ <;> omega

theorem dist_home (homeInside : home < n) : dist n home home = 0 := by
  rcases dist_cases homeInside homeInside with ⟨_,far⟩ | ⟨before,_⟩ <;> omega

/-- Slots at the same distance from a home are the same slot. -/
theorem dist_inj {j : Nat} (homeInside : home < n) (inside : i < n) (inside' : j < n)
    (same : dist n home i = dist n home j) : i = j := by
  rw [← slotAt_dist homeInside inside,same,slotAt_dist homeInside inside']

/-- The next slot of a walk. -/
theorem slotAt_succ (n home d : Nat) : slotAt n home (d + 1) = (slotAt n home d + 1) % n := by
  rw [slotAt,slotAt,Nat.mod_add_mod]
  rfl

/-- One step forward is one step farther, or arrives back at the home. -/
theorem dist_succ (homeInside : home < n) (inside : i < n) :
    dist n home ((i + 1) % n) = dist n home i + 1 ∨ dist n home ((i + 1) % n) = 0 := by
  by_cases last : dist n home i + 1 < n
  · left
    rw [← dist_slotAt homeInside last,slotAt_succ,slotAt_dist homeInside inside]
  · right
    have full : dist n home i + 1 = n := by
      have := dist_lt home i (by omega : 0 < n)
      omega
    have back : (i + 1) % n = home := by
      have step := slotAt_succ n home (dist n home i)
      rw [slotAt_dist homeInside inside,full,slotAt,Nat.add_mod_right,Nat.mod_eq_of_lt homeInside] at step
      exact step.symm
    rw [back,dist_home homeInside]

end
end Lb.Ring
