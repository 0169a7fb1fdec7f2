import Mathlib.Algebra.BigOperators.Fin
import Mathlib.Algebra.Order.BigOperators.Group.Finset
import Mathlib.Data.Multiset.Basic
import Mathlib.Algebra.BigOperators.Group.Multiset.Basic

/-!
# Items in places

Items lie in the places of a system and move between them. The census counts
all items, wherever they are; no move changes it. Where it counts no item twice,
every item is in one place.
-/
namespace Lb.Census
variable {Place Item : Type*} [Fintype Place] {holds holds' : Place → List Item}

def census (holds : Place → List Item) : Multiset Item := ∑ place, (holds place : Multiset Item)

theorem mem_census {item : Item} : item ∈ census holds ↔ ∃ place, item ∈ holds place := by
  simp [census,Multiset.mem_sum]

/-- Items that change their order where they are do not change the census. -/
theorem census_perm (moved : ∀ place, (holds' place).Perm (holds place)) : census holds' = census holds :=
  Finset.sum_congr rfl fun place _ => Multiset.coe_eq_coe.mpr (moved place)

theorem place_nodup (nodup : (census holds).Nodup) (place : Place) : (holds place).Nodup := by
  have le : (holds place : Multiset Item) ≤ census holds :=
    Finset.single_le_sum (fun _ _ => Multiset.zero_le _) (Finset.mem_univ place)
  exact Multiset.coe_nodup.mp (Multiset.nodup_of_le le nodup)

variable [DecidableEq Place] {a b : Place}

theorem census_split (apart : a ≠ b) : census holds =
    (holds a : Multiset Item) + holds b + ∑ place ∈ Finset.univ \ {a,b}, (holds place : Multiset Item) := by
  rw [census,← Finset.sum_sdiff (Finset.subset_univ {a,b}),Finset.sum_pair apart]
  exact add_comm _ _

/-- Items that move from one place to another do not change the census. -/
theorem census_move (apart : a ≠ b) (moved : (holds' a ++ holds' b).Perm (holds a ++ holds b))
    (others : ∀ place, place ≠ a → place ≠ b → holds' place = holds place) : census holds' = census holds := by
  rw [census_split apart,census_split apart]
  congr 1
  · rw [Multiset.coe_add,Multiset.coe_add]
    exact Multiset.coe_eq_coe.mpr moved
  · refine Finset.sum_congr rfl fun place outside => ?_
    simp only [Finset.mem_sdiff,Finset.mem_univ,true_and,Finset.mem_insert,Finset.mem_singleton,not_or] at outside
    rw [others place outside.1 outside.2]

/-- Items that move from one place to another, or are lost on the way, do not add to
    the census. -/
theorem census_move_le (apart : a ≠ b) (moved : (holds' a ++ holds' b).Subperm (holds a ++ holds b))
    (others : ∀ place, place ≠ a → place ≠ b → holds' place = holds place) : census holds' ≤ census holds := by
  rw [census_split apart,census_split apart]
  refine add_le_add ?_ (le_of_eq ?_)
  · rw [Multiset.coe_add,Multiset.coe_add]
    exact Multiset.coe_le.mpr moved
  · refine Finset.sum_congr rfl fun place outside => ?_
    simp only [Finset.mem_sdiff,Finset.mem_univ,true_and,Finset.mem_insert,Finset.mem_singleton,not_or] at outside
    rw [others place outside.1 outside.2]

/-- Two places hold no more than all. -/
theorem length_add_le (apart : a ≠ b) : (holds a).length + (holds b).length ≤ (census holds).card := by
  rw [census_split apart]
  simp

variable {item : Item}

theorem place_unique (nodup : (census holds).Nodup) (at_a : item ∈ holds a) (at_b : item ∈ holds b) : a = b := by
  by_contra apart
  rw [census_split apart,Multiset.nodup_add] at nodup
  have disjoint := (Multiset.nodup_add.mp nodup.1).2.2
  exact Multiset.disjoint_left.mp disjoint (Multiset.mem_coe.mpr at_a) (Multiset.mem_coe.mpr at_b)

/-- An item of a census without repetition is in exactly one place. -/
theorem place_existsUnique (nodup : (census holds).Nodup) (present : item ∈ census holds) :
    ∃! place, item ∈ holds place := by
  obtain ⟨place,here⟩ := mem_census.mp present
  exact ⟨place,here,fun _ there => place_unique nodup there here⟩

end Lb.Census
