import Mathlib.Data.List.Basic

/-!
# Interleavings

The orders in which the steps of two programs can take place, each program's in
its own order.
-/
namespace Lb.Interleavings
variable {Step : Type*}

inductive Interleaves : List Step → List Step → List Step → Prop
  | nil : Interleaves [] [] []
  | left {xs ys zs : List Step} (x : Step) : Interleaves xs ys zs → Interleaves (x :: xs) ys (x :: zs)
  | right {xs ys zs : List Step} (y : Step) : Interleaves xs ys zs → Interleaves xs (y :: ys) (y :: zs)

variable {xs ys zs : List Step} {x y : Step}

@[simp] theorem interleaves_nil_left : Interleaves [] ys zs ↔ zs = ys := by
  constructor
  · intro interleaved
    induction ys generalizing zs with
    | nil => cases interleaved; rfl
    | cons y ys ih =>
      cases interleaved with
      | right _ rest => rw [ih rest]
  · rintro rfl
    induction zs with
    | nil => exact .nil
    | cons z zs ih => exact .right z ih

@[simp] theorem interleaves_nil_right : Interleaves xs [] zs ↔ zs = xs := by
  constructor
  · intro interleaved
    induction xs generalizing zs with
    | nil => cases interleaved; rfl
    | cons x xs ih =>
      cases interleaved with
      | left _ rest => rw [ih rest]
  · rintro rfl
    induction zs with
    | nil => exact .nil
    | cons z zs ih => exact .left z ih

/-- The first step is the first of one of the programs. -/
theorem interleaves_cons_cons : Interleaves (x :: xs) (y :: ys) zs ↔
    (∃ rest, zs = x :: rest ∧ Interleaves xs (y :: ys) rest) ∨
      ∃ rest, zs = y :: rest ∧ Interleaves (x :: xs) ys rest := by
  constructor
  · intro interleaved
    cases interleaved with
    | left _ rest => exact .inl ⟨_,rfl,rest⟩
    | right _ rest => exact .inr ⟨_,rfl,rest⟩
  · rintro (⟨rest,rfl,interleaved⟩ | ⟨rest,rfl,interleaved⟩)
    · exact .left x interleaved
    · exact .right y interleaved

end Lb.Interleavings
