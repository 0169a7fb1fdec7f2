import Mathlib.Algebra.Group.Nat.Defs
import Mathlib.Data.List.Basic

/-!
# Checked accesses

Reads, writes and sums as a language with bounds checks performs them: an index
out of bounds, a range that does not fit or a sum that overflows has no value.
-/
namespace Lb.Checked
variable {A : Type*}

def read (data : List A) (i : Nat) : Option A := data[i]?
def write (data : List A) (i : Nat) (v : A) : Option (List A) :=
  if i < data.length then some (data.set i v) else none
/-- The elements from `start` up to `stop`. -/
def slice (data : List A) (start stop : Nat) : Option (List A) :=
  if start ≤ stop ∧ stop ≤ data.length then some ((data.take stop).drop start) else none
/-- The source has the length of the range that it is copied to. -/
def copy_from_slice (data : List A) (start stop : Nat) (src : List A) : Option (List A) :=
  if start ≤ stop ∧ stop ≤ data.length ∧ stop - start = src.length then
    some (data.take start ++ src ++ data.drop stop)
  else none
/-- The first `count` elements are copied to `dest`, which they may overlap. -/
def copy_within (data : List A) (count dest : Nat) : Option (List A) :=
  if count ≤ data.length ∧ dest + count ≤ data.length then
    some (data.take dest ++ data.take count ++ data.drop (dest + count))
  else none

/-- The sum of two numbers of a width. -/
def add (width a b : Nat) : Option Nat := if a + b < 2 ^ width then some (a + b) else none
def sub (a b : Nat) : Option Nat := if b ≤ a then some (a - b) else none
def mul (width a b : Nat) : Option Nat := if a * b < 2 ^ width then some (a * b) else none

variable {data src : List A} {i start stop count dest width a b : Nat}

theorem read_eq (default : A) (inside : i < data.length) : read data i = some (data.getD i default) := by
  rw [read,List.getD_eq_getElem?_getD,List.getElem?_eq_getElem inside,Option.getD_some]

theorem write_eq (v : A) (inside : i < data.length) : write data i v = some (data.set i v) := if_pos inside

theorem slice_eq (ordered : start ≤ stop) (inside : stop ≤ data.length) :
    slice data start stop = some ((data.take stop).drop start) := if_pos ⟨ordered,inside⟩

theorem slice_middle (front mid back : List A) (starts : start = front.length) (stops : stop = start + mid.length) :
    slice (front ++ mid ++ back) start stop = some mid := by
  subst starts stops
  rw [slice,if_pos (by simp only [List.length_append]; omega),List.take_left' (by simp),List.drop_left' rfl]

/-- A part of the elements is replaced. -/
theorem copy_middle (front mid back : List A) (starts : start = front.length) (stops : stop = start + mid.length)
    (same : src.length = mid.length) :
    copy_from_slice (front ++ mid ++ back) start stop src = some (front ++ src ++ back) := by
  subst starts stops
  rw [copy_from_slice,if_pos (by simp only [List.length_append]; omega),List.append_assoc front mid back,
    List.take_left' rfl,← List.append_assoc front mid back,List.drop_left' (by simp)]

theorem copy_within_eq (room : dest + count ≤ data.length) :
    copy_within data count dest = some (data.take dest ++ data.take count ++ data.drop (dest + count)) :=
  if_pos ⟨by omega,room⟩

theorem add_eq (small : a + b < 2 ^ width) : add width a b = some (a + b) := if_pos small
theorem add_overflow (large : 2 ^ width ≤ a + b) : add width a b = none := if_neg (by omega)
theorem sub_eq (le : b ≤ a) : sub a b = some (a - b) := if_pos le
theorem mul_eq (small : a * b < 2 ^ width) : mul width a b = some (a * b) := if_pos small

end Lb.Checked
