import Lb.Checked

/-!
# Compaction in place

A loop over the cells of a slice that writes what it makes of them to the front of
the same slice, while it goes on reading behind.
-/
namespace Lb.Compaction
open Lb.Checked
variable {S A : Type*}

/-- The state of the loop, the cells, and where the next output goes. -/
structure Scan (S A : Type*) where
  state : S
  cells : List A
  write_idx : Nat

section
variable (f : Nat → S → A → S × Option A)

/-- A turn of the loop: a cell is read, and what comes of it is written. -/
def turn (scan : Scan S A) (read_idx : Nat) : Option (Scan S A) :=
  (read scan.cells read_idx).bind fun cell =>
    match f read_idx scan.state cell with
    | (state,none) => some { scan with state }
    | (state,some output) =>
      (write scan.cells scan.write_idx output).map fun cells => ⟨state,cells,scan.write_idx + 1⟩

def compact (s : S) (cells : List A) : Option (Scan S A) := (List.range cells.length).foldlM (turn f) ⟨s,cells,0⟩

/-- The same over cells that nothing is written to, the first of them with number `i`. -/
def fold : Nat → S → List A → S × List A
  | _, s, [] => (s,[])
  | i, s, cell :: cells =>
    let (s,output) := f i s cell
    let (s,outputs) := fold (i + 1) s cells
    (s,output.toList ++ outputs)

end

variable {f : Nat → S → A → S × Option A} {s s' : S} {written gap cells : List A} {cell output : A} {i : Nat}

theorem read_unread (reading : i = written.length + gap.length) :
    read (written ++ gap ++ cell :: cells) i = some cell := by
  rw [Checked.read,List.getElem?_append_right (by simp [reading]),reading,List.length_append,Nat.sub_self]
  rfl

/-- The cell that was read leaves room for an output. -/
theorem write_gap (output : A) : ∃ gap', (gap' : List A).length = gap.length ∧
    write (written ++ gap ++ cell :: cells) written.length output = some ((written ++ [output]) ++ gap' ++ cells) := by
  obtain ⟨first,gap',room⟩ : ∃ first gap', gap ++ [cell] = first :: gap' :=
    List.exists_cons_of_ne_nil (by simp)
  have length := congrArg List.length room
  have same : written ++ gap ++ cell :: cells = written ++ (first :: (gap' ++ cells)) := by
    rw [← List.cons_append,← room]
    simp
  refine ⟨gap',by simpa using length.symm,?_⟩
  rw [same,write_eq output (by simp),List.set_append_right _ _ (Nat.le_refl _),Nat.sub_self,List.set_cons_zero]
  simp

/-- What has been written stands at the front, what has not been read at the back,
    and as much lies between as gave no output. -/
theorem foldlM_turn (cells written gap : List A) (s : S) (reading : i = written.length + gap.length) :
    ∃ rest, (List.range' i cells.length).foldlM (turn f) ⟨s,written ++ gap ++ cells,written.length⟩ =
        some ⟨(fold f i s cells).1,written ++ (fold f i s cells).2 ++ rest,written.length + (fold f i s cells).2.length⟩ ∧
      gap.length + cells.length = (fold f i s cells).2.length + rest.length := by
  induction cells generalizing i written gap s with
  | nil => exact ⟨gap,by simp [fold],by simp [fold]⟩
  | cons cell cells ih =>
    rw [List.length_cons,List.range'_succ,List.foldlM_cons]
    rcases made : f i s cell with ⟨state,_ | output⟩
    · have turned : turn f ⟨s,written ++ gap ++ cell :: cells,written.length⟩ i =
          some ⟨state,written ++ (gap ++ [cell]) ++ cells,written.length⟩ := by
        rw [turn,read_unread reading,Option.bind_some]
        simp only [made]
        simp
      obtain ⟨rest,run,length⟩ := ih (i := i + 1) written (gap ++ [cell]) state (by simp; omega)
      rw [turned,fold,made]
      refine ⟨rest,by simpa using run,?_⟩
      simp only [List.length_append,List.length_cons,List.length_nil] at length
      simp
      omega
    · obtain ⟨gap',same,wrote⟩ := @write_gap A written gap cells cell output
      have turned : turn f ⟨s,written ++ gap ++ cell :: cells,written.length⟩ i =
          some ⟨state,(written ++ [output]) ++ gap' ++ cells,(written ++ [output]).length⟩ := by
        rw [turn,read_unread reading,Option.bind_some]
        simp only [made]
        rw [wrote]
        simp
      obtain ⟨rest,run,length⟩ := ih (i := i + 1) (written ++ [output]) gap' state (by simp; omega)
      rw [turned,fold,made]
      refine ⟨rest,?_,?_⟩
      · simpa [Nat.add_assoc,Nat.add_comm] using run
      · simp
        omega

/-- The loop never leaves the slice; it ends with the outputs at the front of it. -/
theorem compact_eq (f : Nat → S → A → S × Option A) (s : S) (cells : List A) :
    ∃ rest, compact f s cells = some ⟨(fold f 0 s cells).1,(fold f 0 s cells).2 ++ rest,(fold f 0 s cells).2.length⟩ ∧
      cells.length = (fold f 0 s cells).2.length + rest.length := by
  obtain ⟨rest,run,length⟩ := @foldlM_turn S A f 0 cells [] [] s rfl
  rw [compact,List.range_eq_range']
  exact ⟨rest,by simpa using run,by simpa using length⟩

end Lb.Compaction
