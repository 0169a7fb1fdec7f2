import Mathlib.Data.Finmap

/-!
# Maps filled from lists

A map filled by inserting the elements of a list in order holds, under each key,
the last element of that key, or the first one where what is there is kept.
-/
namespace Lb.Maps
variable {A K V : Type*} [DecidableEq K]

theorem lookup_foldl_insert (key : A → K) (value : A → V) (xs : List A) (m : Finmap (fun _ : K => V)) (k : K) :
    (xs.foldl (fun m x => m.insert (key x) (value x)) m).lookup k =
      ((xs.filter (fun x => key x = k)).getLast?.map value).or (m.lookup k) := by
  induction xs generalizing m with
  | nil => simp
  | cons x xs ih =>
    rw [List.foldl_cons,ih]
    by_cases own : key x = k
    · subst own
      simp only [Finmap.lookup_insert,List.filter_cons,decide_true,if_true,List.getLast?_cons,Option.map_some,
        Option.some_or]
      cases (xs.filter fun y => key y = key x).getLast? <;> rfl
    · simp [own,Finmap.lookup_insert_of_ne _ (Ne.symm own)]

/-- An element of a list has a last element of its key. -/
theorem exists_last (key : A → K) {xs : List A} {x : A} (listed : x ∈ xs) :
    ∃ y, (xs.filter (fun y => key y = key x)).getLast? = some y := by
  refine Option.isSome_iff_exists.mp (List.getLast?_isSome.mpr (List.ne_nil_of_mem (a := x) ?_))
  simpa using listed

theorem last_mem {key : A → K} {xs : List A} {k : K} {x : A}
    (last : (xs.filter (fun y => key y = k)).getLast? = some x) : x ∈ xs ∧ key x = k := by
  simpa using List.mem_of_getLast? last

/-- Every element is found under its key if and only if elements of one key have
    one value. -/
theorem all_found_iff (key : A → K) (value : A → V) (xs : List A) :
    (∀ x ∈ xs, (xs.foldl (fun m x => m.insert (key x) (value x)) (∅ : Finmap fun _ : K => V)).lookup (key x) =
        some (value x)) ↔
      ∀ x ∈ xs, ∀ y ∈ xs, key x = key y → value x = value y := by
  simp only [lookup_foldl_insert key value,Finmap.lookup_empty,Option.or_none]
  constructor
  · intro found x listed y listed' same
    have first := found x listed
    rw [same,found y listed'] at first
    exact (Option.some.inj first).symm
  · intro one_value x listed
    obtain ⟨y,last⟩ := exists_last key listed
    obtain ⟨listed',same⟩ := last_mem last
    rw [last,Option.map_some,one_value y listed' x listed same]

/-- A map filled with the elements whose key it does not have yet holds the first
    element of each key. -/
theorem lookup_foldl_or_insert (key : A → K) (xs : List A) (m : Finmap (fun _ : K => A)) (k : K) :
    (xs.foldl (fun m x => if key x ∈ m then m else m.insert (key x) x) m).lookup k =
      (m.lookup k).or (xs.find? (fun x => key x = k)) := by
  induction xs generalizing m with
  | nil => simp
  | cons x xs ih =>
    rw [List.foldl_cons,ih,List.find?_cons]
    by_cases own : key x = k
    · subst own
      split_ifs with known
      · obtain ⟨y,found⟩ := Finmap.mem_iff.mp known
        simp [found]
      · simp [Finmap.lookup_eq_none.mpr known]
    · split_ifs with known
      · simp [own]
      · simp [own,Finmap.lookup_insert_of_ne _ (Ne.symm own)]

end Lb.Maps
