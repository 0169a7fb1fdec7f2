import Mathlib.Data.List.Basic
import Mathlib.Logic.Relation

/-!
# Runs of a step function

A run folds a step function over a list of inputs. What every step keeps, every
run keeps; a condition may be asked of the steps, on the state before each of
them and its input.
-/
namespace Lb.Runs
variable {State Input : Type*}

/-- Every step of the run meets the condition. -/
def Along (step : State → Input → State) (cond : State → Input → Prop) : State → List Input → Prop
  | _, [] => True
  | s, x :: xs => cond s x ∧ Along step cond (step s x) xs

variable {step : State → Input → State} {cond cond' : State → Input → Prop}

instance decidableAlong [∀ s x, Decidable (cond s x)] : ∀ s xs, Decidable (Along step cond s xs)
  | _, [] => isTrue trivial
  | s, x :: xs =>
    have := decidableAlong (step s x) xs
    inferInstanceAs (Decidable (cond s x ∧ Along step cond (step s x) xs))

theorem along_append (s : State) (xs ys : List Input) :
    Along step cond s (xs ++ ys) ↔ Along step cond s xs ∧ Along step cond (xs.foldl step s) ys := by
  induction xs generalizing s with
  | nil => simp [Along]
  | cons x xs ih => simp [Along,ih,and_assoc]

theorem Along.and {s : State} {xs : List Input} (along : Along step cond s xs) (along' : Along step cond' s xs) :
    Along step (fun s x => cond s x ∧ cond' s x) s xs := by
  induction xs generalizing s with
  | nil => trivial
  | cons x xs ih => exact ⟨⟨along.1,along'.1⟩,ih along.2 along'.2⟩

/-- What all inputs of a run meet may be added to a condition. -/
theorem Along.with_mem {s : State} {xs : List Input} (along : Along step cond s xs) {P : Input → Prop}
    (all : ∀ x ∈ xs, P x) : Along step (fun s x => cond s x ∧ P x) s xs := by
  induction xs generalizing s with
  | nil => trivial
  | cons x xs ih =>
    exact ⟨⟨along.1,all x List.mem_cons_self⟩,ih along.2 fun y later => all y (List.mem_cons_of_mem x later)⟩

/-- A condition that cannot tell two runs apart, input by input, holds along both or
    along neither. -/
theorem along_congr {R : Input → Input → Prop} (alike : ∀ s x y, R x y → step s x = step s y ∧ (cond s x ↔ cond s y))
    {xs ys : List Input} (related : List.Forall₂ R xs ys) (s : State) :
    Along step cond s xs ↔ Along step cond s ys := by
  induction related generalizing s with
  | nil => exact Iff.rfl
  | @cons x y xs ys first _ ih =>
    obtain ⟨same,meets⟩ := alike s x y first
    rw [Along,Along,same,meets,ih]

/-- A condition that asks nothing holds along every run. -/
theorem along_of_forall (all : ∀ s x, cond s x) (s : State) (xs : List Input) : Along step cond s xs := by
  induction xs generalizing s with
  | nil => trivial
  | cons x xs ih => exact ⟨all s x,ih (step s x)⟩

/-- What the steps that meet the condition keep holds at the end of the run. -/
theorem Along.invariant (Inv : State → Prop) (keeps : ∀ s x, Inv s → cond s x → Inv (step s x)) {s : State}
    {xs : List Input} (along : Along step cond s xs) (start : Inv s) : Inv (xs.foldl step s) := by
  induction xs generalizing s with
  | nil => exact start
  | cons x xs ih => exact ih along.2 (keeps s x start along.1)

/-- What every step keeps holds at the end of every run. -/
theorem invariant (Inv : State → Prop) (keeps : ∀ s x, Inv s → Inv (step s x)) {s : State} (start : Inv s)
    (xs : List Input) : Inv (xs.foldl step s) :=
  (along_of_forall (fun _ _ => trivial) s xs : Along step (fun _ _ => True) s xs).invariant Inv
    (fun s x inv _ => keeps s x inv) start

/-- A condition that is exact for one step is exact for runs: where a step that
    does not meet it spoils the next state, the steps of a run all meet it if and
    only if no state on the way is spoilt. -/
theorem along_iff {Inv Good : State → Prop} (keeps : ∀ s x, Inv s → cond s x → Inv (step s x))
    (good : ∀ s, Inv s → Good s) (exact : ∀ s x, Inv s → Good (step s x) → cond s x) {s : State} (start : Inv s)
    (xs : List Input) : Along step cond s xs ↔ ∀ pre, pre <+: xs → Good (pre.foldl step s) := by
  constructor
  · rintro along pre ⟨post,rfl⟩
    exact good _ (((along_append s pre post).mp along).1.invariant Inv keeps start)
  · intro reached
    induction xs generalizing s with
    | nil => trivial
    | cons x xs ih =>
      have meets := exact s x start (reached [x] ⟨xs,rfl⟩)
      refine ⟨meets,ih (keeps s x start meets) fun pre onWay => ?_⟩
      exact reached (x :: pre) (List.cons_prefix_cons.mpr ⟨rfl,onWay⟩)

/-! ### Runs with effects -/

section
variable {Effect : Type*} (react : State → Input → State × List Effect)

/-- The effects of a run, in order. -/
def effects : State → List Input → List Effect
  | _, [] => []
  | s, x :: xs => (react s x).2 ++ effects (react s x).1 xs

/-- The state that a run ends in. -/
def after (s : State) (xs : List Input) : State := xs.foldl (fun s x => (react s x).1) s

theorem after_append (s : State) (xs ys : List Input) :
    after react s (xs ++ ys) = after react (after react s xs) ys := List.foldl_append
theorem effects_append (s : State) (xs ys : List Input) :
    effects react s (xs ++ ys) = effects react s xs ++ effects react (after react s xs) ys := by
  induction xs generalizing s with
  | nil => rfl
  | cons x xs ih => simp [effects,after,ih]

/-- Where each input has one effect, the effects are at the places of the inputs. -/
theorem effects_at {P : Input → Effect → Prop} (one : ∀ s x, ∃ e, (react s x).2 = [e] ∧ P x e) {s : State}
    {xs : List Input} {i : Nat} {e : Effect} (here : (effects react s xs)[i]? = some e) :
    ∃ x, xs[i]? = some x ∧ P x e := by
  induction xs generalizing s i with
  | nil => simp [effects] at here
  | cons x xs ih =>
    obtain ⟨first,same,holds⟩ := one s x
    rw [effects,same,List.singleton_append] at here
    cases i with
    | zero =>
      rw [List.getElem?_cons_zero,Option.some.injEq] at here
      exact ⟨x,rfl,here ▸ holds⟩
    | succ i =>
      rw [List.getElem?_cons_succ] at here
      exact ih here

/-- What the effects of every step meet, all effects of a run meet. -/
theorem forall_effects {P : Effect → Prop} (each : ∀ s x, ∀ e ∈ (react s x).2, P e) (s : State) (xs : List Input) :
    ∀ e ∈ effects react s xs, P e := by
  induction xs generalizing s with
  | nil => simp [effects]
  | cons x xs ih =>
    intro e happens
    rcases List.mem_append.mp happens with first | later
    · exact each s x e first
    · exact ih (react s x).1 e later

/-- All effects of a run are as wanted if and only if every step meets the
    condition under which its own effects are. -/
theorem forall_effects_iff (Wanted : Effect → Prop) {Inv : State → Prop}
    (keeps : ∀ s x, Inv s → cond s x → Inv (react s x).1)
    (exact : ∀ s x, Inv s → ((∀ e ∈ (react s x).2, Wanted e) ↔ cond s x)) {s : State} (start : Inv s)
    (xs : List Input) :
    (∀ e ∈ effects react s xs, Wanted e) ↔ Along (fun s x => (react s x).1) cond s xs := by
  induction xs generalizing s with
  | nil => simp [effects,Along]
  | cons x xs ih =>
    simp only [effects,List.forall_mem_append]
    rw [exact s x start]
    exact and_congr_right fun meets => ih (keeps s x start meets)

end

/-- What goes through a queue: what is queued at first and what a run puts in are, in
    order, what the run takes out and what is queued in the end. -/
theorem Along.fifo {Item : Type*} (queued : State → List Item) (put taken : State → Input → List Item)
    {Inv : State → Prop} (keeps : ∀ s x, Inv s → cond s x → Inv (step s x))
    (passes : ∀ s x, Inv s → cond s x → queued s ++ put s x = taken s x ++ queued (step s x)) {s : State}
    {xs : List Input} (along : Along step cond s xs) (start : Inv s) :
    queued s ++ effects (fun s x => (step s x,put s x)) s xs =
      effects (fun s x => (step s x,taken s x)) s xs ++ queued (xs.foldl step s) := by
  induction xs generalizing s with
  | nil => simp [effects]
  | cons x xs ih =>
    have rest := ih along.2 (keeps s x start along.1)
    rw [effects,effects,List.foldl_cons,List.append_assoc,← rest,← List.append_assoc,passes s x start along.1,
      List.append_assoc]

/-- What goes through a queue that may lose items: what a run takes out and what is queued
    in the end are, in order, of what is queued at first and what the run puts in. -/
theorem Along.lossy_fifo {Item : Type*} (queued : State → List Item) (put taken : State → Input → List Item)
    {Inv : State → Prop} (keeps : ∀ s x, Inv s → cond s x → Inv (step s x))
    (passes : ∀ s x, Inv s → cond s x → List.Sublist (taken s x ++ queued (step s x)) (queued s ++ put s x))
    {s : State} {xs : List Input} (along : Along step cond s xs) (start : Inv s) :
    List.Sublist (effects (fun s x => (step s x,taken s x)) s xs ++ queued (xs.foldl step s))
      (queued s ++ effects (fun s x => (step s x,put s x)) s xs) := by
  induction xs generalizing s with
  | nil => simp [effects]
  | cons x xs ih =>
    have first := passes s x start along.1
    have rest := ih along.2 (keeps s x start along.1)
    rw [effects,effects,List.foldl_cons,List.append_assoc,← List.append_assoc (queued s)]
    refine (rest.append_left (taken s x)).trans ?_
    rw [← List.append_assoc]
    exact first.append_right _

/-- What goes through a state that reorders items and loses none: what a run takes out and
    what is held in the end are what is held at first and what the run puts in. -/
theorem Along.conserved {Item : Type*} (held : State → List Item) (put taken : State → Input → List Item)
    {Inv : State → Prop} (keeps : ∀ s x, Inv s → cond s x → Inv (step s x))
    (passes : ∀ s x, Inv s → cond s x → (taken s x ++ held (step s x)).Perm (held s ++ put s x)) {s : State}
    {xs : List Input} (along : Along step cond s xs) (start : Inv s) :
    (effects (fun s x => (step s x,taken s x)) s xs ++ held (xs.foldl step s)).Perm
      (held s ++ effects (fun s x => (step s x,put s x)) s xs) := by
  induction xs generalizing s with
  | nil => simp [effects]
  | cons x xs ih =>
    have first := passes s x start along.1
    have rest := ih along.2 (keeps s x start along.1)
    rw [effects,effects,List.foldl_cons,List.append_assoc,← List.append_assoc (held s)]
    refine (rest.append_left (taken s x)).trans ?_
    rw [← List.append_assoc]
    exact first.append_right _

/-! ### Components -/

section
variable {Part : Type*} {Inv : State → Prop} {part : State → Part} {solo : Part → Input → Part} {own : Input → Prop}
  [DecidablePred own]

/-- A part of the state that only its own inputs change is, after a run, where
    its own inputs take it. -/
theorem foldl_component (keeps : ∀ s x, Inv s → Inv (step s x))
    (mine : ∀ s x, Inv s → own x → part (step s x) = solo (part s) x)
    (others : ∀ s x, Inv s → ¬ own x → part (step s x) = part s) {s : State} (start : Inv s) (xs : List Input) :
    part (xs.foldl step s) = (xs.filter own).foldl solo (part s) := by
  induction xs generalizing s with
  | nil => rfl
  | cons x xs ih =>
    rw [List.foldl_cons,ih (keeps s x start)]
    by_cases is_own : own x
    · rw [mine s x start is_own,List.filter_cons_of_pos (by simpa using is_own),List.foldl_cons]
    · rw [others s x start is_own,List.filter_cons_of_neg (by simpa using is_own)]

/-- A condition on the steps of a run is one on the steps of its part. -/
theorem Along.component (meets : Part → Input → Prop) (keeps : ∀ s x, Inv s → Inv (step s x))
    (mine : ∀ s x, Inv s → own x → part (step s x) = solo (part s) x)
    (others : ∀ s x, Inv s → ¬ own x → part (step s x) = part s)
    (local_cond : ∀ s x, Inv s → own x → cond s x → meets (part s) x) {s : State} (start : Inv s) {xs : List Input}
    (along : Along step cond s xs) : Along solo meets (part s) (xs.filter own) := by
  induction xs generalizing s with
  | nil => trivial
  | cons x xs ih =>
    have rest := ih (keeps s x start) along.2
    by_cases is_own : own x
    · rw [mine s x start is_own] at rest
      rw [List.filter_cons_of_pos (by simpa using is_own)]
      exact ⟨local_cond s x start is_own along.1,rest⟩
    · rw [others s x start is_own] at rest
      rwa [List.filter_cons_of_neg (by simpa using is_own)]

end

/-! ### Two machines in step -/

section
variable {State' Effect : Type*} {react : State → Input → State × List Effect}
  {react' : State' → Input → State' × List Effect} {Same : State → State' → Prop}

/-- What two machines have in common they keep. -/
theorem lockstep (keeps : ∀ s s' x, Same s s' → Same (react s x).1 (react' s' x).1) {s : State} {s' : State'}
    (start : Same s s') (xs : List Input) : Same (after react s xs) (after react' s' xs) := by
  induction xs generalizing s s' with
  | nil => exact start
  | cons x xs ih => exact ih (keeps s s' x start)

/-- Two machines have the same effects on a run if and only if every step meets
    the condition under which they have the same effects on one input. -/
theorem effects_eq_iff (keeps : ∀ s s' x, Same s s' → Same (react s x).1 (react' s' x).1)
    (lengths : ∀ s s' x, (react s x).2.length = (react' s' x).2.length)
    (exact : ∀ s s' x, Same s s' → ((react s x).2 = (react' s' x).2 ↔ cond s x)) {s : State} {s' : State'}
    (start : Same s s') (xs : List Input) :
    effects react s xs = effects react' s' xs ↔ Along (fun s x => (react s x).1) cond s xs := by
  induction xs generalizing s s' with
  | nil => exact ⟨fun _ => trivial,fun _ => rfl⟩
  | cons x xs ih =>
    rw [effects,effects,Along,← exact s s' x start,← ih (keeps s s' x start)]
    refine ⟨fun same => List.append_inj same (lengths s s' x),fun both => ?_⟩
    rw [both.1,both.2]

end

/-! ### Runs of a step relation -/

/-- What every step keeps holds in every state that is reached. -/
theorem reachable_invariant {Step : State → State → Prop} (Inv : State → Prop)
    (keeps : ∀ s s', Inv s → Step s s' → Inv s') {s s' : State} (reached : Relation.ReflTransGen Step s s')
    (start : Inv s) : Inv s' := by
  induction reached with
  | refl => exact start
  | tail _ step ih => exact keeps _ _ ih step

/-! ### Runs on a clock -/

/-- The times of the inputs never go back, and start no earlier than `start`. -/
def Clocked (time : Input → Nat) : Nat → List Input → Prop
  | _, [] => True
  | start, x :: xs => start ≤ time x ∧ Clocked time (time x) xs

instance decidableClocked (time : Input → Nat) : ∀ start xs, Decidable (Clocked time start xs)
  | _, [] => isTrue trivial
  | start, x :: xs =>
    have := decidableClocked time (time x) xs
    inferInstanceAs (Decidable (start ≤ time x ∧ Clocked time (time x) xs))

/-- The time of the last input, or `start`. -/
def lastTime (time : Input → Nat) (start : Nat) (xs : List Input) : Nat := xs.foldl (fun _ x => time x) start

variable {time : Input → Nat}

theorem clocked_append (start : Nat) (xs ys : List Input) :
    Clocked time start (xs ++ ys) ↔ Clocked time start xs ∧ Clocked time (lastTime time start xs) ys := by
  induction xs generalizing start with
  | nil => simp [Clocked,lastTime]
  | cons x xs ih => simp [Clocked,lastTime,ih,and_assoc]

/-- An invariant that speaks of the time, only weakens as time passes, and is
    kept by the steps that meet the condition at their own time. -/
theorem Clocked.invariant (Inv : Nat → State → Prop) (later : ∀ now now' s, now ≤ now' → Inv now s → Inv now' s)
    (keeps : ∀ s x, Inv (time x) s → cond s x → Inv (time x) (step s x)) {start : Nat} {s : State} {xs : List Input}
    (clocked : Clocked time start xs) (along : Along step cond s xs) (initial : Inv start s) :
    Inv (lastTime time start xs) (xs.foldl step s) := by
  induction xs generalizing start s with
  | nil => exact initial
  | cons x xs ih =>
    exact ih clocked.2 along.2 (keeps s x (later start (time x) s clocked.1 initial) along.1)

end Lb.Runs
