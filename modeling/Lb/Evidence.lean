import Lb.Checker
import Mathlib.Data.List.Chain

/-!
# Changes of health and the probes behind them

A change of the status of a backend goes back to a run of probes with one result,
as long as as the threshold asks for. A threshold of zero asks for no probe, and
a probe that says the opposite then brings the change about.
-/
namespace Lb.Checker
open Lb.Types

/-- The state after a probe, and the change of the status if there is one. -/
def record (healthy_threshold unhealthy_threshold : UInt32) (s : HealthState) (success : Bool) :
    HealthState × List HealthStatus :=
  let (s,change) := s.record_result success healthy_threshold unhealthy_threshold
  (s,change.toList)

/-- How many results at the end are the same. -/
def streak (result : Bool) (results : List Bool) : Nat := (results.reverse.takeWhile (· == result)).length

section
variable (healthy_threshold unhealthy_threshold : UInt32) (results : List Bool)

/-- The state after a sequence of probes, and the changes on the way. -/
def probed : HealthState := Runs.after (record healthy_threshold unhealthy_threshold) .new results
def changes : List HealthStatus := Runs.effects (record healthy_threshold unhealthy_threshold) .new results

/-- The changes follow from the results: each from as many in a row as its threshold
    asks for, the last of them at the time of the change. -/
structure Follows : Prop where
  healthy : ∀ earlier success later, results = earlier ++ success :: later →
    .Healthy ∈ (record healthy_threshold unhealthy_threshold (probed healthy_threshold unhealthy_threshold earlier)
      success).2 → success = true ∧ healthy_threshold.toNat ≤ streak true (earlier ++ [success])
  unhealthy : ∀ earlier success later, results = earlier ++ success :: later →
    .Unhealthy ∈ (record healthy_threshold unhealthy_threshold (probed healthy_threshold unhealthy_threshold earlier)
      success).2 → success = false ∧ unhealthy_threshold.toNat ≤ streak false (earlier ++ [success])
  known : ∀ status ∈ changes healthy_threshold unhealthy_threshold results, status = .Healthy ∨ status = .Unhealthy
  alternate : (changes healthy_threshold unhealthy_threshold results).IsChain (· ≠ ·)
  last : (changes healthy_threshold unhealthy_threshold results).getLast?.getD .Unknown =
    (probed healthy_threshold unhealthy_threshold results).status

end

section
variable {healthy_threshold unhealthy_threshold : UInt32} {s : HealthState} {success : Bool} {results : List Bool}

theorem streak_same (result : Bool) (results : List Bool) :
    streak result (results ++ [result]) = streak result results + 1 := by
  simp [streak]

/-- The counts after a probe. -/
theorem record_counts :
    (record healthy_threshold unhealthy_threshold s success).1.consecutive_successes =
        (if success then s.consecutive_successes + 1 else 0) ∧
      (record healthy_threshold unhealthy_threshold s success).1.consecutive_failures =
        (if success then 0 else s.consecutive_failures + 1) := by
  unfold record HealthState.record_result
  cases success <;> cases s.status <;> dsimp only [if_true,if_false,Bool.false_eq_true] <;> split_ifs <;> exact ⟨rfl,rfl⟩

/-- A change is to a status that the backend did not have, and for which the count
    is high enough. -/
theorem record_change :
    ((record healthy_threshold unhealthy_threshold s success).2 = [] ∧
      (record healthy_threshold unhealthy_threshold s success).1.status = s.status) ∨
    ((record healthy_threshold unhealthy_threshold s success).2 = [.Healthy] ∧ s.status ≠ .Healthy ∧
      (record healthy_threshold unhealthy_threshold s success).1.status = .Healthy ∧
      healthy_threshold ≤ (record healthy_threshold unhealthy_threshold s success).1.consecutive_successes) ∨
    ((record healthy_threshold unhealthy_threshold s success).2 = [.Unhealthy] ∧ s.status ≠ .Unhealthy ∧
      (record healthy_threshold unhealthy_threshold s success).1.status = .Unhealthy ∧
      unhealthy_threshold ≤ (record healthy_threshold unhealthy_threshold s success).1.consecutive_failures) := by
  unfold record HealthState.record_result
  generalize next : (if success = true then (⟨s.status,s.consecutive_successes + 1,0⟩ : HealthState)
    else ⟨s.status,0,s.consecutive_failures + 1⟩) = counted
  have kept : counted.status = s.status := by
    rw [← next]
    split_ifs <;> rfl
  rw [← kept]
  cases status : counted.status with
  | Unknown =>
    simp only [status]
    split_ifs with up down
    · exact .inr (.inl ⟨rfl,by simp,rfl,up⟩)
    · exact .inr (.inr ⟨rfl,by simp,rfl,down⟩)
    · exact .inl ⟨rfl,status⟩
  | Healthy =>
    simp only [status]
    split_ifs with down
    · exact .inr (.inr ⟨rfl,by simp,rfl,down⟩)
    · exact .inl ⟨rfl,status⟩
  | Unhealthy =>
    simp only [status]
    split_ifs with up
    · exact .inr (.inl ⟨rfl,by simp,rfl,up⟩)
    · exact .inl ⟨rfl,status⟩

/-- The counts are no higher than the probes in a row; they are lower once they have
    wrapped around. -/
theorem counts_le_streaks (results : List Bool) :
    (probed healthy_threshold unhealthy_threshold results).consecutive_successes.toNat ≤ streak true results ∧
      (probed healthy_threshold unhealthy_threshold results).consecutive_failures.toNat ≤ streak false results := by
  induction results using List.reverseRecOn with
  | nil => exact ⟨Nat.zero_le _,Nat.zero_le _⟩
  | append_singleton results success ih =>
    have wraps : ∀ count : UInt32, (count + 1).toNat ≤ count.toNat + 1 := fun count => by
      rw [UInt32.toNat_add]
      exact Nat.mod_le _ _
    obtain ⟨successes,failures⟩ := @record_counts healthy_threshold unhealthy_threshold
      (probed healthy_threshold unhealthy_threshold results) success
    rw [probed,Runs.after_append]
    change (record _ _ (probed healthy_threshold unhealthy_threshold results) success).1.consecutive_successes.toNat ≤ _ ∧
      (record _ _ (probed healthy_threshold unhealthy_threshold results) success).1.consecutive_failures.toNat ≤ _
    rw [successes,failures]
    cases success with
    | true =>
      rw [streak_same]
      exact ⟨(wraps _).trans (Nat.succ_le_succ ih.1),Nat.zero_le _⟩
    | false =>
      rw [streak_same]
      exact ⟨Nat.zero_le _,(wraps _).trans (Nat.succ_le_succ ih.2)⟩

/-- Changes alternate, whatever the thresholds are. -/
theorem changes_alternate (s : HealthState) (results : List Bool) :
    (s.status :: Runs.effects (record healthy_threshold unhealthy_threshold) s results).IsChain (· ≠ ·) ∧
      (s.status :: Runs.effects (record healthy_threshold unhealthy_threshold) s results).getLast? =
        some (Runs.after (record healthy_threshold unhealthy_threshold) s results).status ∧
      ∀ status ∈ Runs.effects (record healthy_threshold unhealthy_threshold) s results,
        status = .Healthy ∨ status = .Unhealthy := by
  induction results generalizing s with
  | nil => exact ⟨.singleton _,rfl,by simp [Runs.effects]⟩
  | cons success results ih =>
    obtain ⟨chain,last,known⟩ := ih (record healthy_threshold unhealthy_threshold s success).1
    rw [Runs.effects]
    rcases @record_change healthy_threshold unhealthy_threshold s success with
      ⟨none_changed,kept⟩ | ⟨changed,other,status,_⟩ | ⟨changed,other,status,_⟩
    · rw [kept] at chain last
      rw [none_changed,List.nil_append]
      exact ⟨chain,last,known⟩
    · rw [status] at chain last
      rw [changed,List.singleton_append]
      exact ⟨.cons_cons other chain,last,by simpa using known⟩
    · rw [status] at chain last
      rw [changed,List.singleton_append]
      exact ⟨.cons_cons other chain,last,by simpa using known⟩

theorem probed_append (earlier : List Bool) (success : Bool) :
    probed healthy_threshold unhealthy_threshold (earlier ++ [success]) =
      (record healthy_threshold unhealthy_threshold (probed healthy_threshold unhealthy_threshold earlier) success).1 := by
  rw [probed,Runs.after_append]
  rfl

/-- A change to a status follows from the probes if its threshold asks for some. -/
theorem healthy_follows (some_success : 0 < healthy_threshold) {earlier : List Bool}
    (changed : .Healthy ∈ (record healthy_threshold unhealthy_threshold
      (probed healthy_threshold unhealthy_threshold earlier) success).2) :
    success = true ∧ healthy_threshold.toNat ≤ streak true (earlier ++ [success]) := by
  have counted := (@counts_le_streaks healthy_threshold unhealthy_threshold (earlier ++ [success])).1
  rw [probed_append] at counted
  rcases @record_change healthy_threshold unhealthy_threshold (probed healthy_threshold unhealthy_threshold earlier)
    success with ⟨changes,_⟩ | ⟨_,_,_,reached⟩ | ⟨changes,_⟩
  · simp [changes] at changed
  · refine ⟨?_,(UInt32.le_iff_toNat_le.mp reached).trans counted⟩
    by_contra failed
    rw [record_counts.1,if_neg failed] at reached
    exact absurd some_success (UInt32.not_lt.mpr reached)
  · simp [changes] at changed
theorem unhealthy_follows (some_failure : 0 < unhealthy_threshold) {earlier : List Bool}
    (changed : .Unhealthy ∈ (record healthy_threshold unhealthy_threshold
      (probed healthy_threshold unhealthy_threshold earlier) success).2) :
    success = false ∧ unhealthy_threshold.toNat ≤ streak false (earlier ++ [success]) := by
  have counted := (@counts_le_streaks healthy_threshold unhealthy_threshold (earlier ++ [success])).2
  rw [probed_append] at counted
  rcases @record_change healthy_threshold unhealthy_threshold (probed healthy_threshold unhealthy_threshold earlier)
    success with ⟨changes,_⟩ | ⟨changes,_⟩ | ⟨_,_,_,reached⟩
  · simp [changes] at changed
  · simp [changes] at changed
  · refine ⟨?_,(UInt32.le_iff_toNat_le.mp reached).trans counted⟩
    by_contra succeeded
    rw [record_counts.2,if_pos (by simpa using succeeded)] at reached
    exact absurd some_failure (UInt32.not_lt.mpr reached)

/-- With a threshold of zero the first failure makes a backend healthy. -/
theorem failure_makes_healthy : (record 0 unhealthy_threshold .new false).2 = [.Healthy] := by
  simp [record,HealthState.record_result,HealthState.new]
/-- The first success or the second makes one unhealthy. -/
theorem success_makes_unhealthy :
    (record healthy_threshold 0 .new true).2 = [.Unhealthy] ∨
      (record healthy_threshold 0 (record healthy_threshold 0 .new true).1 true).2 = [.Unhealthy] := by
  by_cases once : healthy_threshold ≤ 1
  · right
    simp [record,HealthState.record_result,HealthState.new,once]
  · left
    simp [record,HealthState.record_result,HealthState.new,once]

end

/-- Whatever the probes say, the changes follow from them exactly if each threshold
    asks for one probe at least. -/
theorem follows_iff (healthy_threshold unhealthy_threshold : UInt32) :
    (∀ results, Follows healthy_threshold unhealthy_threshold results) ↔
      0 < healthy_threshold ∧ 0 < unhealthy_threshold := by
  constructor
  · intro follows
    constructor
    · rw [UInt32.pos_iff_ne_zero]
      rintro rfl
      have changed := (follows [false]).healthy [] false [] rfl
      have said := (changed (by rw [probed,Runs.after,List.foldl_nil,failure_makes_healthy]; simp)).1
      cases said
    · rw [UInt32.pos_iff_ne_zero]
      rintro rfl
      rcases @success_makes_unhealthy healthy_threshold with first | second
      · have changed := (follows [true,true]).unhealthy [] true [true] rfl
        have said := (changed (by rw [probed,Runs.after,List.foldl_nil,first]; simp)).1
        cases said
      · have changed := (follows [true,true]).unhealthy [true] true [] rfl
        have said := (changed (by rw [probed,Runs.after,List.foldl_cons,List.foldl_nil,second]; simp)).1
        cases said
  · rintro ⟨some_success,some_failure⟩ results
    obtain ⟨chain,last,known⟩ := @changes_alternate healthy_threshold unhealthy_threshold .new results
    constructor
    · intro earlier success later _ changed
      exact healthy_follows some_success changed
    · intro earlier success later _ changed
      exact unhealthy_follows some_failure changed
    · exact known
    · exact chain.tail
    · rw [List.getLast?_cons,Option.some.injEq] at last
      exact last

/-- A backend whose first probe fails is reported healthy. -/
theorem zero_threshold_reports_healthy :
    ¬ ∀ (healthy_threshold unhealthy_threshold : UInt32) (results : List Bool),
      Follows healthy_threshold unhealthy_threshold results := by
  intro follows
  have changed := (follows 0 3 [false]).healthy [] false [] rfl
  exact absurd (changed (by decide)).1 (by decide)

end Lb.Checker
