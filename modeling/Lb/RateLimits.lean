import Lb.Mtu
import Lb.Runs

/-!
# The rate of ICMP errors

The limiter counts within windows of one second. A window is opened by the first
call that comes a second or more after the last one was opened, so that the
windows follow the calls, and a second that straddles two windows may see the
limit twice.
-/
namespace Lb.Mtu
open Lb.Types

namespace IcmpRateLimiter
variable {l : IcmpRateLimiter} {calls : List Nat} {now a : Nat}

/-- What a call does: it opens a new window, counts, or is refused. -/
theorem allow_cases (l : IcmpRateLimiter) (now : Nat) (some_limit : 0 < l.max_per_second) :
    (l.window_start + from_secs 1 ≤ now ∧ l.allow now = ({ l with count := 1, window_start := now },true)) ∨
    (now < l.window_start + from_secs 1 ∧ l.count < l.max_per_second ∧
      l.allow now = ({ l with count := l.count + 1 },true)) ∨
    (now < l.window_start + from_secs 1 ∧ l.max_per_second ≤ l.count ∧ l.allow now = (l,false)) := by
  have second : 0 < from_secs 1 := by decide
  rw [allow,if_neg (by omega)]
  by_cases elapsed : 1 ≤ (now - l.window_start) / from_secs 1
  · have later := (Nat.one_le_div_iff second).mp elapsed
    simp only [elapsed,if_true,some_limit]
    exact .inl ⟨by omega,trivial⟩
  · have within : now < l.window_start + from_secs 1 := by
      rw [Nat.one_le_div_iff second] at elapsed
      omega
    simp only [elapsed,if_false]
    split_ifs with below
    · exact .inr (.inl ⟨within,below,rfl⟩)
    · exact .inr (.inr ⟨within,by omega,rfl⟩)

theorem allow_never (never : l.max_per_second = 0) : l.allow now = (l,false) := if_pos never

/-- A call, and its time if it is allowed. -/
def ask (l : IcmpRateLimiter) (now : Nat) : IcmpRateLimiter × List Nat :=
  ((l.allow now).1,if (l.allow now).2 = true then [now] else [])
/-- The times of the calls that are allowed. -/
def granted (l : IcmpRateLimiter) (calls : List Nat) : List Nat := Runs.effects ask l calls
/-- How many calls are allowed within a second from `a` on. -/
def rate (l : IcmpRateLimiter) (calls : List Nat) (a : Nat) : Nat :=
  (l.granted calls).countP fun now => a ≤ now && now < a + from_secs 1
/-- The times at which the windows are opened. -/
def windows (l : IcmpRateLimiter) : List Nat → List Nat
  | [] => [l.window_start]
  | now :: later => l.window_start :: windows (l.allow now).1 later

theorem granted_subset (l : IcmpRateLimiter) (calls : List Nat) : l.granted calls ⊆ calls := by
  unfold granted
  induction calls generalizing l with
  | nil => exact List.Subset.refl _
  | cons now later ih =>
    rw [Runs.effects,List.append_subset]
    constructor
    · rw [ask]
      split_ifs
      · simp
      · simp
    · exact fun time called => List.mem_cons_of_mem now (ih _ called)

/-- Calls that all come after a second do not count for it. -/
theorem rate_late (late : ∀ time ∈ calls, a + from_secs 1 ≤ time) : l.rate calls a = 0 := by
  rw [rate,List.countP_eq_zero]
  intro time allowed
  have := late time (granted_subset l calls allowed)
  simp only [Bool.and_eq_true,decide_eq_true_eq]
  omega

/-- The rate after a call that is allowed, and after one that is not. -/
theorem rate_granted {l' : IcmpRateLimiter} (allowed : l.allow now = (l',true)) :
    l.rate (now :: calls) a = l'.rate calls a + if a ≤ now ∧ now < a + from_secs 1 then 1 else 0 := by
  simp only [rate,granted,Runs.effects,ask,allowed,if_true,List.singleton_append,List.countP_cons,Bool.and_eq_true,
    decide_eq_true_eq]
theorem rate_refused {l' : IcmpRateLimiter} (refused : l.allow now = (l',false)) :
    l.rate (now :: calls) a = l'.rate calls a := by
  simp [rate,granted,Runs.effects,ask,refused]

theorem rate_never (never : l.max_per_second = 0) : l.rate calls a = 0 := by
  induction calls with
  | nil => rfl
  | cons now later ih => rw [rate_refused (allow_never never),ih]

/-- A window that is open already leaves what its count leaves. -/
theorem rate_opened (opened : a ≤ l.window_start) (counted : l.count ≤ l.max_per_second)
    (sorted : calls.Pairwise (· ≤ ·)) : l.rate calls a + l.count ≤ l.max_per_second := by
  rcases Nat.eq_zero_or_pos l.max_per_second with never | some_limit
  · rw [rate_never never]
    omega
  induction calls generalizing l with
  | nil => simpa [rate,granted,Runs.effects] using counted
  | cons now later ih =>
    obtain ⟨first,sorted'⟩ := List.pairwise_cons.mp sorted
    rcases allow_cases l now some_limit with ⟨elapsed,opens⟩ | ⟨_,below,counts⟩ | ⟨_,_,refused⟩
    · rw [rate_late]
      · omega
      · intro time called
        rcases List.mem_cons.mp called with rfl | called
        · omega
        · have := first time called
          omega
    · have rest := @ih { l with count := l.count + 1 } opened below sorted' some_limit
      rw [rate_granted counts]
      dsimp only at rest
      split_ifs <;> omega
    · rw [rate_refused refused]
      exact ih opened counted sorted' some_limit

/-- From a second's start on, one more window can be opened within it. -/
theorem rate_from (counted : l.count ≤ l.max_per_second) (sorted : calls.Pairwise (· ≤ ·))
    (from_start : ∀ time ∈ calls, a ≤ time) : l.rate calls a + l.count ≤ 2 * l.max_per_second := by
  rcases Nat.eq_zero_or_pos l.max_per_second with never | some_limit
  · rw [rate_never never]
    omega
  induction calls generalizing l with
  | nil =>
    have : l.rate [] a = 0 := rfl
    omega
  | cons now later ih =>
    obtain ⟨first,sorted'⟩ := List.pairwise_cons.mp sorted
    have from_start' : ∀ time ∈ later, a ≤ time := fun time called => from_start time (List.mem_cons_of_mem now called)
    rcases allow_cases l now some_limit with ⟨_,opens⟩ | ⟨_,below,counts⟩ | ⟨_,_,refused⟩
    · have rest := @rate_opened { l with count := 1, window_start := now } later a
        (from_start now List.mem_cons_self) some_limit sorted'
      rw [rate_granted opens]
      dsimp only at rest
      split_ifs <;> omega
    · have rest := @ih { l with count := l.count + 1 } below sorted' from_start' some_limit
      rw [rate_granted counts]
      dsimp only at rest
      split_ifs <;> omega
    · rw [rate_refused refused]
      exact ih counted sorted' from_start' some_limit

/-- What every call keeps. -/
theorem allow_counted (counted : l.count ≤ l.max_per_second) :
    (l.allow now).1.count ≤ (l.allow now).1.max_per_second := by
  rcases Nat.eq_zero_or_pos l.max_per_second with never | some_limit
  · rwa [allow_never never]
  · rcases allow_cases l now some_limit with ⟨_,opens⟩ | ⟨_,below,counts⟩ | ⟨_,_,refused⟩
    · rwa [opens]
    · rwa [counts]
    · rwa [refused]

theorem allow_max : (l.allow now).1.max_per_second = l.max_per_second := by
  rcases Nat.eq_zero_or_pos l.max_per_second with never | some_limit
  · rw [allow_never never]
  · rcases allow_cases l now some_limit with ⟨_,opens⟩ | ⟨_,_,counts⟩ | ⟨_,_,refused⟩
    · rw [opens]
    · rw [counts]
    · rw [refused]

/-- A call before a second does not count for it. -/
theorem rate_early (early : now < a) : l.rate (now :: calls) a = (l.allow now).1.rate calls a := by
  cases result : l.allow now with
  | mk l' allowed =>
    cases allowed with
    | true => rw [rate_granted result,if_neg (by omega),Nat.add_zero]
    | false => rw [rate_refused result]

theorem rate_twice (counted : l.count ≤ l.max_per_second) (sorted : calls.Pairwise (· ≤ ·)) :
    l.rate calls a ≤ 2 * l.max_per_second := by
  induction calls generalizing l with
  | nil => exact Nat.zero_le _
  | cons now later ih =>
    obtain ⟨first,sorted'⟩ := List.pairwise_cons.mp sorted
    rcases Nat.lt_or_ge now a with early | from_now
    · rw [rate_early early,← @allow_max l now]
      exact ih (allow_counted counted) sorted'
    · have from_start : ∀ time ∈ now :: later, a ≤ time := by
        intro time called
        rcases List.mem_cons.mp called with rfl | called
        · exact from_now
        · exact from_now.trans (first time called)
      have := rate_from counted sorted from_start
      omega

/-! ### Windows -/

/-- Windows are a second apart. -/
theorem windows_apart (opened : a ∈ l.windows calls) : a = l.window_start ∨ l.window_start + from_secs 1 ≤ a := by
  induction calls generalizing l with
  | nil => exact .inl (List.mem_singleton.mp opened)
  | cons now later ih =>
    rcases List.mem_cons.mp opened with here | opened
    · exact .inl here
    rcases Nat.eq_zero_or_pos l.max_per_second with never | some_limit
    · rw [allow_never never] at opened
      exact ih opened
    · rcases allow_cases l now some_limit with ⟨elapsed,opens⟩ | ⟨_,_,counts⟩ | ⟨_,_,refused⟩
      · rw [opens] at opened
        have apart := ih opened
        dsimp only at apart
        omega
      · rw [counts] at opened
        exact @ih { l with count := l.count + 1 } opened
      · rw [refused] at opened
        exact ih opened

theorem rate_window (counted : l.count ≤ l.max_per_second) (sorted : calls.Pairwise (· ≤ ·))
    (opened : a ∈ l.windows calls) : l.rate calls a ≤ l.max_per_second := by
  rcases Nat.eq_zero_or_pos l.max_per_second with never | some_limit
  · rw [rate_never never]
    omega
  have second : 0 < from_secs 1 := by decide
  induction calls generalizing l with
  | nil => exact Nat.zero_le _
  | cons now later ih =>
    rcases List.mem_cons.mp opened with here | opened
    · have := rate_opened here.le counted sorted
      omega
    obtain ⟨first,sorted'⟩ := List.pairwise_cons.mp sorted
    rcases allow_cases l now some_limit with ⟨_,opens⟩ | ⟨within,below,counts⟩ | ⟨_,_,refused⟩
    · rw [opens] at opened
      rcases windows_apart opened with here | after
      · have rest := @rate_opened { l with count := 1, window_start := now } later a here.le some_limit sorted'
        rw [rate_granted opens]
        dsimp only at rest
        split_ifs <;> omega
      · dsimp only at after
        rw [rate_early (by omega),opens]
        exact ih (l := { l with count := 1, window_start := now }) some_limit sorted' opened some_limit
    · rw [counts] at opened
      rcases windows_apart opened with here | after
      · have := rate_opened (show a ≤ l.window_start from here.le) counted sorted
        omega
      · dsimp only at after
        rw [rate_early (by omega),counts]
        exact ih (l := { l with count := l.count + 1 }) below sorted' opened some_limit
    · rw [refused] at opened
      rw [rate_refused refused]
      exact ih counted sorted' opened some_limit

/-- Of calls that come in order no second sees more than twice the limit, and none
    that begins where a window is opened more than the limit. -/
theorem rate_bound (max_per_second start : Nat) (calls : List Nat) (sorted : calls.Pairwise (· ≤ ·)) :
    (∀ a, (new max_per_second start).rate calls a ≤ 2 * max_per_second) ∧
      ∀ a ∈ (new max_per_second start).windows calls, (new max_per_second start).rate calls a ≤ max_per_second := by
  have counted : (new max_per_second start).count ≤ (new max_per_second start).max_per_second := Nat.zero_le _
  constructor
  · exact fun a => rate_twice counted sorted
  · exact fun a opened => rate_window counted sorted opened

/-- Two calls a tenth of a second apart, at the end of one window and the start of
    the next. -/
theorem rate_bound_straddling :
    (∀ a, (new 1 0).rate [900000000,1000000000] a ≤ 2 * 1) ∧
      ∀ a ∈ (new 1 0).windows [900000000,1000000000], (new 1 0).rate [900000000,1000000000] a ≤ 1 :=
  rate_bound 1 0 [900000000,1000000000] (by decide)

/-- Both are allowed, though the limit is one a second. -/
theorem straddling_exceeds_limit :
    ¬ ∀ (max_per_second start : Nat) (calls : List Nat), calls.Pairwise (· ≤ ·) →
      ∀ a, (new max_per_second start).rate calls a ≤ max_per_second := by
  intro bounded
  exact absurd (bounded 1 0 [900000000,1000000000] (by decide) 900000000) (by decide)

end IcmpRateLimiter

end Lb.Mtu
