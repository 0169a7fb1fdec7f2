import Lb.Evidence

/-!
# How long a failure goes unnoticed

The task of a backend probes it when its ticker is due, and the ticker keeps to its schedule
however late a tick is taken. When a backend has changed for good, a probe that is under way
may still tell the old story, and then as many probes as the threshold asks for must tell the
new one. How long that takes at most depends on the interval, on how long a probe takes and on
how late the task runs.
-/
namespace Lb.Detection
open Lb.Types Lb.Checker

/-- The interval of the ticker, how long a check takes at most, and how late the task runs at
    most when it has waited. There is no ticker without an interval. -/
structure Timing where
  interval : Nat
  longest : Nat
  late : Nat
  some_interval : 0 < interval

/-- The task of a backend, and whether the backend is up and since when. The task has been
    ready for the next tick since `ready`, or has been checking since `began`. -/
structure Loop where
  now : Nat
  due : Nat
  began : Nat
  ready : Nat
  checking : Bool
  state : HealthState
  published : Option HealthStatus
  up : Bool
  since : Nat

/-- The first tick is due at once. -/
def Loop.start (now : Nat) (up : Bool) : Loop where
  now := now
  due := now
  began := now
  ready := now
  checking := false
  state := .new
  published := none
  up := up
  since := now

/-- What is waited for comes no later. -/
def Loop.deadline (timing : Timing) (l : Loop) : Nat :=
  if l.checking then l.began + timing.longest else max l.due l.ready + timing.late

section
variable (healthy_threshold unhealthy_threshold : UInt32)

/-- The task records the result, and publishes the status if it has changed. -/
def Loop.record_result (l : Loop) (success : Bool) : Loop :=
  let (state,change) := l.state.record_result success healthy_threshold unhealthy_threshold
  { l with state, published := change.or l.published, checking := false, ready := l.now }

inductive Step (timing : Timing) : Loop → Loop → Prop
  | wait {l : Loop} (span : Nat) (in_time : l.now + span ≤ l.deadline timing) :
      Step timing l { l with now := l.now + span }
  | tick {l : Loop} (idle : l.checking = false) (reached : l.due ≤ l.now) :
      Step timing l { l with checking := true, began := l.now, due := l.due + timing.interval }
  /-- A check that began after the backend changed tells of it. -/
  | check {l : Loop} (success : Bool) (busy : l.checking = true) (tells : l.since < l.began → success = l.up) :
      Step timing l (l.record_result healthy_threshold unhealthy_threshold success)
  | turn {l : Loop} : Step timing l { l with up := !l.up, since := l.now }

end

/-- How many probes tell of a change. -/
def threshold (healthy_threshold unhealthy_threshold : UInt32) (up : Bool) : Nat :=
  (if up then healthy_threshold else unhealthy_threshold).toNat
def status_of (up : Bool) : HealthStatus := if up then .Healthy else .Unhealthy

/-- The time that passes at most between two checks of a task that runs late. -/
def Timing.gap (timing : Timing) : Nat := max timing.interval (timing.longest + timing.late)
/-- The time at most from a change until a number of checks have begun. -/
def Timing.reach (timing : Timing) : Nat → Nat
  | 0 => 0
  | checks + 1 => max timing.interval timing.longest + checks * timing.gap + timing.late

variable {healthy_threshold unhealthy_threshold : UInt32} {timing : Timing} {l l' : Loop} {start : Nat}

/-! ### What a result does -/

/-- How many probes in a row say that the backend is up, or that it is down. -/
def count (up : Bool) (s : HealthState) : UInt32 := if up then s.consecutive_successes else s.consecutive_failures

/-- The status is not that of a backend in this condition unless enough probes say so. -/
structure Loop.Tallied (healthy_threshold unhealthy_threshold : UInt32) (l : Loop) : Prop where
  few : ∀ up, l.state.status ≠ status_of up →
    (count up l.state).toNat < threshold healthy_threshold unhealthy_threshold up
  published : l.state.status ≠ .Unknown → l.published = some l.state.status

theorem record_count (s : HealthState) (success : Bool) :
    count success (s.record_result success healthy_threshold unhealthy_threshold).1 = count success s + 1 ∧
      count (!success) (s.record_result success healthy_threshold unhealthy_threshold).1 = 0 := by
  have counts := @record_counts healthy_threshold unhealthy_threshold s success
  unfold record at counts
  cases success with
  | true => exact ⟨counts.1,counts.2⟩
  | false => exact ⟨counts.2,counts.1⟩

/-- The threshold for one condition, as it is configured. -/
theorem threshold_pos (some_success : 0 < healthy_threshold) (some_failure : 0 < unhealthy_threshold) (up : Bool) :
    0 < threshold healthy_threshold unhealthy_threshold up := by
  cases up with
  | true => exact UInt32.lt_iff_toNat_lt.mp some_success
  | false => exact UInt32.lt_iff_toNat_lt.mp some_failure

/-- A result makes the status its own once there are enough like it. -/
theorem record_status (some_success : 0 < healthy_threshold) (some_failure : 0 < unhealthy_threshold) (s : HealthState)
    (success : Bool) :
    let s' := (s.record_result success healthy_threshold unhealthy_threshold).1
    s'.status = (if threshold healthy_threshold unhealthy_threshold success ≤ (count success s').toNat then
      status_of success else s.status) ∧
    (s.record_result success healthy_threshold unhealthy_threshold).2 =
      if s'.status = s.status then none else some s'.status := by
  have no_success : ¬ healthy_threshold ≤ 0 := UInt32.not_le.mpr some_success
  have no_failure : ¬ unhealthy_threshold ≤ 0 := UInt32.not_le.mpr some_failure
  have counts := (@record_count healthy_threshold unhealthy_threshold s success).1
  intro s'
  rw [counts]
  obtain ⟨status,successes,failures⟩ := s
  cases success with
  | true =>
    have enough : threshold healthy_threshold unhealthy_threshold true ≤ (successes + 1).toNat ↔
      healthy_threshold ≤ successes + 1 := UInt32.le_iff_toNat_le.symm
    simp only [s',count,status_of,if_true,enough]
    unfold HealthState.record_result
    cases status <;> by_cases many : healthy_threshold ≤ successes + 1 <;> simp [many,no_failure]
  | false =>
    have enough : threshold healthy_threshold unhealthy_threshold false ≤ (failures + 1).toNat ↔
      unhealthy_threshold ≤ failures + 1 := UInt32.le_iff_toNat_le.symm
    simp only [s',count,status_of,Bool.false_eq_true,if_false,enough]
    unfold HealthState.record_result
    cases status <;> by_cases many : unhealthy_threshold ≤ failures + 1 <;> simp [many,no_success]

theorem tallied_record (some_success : 0 < healthy_threshold) (some_failure : 0 < unhealthy_threshold)
    (tallied : l.Tallied healthy_threshold unhealthy_threshold) (success : Bool) :
    (l.record_result healthy_threshold unhealthy_threshold success).Tallied healthy_threshold unhealthy_threshold := by
  obtain ⟨status,change⟩ := record_status some_success some_failure l.state success
  obtain ⟨_,zero⟩ := @record_count healthy_threshold unhealthy_threshold l.state success
  constructor
  · intro up other
    change (l.state.record_result success healthy_threshold unhealthy_threshold).1.status ≠ status_of up at other
    show (count up (l.state.record_result success healthy_threshold unhealthy_threshold).1).toNat < _
    by_cases same : up = success
    · subst same
      by_contra many
      rw [if_pos (Nat.le_of_not_lt many)] at status
      exact other status
    · rw [show up = !success by revert same; cases up <;> cases success <;> simp,zero]
      exact threshold_pos some_success some_failure _
  · intro known
    change (l.state.record_result success healthy_threshold unhealthy_threshold).1.status ≠ .Unknown at known
    show (l.state.record_result success healthy_threshold unhealthy_threshold).2.or l.published =
      some (l.state.record_result success healthy_threshold unhealthy_threshold).1.status
    rw [change]
    by_cases same : (l.state.record_result success healthy_threshold unhealthy_threshold).1.status = l.state.status
    · rw [if_pos same,Option.none_or,same]
      exact tallied.published (same ▸ known)
    · rw [if_neg same]
      rfl

/-! ### Reachable states -/

/-- The checks that have begun since the backend changed, and how far the task has come. -/
structure Loop.Heeds (timing : Timing) (l : Loop) (checks : Nat) : Prop where
  in_time : l.now ≤ l.deadline timing
  due : l.due ≤ l.since + (checks + 1) * timing.interval
  due_next : l.due ≤ l.began + timing.interval
  began : l.began ≤ l.since + timing.reach checks
  ready : l.ready ≤ l.began + timing.longest
  past : l.began ≤ l.now ∧ l.since ≤ l.now
  fresh : l.since < l.began ↔ 0 < checks
  told : l.state.status = status_of l.up ∨
    (if l.checking then checks - 1 else checks) ≤ (count l.up l.state).toNat

theorem reach_next {checks : Nat} (heeds : l.Heeds timing checks) :
    max l.due l.ready + timing.late ≤ l.since + timing.reach (checks + 1) := by
  have due := heeds.due
  have ready := heeds.ready
  have began := heeds.began
  have interval : timing.interval ≤ timing.gap := le_max_left _ _
  have busy : timing.longest + timing.late ≤ timing.gap := le_max_right _ _
  have scheduled := Nat.mul_le_mul_left checks interval
  have longer : timing.interval ≤ max timing.interval timing.longest := le_max_left _ _
  have lasting : timing.longest ≤ max timing.interval timing.longest := le_max_right _ _
  cases checks with
  | zero =>
    simp only [Timing.reach] at began ⊢
    omega
  | succ checks =>
    simp only [Timing.reach] at began ⊢
    simp only [Nat.add_mul,Nat.one_mul] at due scheduled ⊢
    omega

theorem reach_mono {checks more : Nat} (fewer : checks ≤ more) : timing.reach checks ≤ timing.reach more := by
  cases checks with
  | zero => exact Nat.zero_le _
  | succ checks =>
    obtain ⟨more,rfl⟩ := Nat.exists_eq_succ_of_ne_zero (show more ≠ 0 by omega)
    have := Nat.mul_le_mul_right timing.gap (show checks ≤ more by omega)
    simp only [Timing.reach]
    omega

theorem start_heeds (up : Bool) : (Loop.start start up).Heeds timing 0 := by
  refine ⟨?_,?_,?_,?_,?_,⟨le_refl _,le_refl _⟩,?_,.inr (Nat.zero_le _)⟩
  · show start ≤ max start start + timing.late
    omega
  · simp only [Loop.start]
    omega
  · simp only [Loop.start]
    omega
  · simp only [Loop.start]
    omega
  · simp only [Loop.start]
    omega
  · simp [Loop.start]

theorem heeds_tick {checks : Nat} (heeds : l.Heeds timing checks) (idle : l.checking = false) (reached : l.due ≤ l.now) :
    ∃ checks', Loop.Heeds timing { l with checking := true, began := l.now, due := l.due + timing.interval } checks' := by
  obtain ⟨began,since⟩ := heeds.past
  have ready := heeds.ready
  have in_time := heeds.in_time
  rw [Loop.deadline,if_neg (by simp [idle])] at in_time
  have told := heeds.told
  rw [if_neg (by simp [idle])] at told
  by_cases later : l.since < l.now
  · refine ⟨checks + 1,?_,?_,?_,?_,?_,⟨le_refl _,since⟩,?_,?_⟩
    · rw [Loop.deadline,if_pos rfl]
      exact Nat.le_add_right _ _
    · have due := heeds.due
      simp only [Nat.add_mul,Nat.one_mul] at due ⊢
      omega
    · exact Nat.add_le_add_right reached _
    · exact in_time.trans (reach_next heeds)
    · dsimp only
      omega
    · exact ⟨fun _ => Nat.succ_pos _,fun _ => later⟩
    · rwa [if_pos rfl]
  · have none_begun : checks = 0 := by
      have fresh := heeds.fresh
      omega
    subst none_begun
    refine ⟨0,?_,?_,?_,?_,?_,⟨le_refl _,since⟩,?_,.inr (Nat.zero_le _)⟩
    · rw [Loop.deadline,if_pos rfl]
      exact Nat.le_add_right _ _
    · dsimp only
      omega
    · exact Nat.add_le_add_right reached _
    · dsimp only
      omega
    · dsimp only
      omega
    · exact ⟨fun fresh => absurd fresh later,fun some => absurd some (lt_irrefl _)⟩

theorem heeds_check {checks : Nat} (some_success : 0 < healthy_threshold) (some_failure : 0 < unhealthy_threshold)
    (heeds : l.Heeds timing checks) (tallied : l.Tallied healthy_threshold unhealthy_threshold) {success : Bool}
    (busy : l.checking = true) (tells : l.since < l.began → success = l.up) :
    (l.record_result healthy_threshold unhealthy_threshold success).Heeds timing checks := by
  have in_time := heeds.in_time
  rw [Loop.deadline,if_pos busy] at in_time
  have told := heeds.told
  rw [if_pos busy] at told
  refine ⟨?_,heeds.due,heeds.due_next,heeds.began,in_time,heeds.past,heeds.fresh,?_⟩
  · show l.now ≤ max l.due l.now + timing.late
    omega
  · show (l.state.record_result success healthy_threshold unhealthy_threshold).1.status = status_of l.up ∨
      checks ≤ (count l.up (l.state.record_result success healthy_threshold unhealthy_threshold).1).toNat
    by_cases fresh : l.since < l.began
    · have same := tells fresh
      subst same
      obtain ⟨status,_⟩ := record_status some_success some_failure l.state l.up
      obtain ⟨counted,_⟩ := @record_count healthy_threshold unhealthy_threshold l.state l.up
      by_cases known : l.state.status = status_of l.up
      · left
        rw [status,known,ite_self]
      · right
        have few := tallied.few l.up known
        have small : threshold healthy_threshold unhealthy_threshold l.up < 2 ^ 32 := UInt32.toNat_lt _
        have told := told.resolve_left known
        have some_begun := heeds.fresh.mp fresh
        rw [counted,UInt32.toNat_add,UInt32.toNat_one]
        omega
    · right
      have none_begun : ¬ 0 < checks := fun some => fresh (heeds.fresh.mpr some)
      omega

theorem heeds_turn {checks : Nat} (heeds : l.Heeds timing checks) :
    Loop.Heeds timing { l with up := !l.up, since := l.now } 0 := by
  obtain ⟨began,since⟩ := heeds.past
  have due := heeds.due_next
  refine ⟨heeds.in_time,?_,heeds.due_next,?_,heeds.ready,⟨began,le_refl _⟩,?_,?_⟩
  · dsimp only
    omega
  · exact began
  · dsimp only
    omega
  · right
    split_ifs <;> exact Nat.zero_le _

/-- A state that a run reaches. -/
def Reachable (healthy_threshold unhealthy_threshold : UInt32) (timing : Timing) (l : Loop) : Prop :=
  ∃ start up, Relation.ReflTransGen (Step healthy_threshold unhealthy_threshold timing) (.start start up) l

theorem reachable_heeds (some_success : 0 < healthy_threshold) (some_failure : 0 < unhealthy_threshold)
    (reachable : Reachable healthy_threshold unhealthy_threshold timing l) :
    l.Tallied healthy_threshold unhealthy_threshold ∧ ∃ checks, l.Heeds timing checks := by
  obtain ⟨start,up,reached⟩ := reachable
  refine Runs.reachable_invariant (fun l : Loop => l.Tallied healthy_threshold unhealthy_threshold ∧
    ∃ checks, l.Heeds timing checks) ?_ reached ⟨⟨?_,?_⟩,0,start_heeds up⟩
  · rintro l l' ⟨tallied,checks,heeds⟩ step
    cases step with
    | wait span in_time =>
      refine ⟨⟨tallied.few,tallied.published⟩,checks,in_time,heeds.due,heeds.due_next,heeds.began,heeds.ready,?_,
        heeds.fresh,heeds.told⟩
      obtain ⟨began,since⟩ := heeds.past
      dsimp only
      omega
    | tick idle reached => exact ⟨⟨tallied.few,tallied.published⟩,heeds_tick heeds idle reached⟩
    | check success busy tells =>
      exact ⟨tallied_record some_success some_failure tallied success,checks,
        heeds_check some_success some_failure heeds tallied busy tells⟩
    | turn => exact ⟨⟨tallied.few,tallied.published⟩,0,heeds_turn heeds⟩
  · intro up' other
    cases up' <;> exact threshold_pos some_success some_failure _
  · intro known
    exact absurd rfl known

/-- A status that is not the backend's is not kept for longer. -/
theorem reachable_noticed (some_success : 0 < healthy_threshold) (some_failure : 0 < unhealthy_threshold)
    (reachable : Reachable healthy_threshold unhealthy_threshold timing l)
    (long : l.since + (timing.reach (threshold healthy_threshold unhealthy_threshold l.up) + timing.longest) < l.now) :
    l.published = some (status_of l.up) := by
  obtain ⟨tallied,checks,heeds⟩ := reachable_heeds some_success some_failure reachable
  by_cases known : l.state.status = status_of l.up
  · have published := tallied.published (by rw [known]; cases l.up <;> simp [status_of])
    rwa [known] at published
  · exfalso
    have few := tallied.few l.up known
    have told := heeds.told.resolve_left known
    have in_time := heeds.in_time
    cases checking : l.checking with
    | true =>
      rw [Loop.deadline,if_pos checking] at in_time
      rw [if_pos checking] at told
      have began := heeds.began
      have far : timing.reach checks ≤ timing.reach (threshold healthy_threshold unhealthy_threshold l.up) :=
        reach_mono (by omega)
      omega
    | false =>
      rw [Loop.deadline,if_neg (by simp [checking])] at in_time
      rw [if_neg (by simp [checking])] at told
      have next := reach_next heeds
      have far : timing.reach (checks + 1) ≤ timing.reach (threshold healthy_threshold unhealthy_threshold l.up) :=
        reach_mono (by omega)
      omega

/-! ### The worst case -/

theorem reach_succ (checks : Nat) :
    max ((checks + 1) * timing.interval) (timing.reach checks + timing.longest) + timing.late =
      timing.reach (checks + 1) := by
  cases checks with
  | zero => simp [Timing.reach]
  | succ checks =>
    simp only [Timing.reach,Timing.gap]
    by_cases spare : timing.longest + timing.late ≤ timing.interval
    · rw [max_eq_left spare,max_eq_left (show timing.longest ≤ timing.interval by omega)]
      simp only [Nat.add_mul,Nat.one_mul]
      omega
    · rw [max_eq_right (by omega : timing.interval ≤ timing.longest + timing.late)]
      have scheduled := Nat.mul_le_mul_left (checks + 1) (by omega : timing.interval ≤ timing.longest + timing.late)
      have longer : timing.interval ≤ max timing.interval timing.longest := le_max_left _ _
      generalize max timing.interval timing.longest = first at longer ⊢
      simp only [Nat.add_mul,Nat.one_mul] at scheduled ⊢
      omega

/-- The last check that has begun is about to end, and the status is still another one. -/
structure Loop.Stale (timing : Timing) (l : Loop) (up : Bool) (checks : Nat) : Prop where
  now : l.now = timing.reach checks + timing.longest
  due : l.due = (checks + 1) * timing.interval
  began : l.began = timing.reach checks
  checking : l.checking = true
  same : l.up = up
  since : l.since = 0
  other : l.state.status ≠ status_of up
  published : l.published ≠ some (status_of up)
  told : (count up l.state).toNat ≤ checks - 1

/-- A check is under way when the backend changes. -/
theorem start_stale (healthy_threshold unhealthy_threshold : UInt32) (timing : Timing) (up : Bool) :
    ∃ l, Reachable healthy_threshold unhealthy_threshold timing l ∧ l.Stale timing up 0 := by
  have begins := @Step.tick healthy_threshold unhealthy_threshold timing (.start 0 !up) rfl (le_refl _)
  have turns := @Step.turn healthy_threshold unhealthy_threshold timing
    { Loop.start 0 !up with checking := true, began := 0, due := timing.interval + 0 }
  refine ⟨_,⟨0,!up,.tail (.tail (.tail .refl begins) .turn) (.wait timing.longest ?_)⟩,?_⟩
  · rw [Loop.deadline,if_pos rfl]
  · refine ⟨?_,?_,rfl,rfl,Bool.not_not up,rfl,?_,?_,?_⟩
    · simp [Loop.start,Timing.reach]
    · simp [Loop.start]
    · cases up <;> simp [Loop.start,HealthState.new,status_of]
    · simp [Loop.start]
    · cases up <;> simp [Loop.start,HealthState.new,count]

/-- What is not the status after a result is not published with it. -/
theorem record_published (some_success : 0 < healthy_threshold) (some_failure : 0 < unhealthy_threshold) {success : Bool}
    {status : HealthStatus} (before : l.published ≠ some status)
    (other : (l.record_result healthy_threshold unhealthy_threshold success).state.status ≠ status) :
    (l.record_result healthy_threshold unhealthy_threshold success).published ≠ some status := by
  intro published
  obtain ⟨_,change⟩ := record_status some_success some_failure l.state success
  change (l.state.record_result success healthy_threshold unhealthy_threshold).2.or l.published = some status at published
  change (l.state.record_result success healthy_threshold unhealthy_threshold).1.status ≠ status at other
  rw [change] at published
  split_ifs at published with same
  · exact before published
  · exact other (Option.some.inj published)

/-- A result that comes from before, or is not enough, leaves the status another one. -/
theorem check_stale (some_success : 0 < healthy_threshold) (some_failure : 0 < unhealthy_threshold) {up : Bool}
    {checks : Nat} (stale : l.Stale timing up checks)
    (few : checks < threshold healthy_threshold unhealthy_threshold up) :
    ∃ success, (l.since < l.began → success = l.up) ∧
      (l.record_result healthy_threshold unhealthy_threshold success).state.status ≠ status_of up ∧
      (count up (l.record_result healthy_threshold unhealthy_threshold success).state).toNat ≤ checks := by
  have told := stale.told
  cases checks with
  | zero =>
    obtain ⟨status,_⟩ := record_status some_success some_failure l.state !up
    obtain ⟨_,zero⟩ := @record_count healthy_threshold unhealthy_threshold l.state !up
    rw [Bool.not_not] at zero
    refine ⟨!up,fun fresh => ?_,?_,?_⟩
    · rw [stale.since,stale.began] at fresh
      exact absurd fresh (lt_irrefl _)
    · show (l.state.record_result (!up) healthy_threshold unhealthy_threshold).1.status ≠ _
      rw [status]
      split_ifs
      · cases up <;> simp [status_of]
      · exact stale.other
    · show (count up (l.state.record_result (!up) healthy_threshold unhealthy_threshold).1).toNat ≤ 0
      rw [zero]
      rfl
  | succ checks =>
    obtain ⟨status,_⟩ := record_status some_success some_failure l.state up
    obtain ⟨counted,_⟩ := @record_count healthy_threshold unhealthy_threshold l.state up
    have small : threshold healthy_threshold unhealthy_threshold up < 2 ^ 32 := UInt32.toNat_lt _
    have next : (count up l.state + 1).toNat ≤ checks + 1 := by
      rw [UInt32.toNat_add,UInt32.toNat_one]
      omega
    refine ⟨up,fun _ => stale.same.symm,?_,?_⟩
    · show (l.state.record_result up healthy_threshold unhealthy_threshold).1.status ≠ _
      rw [status,counted,if_neg (by omega)]
      exact stale.other
    · show (count up (l.state.record_result up healthy_threshold unhealthy_threshold).1).toNat ≤ checks + 1
      rwa [counted]

theorem next_stale (some_success : 0 < healthy_threshold) (some_failure : 0 < unhealthy_threshold) {up : Bool}
    {checks : Nat} (reachable : Reachable healthy_threshold unhealthy_threshold timing l)
    (stale : l.Stale timing up checks) (few : checks < threshold healthy_threshold unhealthy_threshold up) :
    ∃ l', Reachable healthy_threshold unhealthy_threshold timing l' ∧ l'.Stale timing up (checks + 1) := by
  obtain ⟨success,tells,other,told⟩ := check_stale some_success some_failure stale few
  have published := record_published some_success some_failure stale.published other
  obtain ⟨start,up',reached⟩ := reachable
  have next := @reach_succ timing checks
  have ends := Relation.ReflTransGen.tail reached
    (@Step.check healthy_threshold unhealthy_threshold timing l success stale.checking tells)
  generalize recorded : l.record_result healthy_threshold unhealthy_threshold success = l₁ at other told published ends
  have same : l₁.now = l.now ∧ l₁.due = l.due ∧ l₁.ready = l.now ∧ l₁.checking = false ∧ l₁.up = l.up ∧
      l₁.since = l.since := by
    rw [← recorded]
    exact ⟨rfl,rfl,rfl,rfl,rfl,rfl⟩
  obtain ⟨now,due,ready,idle,up_same,since⟩ := same
  rw [stale.now] at now ready
  rw [stale.due] at due
  have waits := Relation.ReflTransGen.tail ends (@Step.wait healthy_threshold unhealthy_threshold timing l₁
    (timing.reach (checks + 1) - l₁.now) (by
      rw [Loop.deadline,if_neg (by simp [idle]),due,ready,next]
      omega))
  have arrives : l₁.now + (timing.reach (checks + 1) - l₁.now) = timing.reach (checks + 1) := by omega
  rw [arrives] at waits
  have begins := Relation.ReflTransGen.tail waits (Step.tick idle (by dsimp only; omega))
  have lasts := Relation.ReflTransGen.tail begins (Step.wait timing.longest (by rw [Loop.deadline,if_pos rfl]))
  refine ⟨_,⟨start,up',lasts⟩,rfl,?_,rfl,rfl,?_,?_,other,published,told⟩
  · show l₁.due + timing.interval = _
    rw [due]
    simp only [Nat.add_mul,Nat.one_mul]
  · exact up_same.trans stale.same
  · exact since.trans stale.since

/-- A change of a backend that lasts is published in time, in every run of its task and
    whatever the probes tell that began before it, exactly if the time that is given is no
    less than that of the worst case: the longer of an interval and a check, a gap for each
    result more that the threshold asks for, the lateness of the task and one check. -/
theorem change_noticed_in_time_iff (healthy_threshold unhealthy_threshold : UInt32) (some_success : 0 < healthy_threshold)
    (some_failure : 0 < unhealthy_threshold) (timing : Timing) (up : Bool) (bound : Nat) :
    (∀ l, Reachable healthy_threshold unhealthy_threshold timing l → l.up = up → l.since + bound < l.now →
        l.published = some (status_of up)) ↔
      max timing.interval timing.longest +
        (threshold healthy_threshold unhealthy_threshold up - 1) * max timing.interval (timing.longest + timing.late) +
        timing.late + timing.longest ≤ bound := by
  have worst : timing.reach (threshold healthy_threshold unhealthy_threshold up) = max timing.interval timing.longest +
      (threshold healthy_threshold unhealthy_threshold up - 1) * max timing.interval (timing.longest + timing.late) +
      timing.late := by
    obtain ⟨more,some_more⟩ := Nat.exists_eq_succ_of_ne_zero (threshold_pos some_success some_failure up).ne'
    rw [some_more]
    rfl
  rw [← worst]
  constructor
  · intro noticed
    have stale : ∀ checks, checks ≤ threshold healthy_threshold unhealthy_threshold up →
        ∃ l, Reachable healthy_threshold unhealthy_threshold timing l ∧ l.Stale timing up checks := by
      intro checks
      induction checks with
      | zero => exact fun _ => start_stale healthy_threshold unhealthy_threshold timing up
      | succ checks ih =>
        intro few
        obtain ⟨l,reachable,stale⟩ := ih (by omega)
        exact next_stale some_success some_failure reachable stale few
    obtain ⟨l,reachable,stale⟩ := stale _ (le_refl _)
    by_contra short
    refine stale.published (noticed l reachable stale.same ?_)
    rw [stale.since,stale.now]
    omega
  · rintro enough l reachable rfl long
    exact reachable_noticed some_success some_failure reachable (by omega)

private theorem five_seconds : 0 < from_secs 5 := by decide
private def punctual : Timing := ⟨from_secs 5,from_secs 2,0,five_seconds⟩

/-- With the default thresholds, a probe every five seconds that takes two seconds at most and
    a task that is never late, a failure is published within seventeen seconds, and not always
    sooner. -/
theorem failure_noticed_in_time :
    (∀ l, Reachable 2 3 punctual l → l.up = false → l.since + from_secs 17 < l.now →
        l.published = some .Unhealthy) ∧
      ¬ ∀ l, Reachable 2 3 punctual l → l.up = false → l.since + from_secs 16 < l.now →
        l.published = some .Unhealthy := by
  have exactly := change_noticed_in_time_iff 2 3 (by decide) (by decide) punctual false
  exact ⟨(exactly (from_secs 17)).mpr (by decide),fun sooner => absurd ((exactly (from_secs 16)).mp sooner) (by decide)⟩

end Lb.Detection
