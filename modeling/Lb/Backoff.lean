import Lb.Runs
import Lb.Speaker
import Mathlib.Algebra.Group.Nat.Defs

/-!
# The wait between two attempts

After a failure the task of a peer sleeps before it connects again, one second
at first and twice as long after every further failure. It listens to its channel
while it sleeps, for the sake of a shutdown, and any command wakes it.
-/
namespace Lb.Backoff
open Lb.Addr Lb.Types Lb.Speaker

/-- When a wait began, and for how long it should last. -/
structure Wait where
  start : Nat
  delay : Nat
deriving DecidableEq

/-- A peer and a clock. The last wait and the failures since the last established
    session only keep record; the end of a session is the first of its failures. -/
structure Timed where
  peer : Peer
  now : Nat
  wait : Option Wait
  failures : Nat

def Timed.start (peer_ip : IpAddr) (enabled : Bool) (now : Nat) : Timed := ⟨.spawn peer_ip enabled,now,none,0⟩

/-- The record after a move of the task. -/
def Timed.move (s : Timed) (p : Peer) : Timed :=
  match p.task with
  | .waiting => ⟨p,s.now,some ⟨s.now,p.backoff⟩,s.failures + 1⟩
  | .driving => ⟨p,s.now,none,0⟩
  | _ => { s with peer := p }

/-- The sleep is over. -/
def Timed.Elapsed (s : Timed) : Prop := ∀ wait, s.wait = some wait → wait.start + wait.delay ≤ s.now

inductive Step : Timed → Timed → Prop
  | arrive {s : Timed} (cmd : SessionCmd) : Step s { s with peer := s.peer.send cmd }
  | pass {s : Timed} (time : Nat) : Step s { s with now := s.now + time }
  /-- A wait that no command ends has lasted as long as it should. -/
  | move {s : Timed} {p : Peer} {events : List BgpEvent} (moves : Session s.peer p events)
      (sleeps : s.peer.task = .waiting → p.tx = s.peer.tx → s.Elapsed) : Step s (s.move p)

/-- The delay after some failures: it doubles up to a minute. -/
def delay_after (failures : Nat) : Nat := from_secs (min (2 ^ (failures - 1)) 60)

/-- No attempt starts before the sleep is over, and the delays are as long as they
    should be. -/
structure Timed.Respects (s : Timed) : Prop where
  slept : s.peer.task = .connecting → s.Elapsed
  doubles : ∀ wait, s.wait = some wait → wait.delay = delay_after s.failures

/-- No announcement or withdrawal is next in the channel before the sleep is over. -/
def Timed.Quiet (s : Timed) : Prop :=
  s.peer.task = .waiting → ¬ s.Elapsed → ∀ cmd rest, s.peer.tx = cmd :: rest → cmd = .Shutdown

/-- A step that finds the channel quiet. -/
def QuietStep (s s' : Timed) : Prop := s.Quiet ∧ Step s s'

/-! ### What a move does to the wait -/

/-- What a session task may do, as far as the wait is concerned. -/
inductive Turn (p p' : Peer) : Prop
  | leaves (left : p'.task = .finished ∨ p'.task = .discarding)
  | tries (drains : p.task = .draining) (next : p'.task = .draining ∨ p'.task = .connecting)
      (same : p'.backoff = p.backoff)
  | connects (tried : p.task = .connecting) (up : p'.task = .driving) (reset : p'.backoff = RECONNECT_BACKOFF_MIN)
  | drives (drove : p.task = .driving) (up : p'.task = .driving) (same : p'.backoff = p.backoff)
  | fails (tried : p.task = .connecting ∨ p.task = .driving) (waits : p'.task = .waiting)
      (same : p'.backoff = p.backoff)
  | wakes (waited : p.task = .waiting) (drains : p'.task = .draining)
      (doubled : p'.backoff = min (p.backoff * 2) RECONNECT_BACKOFF_MAX)
      (woken : p'.tx = p.tx ∨ ∃ cmd rest, p.tx = cmd :: rest ∧ cmd ≠ .Shutdown)

section
variable {s s' : Timed} {p p' : Peer} {events : List BgpEvent}

theorem turn_of_session (moves : Session p p' events) : Turn p p' := by
  cases moves with
  | drop at_top => exact .tries at_top (.inl at_top) rfl
  | stop_draining => exact .leaves (.inl rfl)
  | attempt at_top => exact .tries at_top (.inr rfl) rfl
  | established trying => exact .connects trying rfl rfl
  | connect_fails trying => exact .fails (.inl trying) rfl rfl
  | deliver up => exact .drives up up rfl
  | write_fails up => exact .fails (.inr up) rfl rfl
  | shut_down => exact .leaves (.inl rfl)
  | disconnect up => exact .fails (.inr up) rfl rfl
  | notification up => exact .fails (.inr up) rfl rfl
  | backoff_elapses waits => exact .wakes waits rfl rfl (.inl rfl)
  | swallow waits queued other => exact .wakes waits rfl rfl (.inr ⟨_,_,queued,other⟩)
  | stop_waiting => exact .leaves (.inl rfl)
  | @discard cmd =>
    by_cases shutdown : cmd = .Shutdown
    · exact .leaves (.inl (if_pos shutdown))
    · exact .leaves (.inr (if_neg shutdown))

/-- The next delay is twice this one, up to a minute. -/
theorem delay_doubles (k : Nat) :
    min (delay_after (k + 1) * 2) RECONNECT_BACKOFF_MAX = delay_after (k + 1 + 1) := by
  have double : 2 ^ (k + 1) = 2 ^ k * 2 := pow_succ 2 k
  simp only [delay_after,from_secs,RECONNECT_BACKOFF_MAX,Nat.add_sub_cancel]
  omega

/-- The record agrees with the task. -/
structure Timed.Kept (s : Timed) : Prop where
  doubles : ∀ wait, s.wait = some wait → wait.delay = delay_after s.failures
  waits : s.peer.task = .waiting → s.peer.backoff = delay_after s.failures ∧ s.failures ≠ 0
  slept : s.peer.task = .draining ∨ s.peer.task = .connecting →
    s.Elapsed ∧ s.peer.backoff = delay_after (s.failures + 1)
  drives : s.peer.task = .driving → s.peer.backoff = RECONNECT_BACKOFF_MIN ∧ s.failures = 0

theorem Timed.Kept.respects (kept : s.Kept) : s.Respects := ⟨fun trying => (kept.slept (.inr trying)).1,kept.doubles⟩

theorem start_kept (peer_ip : IpAddr) (enabled : Bool) (now : Nat) : (Timed.start peer_ip enabled now).Kept := by
  constructor
  · intro wait waited
    cases waited
  · intro waits
    cases enabled <;> cases waits
  · intro _
    refine ⟨fun wait waited => ?_,rfl⟩
    cases waited
  · intro drives
    cases enabled <;> cases drives

@[simp] theorem send_task (p : Peer) (cmd : SessionCmd) : (p.send cmd).task = p.task := by
  unfold Peer.send
  split_ifs <;> rfl

@[simp] theorem send_backoff (p : Peer) (cmd : SessionCmd) : (p.send cmd).backoff = p.backoff := by
  unfold Peer.send
  split_ifs <;> rfl

theorem Timed.Kept.arrive (kept : s.Kept) (cmd : SessionCmd) : ({ s with peer := s.peer.send cmd } : Timed).Kept := by
  constructor
  · exact kept.doubles
  · simpa using kept.waits
  · simpa [Timed.Elapsed] using kept.slept
  · simpa using kept.drives

theorem Timed.Kept.pass (kept : s.Kept) (time : Nat) : ({ s with now := s.now + time } : Timed).Kept := by
  constructor
  · exact kept.doubles
  · exact kept.waits
  · intro awake
    obtain ⟨elapsed,backoff⟩ := kept.slept awake
    refine ⟨fun wait waited => ?_,backoff⟩
    exact Nat.le_trans (elapsed wait waited) (Nat.le_add_right _ _)
  · exact kept.drives

/-- A move out of a quiet state keeps the record. -/
theorem Timed.Kept.turn (kept : s.Kept) (turn : Turn s.peer p)
    (slept : s.peer.task = .waiting → p.tx = s.peer.tx ∨ (∃ cmd rest, s.peer.tx = cmd :: rest ∧ cmd ≠ .Shutdown) → s.Elapsed) :
    (s.move p).Kept := by
  cases turn with
  | leaves left =>
    have moved : s.move p = { s with peer := p } := by
      rcases left with left | left
      · rw [Timed.move,left]
      · rw [Timed.move,left]
    rw [moved]
    refine ⟨kept.doubles,fun waits => ?_,fun awake => ?_,fun drives => ?_⟩
    · rcases left with left | left <;> simp [left] at waits
    · rcases left with left | left <;> simp [left] at awake
    · rcases left with left | left <;> simp [left] at drives
  | tries drains next same =>
    obtain ⟨elapsed,backoff⟩ := kept.slept (.inl drains)
    have moved : s.move p = { s with peer := p } := by
      rcases next with next | next
      · rw [Timed.move,next]
      · rw [Timed.move,next]
    rw [moved]
    refine ⟨kept.doubles,fun waits => ?_,fun _ => ⟨elapsed,same.trans backoff⟩,fun drives => ?_⟩
    · rcases next with next | next <;> simp [next] at waits
    · rcases next with next | next <;> simp [next] at drives
  | connects tried up reset =>
    have moved : s.move p = ⟨p,s.now,none,0⟩ := by rw [Timed.move,up]
    rw [moved]
    refine ⟨fun wait waited => ?_,fun waits => ?_,fun awake => ?_,fun _ => ⟨reset,rfl⟩⟩
    · cases waited
    · simp [up] at waits
    · simp [up] at awake
  | drives drove up same =>
    have moved : s.move p = ⟨p,s.now,none,0⟩ := by rw [Timed.move,up]
    rw [moved]
    refine ⟨fun wait waited => ?_,fun waits => ?_,fun awake => ?_,fun _ => ⟨same.trans (kept.drives drove).1,rfl⟩⟩
    · cases waited
    · simp [up] at waits
    · simp [up] at awake
  | fails tried waits same =>
    have moved : s.move p = ⟨p,s.now,some ⟨s.now,p.backoff⟩,s.failures + 1⟩ := by rw [Timed.move,waits]
    have delay : p.backoff = delay_after (s.failures + 1) := by
      rcases tried with tried | drove
      · exact same.trans (kept.slept (.inr tried)).2
      · obtain ⟨backoff,none_failed⟩ := kept.drives drove
        rw [same,backoff,none_failed]
        rfl
    rw [moved]
    refine ⟨fun wait waited => ?_,fun _ => ⟨delay,Nat.succ_ne_zero _⟩,fun awake => ?_,fun drives => ?_⟩
    · cases waited
      exact delay
    · simp [waits] at awake
    · simp [waits] at drives
  | wakes waited drains doubled woken =>
    have moved : s.move p = { s with peer := p } := by rw [Timed.move,drains]
    obtain ⟨backoff,some_failed⟩ := kept.waits waited
    obtain ⟨k,failed⟩ := Nat.exists_eq_succ_of_ne_zero some_failed
    rw [moved]
    refine ⟨kept.doubles,fun waits => ?_,fun _ => ⟨slept waited woken,?_⟩,fun drives => ?_⟩
    · simp [drains] at waits
    · rw [doubled,backoff,failed]
      exact delay_doubles k
    · simp [drains] at drives

theorem Timed.Kept.step (kept : s.Kept) (step : QuietStep s s') : s'.Kept := by
  obtain ⟨quiet,step⟩ := step
  cases step with
  | arrive cmd => exact kept.arrive cmd
  | pass time => exact kept.pass time
  | move moves sleeps =>
    refine kept.turn (turn_of_session moves) fun waited woken => ?_
    rcases woken with same | ⟨cmd,rest,queued,other⟩
    · exact sleeps waited same
    · by_contra early
      exact other (quiet waited early cmd rest queued)

theorem quiet_of_empty (empty : s.peer.tx = []) : s.Quiet := by
  intro _ _ cmd rest queued
  rw [empty] at queued
  cases queued

/-! ### What is not quiet -/

/-- At the top of its loop the task gets to an attempt, whatever updates it finds. -/
theorem drains_to_attempt (drains : s.peer.task = .draining) (updates : .Shutdown ∉ s.peer.tx) :
    ∃ s', Relation.ReflTransGen Step s s' ∧ s'.peer.task = .connecting ∧ s'.wait = s.wait ∧ s'.now = s.now := by
  obtain ⟨tx,found⟩ : ∃ tx, s.peer.tx = tx := ⟨_,rfl⟩
  induction tx generalizing s with
  | nil =>
    have attempt : Step s _ := .move (.attempt drains found) fun waits => by simp [drains] at waits
    exact ⟨_,.single attempt,rfl,rfl,rfl⟩
  | cons cmd rest ih =>
    rw [found,List.mem_cons,not_or] at updates
    have drop : Step s _ := .move (.drop drains found (Ne.symm updates.1)) fun waits => by simp [drains] at waits
    have moved : s.move { s.peer with tx := rest } = { s with peer := { s.peer with tx := rest } } := by
      simp only [Timed.move,drains]
    rw [moved] at drop
    obtain ⟨s',reached,result⟩ := ih (s := { s with peer := { s.peer with tx := rest } }) drains updates.2 rfl
    exact ⟨s',reached.head drop,result⟩

/-- An announcement or withdrawal that is next in the channel may end the sleep at
    any time, and an attempt starts too early. -/
theorem woken_too_early (waits : s.peer.task = .waiting) (early : ¬ s.Elapsed) {cmd : SessionCmd} {rest : List SessionCmd}
    (queued : s.peer.tx = cmd :: rest) (updates : .Shutdown ∉ s.peer.tx) :
    ∃ s', Relation.ReflTransGen Step s s' ∧ ¬ s'.Respects := by
  rw [queued,List.mem_cons,not_or] at updates
  let woken : Peer :=
    { s.peer with tx := rest, task := .draining, backoff := min (s.peer.backoff * 2) RECONNECT_BACKOFF_MAX }
  have swallow : Step s (s.move woken) := .move (.swallow waits queued (Ne.symm updates.1)) fun _ same => by
    simp [woken,queued] at same
  obtain ⟨s',reached,tries,wait,now⟩ := drains_to_attempt (s := s.move woken) rfl updates.2
  refine ⟨s',reached.head swallow,fun respects => early ?_⟩
  have slept := respects.slept tries
  intro w waited
  have over_then := slept w (wait.trans waited)
  rwa [now] at over_then

end

/-- In a run that finds the channel quiet while the task sleeps, no attempt starts
    before the sleep is over, and the delays are as long as they should be. -/
theorem quiet_runs_respect (peer_ip : IpAddr) (enabled : Bool) (now : Nat) {s : Timed}
    (reached : Relation.ReflTransGen QuietStep (.start peer_ip enabled now) s) : s.Respects :=
  (Runs.reachable_invariant Timed.Kept (fun _ _ kept step => kept.step step) reached
    (start_kept peer_ip enabled now)).respects

/-- A router. -/
private def router : IpAddr := .V4 ⟨10,0,0,254⟩

/-- The first attempt fails, and the second starts a second later. -/
theorem quiet_runs_respect_second_attempt :
    ∃ s : Timed, s.peer.task = .connecting ∧ s.now = from_secs 1 ∧ s.failures = 1 ∧ s.Respects := by
  have attempt : QuietStep (.start router true 0) _ := ⟨quiet_of_empty rfl,.move (.attempt rfl rfl) nofun⟩
  have fail := Relation.ReflTransGen.tail (.single attempt) ⟨quiet_of_empty rfl,.move (.connect_fails rfl) nofun⟩
  have sleep := fail.tail ⟨quiet_of_empty rfl,.pass (from_secs 1)⟩
  have wake := sleep.tail ⟨quiet_of_empty rfl,.move (.backoff_elapses rfl) (by
    intro _ _ wait waited
    cases waited
    decide)⟩
  have again := wake.tail ⟨quiet_of_empty rfl,.move (.attempt rfl rfl) nofun⟩
  exact ⟨_,rfl,rfl,rfl,quiet_runs_respect router true 0 again⟩

/-- An announcement that arrives while the task sleeps starts the second attempt at
    once. -/
theorem announcement_wakes :
    ¬ ∀ (peer_ip : IpAddr) (enabled : Bool) (now : Nat) (s : Timed),
      Relation.ReflTransGen Step (.start peer_ip enabled now) s → s.Respects := by
  intro respects
  have attempt : Step (.start router true 0) _ := .move (.attempt rfl rfl) nofun
  have fail := Relation.ReflTransGen.tail (.single attempt) (.move (.connect_fails rfl) nofun)
  have announce := fail.tail (.arrive (.Announce [⟨203,0,113,1⟩]))
  obtain ⟨s,reached,waits,wait,now,queued⟩ : ∃ s : Timed, Relation.ReflTransGen Step (.start router true 0) s ∧
      s.peer.task = .waiting ∧ s.wait = some ⟨0,from_secs 1⟩ ∧ s.now = 0 ∧ s.peer.tx = [.Announce [⟨203,0,113,1⟩]] :=
    ⟨_,announce,rfl,rfl,rfl,rfl⟩
  have early : ¬ s.Elapsed := by
    intro elapsed
    have slept := elapsed _ wait
    rw [now] at slept
    exact absurd slept (by decide)
  obtain ⟨s',woken,late⟩ := woken_too_early waits early queued (by simp [queued])
  exact late (respects router true 0 s' (reached.trans woken))

end Lb.Backoff
