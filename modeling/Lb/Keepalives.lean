import Lb.Timers

/-!
# Keepalives and hold timers

One end of a session writes a keepalive each time its ticker is due, and the other end
gives the session up when nothing has come in for the hold time. Timers fire late, and
messages are under way for some time. How late both may be before a session is given up
that nothing is wrong with depends on the hold time alone.
-/
namespace Lb.Keepalives
open Lb.Types Lb.Time Lb.Timers

/-- The nanoseconds of a span. -/
def as_nanos (d : Duration) : Nat := d.secs.toNat * NANOS_PER_SEC + d.nanos

/-- One direction of a session: the ticker of the end that writes, the readings at which
    the messages under way were written, and what the end that reads remembers. -/
structure Line where
  now : Nat
  next_tick : Nat
  flight : List Nat
  last_inbound : Nat

/-- How late a timer fires at most, and a message comes in. -/
structure Lateness where
  timer : Nat
  message : Nat

/-- Both ends are in `drive`, right after the keepalive that ends the handshake. -/
def Line.start (negotiated_hold : UInt16) (now : Nat) : Line where
  now := now
  next_tick := now + as_nanos (keepalive_interval negotiated_hold)
  flight := [now]
  last_inbound := now

inductive Step (negotiated_hold : UInt16) (late : Lateness) : Line → Line → Prop
  | wait {l : Line} (span : Nat) (ticks : l.now + span ≤ l.next_tick + late.timer)
      (arrives : ∀ sent ∈ l.flight, l.now + span ≤ sent + late.message) :
      Step negotiated_hold late l { l with now := l.now + span }
  /-- A tick that is missed is made up for, and the next one is due when it was. -/
  | keepalive {l : Line} (due : l.next_tick ≤ l.now) :
      Step negotiated_hold late l
        { l with
          next_tick := l.next_tick + as_nanos (keepalive_interval negotiated_hold)
          flight := l.flight ++ [l.now] }
  | update {l : Line} : Step negotiated_hold late l { l with flight := l.flight ++ [l.now] }
  /-- What comes in may be a part of a message, or several of them. -/
  | read {l : Line} {rest : List Nat} (some_bytes : l.flight ≠ []) (left : rest <:+ l.flight) :
      Step negotiated_hold late l { l with flight := rest, last_inbound := l.now }

/-- The hold timer may fire. -/
def Line.Expired (negotiated_hold : UInt16) (l : Line) : Prop :=
  keepalives_enabled negotiated_hold = true ∧
    l.last_inbound + as_nanos (.from_secs negotiated_hold.toUInt64) ≤ l.now

variable {negotiated_hold : UInt16} {late : Lateness} {l l' : Line}

/-- What is written comes in soon enough after what came in last. -/
structure Line.Heard (negotiated_hold : UInt16) (late : Lateness) (l : Line) : Prop where
  ticks : l.now ≤ l.next_tick + late.timer
  arrives : ∀ sent ∈ l.flight, l.now ≤ sent + late.message
  written : ∀ sent ∈ l.flight, sent ≤ l.now
  ahead : l.next_tick ≤ l.now + as_nanos (keepalive_interval negotiated_hold)
  silent : l.flight = [] → l.next_tick ≤ l.last_inbound + as_nanos (keepalive_interval negotiated_hold)
  first : ∀ sent rest, l.flight = sent :: rest →
    sent ≤ l.last_inbound + as_nanos (keepalive_interval negotiated_hold) + late.timer

theorem start_heard (now : Nat) : (Line.start negotiated_hold now).Heard negotiated_hold late := by
  refine ⟨?_,?_,?_,le_refl _,by simp [Line.start],?_⟩
  · simp only [Line.start]
    omega
  · simp [Line.start]
  · simp [Line.start]
  · intro sent rest first
    cases first
    simp only [Line.start]
    omega

/-- A message more is written. -/
theorem Line.Heard.write (heard : l.Heard negotiated_hold late) : ∀ sent rest, l.flight ++ [l.now] = sent :: rest →
    sent ≤ l.last_inbound + as_nanos (keepalive_interval negotiated_hold) + late.timer := by
  intro sent rest first
  cases flight : l.flight with
  | nil =>
    rw [flight] at first
    cases first
    have := heard.silent flight
    have := heard.ticks
    omega
  | cons oldest others =>
    rw [flight] at first
    cases first
    exact heard.first _ _ flight

theorem Line.Heard.step (heard : l.Heard negotiated_hold late) (steps : Step negotiated_hold late l l') :
    l'.Heard negotiated_hold late := by
  have ticks := heard.ticks
  have ahead := heard.ahead
  have both : ∀ (P : Nat → Prop), (∀ sent ∈ l.flight, P sent) → P l.now → ∀ sent ∈ l.flight ++ [l.now], P sent := by
    intro P old new sent listed
    rcases List.mem_append.mp listed with listed | listed
    · exact old sent listed
    · rwa [List.mem_singleton.mp listed]
  cases steps with
  | wait span ticks arrives =>
    refine ⟨ticks,arrives,fun sent listed => ?_,?_,heard.silent,heard.first⟩
    · exact (heard.written sent listed).trans (Nat.le_add_right _ _)
    · dsimp only
      omega
  | keepalive due =>
    refine ⟨?_,both _ heard.arrives (Nat.le_add_right _ _),both _ heard.written (le_refl _),?_,by simp,heard.write⟩
    · dsimp only
      omega
    · dsimp only
      omega
  | update =>
    exact ⟨ticks,both _ heard.arrives (Nat.le_add_right _ _),both _ heard.written (le_refl _),ahead,by simp,heard.write⟩
  | @read rest some_bytes left =>
    refine ⟨ticks,fun sent listed => heard.arrives sent (left.subset listed),
      fun sent listed => heard.written sent (left.subset listed),ahead,fun _ => ahead,fun sent others first => ?_⟩
    have written := heard.written sent (left.subset (by rw [show rest = sent :: others from first]; simp))
    dsimp only
    omega

theorem Line.Heard.not_expired (heard : l.Heard negotiated_hold late)
    (slack : as_nanos (keepalive_interval negotiated_hold) + late.timer + late.message <
      as_nanos (.from_secs negotiated_hold.toUInt64)) : ¬ l.Expired negotiated_hold := by
  rintro ⟨_,silent⟩
  have ticks := heard.ticks
  cases flight : l.flight with
  | nil =>
    have := heard.silent flight
    omega
  | cons oldest others =>
    have := heard.first _ _ flight
    have := heard.arrives oldest (by simp [flight])
    omega

/-! ### Sessions that are given up -/

/-- Time passes while nothing comes in, as long as no message is too late. -/
theorem passes (late : Lateness) (positive : 0 < as_nanos (keepalive_interval negotiated_hold)) :
    ∀ (left : Nat) (l : Line) (later : Nat), later - l.next_tick ≤ left → l.now ≤ later →
      l.now ≤ l.next_tick + late.timer → later ≤ l.now + late.message →
      (∀ sent ∈ l.flight, later ≤ sent + late.message) →
      ∃ l', Relation.ReflTransGen (Step negotiated_hold late) l l' ∧ l'.now = later ∧
        l'.last_inbound = l.last_inbound := by
  intro left
  induction left with
  | zero =>
    intro l later near behind ticks _ arrives
    have waits : Step negotiated_hold late l { l with now := l.now + (later - l.now) } :=
      .wait _ (by omega) fun sent listed => by
        have := arrives sent listed
        omega
    exact ⟨_,.single waits,by dsimp only; omega,rfl⟩
  | succ left ih =>
    intro l later near behind ticks recent arrives
    by_cases soon : later ≤ l.next_tick + late.timer
    · have waits : Step negotiated_hold late l { l with now := l.now + (later - l.now) } :=
        .wait _ (by omega) fun sent listed => by
          have := arrives sent listed
          omega
      exact ⟨_,.single waits,by dsimp only; omega,rfl⟩
    · -- The ticker is due before, and fires as soon as it is.
      have waits : Step negotiated_hold late l { l with now := l.now + (l.next_tick - l.now) } :=
        .wait _ (by omega) fun sent listed => by
          have := arrives sent listed
          omega
      have ticks' : Step negotiated_hold late { l with now := l.now + (l.next_tick - l.now) } _ :=
        .keepalive (by dsimp only; omega)
      obtain ⟨l',steps,arrived,silent⟩ := ih
        ⟨l.now + (l.next_tick - l.now),l.next_tick + as_nanos (keepalive_interval negotiated_hold),
          l.flight ++ [l.now + (l.next_tick - l.now)],l.last_inbound⟩ later
        (by dsimp only; omega) (by dsimp only; omega) (by dsimp only; omega) (by dsimp only; omega)
        fun sent listed => by
          rcases List.mem_append.mp listed with listed | listed
          · exact arrives sent listed
          · rw [List.mem_singleton.mp listed]
            omega
      exact ⟨l',.head waits (.head ticks' steps),arrived,silent⟩

/-- Where the timers and messages may be late enough, a session that nothing is wrong
    with is given up. -/
theorem gives_up (late : Lateness) (positive : 0 < as_nanos (keepalive_interval negotiated_hold))
    (enabled : keepalives_enabled negotiated_hold = true)
    (tight : as_nanos (.from_secs negotiated_hold.toUInt64) ≤
      as_nanos (keepalive_interval negotiated_hold) + late.timer + late.message) (now : Nat) :
    ∃ l, Relation.ReflTransGen (Step negotiated_hold late) (.start negotiated_hold now) l ∧ l.Expired negotiated_hold := by
  have heard : Step negotiated_hold late (.start negotiated_hold now) { Line.start negotiated_hold now with
      flight := [], last_inbound := now } :=
    .read (by simp [Line.start]) (List.nil_suffix)
  by_cases first : as_nanos (.from_secs negotiated_hold.toUInt64) ≤
      as_nanos (keepalive_interval negotiated_hold) + late.timer
  · have waits : Step negotiated_hold late
        { Line.start negotiated_hold now with flight := [], last_inbound := now } _ :=
      .wait (as_nanos (.from_secs negotiated_hold.toUInt64)) (by dsimp only [Line.start]; omega) (by simp)
    exact ⟨_,.tail (.single heard) waits,enabled,le_refl _⟩
  · have waits : Step negotiated_hold late
        { Line.start negotiated_hold now with flight := [], last_inbound := now } _ :=
      .wait (as_nanos (keepalive_interval negotiated_hold) + late.timer) (by dsimp only [Line.start]; omega) (by simp)
    have ticks : Step negotiated_hold late _ _ := .keepalive (l := { Line.start negotiated_hold now with
      now := now + (as_nanos (keepalive_interval negotiated_hold) + late.timer), flight := [], last_inbound := now })
      (by dsimp only [Line.start]; omega)
    obtain ⟨l,steps,arrived,silent⟩ := passes late positive _
      ⟨now + (as_nanos (keepalive_interval negotiated_hold) + late.timer),
        now + as_nanos (keepalive_interval negotiated_hold) + as_nanos (keepalive_interval negotiated_hold),
        [now + (as_nanos (keepalive_interval negotiated_hold) + late.timer)],now⟩
      (now + as_nanos (.from_secs negotiated_hold.toUInt64)) (le_refl _) (by dsimp only; omega) (by dsimp only; omega)
      (by dsimp only; omega) (by simp; omega)
    refine ⟨l,.head heard (.head waits (.head ticks steps)),enabled,?_⟩
    rw [arrived,silent]

theorem max_toNat (a b : UInt16) : (max a b).toNat = max a.toNat b.toNat := by
  show (if a ≤ b then b else a).toNat = _
  rw [max_def]
  simp only [UInt16.le_iff_toNat_le]
  split_ifs <;> rfl

/-- A session with an end that writes its keepalives and a peer that reads them in time is
    never given up, in any order of ticks, updates and reads, exactly if the hold time is
    zero or the timers and the messages are later by less than the hold time without one
    keepalive interval. -/
theorem hold_timer_never_fires_iff (negotiated_hold : UInt16) (late : Lateness) (now : Nat) :
    (∀ l, Relation.ReflTransGen (Step negotiated_hold late) (.start negotiated_hold now) l →
        ¬ l.Expired negotiated_hold) ↔
      negotiated_hold = 0 ∨ late.timer + late.message <
        from_secs (negotiated_hold.toNat - max (negotiated_hold.toNat / 3) 1) := by
  by_cases disabled : negotiated_hold = 0
  · refine ⟨fun _ => .inl disabled,fun _ l _ expired => ?_⟩
    exact enabled_iff.mp expired.1 disabled
  · have enabled := enabled_iff.mpr disabled
    have hold : as_nanos (.from_secs negotiated_hold.toUInt64) = from_secs negotiated_hold.toNat := by
      simp [as_nanos,from_secs,NANOS_PER_SEC]
    have interval : as_nanos (keepalive_interval negotiated_hold) = from_secs (max (negotiated_hold.toNat / 3) 1) := by
      rw [keepalive_interval,if_pos enabled]
      simp [as_nanos,from_secs,NANOS_PER_SEC,max_toNat]
    have span : from_secs (negotiated_hold.toNat - max (negotiated_hold.toNat / 3) 1) =
        from_secs negotiated_hold.toNat - from_secs (max (negotiated_hold.toNat / 3) 1) := by
      rw [from_secs,from_secs,from_secs,Nat.sub_mul]
    rw [span]
    refine ⟨fun never => .inr ?_,fun slack l reached => ?_⟩
    · by_contra tight
      have positive : 0 < as_nanos (keepalive_interval negotiated_hold) := by
        rw [interval,from_secs]
        omega
      obtain ⟨l,reached,expired⟩ := gives_up late positive enabled (by rw [hold,interval]; omega) now
      exact never l reached expired
    · have heard := Runs.reachable_invariant (Line.Heard negotiated_hold late) (fun _ _ heard steps => heard.step steps)
        reached (start_heard now)
      refine heard.not_expired ?_
      rw [hold,interval]
      rcases slack with zero | slack
      · exact absurd zero disabled
      · omega

end Lb.Keepalives
