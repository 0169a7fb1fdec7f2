import Lb.Handshake
import Lb.Speaker
import Lb.Time

/-!
# The timers of a session

`drive` adds spans to readings of the clock: once for its first keepalive and on
every turn of its loop for the end of the hold time. A sum that no reading can
hold ends the task. For a session without keepalives the span is half of all
seconds that there are.
-/
namespace Lb.Timers
open Lb.Addr Lb.Packet Lb.Messages Lb.Handshake Lb.Speaker Lb.Time

def DEFAULT_HOLD_TIME_SECS : UInt16 := 90
/-- The hold time that `run` offers to the peer. -/
def our_hold (hold_time_secs : Option UInt16) : UInt16 := hold_time_secs.getD DEFAULT_HOLD_TIME_SECS

/-- Half of the seconds that a span may have, which is to mean never. -/
def never : Duration := .from_secs (0xFFFFFFFFFFFFFFFF / 2)

def keepalives_enabled (negotiated_hold : UInt16) : Bool := negotiated_hold > 0
def keepalive_interval (negotiated_hold : UInt16) : Duration :=
  if keepalives_enabled negotiated_hold then .from_secs (max (negotiated_hold / 3) 1).toUInt64 else never
/-- The clock is read, as `now`, only where there are no keepalives. -/
def hold_deadline (negotiated_hold : UInt16) (since now : Instant) : Option Instant :=
  if keepalives_enabled negotiated_hold then since.checked_add (.from_secs negotiated_hold.toUInt64)
  else now.checked_add never

/-- What `drive` waits for, where the session goes on. -/
inductive Arm
  | command (cmd : SessionCmd)
  | keepalive
  | read (now : Instant)

structure Driving where
  last_inbound : Instant
  delivered : List SessionCmd

def Driving.take (d : Driving) : Arm → Driving
  | .command cmd => { d with delivered := d.delivered ++ [cmd] }
  | .keepalive => d
  | .read now => { d with last_inbound := now }

/-- The loop, with the arm that each turn takes and the reading of the next turn. -/
def Driving.loop (negotiated_hold : UInt16) (d : Driving) (now : Instant) : List (Arm × Instant) → Option Driving
  | [] => (hold_deadline negotiated_hold d.last_inbound now).map fun _ => d
  | (arm,next) :: turns =>
    (hold_deadline negotiated_hold d.last_inbound now).bind fun _ => (d.take arm).loop negotiated_hold next turns

/-- A run of `drive` up to some turn: the readings for the first keepalive and for
    `last_inbound`, the reading of the first turn, and the turns. -/
structure Run where
  start : Instant
  inbound : Instant
  now : Instant
  turns : List (Arm × Instant)

def Run.drive (run : Run) (negotiated_hold : UInt16) : Option Driving :=
  (run.start.checked_add (keepalive_interval negotiated_hold)).bind fun _ =>
    Driving.loop negotiated_hold ⟨run.inbound,[]⟩ run.now run.turns

def Arm.readings : Arm → List Instant
  | .read now => [now]
  | _ => []
def Arm.commands : Arm → List SessionCmd
  | .command cmd => [cmd]
  | _ => []

/-- The readings after which something came in. -/
def Run.heard (run : Run) : List Instant := run.inbound :: run.turns.flatMap fun turn => turn.1.readings
/-- All readings of a run. -/
def Run.readings (run : Run) : List Instant :=
  run.start :: run.now :: (run.turns.map fun turn => turn.2) ++ run.heard
def Run.commands (run : Run) : List SessionCmd := run.turns.flatMap fun turn => turn.1.commands

/-- The task is there after the last turn and has delivered what it was given. -/
def Run.Survives (run : Run) (negotiated_hold : UInt16) : Prop :=
  ∃ d, run.drive negotiated_hold = some d ∧ d.delivered = run.commands

/-- The clock is not within a keepalive interval, or a hold time, of its end. -/
structure Run.Early (run : Run) (negotiated_hold : UInt16) : Prop where
  start : run.start.tv_sec + (max (negotiated_hold / 3) 1).toNat < SECS_LIMIT
  heard : ∀ reading ∈ run.heard, reading.tv_sec + negotiated_hold.toNat < SECS_LIMIT

section
variable {negotiated_hold : UInt16}

theorem enabled_iff : keepalives_enabled negotiated_hold = true ↔ negotiated_hold ≠ 0 := by
  rw [keepalives_enabled,decide_eq_true_iff,gt_iff_lt,UInt16.pos_iff_ne_zero]

/-- Never is too far from any reading of a second or more. -/
theorem never_overflows {reading : Instant} (ticked : 1 ≤ reading.tv_sec) : reading.checked_add never = none := by
  rw [← Option.not_isSome_iff_eq_none,Instant.checked_add_isSome rfl]
  have far : (never.secs.toNat : Int) = 9223372036854775807 := by decide
  rw [far,SECS_LIMIT]
  omega

theorem interval_isSome (enabled : negotiated_hold ≠ 0) (start : Instant) :
    (start.checked_add (keepalive_interval negotiated_hold)).isSome = true ↔
      start.tv_sec + (max (negotiated_hold / 3) 1).toNat < SECS_LIMIT := by
  rw [keepalive_interval,if_pos (enabled_iff.mpr enabled),Instant.checked_add_isSome rfl]
  simp

theorem deadline_isSome (enabled : negotiated_hold ≠ 0) (since now : Instant) :
    (hold_deadline negotiated_hold since now).isSome = true ↔
      since.tv_sec + negotiated_hold.toNat < SECS_LIMIT := by
  rw [hold_deadline,if_pos (enabled_iff.mpr enabled),Instant.checked_add_isSome rfl]
  simp

/-- The loop goes on as long as the hold time fits behind what came in. -/
theorem loop_isSome (enabled : negotiated_hold ≠ 0) (d : Driving) (now : Instant) (turns : List (Arm × Instant)) :
    (d.loop negotiated_hold now turns).isSome = true ↔
      ∀ reading ∈ d.last_inbound :: turns.flatMap fun turn => turn.1.readings,
        reading.tv_sec + negotiated_hold.toNat < SECS_LIMIT := by
  induction turns generalizing d now with
  | nil =>
    rw [Driving.loop,Option.isSome_map,deadline_isSome enabled]
    simp
  | cons turn turns ih =>
    obtain ⟨arm,next⟩ := turn
    rw [Driving.loop]
    by_cases fits : d.last_inbound.tv_sec + negotiated_hold.toNat < SECS_LIMIT
    · obtain ⟨deadline,added⟩ := Option.isSome_iff_exists.mp ((deadline_isSome enabled d.last_inbound now).mpr fits)
      rw [added,Option.bind_some,ih]
      cases arm with
      | command cmd => simp [Driving.take,Arm.readings]
      | keepalive => simp [Driving.take,Arm.readings]
      | read reading => simp [Driving.take,Arm.readings,fits]
    · have overflows : hold_deadline negotiated_hold d.last_inbound now = none := by
        rwa [← Option.not_isSome_iff_eq_none,deadline_isSome enabled]
      rw [overflows]
      simp [fits]

/-- A loop that goes on delivers all commands. -/
theorem loop_delivered {d d' : Driving} {now : Instant} {turns : List (Arm × Instant)}
    (went_on : d.loop negotiated_hold now turns = some d') :
    d'.delivered = d.delivered ++ turns.flatMap fun turn => turn.1.commands := by
  induction turns generalizing d now with
  | nil =>
    rw [Driving.loop,Option.map_eq_some_iff] at went_on
    obtain ⟨_,_,rfl⟩ := went_on
    simp
  | cons turn turns ih =>
    obtain ⟨arm,next⟩ := turn
    rw [Driving.loop,Option.bind_eq_some_iff] at went_on
    obtain ⟨_,_,rest⟩ := went_on
    rw [ih rest]
    cases arm with
    | command cmd => simp [Driving.take,Arm.commands]
    | keepalive => simp [Driving.take,Arm.commands]
    | read reading => simp [Driving.take,Arm.commands]

theorem survives_iff_isSome (run : Run) :
    run.Survives negotiated_hold ↔ (run.drive negotiated_hold).isSome = true := by
  rw [Option.isSome_iff_exists]
  constructor
  · rintro ⟨d,driven,_⟩
    exact ⟨d,driven⟩
  · rintro ⟨d,driven⟩
    refine ⟨d,driven,?_⟩
    rw [Run.drive,Option.bind_eq_some_iff] at driven
    obtain ⟨_,_,went_on⟩ := driven
    exact loop_delivered went_on

/-- With keepalives the task survives if the clock is early enough. -/
theorem survives_enabled (enabled : negotiated_hold ≠ 0) (run : Run) :
    run.Survives negotiated_hold ↔ run.Early negotiated_hold := by
  rw [survives_iff_isSome,Run.drive]
  by_cases starts : run.start.tv_sec + (max (negotiated_hold / 3) 1).toNat < SECS_LIMIT
  · obtain ⟨first,added⟩ := Option.isSome_iff_exists.mp ((interval_isSome enabled run.start).mpr starts)
    rw [added,Option.bind_some,loop_isSome enabled]
    exact ⟨fun heard => ⟨starts,heard⟩,fun early => early.heard⟩
  · have overflows : run.start.checked_add (keepalive_interval negotiated_hold) = none := by
      rwa [← Option.not_isSome_iff_eq_none,interval_isSome enabled]
    rw [overflows]
    constructor
    · intro survived
      simp at survived
    · intro early
      exact absurd early.start starts

/-- Without keepalives the task ends at the first keepalive. -/
theorem not_survives_disabled {run : Run} (ticked : 1 ≤ run.start.tv_sec) : ¬ run.Survives 0 := by
  have interval : keepalive_interval 0 = never := rfl
  rw [survives_iff_isSome,Run.drive,interval,never_overflows ticked]
  simp

/-- `connect` comes to the lesser of the two hold times. -/
theorem connect_negotiates {offered : UInt16} {first : List UInt8} {peer_hold : UInt16}
    (advertised : parse_open_hold_time first = some peer_hold) (connected : connect offered first = .ok negotiated_hold) :
    negotiated_hold = min offered peer_hold := by
  unfold connect at connected
  split_ifs at connected
  rw [advertised] at connected
  cases connected
  rfl

/-- A peer may offer any hold time: the speaker's own OPEN has every one. -/
theorem encode_open_advertises (offered local_asn hold_time : UInt16) (router_id : Ipv4Addr) :
    connect offered (encode_open local_asn hold_time router_id) = .ok (min offered hold_time) := by
  have length : (encode_open local_asn hold_time router_id).length = 29 := rfl
  have type : parse_message_type (encode_open local_asn hold_time router_id) = some .Open := rfl
  have field : be16 (encode_open local_asn hold_time router_id) 22 = hold_time := from_be_bytes_split hold_time
  have hold : parse_open_hold_time (encode_open local_asn hold_time router_id) = some hold_time := by
    rw [parse_open_hold_time,if_neg (by omega),if_neg (absurd type),field]
  rw [connect,if_neg (by omega),if_neg (absurd type),hold]

theorem our_hold_zero {hold_time_secs : Option UInt16} : our_hold hold_time_secs = 0 ↔ hold_time_secs = some 0 := by
  cases hold_time_secs with
  | none => simp [our_hold,DEFAULT_HOLD_TIME_SECS]
  | some hold => simp [our_hold]

/-- There are no keepalives if one of the two sides asks for none. -/
theorem min_zero {ours theirs : UInt16} : min ours theirs = 0 ↔ ours = 0 ∨ theirs = 0 := by
  have least : min ours theirs = if ours ≤ theirs then ours else theirs := rfl
  rw [least]
  by_cases ordered : ours ≤ theirs
  · rw [if_pos ordered]
    constructor
    · exact .inl
    · rintro (zero | zero)
      · exact zero
      · rwa [zero,UInt16.le_zero_iff] at ordered
  · rw [if_neg ordered]
    constructor
    · exact .inr
    · rintro (zero | zero)
      · rw [zero] at ordered
        exact absurd UInt16.zero_le ordered
      · exact zero

end

/-- A session survives its timers if and only if neither side asks for no
    keepalives and the clock is early enough. -/
theorem session_survives_iff (hold_time_secs : Option UInt16) {first : List UInt8} {peer_hold negotiated_hold : UInt16}
    (advertised : parse_open_hold_time first = some peer_hold)
    (connected : connect (our_hold hold_time_secs) first = .ok negotiated_hold) (run : Run)
    (ticked : ∀ reading ∈ run.readings, 1 ≤ reading.tv_sec) :
    run.Survives negotiated_hold ↔ hold_time_secs ≠ some 0 ∧ peer_hold ≠ 0 ∧
      run.Early (min (our_hold hold_time_secs) peer_hold) := by
  have negotiated := connect_negotiates advertised connected
  subst negotiated
  by_cases enabled : min (our_hold hold_time_secs) peer_hold = 0
  · rw [enabled]
    refine iff_of_false (not_survives_disabled (ticked run.start (by simp [Run.readings]))) ?_
    rintro ⟨ours,theirs,_⟩
    rcases min_zero.mp enabled with disabled | disabled
    · exact ours (our_hold_zero.mp disabled)
    · exact theirs disabled
  · rw [survives_enabled enabled]
    constructor
    · intro early
      refine ⟨fun disabled => enabled ?_,fun disabled => enabled ?_,early⟩
      · exact min_zero.mpr (.inl (our_hold_zero.mpr disabled))
      · exact min_zero.mpr (.inr disabled)
    · rintro ⟨_,_,early⟩
      exact early

/-- A reading of this many whole seconds. -/
private def at_secs (tv_sec : Fin 1000000) : Instant :=
  ⟨tv_sec,0,by rw [SECS_LIMIT]; omega,nanos_pos⟩

/-- A day after the start of the machine, two announcements and something from the
    peer in between. -/
private def day : Run :=
  ⟨at_secs 86400,at_secs 86400,at_secs 86400,[(.command (.Announce [⟨203,0,113,1⟩]),at_secs 86401),
    (.read (at_secs 86410),at_secs 86410),(.command (.Announce [⟨203,0,113,2⟩]),at_secs 86412)]⟩

/-- A peer that offers 30 seconds. -/
theorem session_survives_iff_thirty :
    day.Survives 30 ↔ (none : Option UInt16) ≠ some 0 ∧ (30 : UInt16) ≠ 0 ∧ day.Early (min (our_hold none) 30) :=
  @session_survives_iff none (encode_open 65001 30 ⟨10,0,0,2⟩) 30 30 (by decide +kernel) (by decide +kernel) day
    (by decide +kernel)

/-- A peer that offers no hold time ends the task. -/
theorem disabled_ends_task :
    ¬ ∀ (hold_time_secs : Option UInt16) (first : List UInt8) (peer_hold negotiated_hold : UInt16),
      parse_open_hold_time first = some peer_hold → connect (our_hold hold_time_secs) first = .ok negotiated_hold →
      ∀ run : Run, (∀ reading ∈ run.readings, 1 ≤ reading.tv_sec) → run.Survives negotiated_hold := by
  intro survives
  have survived := survives none (encode_open 65001 0 ⟨10,0,0,2⟩) 0 0 (by decide +kernel) (by decide +kernel) day
    (by decide +kernel)
  exact not_survives_disabled (by decide) survived

end Lb.Timers
