import Lb.Types
import Lb.Maps
import Lb.Runs
import Mathlib.Logic.Function.Basic

/-!
# Health checks

Every address and port of the backends has a task that probes it and counts the
results. A task publishes the changes of its status under the address alone,
where the task of another port publishes its own.
-/
namespace Lb.Checker
open Lb.Addr Lb.Types

/-! ### The state of one backend -/

/-- The status, and how many probes in a row have succeeded or failed. The counts
    wrap around. -/
structure HealthState where
  status : HealthStatus
  consecutive_successes : UInt32
  consecutive_failures : UInt32
deriving DecidableEq

def HealthState.new : HealthState := ⟨.Unknown,0,0⟩

def HealthState.record_result (s : HealthState) (success : Bool) (healthy_threshold unhealthy_threshold : UInt32) :
    HealthState × Option HealthStatus :=
  let s : HealthState :=
    if success then ⟨s.status,s.consecutive_successes + 1,0⟩ else ⟨s.status,0,s.consecutive_failures + 1⟩
  match s.status with
  | .Unknown =>
    if s.consecutive_successes ≥ healthy_threshold then ({ s with status := .Healthy },some .Healthy)
    else if s.consecutive_failures ≥ unhealthy_threshold then ({ s with status := .Unhealthy },some .Unhealthy)
    else (s,none)
  | .Healthy =>
    if s.consecutive_failures ≥ unhealthy_threshold then ({ s with status := .Unhealthy },some .Unhealthy)
    else (s,none)
  | .Unhealthy =>
    if s.consecutive_successes ≥ healthy_threshold then ({ s with status := .Healthy },some .Healthy)
    else (s,none)

/-! ### The tasks -/

structure HealthChecker where
  healthy_threshold : UInt32
  unhealthy_threshold : UInt32

/-- What a task probes. -/
structure ProbeKey where
  ip : IpAddr
  port : UInt16
deriving DecidableEq

def key (b : Backend) : ProbeKey := ⟨b.ip,b.port⟩

/-- A task, with the change of status that it has found and not yet published. -/
structure Task where
  backend : Backend
  state : HealthState
  new_status : Option HealthStatus
deriving DecidableEq

/-- The tasks that `start` has spawned, and the map that they publish into. -/
structure Running where
  tasks : ProbeKey → Option Task
  map : HashMap IpAddr HealthStatus

/-- What the task of a key does next: it gets the result of a probe, or it
    publishes the change that it has found. -/
inductive Event
  | check (key : ProbeKey) (success : Bool)
  | send_modify (key : ProbeKey)

def Event.key : Event → ProbeKey
  | .check key _ => key
  | .send_modify key => key

/-- Of several backends with one address and port, the first is probed. -/
def unique_backends (backends : List Backend) : HashMap ProbeKey Backend :=
  backends.foldl (fun m b => if key b ∈ m then m else m.insert (key b) b) ∅

namespace HealthChecker
variable (c : HealthChecker)

def start (backends : List Backend) : Running where
  tasks := fun key => ((unique_backends backends).lookup key).map fun backend => ⟨backend,.new,none⟩
  map := ∅

/-- The body of the loop of a task, up to its next wait: the task as it goes on,
    and the status that it publishes. -/
def task_step (task : Task) : Event → Task × Option HealthStatus
  | .check _ success =>
    let (state,new_status) := task.state.record_result success c.healthy_threshold c.unhealthy_threshold
    (⟨task.backend,state,new_status⟩,none)
  | .send_modify _ => ({ task with new_status := none },task.new_status)

def step (s : Running) (e : Event) : Running :=
  match s.tasks e.key with
  | none => s
  | some task =>
    let (task',sent) := c.task_step task e
    { tasks := Function.update s.tasks e.key (some task')
      map := match sent with
        | some new_status => s.map.insert task.backend.ip new_status
        | none => s.map }

/-- The changes of status that the results make, in order. -/
def transitions (state : HealthState) (results : List Bool) : List HealthStatus :=
  Runs.effects (fun (state : HealthState) success =>
    let (state',new_status) := state.record_result success c.healthy_threshold c.unhealthy_threshold
    (state',new_status.toList)) state results

end HealthChecker

/-- The task is where the event happens: it publishes what it has found before it
    probes again. -/
def Task.Ready (task : Task) : Event → Prop
  | .check .. => task.new_status = none
  | .send_modify _ => task.new_status ≠ none

instance (task : Task) (e : Event) : Decidable (task.Ready e) := by
  cases e <;> unfold Task.Ready <;> infer_instance

/-- The event can happen next. -/
def Enabled (s : Running) (e : Event) : Prop := ∃ task ∈ s.tasks e.key, task.Ready e

instance (s : Running) (e : Event) : Decidable (Enabled s e) := inferInstanceAs (Decidable (∃ _ ∈ _, _))

/-- What the task of a key does in a schedule. -/
def events_of (key : ProbeKey) (schedule : List Event) : List Event := schedule.filter (fun e => e.key = key)

/-- The results of the probes. -/
def results (schedule : List Event) : List Bool :=
  schedule.filterMap fun
    | .check _ success => some success
    | .send_modify _ => none

namespace HealthChecker
variable (c : HealthChecker)

def after (backends : List Backend) (schedule : List Event) : Running := schedule.foldl c.step (start backends)

/-- The events of the schedule happen one after the other. -/
def Schedule (backends : List Backend) (schedule : List Event) : Prop :=
  Runs.Along c.step Enabled (start backends) schedule

/-- The status that is published for a backend is the last change of status that
    its own results have made, except while its task has a change to publish. -/
def ReportsOwn (backends : List Backend) (schedule : List Event) : Prop :=
  ∀ b ∈ backends, ∀ task ∈ (c.after backends schedule).tasks (key b), task.new_status = none →
    (c.after backends schedule).map.lookup b.ip =
      (c.transitions .new (results (events_of (key b) schedule))).getLast?

/-! ### A task alone -/

variable {c}

theorem transitions_cons (state : HealthState) (success : Bool) (rest : List Bool) :
    c.transitions state (success :: rest) =
      (state.record_result success c.healthy_threshold c.unhealthy_threshold).2.toList ++
        c.transitions (state.record_result success c.healthy_threshold c.unhealthy_threshold).1 rest := rfl

/-- What a task and the map entry of its address become if nobody else writes it. -/
def solo (c : HealthChecker) (part : Option Task × Option HealthStatus) (e : Event) :
    Option Task × Option HealthStatus :=
  match part.1 with
  | none => part
  | some task => (some (c.task_step task e).1,(c.task_step task e).2.or part.2)

/-- The change that waits to be published, or else the entry, is the last change. -/
theorem solo_entry {task : Task} {entry : Option HealthStatus} {schedule : List Event}
    (ready : Runs.Along c.solo (fun part e => ∃ task ∈ part.1, task.Ready e) (some task,entry) schedule) :
    ∃ task', (schedule.foldl c.solo (some task,entry)).1 = some task' ∧
      task'.new_status.or (schedule.foldl c.solo (some task,entry)).2 =
        (c.transitions task.state (results schedule)).getLast?.or (task.new_status.or entry) := by
  induction schedule generalizing task entry with
  | nil => exact ⟨task,rfl,by simp [results,transitions,Runs.effects]⟩
  | cons e schedule ih =>
    obtain ⟨⟨_,⟨⟩,at_event⟩,rest⟩ := ready
    cases e with
    | check key success =>
      replace at_event : task.new_status = none := at_event
      obtain ⟨task',goes_on,last⟩ := ih rest
      refine ⟨task',goes_on,last.trans ?_⟩
      show _ = (c.transitions task.state (success :: results schedule)).getLast?.or _
      rw [transitions_cons,List.getLast?_append,at_event]
      simp only [task_step]
      cases (task.state.record_result success c.healthy_threshold c.unhealthy_threshold).2 <;>
        cases (c.transitions _ _).getLast? <;> rfl
    | send_modify key =>
      obtain ⟨task',goes_on,last⟩ := ih rest
      exact ⟨task',goes_on,last⟩

/-! ### All tasks -/

variable {backends : List Backend} {s : Running}

theorem lookup_unique (key' : ProbeKey) :
    (unique_backends backends).lookup key' = backends.find? (fun b => key b = key') := by
  simp [unique_backends,Maps.lookup_foldl_or_insert key]

/-- The tasks are those of the backends, and only they have published. -/
structure Placed (backends : List Backend) (s : Running) : Prop where
  tasks : ∀ key', (s.tasks key').map Task.backend = backends.find? (fun b => key b = key')
  map : ∀ ip ∈ s.map, ∃ b ∈ backends, b.ip = ip

theorem start_placed : Placed backends (start backends) := by
  refine ⟨fun key' => ?_,fun ip known => absurd known Finmap.notMem_empty⟩
  simp only [start,Option.map_map,← lookup_unique]
  exact Option.map_id'

theorem Placed.backend (placed : Placed backends s) {key' : ProbeKey} {task : Task} (runs : s.tasks key' = some task) :
    task.backend ∈ backends ∧ key task.backend = key' := by
  have found := placed.tasks key'
  rw [runs,Option.map_some] at found
  exact ⟨List.mem_of_find?_eq_some found.symm,by simpa using List.find?_some found.symm⟩

theorem Placed.step (placed : Placed backends s) (e : Event) : Placed backends (c.step s e) := by
  unfold HealthChecker.step
  cases runs : s.tasks e.key with
  | none => exact placed
  | some task =>
    have own := placed.backend runs
    constructor
    · intro key'
      have kept : (c.task_step task e).1.backend = task.backend := by cases e <;> rfl
      rw [← placed.tasks key']
      by_cases here : key' = e.key
      · subst here
        simp [runs,kept]
      · simp [Function.update_of_ne here]
    · intro ip known
      dsimp only at known
      split at known
      · rcases Finmap.mem_insert.mp known with rfl | before
        · exact ⟨_,own.1,rfl⟩
        · exact placed.map ip before
      · exact placed.map ip known

/-- The task of a key, and the entry of its address. -/
def part (key' : ProbeKey) (s : Running) : Option Task × Option HealthStatus := (s.tasks key',s.map.lookup key'.ip)

theorem step_part_own {key' : ProbeKey} (placed : Placed backends s) {e : Event} (own : e.key = key') :
    part key' (c.step s e) = c.solo (part key' s) e := by
  subst own
  unfold part HealthChecker.step solo
  cases runs : s.tasks e.key with
  | none => simp [runs]
  | some task =>
    have same : task.backend.ip = e.key.ip := by rw [← (placed.backend runs).2]; rfl
    cases sent : (c.task_step task e).2 <;> simp [sent,same]

/-- Backends of one address have one port. -/
def OnePort (backends : List Backend) : Prop := ∀ b ∈ backends, ∀ b' ∈ backends, b.ip = b'.ip → b.port = b'.port

theorem step_part_other (one_port : OnePort backends) {b : Backend} (listed : b ∈ backends)
    (placed : Placed backends s) {e : Event} (other : e.key ≠ key b) : part (key b) (c.step s e) = part (key b) s := by
  unfold part HealthChecker.step
  cases runs : s.tasks e.key with
  | none => rfl
  | some task =>
    obtain ⟨listed',own⟩ := placed.backend runs
    have apart : (key b).ip ≠ task.backend.ip := fun same =>
      other (own.symm.trans (congrArg₂ ProbeKey.mk same.symm (one_port _ listed' _ listed same.symm)))
    cases sent : (c.task_step task e).2 <;>
      simp [sent,Function.update_of_ne (Ne.symm other),Finmap.lookup_insert_of_ne _ apart]

/-- The task and the entry of a backend after a schedule are where its own events
    take them. -/
theorem part_after (one_port : OnePort backends) {b : Backend} (listed : b ∈ backends) (schedule : List Event) :
    part (key b) (c.after backends schedule) =
      (events_of (key b) schedule).foldl c.solo (part (key b) (start backends)) :=
  Runs.foldl_component (fun _ e placed => Placed.step placed e) (fun _ _ placed own => step_part_own placed own)
    (fun _ _ placed other => step_part_other one_port listed placed other) start_placed schedule

theorem start_task {b : Backend} (listed : b ∈ backends) :
    ∃ b', (start backends).tasks (key b) = some ⟨b',.new,none⟩ ∧ b'.ip = b.ip := by
  cases first : backends.find? (fun b' => key b' = key b) with
  | none => simpa using List.find?_eq_none.mp first b listed
  | some b' =>
    have same : key b' = key b := by simpa using List.find?_some first
    exact ⟨b',by simp [start,lookup_unique,first],congrArg ProbeKey.ip same⟩

theorem reports_own (one_port : OnePort backends) {schedule : List Event} (happens : c.Schedule backends schedule) :
    c.ReportsOwn backends schedule := by
  intro b listed task runs at_rest
  obtain ⟨b',spawned,_⟩ := start_task listed
  have whole := part_after (c := c) one_port listed schedule
  have alone := Runs.Along.component (fun part e => ∃ task ∈ part.1, task.Ready e)
    (fun _ e placed => Placed.step placed e) (fun _ _ placed own => step_part_own placed own)
    (fun _ _ placed other => step_part_other one_port listed placed other)
    (fun s e _ own enabled => show ∃ task ∈ s.tasks (key b), task.Ready e from own ▸ enabled) start_placed happens
  have begins : part (key b) (start backends) = (some ⟨b',.new,none⟩,none) := Prod.ext spawned rfl
  rw [begins] at alone whole
  obtain ⟨task',goes_on,last⟩ := solo_entry alone
  have same : task' = task := Option.some.inj (goes_on.symm.trans ((congrArg Prod.fst whole).symm.trans runs))
  rw [same,at_rest,Option.none_or,Option.or_none,Option.or_none] at last
  exact (congrArg Prod.snd whole).trans last

theorem after_placed (schedule : List Event) : Placed backends (c.after backends schedule) :=
  Runs.invariant (Placed backends) (fun _ e placed => placed.step e) start_placed schedule

/-- The order in which the tasks go on does not show in the map. -/
theorem map_of_own (one_port : OnePort backends) {schedule schedule' : List Event}
    (same : ∀ key', events_of key' schedule = events_of key' schedule') :
    (c.after backends schedule).map = (c.after backends schedule').map := by
  refine Finmap.ext_lookup fun ip => ?_
  by_cases probed : ∃ b ∈ backends, b.ip = ip
  · obtain ⟨b,listed,rfl⟩ := probed
    have entry := part_after (c := c) one_port listed schedule
    rw [same,← part_after one_port listed schedule'] at entry
    exact congrArg Prod.snd entry
  · have never : ∀ schedule, (c.after backends schedule).map.lookup ip = none := fun schedule =>
      Finmap.lookup_eq_none.mpr fun known => probed ((after_placed schedule).map ip known)
    rw [never,never]

/-! ### Two ports of one address -/

theorem record_success (n healthy_threshold unhealthy_threshold : UInt32) :
    (∃ state new_status, HealthState.record_result ⟨.Unknown,n,0⟩ true healthy_threshold unhealthy_threshold =
      (state,some new_status)) ∨
    (HealthState.record_result ⟨.Unknown,n,0⟩ true healthy_threshold unhealthy_threshold = (⟨.Unknown,n + 1,0⟩,none) ∧
      n + 1 < healthy_threshold) := by
  unfold HealthState.record_result
  by_cases enough : n + 1 ≥ healthy_threshold
  · exact .inl ⟨⟨.Healthy,n + 1,0⟩,.Healthy,by simp [enough]⟩
  · by_cases none_needed : (0 : UInt32) ≥ unhealthy_threshold
    · exact .inl ⟨⟨.Unhealthy,n + 1,0⟩,.Unhealthy,by simp [enough,none_needed]⟩
    · exact .inr ⟨by simp [enough,none_needed],UInt32.not_le.mp enough⟩

/-- From `s` on, the task of the key can publish for the address while the other
    tasks wait. -/
def PublishesFirst (c : HealthChecker) (key' : ProbeKey) (ip : IpAddr) (s : Running) : Prop :=
  ∃ schedule, Runs.Along c.step Enabled s schedule ∧ (∀ e ∈ schedule, e.key = key') ∧
    (∀ other ≠ key', (schedule.foldl c.step s).tasks other = s.tasks other) ∧ ip ∈ (schedule.foldl c.step s).map

theorem publishes_change {key' : ProbeKey} {b : Backend} {state state' : HealthState} {new_status : HealthStatus}
    (runs : s.tasks key' = some ⟨b,state,none⟩)
    (changes : state.record_result true c.healthy_threshold c.unhealthy_threshold = (state',some new_status)) :
    c.PublishesFirst key' b.ip s := by
  have checked : c.step s (.check key' true) =
      { s with tasks := Function.update s.tasks key' (some ⟨b,state',some new_status⟩) } := by
    simp [HealthChecker.step,Event.key,runs,task_step,changes]
  refine ⟨[.check key' true,.send_modify key'],⟨⟨_,runs,rfl⟩,?_,trivial⟩,by simp [Event.key],fun other apart => ?_,?_⟩
  · rw [checked]
    exact ⟨⟨b,state',some new_status⟩,by simp [Event.key],by simp [Task.Ready]⟩
  · rw [List.foldl_cons,checked]
    simp [HealthChecker.step,Event.key,task_step,Function.update_of_ne apart]
  · rw [List.foldl_cons,checked]
    simp [HealthChecker.step,Event.key,task_step]

/-- Successes in a row lead a task to publish. -/
theorem publishes_first {key' : ProbeKey} {b : Backend} {n : UInt32} (runs : s.tasks key' = some ⟨b,⟨.Unknown,n,0⟩,none⟩)
    (below : n = 0 ∨ n < c.healthy_threshold) : c.PublishesFirst key' b.ip s := by
  induction gap : c.healthy_threshold.toNat - n.toNat using Nat.strong_induction_on generalizing s n with
  | _ left ih =>
    rcases record_success n c.healthy_threshold c.unhealthy_threshold with
      ⟨state,new_status,changes⟩ | ⟨goes_on,short⟩
    · exact publishes_change runs changes
    · have checked : c.step s (.check key' true) =
          { s with tasks := Function.update s.tasks key' (some ⟨b,⟨.Unknown,n + 1,0⟩,none⟩) } := by
        simp [HealthChecker.step,Event.key,runs,task_step,goes_on]
      have counted : (n + 1).toNat = n.toNat + 1 := by
        have limit := c.healthy_threshold.toNat_lt
        rcases below with rfl | below
        · rfl
        · rw [UInt32.lt_iff_toNat_lt] at below
          rw [UInt32.toNat_add]
          exact Nat.mod_eq_of_lt (by simp; omega)
      have less : c.healthy_threshold.toNat - (n + 1).toNat < left := by
        rw [UInt32.lt_iff_toNat_lt] at short
        omega
      obtain ⟨schedule,happens,own,others,published⟩ := ih _ less (s := c.step s (.check key' true)) (n := n + 1)
        (by rw [checked]; simp) (.inr short) rfl
      refine ⟨.check key' true :: schedule,⟨⟨_,runs,rfl⟩,happens⟩,?_,fun other apart => ?_,published⟩
      · exact List.forall_mem_cons.mpr ⟨rfl,own⟩
      · rw [List.foldl_cons,others other apart,checked]
        simp [Function.update_of_ne apart]

end HealthChecker

/-- What is published for a backend is what its own results say, and does not
    depend on how the tasks interleave, if and only if no address is probed on two
    ports. -/
theorem health_is_own (c : HealthChecker) (backends : List Backend) :
    ((∀ schedule, c.Schedule backends schedule → c.ReportsOwn backends schedule) ∧
      ∀ schedule schedule', c.Schedule backends schedule → c.Schedule backends schedule' →
        (∀ key', events_of key' schedule = events_of key' schedule') →
        (c.after backends schedule).map = (c.after backends schedule').map) ↔
    ∀ b ∈ backends, ∀ b' ∈ backends, b.ip = b'.ip → b.port = b'.port := by
  constructor
  · rintro ⟨reports_own,_⟩ b listed b' listed' same
    by_contra ports
    obtain ⟨first,spawned,ip⟩ := HealthChecker.start_task listed
    obtain ⟨first',spawned',_⟩ := HealthChecker.start_task listed'
    obtain ⟨schedule,happens,own,others,published⟩ := HealthChecker.publishes_first (c := c) spawned (.inl rfl)
    have apart : key b' ≠ key b := fun keys => ports (congrArg ProbeKey.port keys).symm
    have silent : events_of (key b') schedule = [] := by
      refine List.filter_eq_nil_iff.mpr fun e listed => ?_
      simpa [own e listed] using Ne.symm apart
    have entry := reports_own schedule happens b' listed' _ ((others _ apart).trans spawned') rfl
    rw [silent] at entry
    rw [ip,same] at published
    exact Finmap.lookup_eq_none.mp entry published
  · intro one_port
    exact ⟨fun _ happens => HealthChecker.reports_own one_port happens,
      fun _ _ _ _ same => HealthChecker.map_of_own one_port same⟩

/-- A backend with two ports, of which one is down. -/
private def two_ports : List Backend := [.new (.V4 ⟨10,0,0,1⟩) 443,.new (.V4 ⟨10,0,0,1⟩) 8443]

/-- Port 443 fails often enough to be unhealthy, and the successes of port 8443
    report it healthy. -/
theorem other_port_reported : ¬ ∀ (c : HealthChecker) (backends : List Backend) (schedule : List Event),
    c.Schedule backends schedule → c.ReportsOwn backends schedule := by
  intro reports_own
  let dead : ProbeKey := ⟨.V4 ⟨10,0,0,1⟩,443⟩
  let alive : ProbeKey := ⟨.V4 ⟨10,0,0,1⟩,8443⟩
  have entry := reports_own ⟨2,3⟩ two_ports
    [.check dead false,.check dead false,.check dead false,.send_modify dead,.check alive true,.check alive true,
      .send_modify alive] (by unfold HealthChecker.Schedule; decide) (.new (.V4 ⟨10,0,0,1⟩) 443) (by decide)
    ⟨.new (.V4 ⟨10,0,0,1⟩) 443,⟨.Unhealthy,0,3⟩,none⟩ (by decide) rfl
  exact absurd entry (by decide)

end Lb.Checker
