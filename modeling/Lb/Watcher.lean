import Lb.Reload

/-!
# The configuration watcher

A thread waits for notices that the configuration file has changed, and reads the
file again for each of them. A task applies what was read, in order. The file may
change at any time, also while it is read.
-/
namespace Lb.Watcher
open Lb.Types Lb.Validator Lb.Maglev Lb.Vips Lb.Rewriter Lb.Orchestrator Lb.System

/-! ### Reading the file -/

inductive LoadError (E : Type)
  | Io
  | Json (error : E)

inductive WatchError (E : Type)
  | WatcherInit
  | Load (error : LoadError E)
  | Validation (errors : Multiset String)

section
variable {Contents E : Type} (from_str : Contents → Except E LbConfig)

/-- `none` is a file that cannot be read; `from_str` is that of the `serde_json`
    package. -/
def load_from_file : Option Contents → Except (LoadError E) LbConfig
  | none => .error .Io
  | some contents => (from_str contents).mapError .Json

def try_reload (file : Option Contents) : Except (WatchError E) LbConfig :=
  match load_from_file from_str file with
  | .error e => .error (.Load e)
  | .ok config =>
    match validate_config config with
    | .error e => .error (.Validation e.errors)
    | .ok () => .ok config

/-- The initial load; `watch` tells whether the directory can be watched. -/
def new (file : Option Contents) (watch : Bool) : Except (WatchError E) LbConfig :=
  match try_reload from_str file with
  | .error e => .error e
  | .ok config => if watch then .ok config else .error .WatcherInit

theorem try_reload_accepted {file : Option Contents} {config : LbConfig}
    (loaded : try_reload from_str file = .ok config) : Accepted config := by
  unfold try_reload at loaded
  cases parsed : load_from_file from_str file with
  | error e =>
    rw [parsed] at loaded
    cases loaded
  | ok config' =>
    rw [parsed] at loaded
    dsimp only at loaded
    cases valid : validate_config config' with
    | error e =>
      rw [valid] at loaded
      cases loaded
    | ok =>
      rw [valid] at loaded
      cases loaded
      rw [Accepted,valid]
      rfl

theorem new_eq_ok {file : Option Contents} {watch : Bool} {config : LbConfig}
    (created : new from_str file watch = .ok config) : try_reload from_str file = .ok config := by
  unfold new at created
  cases loaded : try_reload from_str file with
  | error e =>
    rw [loaded] at created
    cases created
  | ok config' =>
    rw [loaded] at created
    dsimp only at created
    split_ifs at created
    cases created
    rfl

end

/-! ### Notices -/

/-- The kinds of events of the `notify` package. -/
inductive EventKind
  | Any
  | Access
  | Create
  | Modify
  | Remove
  | Other
deriving DecidableEq

inductive Component
  | RootDir
  | CurDir
  | ParentDir
  | Normal (name : String)
deriving DecidableEq

abbrev Path := List Component

def file_name (path : Path) : Option String :=
  match path.getLast? with
  | some (.Normal name) => some name
  | _ => none

structure Event where
  kind : EventKind
  paths : List Path

def is_relevant_event (event : Event) (config_path : Path) : Bool :=
  let is_relevant_kind := event.kind = .Modify || event.kind = .Create || event.kind = .Remove
  if !is_relevant_kind then false
  else
    let config_name := file_name config_path
    event.paths.any fun p => p = config_path || (config_name.isSome && file_name p = config_name)

/-- What the file watcher sends: an event, or `none` for an error. -/
abbrev Notice := Option Event

/-- The notice makes the thread read the file. -/
def relevant (config_path : Path) : Notice → Bool
  | some event => is_relevant_event event config_path
  | none => false

/-! ### The threads -/

/-- Where the watcher thread is: about to look at the shutdown flag, waiting for a
    notice, or reading the file. What is read is torn if the file has changed since. -/
inductive Thread
  | looping
  | receiving
  | reloading (torn : Bool)
  | stopped
deriving DecidableEq

structure State (Contents : Type) where
  file : Option Contents
  watched : Bool
  notices : List Notice
  thread : Thread
  shutdown : Bool
  configs : List LbConfig
  applying : Option LbConfig
  node : Node

/-- What happens: the file changes, with the notices that this leads to, or the
    directory gives notice of something else; the watching begins; the watcher thread
    takes one of its steps; the apply-task takes one of its two; anything else happens
    on the node; the shutdown is signalled. -/
inductive Move (Contents : Type)
  | change (file : Option Contents) (notices : List Notice)
  | notify (notices : List Notice)
  | watch
  | check
  | recv
  | reload (seen : Option Contents)
  | store_matcher
  | apply_config
  | node (event : { event : System.Event // Quiet event })
  | signal

section
variable {Contents E : Type} (x : Xxh3) (from_str : Contents → Except E LbConfig) (config_path : Path)

/-- A move that cannot be made changes nothing. -/
def State.step (s : State Contents) : Move Contents → State Contents
  | .change file notices =>
    { s with
      file := file
      notices := if s.watched then s.notices ++ notices else s.notices
      thread := if s.thread = .reloading false then .reloading true else s.thread }
  | .notify notices => { s with notices := if s.watched then s.notices ++ notices else s.notices }
  | .watch => { s with watched := true }
  | .check =>
    if s.thread = .looping then { s with thread := if s.shutdown then .stopped else .receiving } else s
  | .recv =>
    if s.thread = .receiving then
      match s.notices with
      | [] => { s with thread := .looping }
      | notice :: notices =>
        { s with
          notices := notices
          thread := if relevant config_path notice then .reloading false else .looping }
    else s
  | .reload seen =>
    match s.thread with
    | .reloading torn =>
      match try_reload from_str (if torn then seen else s.file) with
      | .ok config => { s with configs := s.configs ++ [config], thread := .looping }
      | .error _ => { s with thread := .looping }
    | _ => s
  | .store_matcher =>
    match s.applying,s.configs with
    | none,config :: configs =>
      { s with configs := configs, applying := some config, node := s.node.step x (.store_matcher config) }
    | _,_ => s
  | .apply_config =>
    match s.applying with
    | some config => { s with applying := none, node := s.node.step x (.control (.apply_config config)) }
    | none => s
  | .node event => { s with node := s.node.step x event.1 }
  | .signal => { s with shutdown := true }

/-- After the initial load: the directory is not watched yet. -/
def State.start (file : Option Contents) (config : LbConfig) (m : TableSize) (rewriter : RewriterThread) :
    State Contents where
  file := file
  watched := false
  notices := []
  thread := .looping
  shutdown := false
  configs := []
  applying := none
  node := .start x (some config) m rewriter

/-- A move that changes the file leads to a notice of it. -/
def Announced (s : State Contents) : Move Contents → Prop
  | .change _ notices => s.watched = true ∧ notices.any (relevant config_path) = true
  | _ => True

/-- A move that leads to no notice of the file. -/
def Unnoticed : Move Contents → Prop
  | .change _ notices | .notify notices => notices.any (relevant config_path) = false
  | _ => True

/-- Nothing that concerns the file is under way. -/
structure Settled (s : State Contents) : Prop where
  heard : s.notices.any (relevant config_path) = false
  waiting : ∀ torn, s.thread ≠ .reloading torn
  taken : s.configs = []
  applied : s.applying = none

end

/-- The node has the matcher and the configuration. -/
structure Follows (config : LbConfig) (n : Node) : Prop where
  matcher : n.vip_matcher = build_vip_matcher config
  configured : n.controller.config = some config

theorem perform_config {x : Xxh3} {c : Controller} {op : Op} (quiet : Quiet (.control op)) :
    (c.perform x op).1.config = c.config := by
  cases op with
  | apply_config config => cases quiet
  | on_health_change backend_ip status now now' =>
    obtain ⟨vips,state⟩ := c.on_health_change_state (x := x) backend_ip status now now'
    rw [Controller.perform,state]
    show (Controller.maybe_flush x _ now').config = _
    rw [(Controller.maybe_flush_announced (x := x) now').2.2.1,(c.accumulate_announced backend_ip status now).2.2.1]
  | tick now => exact (c.maybe_flush_announced (x := x) now).2.2.1
  | flush_pending =>
    show (c.flush x).config = _
    rw [Controller.flush_eq]
  | reannounce_all => rfl
  | withdraw_all => exact rfl

/-- Nothing but a reload changes what the node follows. -/
theorem quiet_step {x : Xxh3} {n : Node} {event : System.Event} (quiet : Quiet event) :
    (n.step x event).vip_matcher = n.vip_matcher ∧ (n.step x event).controller.config = n.controller.config := by
  cases event with
  | store_matcher config => cases quiet
  | load_matcher => exact ⟨rfl,rfl⟩
  | load_tables => exact ⟨rfl,rfl⟩
  | process input now => exact ⟨rfl,rfl⟩
  | control op => exact ⟨rfl,perform_config quiet⟩

theorem Follows.step {x : Xxh3} {config : LbConfig} {n : Node} (follows : Follows config n) {event : System.Event}
    (quiet : Quiet event) : Follows config (n.step x event) := by
  obtain ⟨matcher,configured⟩ := quiet_step (x := x) (n := n) quiet
  exact ⟨matcher.trans follows.matcher,configured.trans follows.configured⟩

section
variable {Contents E : Type} {x : Xxh3} {from_str : Contents → Except E LbConfig} {config_path : Path}
  {s : State Contents} {config : LbConfig}

/-! ### What reaches the node -/

/-- What is on its way to the node has been accepted, as has what the node has; the
    matcher of a configuration is stored before the rest. -/
structure Sound (s : State Contents) : Prop where
  queued : ∀ config ∈ s.configs, Accepted config
  stored : ∀ config, s.applying = some config → Accepted config ∧ s.node.vip_matcher = build_vip_matcher config
  current : ∃ config, Accepted config ∧ s.node.controller.config = some config

theorem Sound.step (sound : Sound s) (move : Move Contents) : Sound (s.step x from_str config_path move) := by
  obtain ⟨queued,stored,current⟩ := sound
  cases move with
  | change file notices => exact ⟨queued,stored,current⟩
  | notify notices => exact ⟨queued,stored,current⟩
  | watch => exact ⟨queued,stored,current⟩
  | signal => exact ⟨queued,stored,current⟩
  | check =>
    rw [State.step]
    split_ifs <;> exact ⟨queued,stored,current⟩
  | recv =>
    rw [State.step]
    split_ifs
    · cases s.notices <;> exact ⟨queued,stored,current⟩
    · exact ⟨queued,stored,current⟩
  | reload seen =>
    rw [State.step]
    cases s.thread with
    | reloading torn =>
      dsimp only
      cases loaded : try_reload from_str (if torn then seen else s.file) with
      | ok config =>
        refine ⟨fun config' listed => ?_,stored,current⟩
        rcases List.mem_append.mp listed with before | new
        · exact queued config' before
        · rw [List.mem_singleton.mp new]
          exact try_reload_accepted from_str loaded
      | error e => exact ⟨queued,stored,current⟩
    | looping => exact ⟨queued,stored,current⟩
    | receiving => exact ⟨queued,stored,current⟩
    | stopped => exact ⟨queued,stored,current⟩
  | store_matcher =>
    rw [State.step]
    cases applying : s.applying with
    | some config =>
      rw [applying] at stored
      exact ⟨queued,by rwa [applying],current⟩
    | none =>
      cases waiting : s.configs with
      | nil => exact ⟨by rwa [waiting] at queued ⊢,by rwa [applying] at stored ⊢,current⟩
      | cons config configs =>
        rw [waiting] at queued
        refine ⟨fun config' listed => queued config' (List.mem_cons_of_mem _ listed),?_,current⟩
        intro config' same
        cases same
        exact ⟨queued config List.mem_cons_self,rfl⟩
  | apply_config =>
    rw [State.step]
    cases applying : s.applying with
    | none => exact ⟨queued,by rwa [applying] at stored ⊢,current⟩
    | some config =>
      refine ⟨queued,?_,config,(stored config applying).1,apply_config_config⟩
      intro config' none_left
      cases none_left
  | node event =>
    obtain ⟨matcher,configured⟩ := quiet_step (x := x) (n := s.node) event.2
    refine ⟨queued,fun config' same => ?_,?_⟩
    · obtain ⟨accepted,own⟩ := stored config' same
      exact ⟨accepted,matcher.trans own⟩
    · obtain ⟨config,accepted,own⟩ := current
      exact ⟨config,accepted,configured.trans own⟩

/-! ### The newest configuration -/

/-- The newest configuration on its way to the node, or the one that the node has. -/
def Newest (s : State Contents) (config : LbConfig) : Prop :=
  match s.configs.getLast?,s.applying with
  | some latest,_ => latest = config
  | none,some latest => latest = config
  | none,none => Follows config s.node

/-- Unless a notice of it waits, or the thread is about to read it, the file holds the
    newest configuration. -/
structure Fresh (from_str : Contents → Except E LbConfig) (config_path : Path) (s : State Contents) : Prop where
  torn : s.thread = .reloading true → s.notices.any (relevant config_path) = true
  newest : s.notices.any (relevant config_path) = false → s.thread ≠ .reloading false →
    ∀ config, try_reload from_str s.file = .ok config → Newest s config

/-- A move that leaves alone the file, the notices and what is on its way, but for
    what the thread does while it does not read. -/
theorem Fresh.idle {s s' : State Contents} (fresh : Fresh from_str config_path s) (file : s'.file = s.file)
    (notices : s'.notices.any (relevant config_path) = s.notices.any (relevant config_path))
    (looping : s.thread ≠ .reloading false) (torn : s'.thread ≠ .reloading true)
    (newest : ∀ config, Newest s config → Newest s' config) : Fresh from_str config_path s' := by
  refine ⟨fun same => absurd same torn,fun unheard _ config loaded => newest config ?_⟩
  rw [notices] at unheard
  rw [file] at loaded
  exact fresh.newest unheard looping config loaded

/-- A move that leaves the thread and the file alone. -/
theorem Fresh.mono {s s' : State Contents} (fresh : Fresh from_str config_path s) (file : s'.file = s.file)
    (thread : s'.thread = s.thread)
    (notices : s.notices.any (relevant config_path) = true → s'.notices.any (relevant config_path) = true)
    (newest : ∀ config, Newest s config → Newest s' config) : Fresh from_str config_path s' := by
  refine ⟨fun torn => notices (fresh.torn (thread ▸ torn)),fun unheard looping config loaded => newest config ?_⟩
  refine fresh.newest (eq_false_of_ne_true fun heard => ?_) (thread ▸ looping) config (file ▸ loaded)
  rw [notices heard] at unheard
  cases unheard

theorem Newest.node {s : State Contents} {config : LbConfig} {n : Node} (newest : Newest s config)
    (same : ∀ config, Follows config s.node → Follows config n) : Newest { s with node := n } config := by
  unfold Newest at newest ⊢
  dsimp only
  cases latest : s.configs.getLast? with
  | some config' => rwa [latest] at newest
  | none =>
    rw [latest] at newest
    cases applying : s.applying with
    | some config' => rwa [applying] at newest
    | none =>
      rw [applying] at newest
      exact same config newest

theorem Fresh.step (fresh : Fresh from_str config_path s) (sound : Sound s) {move : Move Contents}
    (announced : Announced config_path s move) : Fresh from_str config_path (s.step x from_str config_path move) := by
  cases move with
  | change file notices =>
    have heard : ((s.step x from_str config_path (.change file notices)).notices).any (relevant config_path) = true := by
      rw [State.step]
      dsimp only
      rw [if_pos announced.1,List.any_append,announced.2,Bool.or_true]
    refine ⟨fun _ => heard,fun unheard => ?_⟩
    rw [heard] at unheard
    cases unheard
  | notify notices =>
    refine fresh.mono rfl rfl (fun heard => ?_) fun _ newest => newest
    rw [State.step]
    dsimp only
    split_ifs
    · rw [List.any_append,heard,Bool.true_or]
    · exact heard
  | watch => exact fresh.mono rfl rfl id fun _ newest => newest
  | signal => exact fresh.mono rfl rfl id fun _ newest => newest
  | check =>
    rw [State.step]
    by_cases looping : s.thread = .looping
    · rw [if_pos looping]
      refine fresh.idle rfl rfl (by simp [looping]) ?_ fun _ newest => newest
      cases s.shutdown <;> simp
    · rw [if_neg looping]
      exact fresh
  | recv =>
    rw [State.step]
    split_ifs with receiving
    · cases waiting : s.notices with
      | nil =>
        exact fresh.idle rfl (by rw [waiting]) (by simp [receiving]) (by simp) fun _ newest => newest
      | cons notice notices =>
        dsimp only
        by_cases heard : relevant config_path notice = true
        · rw [if_pos heard]
          exact ⟨fun torn => (by cases torn),fun _ reading => absurd rfl reading⟩
        · rw [if_neg heard]
          refine fresh.idle rfl ?_ (by simp [receiving]) (by simp) fun _ newest => newest
          simp [waiting,heard]
    · exact fresh
  | reload seen =>
    rw [State.step]
    cases thread : s.thread with
    | reloading torn =>
      dsimp only
      cases torn with
      | true =>
        -- The file has changed since, and a notice of that waits.
        have heard := fresh.torn thread
        cases try_reload from_str (if true then seen else s.file) with
        | ok config => exact ⟨fun torn => (by cases torn),fun unheard => absurd (heard.symm.trans unheard) (by simp)⟩
        | error e => exact ⟨fun torn => (by cases torn),fun unheard => absurd (heard.symm.trans unheard) (by simp)⟩
      | false =>
        rw [if_neg (by simp)]
        cases loaded : try_reload from_str s.file with
        | ok config =>
          refine ⟨fun torn => (by cases torn),fun _ _ config' loaded' => ?_⟩
          rw [loaded] at loaded'
          cases loaded'
          simp [Newest]
        | error e =>
          refine ⟨fun torn => (by cases torn),fun _ _ config' loaded' => ?_⟩
          rw [loaded] at loaded'
          cases loaded'
    | looping => exact fresh
    | receiving => exact fresh
    | stopped => exact fresh
  | store_matcher =>
    rw [State.step]
    cases applying : s.applying with
    | some config => exact fresh
    | none =>
      cases waiting : s.configs with
      | nil => exact fresh
      | cons config configs =>
        refine fresh.mono rfl rfl id fun config' newest => ?_
        unfold Newest at newest ⊢
        dsimp only
        rw [waiting,List.getLast?_cons] at newest
        cases latest : configs.getLast? with
        | some config'' => simpa [latest] using newest
        | none => simpa [latest] using newest
  | apply_config =>
    rw [State.step]
    cases applying : s.applying with
    | none => exact fresh
    | some config =>
      refine fresh.mono rfl rfl id fun config' newest => ?_
      unfold Newest at newest ⊢
      dsimp only
      cases latest : s.configs.getLast? with
      | some config'' => rwa [latest] at newest
      | none =>
        rw [latest,applying] at newest
        cases newest
        exact ⟨(sound.stored config applying).2,apply_config_config⟩
  | node event =>
    refine fresh.mono rfl rfl id fun config' newest => newest.node fun _ follows => follows.step event.2

theorem start_sound {file : Option Contents} {m : TableSize} {rewriter : RewriterThread} (accepted : Accepted config) :
    Sound (.start x file config m rewriter : State Contents) := by
  refine ⟨by simp [State.start],fun _ applying => (by cases applying),config,accepted,?_⟩
  exact apply_config_config

theorem start_follows {m : TableSize} {rewriter : RewriterThread} :
    Follows config (.start x (some config) m rewriter) := ⟨rfl,apply_config_config⟩

theorem start_fresh {file : Option Contents} {m : TableSize} {rewriter : RewriterThread}
    (loaded : try_reload from_str file = .ok config) :
    Fresh from_str config_path (.start x file config m rewriter) := by
  refine ⟨fun torn => (by cases torn),fun _ _ config' loaded' => ?_⟩
  rw [State.start,loaded] at loaded'
  cases loaded'
  exact start_follows

/-! ### Rounds of the threads -/

/-- Each thread takes its steps once. -/
def round (seen : Option Contents) : List (Move Contents) := [.check,.recv,.reload seen,.store_matcher,.apply_config]

def rounds (seen : Option Contents) (n : Nat) : List (Move Contents) := (List.replicate n (round seen)).flatten

/-- Between two rounds nothing is being read or applied. -/
structure Between (s : State Contents) : Prop where
  looping : s.thread = .looping
  applied : s.applying = none
  running : s.shutdown = false

theorem reload_turn {torn : Bool} (reading : s.thread = .reloading torn) (seen : Option Contents) :
    ∃ pushed, pushed.length ≤ 1 ∧ s.step x from_str config_path (.reload seen) =
      { s with thread := .looping, configs := s.configs ++ pushed } := by
  rw [State.step,reading]
  dsimp only
  cases try_reload from_str (if torn then seen else s.file) with
  | ok config => exact ⟨[config],Nat.le_refl 1,rfl⟩
  | error e => exact ⟨[],Nat.zero_le 1,by rw [List.append_nil]⟩

/-- A notice is taken, and the file read if the notice asks for it. -/
theorem recv_turn (receiving : s.thread = .receiving) (seen : Option Contents) :
    ∃ pushed, pushed.length ≤ 1 ∧ (s.notices = [] → pushed = []) ∧
      [.recv,.reload seen].foldl (State.step x from_str config_path) s =
        { s with thread := .looping, notices := s.notices.tail, configs := s.configs ++ pushed } := by
  cases waiting : s.notices with
  | nil =>
    have heard : s.step x from_str config_path .recv = { s with thread := .looping } := by
      rw [State.step,if_pos receiving,waiting]
    refine ⟨[],Nat.zero_le 1,fun _ => rfl,?_⟩
    rw [List.foldl_cons,heard,List.append_nil,List.tail_nil,← waiting]
    rfl
  | cons notice notices =>
    have heard : s.step x from_str config_path .recv = { s with
        notices := notices
        thread := if relevant config_path notice then .reloading false else .looping } := by
      rw [State.step,if_pos receiving,waiting]
    by_cases asks : relevant config_path notice = true
    · rw [if_pos asks] at heard
      obtain ⟨pushed,short,read⟩ := @reload_turn _ _ x from_str config_path
        { s with notices := notices, thread := .reloading false } false rfl seen
      refine ⟨pushed,short,fun none_left => (by cases none_left),?_⟩
      rw [List.foldl_cons,heard,List.foldl_cons,List.foldl_nil,read]
      rfl
    · rw [if_neg asks] at heard
      refine ⟨[],Nat.zero_le 1,fun _ => rfl,?_⟩
      rw [List.foldl_cons,heard,List.append_nil]
      rfl

theorem thread_turn (running : s.shutdown = false) (alive : s.thread ≠ .stopped) (seen : Option Contents) :
    ∃ notices pushed, [.check,.recv,.reload seen].foldl (State.step x from_str config_path) s =
        { s with thread := .looping, notices := notices, configs := s.configs ++ pushed } ∧
      (s.thread = .looping → notices = s.notices.tail ∧ pushed.length ≤ 1 ∧ (s.notices = [] → pushed = [])) := by
  cases thread : s.thread with
  | stopped => exact absurd thread alive
  | looping =>
    have looked : s.step x from_str config_path .check = { s with thread := .receiving } := by
      rw [State.step,if_pos thread,running]
      rfl
    obtain ⟨pushed,short,idle,turn⟩ := @recv_turn _ _ x from_str config_path { s with thread := .receiving } rfl seen
    rw [List.foldl_cons,looked,turn]
    exact ⟨_,pushed,rfl,fun _ => ⟨rfl,short,idle⟩⟩
  | receiving =>
    have looked : s.step x from_str config_path .check = s := by
      rw [State.step,if_neg (by simp [thread])]
    obtain ⟨pushed,_,_,turn⟩ := @recv_turn _ _ x from_str config_path s thread seen
    rw [List.foldl_cons,looked,turn]
    exact ⟨_,pushed,rfl,fun other => (by cases other)⟩
  | reloading torn =>
    have looked : s.step x from_str config_path .check = s := by
      rw [State.step,if_neg (by simp [thread])]
    have heard : s.step x from_str config_path .recv = s := by
      rw [State.step,if_neg (by simp [thread])]
    obtain ⟨pushed,_,turn⟩ := @reload_turn _ _ x from_str config_path s torn thread seen
    rw [List.foldl_cons,looked,List.foldl_cons,heard,List.foldl_cons,turn]
    exact ⟨_,pushed,rfl,fun other => (by cases other)⟩

theorem task_turn : ∃ configs n, [.store_matcher,.apply_config].foldl (State.step x from_str config_path) s =
      { s with applying := none, configs := configs, node := n } ∧
    (s.applying = none → configs = s.configs.tail) := by
  cases applying : s.applying with
  | some config =>
    have stored : s.step x from_str config_path .store_matcher = s := by
      rw [State.step,applying]
    rw [List.foldl_cons,stored,List.foldl_cons,State.step,applying]
    exact ⟨_,_,rfl,fun none_left => (by cases none_left)⟩
  | none =>
    cases waiting : s.configs with
    | nil =>
      have stored : s.step x from_str config_path .store_matcher = s := by
        rw [State.step,applying,waiting]
      have applied : s.step x from_str config_path .apply_config = s := by
        rw [State.step,applying]
      rw [List.foldl_cons,stored,List.foldl_cons,applied,List.foldl_nil]
      exact ⟨[],s.node,by rw [← waiting,← applying],fun _ => rfl⟩
    | cons config configs =>
      have stored : s.step x from_str config_path .store_matcher =
          { s with configs := configs, applying := some config, node := s.node.step x (.store_matcher config) } := by
        rw [State.step,applying,waiting]
      rw [List.foldl_cons,stored]
      exact ⟨_,_,rfl,fun _ => rfl⟩

/-- A round takes a notice and a configuration, and leaves at most one more. -/
theorem round_spec (running : s.shutdown = false) (alive : s.thread ≠ .stopped) (seen : Option Contents) :
    let s' := (round seen).foldl (State.step x from_str config_path) s
    Between s' ∧ s'.file = s.file ∧ (Between s →
      s'.notices = s.notices.tail ∧ ∃ pushed, pushed.length ≤ 1 ∧ (s.notices = [] → pushed = []) ∧
        s'.configs = (s.configs ++ pushed).tail) := by
  intro s'
  obtain ⟨notices,pushed,first,took⟩ := @thread_turn _ _ x from_str config_path s running alive seen
  obtain ⟨configs,n,second,applied⟩ := @task_turn _ _ x from_str config_path
    { s with thread := .looping, notices := notices, configs := s.configs ++ pushed }
  have turn : s' = { s with
      thread := .looping, notices := notices, applying := none, configs := configs, node := n } := by
    have parts : round seen = ([.check,.recv,.reload seen] : List (Move Contents)) ++ [.store_matcher,.apply_config] :=
      rfl
    show (round seen).foldl _ s = _
    rw [parts,List.foldl_append,first,second]
  rw [turn]
  refine ⟨⟨rfl,rfl,running⟩,rfl,fun between => ?_⟩
  obtain ⟨one,short,idle⟩ := took between.looping
  exact ⟨one,pushed,short,idle,applied between.applied⟩

theorem rounds_settle (seen : Option Contents) (n : Nat) {s : State Contents} (between : Between s)
    (enough : 2 * s.notices.length + s.configs.length ≤ n) :
    let s' := (rounds seen n).foldl (State.step x from_str config_path) s
    Settled config_path s' ∧ s'.file = s.file := by
  induction n generalizing s with
  | zero =>
    have heard : s.notices = [] := List.eq_nil_of_length_eq_zero (by omega)
    have taken : s.configs = [] := List.eq_nil_of_length_eq_zero (by omega)
    exact ⟨⟨by simp [rounds,heard],by simp [rounds,between.looping],taken,between.applied⟩,rfl⟩
  | succ n ih =>
    obtain ⟨after,file,turn⟩ :=
      @round_spec _ _ x from_str config_path s between.running (by simp [between.looping]) seen
    obtain ⟨notices,pushed,short,idle,configs⟩ := turn between
    have more : rounds seen (n + 1) = round seen ++ rounds seen n := by
      rw [rounds,List.replicate_succ,List.flatten_cons,rounds]
    have fewer : 2 * ((round seen).foldl (State.step x from_str config_path) s).notices.length +
        ((round seen).foldl (State.step x from_str config_path) s).configs.length ≤ n := by
      rw [notices,configs,List.length_tail,List.length_tail,List.length_append]
      cases waiting : s.notices with
      | nil =>
        rw [idle waiting]
        rw [waiting] at enough
        simp only [List.length_nil] at enough ⊢
        omega
      | cons notice rest =>
        rw [waiting] at enough
        simp only [List.length_cons] at enough ⊢
        omega
    rw [more,List.foldl_append]
    obtain ⟨settled,same⟩ := ih after fewer
    exact ⟨settled,same.trans file⟩

/-- Unless it is shut down, the watcher settles, however many notices wait. -/
theorem settles (running : s.shutdown = false) (alive : s.thread ≠ .stopped) (seen : Option Contents) :
    ∃ n, let s' := (rounds seen n).foldl (State.step x from_str config_path) s
      Settled config_path s' ∧ s'.file = s.file := by
  obtain ⟨between,file,_⟩ := @round_spec _ _ x from_str config_path s running alive seen
  generalize ended : (round seen).foldl (State.step x from_str config_path) s = s' at between file
  refine ⟨2 * s'.notices.length + s'.configs.length + 1,?_⟩
  obtain ⟨settled,same⟩ := @rounds_settle _ _ x from_str config_path seen _ s' between (Nat.le_refl _)
  rw [rounds,List.replicate_succ,List.flatten_cons,List.foldl_append,ended]
  exact ⟨settled,same.trans file⟩

/-! ### Unnoticed changes -/

/-- Nothing is under way, and the node follows the configuration. -/
structure Undisturbed (config_path : Path) (config : LbConfig) (s : State Contents) : Prop where
  settled : Settled config_path s
  follows : Follows config s.node

theorem Undisturbed.step (undisturbed : Undisturbed config_path config s) {move : Move Contents}
    (unnoticed : s.watched = true → Unnoticed config_path move) :
    Undisturbed config_path config (s.step x from_str config_path move) := by
  obtain ⟨⟨heard,waiting,taken,applied⟩,follows⟩ := undisturbed
  have unheard : ∀ notices : List Notice, (s.watched = true → notices.any (relevant config_path) = false) →
      (if s.watched then s.notices ++ notices else s.notices).any (relevant config_path) = false := by
    intro notices unnoticed
    split_ifs with watched
    · rw [List.any_append,heard,unnoticed watched,Bool.or_self]
    · exact heard
  cases move with
  | change file notices =>
    rw [State.step,if_neg (waiting false)]
    exact ⟨⟨unheard notices unnoticed,waiting,taken,applied⟩,follows⟩
  | notify notices => exact ⟨⟨unheard notices unnoticed,waiting,taken,applied⟩,follows⟩
  | watch => exact ⟨⟨heard,waiting,taken,applied⟩,follows⟩
  | signal => exact ⟨⟨heard,waiting,taken,applied⟩,follows⟩
  | check =>
    rw [State.step]
    by_cases looping : s.thread = .looping
    · rw [if_pos looping]
      refine ⟨⟨heard,fun torn => ?_,taken,applied⟩,follows⟩
      cases s.shutdown <;> simp
    · rw [if_neg looping]
      exact ⟨⟨heard,waiting,taken,applied⟩,follows⟩
  | recv =>
    rw [State.step]
    split_ifs
    · cases queued : s.notices with
      | nil => exact ⟨⟨rfl,by simp,taken,applied⟩,follows⟩
      | cons notice notices =>
        rw [queued,List.any_cons,Bool.or_eq_false_iff] at heard
        dsimp only
        rw [if_neg (by simp [heard.1])]
        exact ⟨⟨heard.2,by simp,taken,applied⟩,follows⟩
    · exact ⟨⟨heard,waiting,taken,applied⟩,follows⟩
  | reload seen =>
    rw [State.step]
    cases thread : s.thread with
    | reloading torn => exact absurd thread (waiting torn)
    | looping => exact ⟨⟨heard,waiting,taken,applied⟩,follows⟩
    | receiving => exact ⟨⟨heard,waiting,taken,applied⟩,follows⟩
    | stopped => exact ⟨⟨heard,waiting,taken,applied⟩,follows⟩
  | store_matcher =>
    rw [State.step,applied,taken]
    exact ⟨⟨heard,waiting,taken,applied⟩,follows⟩
  | apply_config =>
    rw [State.step,applied]
    exact ⟨⟨heard,waiting,taken,applied⟩,follows⟩
  | node event => exact ⟨⟨heard,waiting,taken,applied⟩,follows.step event.2⟩

theorem start_undisturbed {file : Option Contents} {m : TableSize} {rewriter : RewriterThread} :
    Undisturbed config_path config (.start x file config m rewriter) :=
  ⟨⟨rfl,fun torn => by simp [State.start],rfl,rfl⟩,start_follows⟩

theorem Newest.follows {s : State Contents} (newest : Newest s config) (settled : Settled config_path s) :
    Follows config s.node := by
  unfold Newest at newest
  rwa [settled.taken,settled.applied] at newest

theorem rounds_announced (seen : Option Contents) (n : Nat) :
    Runs.Along (State.step x from_str config_path) (Announced config_path) s (rounds seen n) := by
  induction n generalizing s with
  | zero => trivial
  | succ n ih =>
    have more : rounds seen (n + 1) = round seen ++ rounds seen n := by
      rw [rounds,List.replicate_succ,List.flatten_cons,rounds]
    rw [more,Runs.along_append]
    exact ⟨⟨trivial,trivial,trivial,trivial,trivial,trivial⟩,ih⟩

/-- Along runs in which every change is announced, both invariants are kept. -/
theorem announced_run {moves : List (Move Contents)} (sound : Sound s) (fresh : Fresh from_str config_path s)
    (announced : Runs.Along (State.step x from_str config_path) (Announced config_path) s moves) :
    let s' := moves.foldl (State.step x from_str config_path) s
    Sound s' ∧ Fresh from_str config_path s' :=
  announced.invariant (fun s => Sound s ∧ Fresh from_str config_path s)
    (fun _ move inv announced => ⟨inv.1.step move,inv.2.step inv.1 announced⟩) ⟨sound,fresh⟩

/-- The thread ends only after the signal. -/
theorem stopped_step (stops : s.thread = .stopped → s.shutdown = true) (move : Move Contents) :
    (s.step x from_str config_path move).thread = .stopped →
      (s.step x from_str config_path move).shutdown = true := by
  cases move with
  | change file notices =>
    rw [State.step]
    dsimp only
    split_ifs
    · simp
    · exact stops
  | notify notices => exact stops
  | watch => exact stops
  | node event => exact stops
  | signal => exact fun _ => rfl
  | check =>
    rw [State.step]
    by_cases looping : s.thread = .looping
    · rw [if_pos looping]
      cases signalled : s.shutdown <;> simp
    · rw [if_neg looping]
      exact stops
  | recv =>
    rw [State.step]
    split_ifs
    · cases s.notices with
      | nil => simp
      | cons notice notices => dsimp only; split_ifs <;> simp
    · exact stops
  | reload seen =>
    rw [State.step]
    cases thread : s.thread with
    | reloading torn => dsimp only; cases try_reload from_str (if torn then seen else s.file) <;> simp
    | looping => exact stops
    | receiving => exact stops
    | stopped => exact stops
  | store_matcher =>
    rw [State.step]
    cases s.applying <;> cases s.configs <;> exact stops
  | apply_config =>
    rw [State.step]
    cases s.applying <;> exact stops

end

/-- Where every change of the file leads to a notice, the node is never given a
    configuration that was not accepted, it has the configuration in the file, if that is
    accepted, whenever nothing is under way, and until the shutdown the threads get there
    from every state. -/
theorem node_follows_file {Contents E : Type} (x : Xxh3) (from_str : Contents → Except E LbConfig)
    (config_path : Path) (file : Option Contents) (config : LbConfig) (created : new from_str file true = .ok config)
    (m : TableSize) (rewriter : RewriterThread) (moves : List (Move Contents))
    (announced : Runs.Along (State.step x from_str config_path) (Announced config_path)
      (.start x file config m rewriter) moves) :
    let s := moves.foldl (State.step x from_str config_path) (.start x file config m rewriter)
    (∃ applied, Accepted applied ∧ s.node.controller.config = some applied) ∧
    (∀ current, try_reload from_str s.file = .ok current → Settled config_path s → Follows current s.node) ∧
    (s.shutdown = false → ∀ seen, ∃ n, let s' := (rounds seen n).foldl (State.step x from_str config_path) s
      s'.file = s.file ∧ Settled config_path s' ∧
        ∀ current, try_reload from_str s.file = .ok current → Follows current s'.node) := by
  intro s
  have loaded := new_eq_ok from_str created
  obtain ⟨sound,fresh⟩ := announced_run (start_sound (try_reload_accepted from_str loaded)) (start_fresh loaded)
    announced
  have stops : s.thread = .stopped → s.shutdown = true :=
    Runs.invariant (fun s : State Contents => s.thread = .stopped → s.shutdown = true)
      (fun _ move stops => stopped_step stops move) (fun stopped => by cases stopped) moves
  refine ⟨sound.current,?_,?_⟩
  · intro current loaded settled
    exact (fresh.newest settled.heard (settled.waiting false) current loaded).follows settled
  · intro running seen
    have alive : s.thread ≠ .stopped := by
      intro stopped
      have signalled := stops stopped
      rw [running] at signalled
      cases signalled
    obtain ⟨n,settled,same⟩ := @settles _ _ x from_str config_path s running alive seen
    obtain ⟨_,fresh'⟩ := announced_run (x := x) sound fresh (rounds_announced seen n)
    refine ⟨n,same,settled,fun current loaded => ?_⟩
    rw [← same] at loaded
    exact (fresh'.newest settled.heard (settled.waiting false) current loaded).follows settled

/-- The path of the configuration, and an event of its directory. -/
private def lb_json : Path := [.RootDir,.Normal "etc",.Normal "lb",.Normal "lb.json"]
private def replaced : Event := ⟨.Create,[lb_json]⟩
/-- A configuration that is parsed already. -/
private def parsed : LbConfig → Except Unit LbConfig := Except.ok

/-- A backend is drained while the previous change is read; the node gets there all the
    same. -/
theorem node_follows_replaced_file : ∃ n, Follows (pair true)
    ((rounds none n).foldl (State.step hashedPair parsed lb_json)
      ([.watch,.change (some (pair false)) [some replaced],.check,.recv,.change (some (pair true)) [some replaced],
        .reload none].foldl (State.step hashedPair parsed lb_json)
          (.start hashedPair (some (pair false)) (pair false) ⟨2,Nat.prime_two⟩ idle))).node := by
  obtain ⟨_,_,settles⟩ := node_follows_file hashedPair parsed lb_json (some (pair false)) (pair false) (by rfl)
    ⟨2,Nat.prime_two⟩ idle [.watch,.change (some (pair false)) [some replaced],.check,.recv,
      .change (some (pair true)) [some replaced],.reload none]
    ⟨trivial,⟨rfl,by decide⟩,trivial,trivial,⟨rfl,by decide⟩,trivial,trivial⟩
  obtain ⟨n,_,_,follows⟩ := settles rfl none
  exact ⟨n,follows (pair true) (by rfl)⟩

/-- A change of which no notice comes is not followed, however long it has been made.
    Of the changes between the initial load and the watching no notice comes. -/
theorem unnoticed_change_is_missed {Contents E : Type} (x : Xxh3) (from_str : Contents → Except E LbConfig)
    (config_path : Path) (s : State Contents) (config : LbConfig) (undisturbed : Undisturbed config_path config s)
    (moves : List (Move Contents))
    (unnoticed : Runs.Along (State.step x from_str config_path)
      (fun s move => s.watched = true → Unnoticed config_path move) s moves) :
    Undisturbed config_path config (moves.foldl (State.step x from_str config_path) s) :=
  unnoticed.invariant (Undisturbed config_path config) (fun _ _ undisturbed => undisturbed.step) undisturbed

/-- A backend is drained just before the watching begins. -/
theorem early_change_is_missed : Follows (pair false)
    ([.change (some (pair true)) [some replaced],.watch,.check,.recv].foldl (State.step hashedPair parsed lb_json)
      (.start hashedPair (some (pair false)) (pair false) ⟨2,Nat.prime_two⟩ idle)).node :=
  (unnoticed_change_is_missed hashedPair parsed lb_json _ (pair false) start_undisturbed
    [.change (some (pair true)) [some replaced],.watch,.check,.recv]
    ⟨fun watched => (by cases watched),fun _ => trivial,fun _ => trivial,fun _ => trivial,trivial⟩).follows

end Lb.Watcher
