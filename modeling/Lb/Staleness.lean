import Lb.Rebuilds

/-!
# How old the tables get

Between flushes the tables stay what a full rebuild would have made of the health at one
moment in the past. A debounce window starts with the first change that is not in the tables,
and later changes do not put its end off, so that moment is never further back than the window
when the clock is read.
-/
namespace Lb.Orchestrator
open Lb.Addr Lb.Types Lb.Maglev Lb.Applier

/-- When the operation says that health has changed. -/
def Op.changed_at : Op → Option Nat
  | .on_health_change _ _ now _ => some now
  | _ => none
/-- When the operation looks whether the window has elapsed. -/
def Op.checked_at : Op → Option Nat
  | .on_health_change _ _ _ now' => some now'
  | .tick now => some now
  | _ => none
/-- The operation leaves the configuration as it is. -/
def Op.Keeps : Op → Prop
  | .apply_config _ => False
  | _ => True

namespace Controller
variable {x : Xxh3} {c : Controller} {op : Op} {since : Nat}

theorem maybe_flush_pending {now : Nat} (pending : (c.maybe_flush x now).pending_since = some since) :
    c.maybe_flush x now = c ∧ now < since + DEBOUNCE_WINDOW := by
  by_cases due : c.Due now
  · rw [maybe_flush_due due,flush_eq] at pending
    cases pending
  · rw [maybe_flush_early due] at pending ⊢
    refine ⟨rfl,?_⟩
    by_contra late
    exact due ⟨since,pending,by omega⟩

theorem accumulate_pending {backend_ip : IpAddr} {status : HealthStatus} {now : Nat}
    (pending : (c.accumulate backend_ip status now).pending_since = some since) :
    c.pending_since = some since ∨ c.pending_since = none ∧ since = now := by
  rw [accumulate_eq] at pending
  dsimp only at pending
  split_ifs at pending with starts
  · cases pending
    refine .inr ⟨?_,rfl⟩
    simp at starts
    exact starts.2
  · exact .inl pending

/-- While a rebuild is pending the tables stay as they are. Its window started before, or
    with the change that the operation tells of. -/
structure Waits (op : Op) (c c' : Controller) (since : Nat) : Prop where
  tables : c'.lookup_tables = c.lookup_tables
  config : c'.config = c.config
  keeps : op.Keeps
  started : c.pending_since = some since ∨ c.pending_since = none ∧ op.changed_at = some since
  fresh : ∀ now, op.checked_at = some now → now < since + DEBOUNCE_WINDOW

theorem perform_waits (pending : (c.perform x op).1.pending_since = some since) :
    Waits op c (c.perform x op).1 since := by
  cases op with
  | apply_config config =>
    obtain ⟨vips,state⟩ := (c.install x config).sync_state
    rw [perform,apply_config,state] at pending
    cases pending
  | on_health_change backend_ip status now now' =>
    obtain ⟨vips,state⟩ := c.on_health_change_state (x := x) backend_ip status now now'
    rw [perform,state] at pending ⊢
    obtain ⟨unchanged,fresh⟩ := maybe_flush_pending pending
    dsimp only at pending ⊢
    rw [unchanged] at pending ⊢
    have noted := accumulate_pending pending
    rw [accumulate_eq]
    refine ⟨rfl,rfl,trivial,?_,?_⟩
    · rcases noted with before | ⟨none_before,starts⟩
      · exact .inl before
      · exact .inr ⟨none_before,by rw [starts]; rfl⟩
    · rintro _ ⟨⟩
      exact fresh
  | tick now =>
    change (c.maybe_flush x now).pending_since = some since at pending
    obtain ⟨unchanged,fresh⟩ := maybe_flush_pending pending
    rw [unchanged] at pending
    show Waits _ c (c.maybe_flush x now) since
    rw [unchanged]
    refine ⟨rfl,rfl,trivial,.inl pending,?_⟩
    rintro _ ⟨⟩
    exact fresh
  | flush_pending =>
    rw [perform,flush_pending,flush_eq] at pending
    cases pending
  | reannounce_all => exact ⟨rfl,rfl,trivial,.inl pending,by rintro _ ⟨⟩⟩
  | withdraw_all => exact ⟨rfl,rfl,trivial,.inl pending,by rintro _ ⟨⟩⟩

variable (x) in
/-- The tables are those of the health after some of the operations. If no rebuild is
    pending these are all of them, and else the window started no later than the changes
    that are left. -/
structure Lags (first : Controller) (ops before after : List Op) : Prop where
  split : before ++ after = ops
  tables : ∀ config, (Runs.after (perform x) first ops).config = some config →
    (Runs.after (perform x) first ops).lookup_tables =
      build_lookup_tables x config (Runs.after (perform x) first before).health_status first.table_size
  keeps : ∀ op ∈ after, op.Keeps
  idle : (Runs.after (perform x) first ops).pending_since = none → after = []
  known : ∀ since, (Runs.after (perform x) first ops).pending_since = some since → since ∈ ops.filterMap Op.changed_at
  started : ∀ since, (Runs.after (perform x) first ops).pending_since = some since →
    ∀ op ∈ after, ∀ t, op.changed_at = some t → since ≤ t

variable {first : Controller} {ops before after : List Op}

theorem run_table_size (ops : List Op) : (Runs.after (perform x) first ops).table_size = first.table_size :=
  Runs.invariant (fun c : Controller => c.table_size = first.table_size)
    (fun _ op same => (perform_table_size op).trans same) rfl ops

theorem Lags.perform (lags : Lags x first ops before after)
    (synced : (Runs.after (perform x) first (ops ++ [op])).Synced x)
    (ordered : ((ops ++ [op]).filterMap Op.changed_at).Pairwise (· ≤ ·)) :
    ∃ before after, Lags x first (ops ++ [op]) before after := by
  have last : Runs.after (Controller.perform x) first (ops ++ [op]) =
      ((Runs.after (Controller.perform x) first ops).perform x op).1 := by
    rw [Runs.after_append]
    rfl
  cases pending : (Runs.after (Controller.perform x) first (ops ++ [op])).pending_since with
  | none =>
    refine ⟨ops ++ [op],[],by simp,fun config current => ?_,by simp,fun _ => rfl,?_,by simp⟩
    · have rebuilt := synced.rebuilt config current (by rw [has_pending_rebuilds,pending]; rfl)
      rwa [run_table_size] at rebuilt
    · intro since started
      rw [pending] at started
      cases started
  | some since =>
    have waits := perform_waits (x := x) (last ▸ pending)
    have same : ∀ {t}, (Runs.after (Controller.perform x) first (ops ++ [op])).pending_since = some t → t = since :=
      fun started => Option.some.inj (started.symm.trans pending)
    rw [List.filterMap_append,List.pairwise_append] at ordered
    rcases waits.started with before_op | ⟨none_before,starts⟩
    · refine ⟨before,after ++ [op],by rw [← List.append_assoc,lags.split],?_,?_,?_,?_,?_⟩
      · intro config current
        rw [last,waits.config] at current
        rw [last,waits.tables]
        exact lags.tables config current
      · intro other among
        rcases List.mem_append.mp among with old | new
        · exact lags.keeps other old
        · rw [List.mem_singleton.mp new]
          exact waits.keeps
      · intro none_pending
        rw [pending] at none_pending
        cases none_pending
      · intro t started
        rw [same started,List.filterMap_append]
        exact List.mem_append_left _ (lags.known since before_op)
      · intro t started other among t' changed
        rw [same started]
        rcases List.mem_append.mp among with old | new
        · exact lags.started since before_op other old t' changed
        · rw [List.mem_singleton.mp new] at changed
          exact ordered.2.2 since (lags.known since before_op) t' (by simp [changed])
    · have all : before = ops := by
        have split := lags.split
        rwa [lags.idle none_before,List.append_nil] at split
      refine ⟨ops,[op],rfl,?_,?_,?_,?_,?_⟩
      · intro config current
        rw [last,waits.config] at current
        rw [last,waits.tables]
        have tables := lags.tables config current
        rwa [all] at tables
      · intro other among
        rw [List.mem_singleton.mp among]
        exact waits.keeps
      · intro none_pending
        rw [pending] at none_pending
        cases none_pending
      · intro t started
        rw [same started,List.filterMap_append]
        exact List.mem_append_right _ (by simp [starts])
      · intro t started other among t' changed
        rw [List.mem_singleton.mp among,starts] at changed
        rw [same started,Option.some.inj changed]

/-- In every run whose flushes rebuild all pending pools the tables are those of some moment. -/
theorem run_lags (tables : LookupTables) (health : Health) (m : TableSize) (ops : List Op)
    (ordered : (ops.filterMap Op.changed_at).Pairwise (· ≤ ·))
    (all : Runs.Along (fun c op => (c.perform x op).1) FlushesAll (.new tables health m) ops) :
    ∃ before after, Lags x (.new tables health m) ops before after := by
  induction ops using List.reverseRecOn with
  | nil => exact ⟨[],[],rfl,by rintro _ ⟨⟩,by simp,fun _ => rfl,by rintro _ ⟨⟩,by simp⟩
  | append_singleton ops op ih =>
    have start : (Controller.new tables health m).Synced x := ⟨fun _ => rfl,by rintro _ ⟨⟩,by rintro _ ⟨⟩⟩
    have synced := all.invariant (Synced x) (fun _ _ synced all => synced.perform all) start
    have earlier : (ops.filterMap Op.changed_at).Pairwise (· ≤ ·) := by
      rw [List.filterMap_append,List.pairwise_append] at ordered
      exact ordered.1
    obtain ⟨before,after,lags⟩ := ih earlier ((Runs.along_append _ _ _).mp all).1
    exact lags.perform synced ordered

end Controller

/-- However many changes come in, an operation that reads the clock leaves tables that a full
    rebuild would have made at a moment that misses only changes from within the debounce
    window; the configuration is as it was then. -/
theorem tables_at_most_window_old (x : Xxh3) (tables : LookupTables) (health : Health) (m : TableSize) (ops : List Op)
    (op : Op) (now : Nat) (checks : op.checked_at = some now)
    (ordered : ((ops ++ [op]).filterMap Op.changed_at).Pairwise (· ≤ ·))
    (all : Runs.Along (fun c op => (c.perform x op).1) Controller.FlushesAll (.new tables health m) (ops ++ [op])) :
    let reached := Runs.after (Controller.perform x) (.new tables health m)
    ∃ before after, before ++ after = ops ++ [op] ∧
      (∀ config, (reached (ops ++ [op])).config = some config →
        (reached (ops ++ [op])).lookup_tables = build_lookup_tables x config (reached before).health_status m) ∧
      (∀ op' ∈ after, op'.Keeps) ∧
      ∀ op' ∈ after, ∀ t, op'.changed_at = some t → now < t + DEBOUNCE_WINDOW := by
  intro reached
  obtain ⟨before,after,lags⟩ := Controller.run_lags tables health m (ops ++ [op]) ordered all
  refine ⟨before,after,lags.split,lags.tables,lags.keeps,fun op' among t changed => ?_⟩
  cases pending : (reached (ops ++ [op])).pending_since with
  | none =>
    rw [lags.idle pending] at among
    cases among
  | some since =>
    have no_later := lags.started since pending op' among t changed
    have last : reached (ops ++ [op]) = ((reached ops).perform x op).1 := by
      show Runs.after _ _ _ = _
      rw [Runs.after_append]
      rfl
    rw [last] at pending
    have early := (Controller.perform_waits pending).fresh now checks
    omega

private def onePool : LbConfig where
  vips := [⟨⟨"web"⟩,.V4 ⟨188,184,100,10⟩,[⟨.Tcp,443,"pool"⟩]⟩]
  pools := [⟨⟨"pool"⟩,[⟨.V4 ⟨10,0,0,1⟩,443,1,false⟩,⟨.V4 ⟨10,0,0,2⟩,443,1,false⟩]⟩]
private def flapping : List Op :=
  [.apply_config onePool,.on_health_change (.V4 ⟨10,0,0,1⟩) .Unhealthy 10 10,
    .on_health_change (.V4 ⟨10,0,0,1⟩) .Healthy 20 20]

private def constant_hash : Xxh3 := ⟨fun _ => 0,fun _ _ => 0⟩

/-- A backend fails and recovers within the window. -/
theorem tables_at_most_window_old_flapping : ∃ before after, before ++ after = flapping ++ [.tick 30] ∧
    ∀ op' ∈ after, ∀ t, op'.changed_at = some t → 30 < t + DEBOUNCE_WINDOW := by
  have early : ∀ {c : Controller} {since now : Nat}, c.pending_since = some since → now < since + DEBOUNCE_WINDOW →
      ¬ c.Due now := by
    rintro c since now pending fresh ⟨since',pending',due⟩
    rw [pending] at pending'
    cases pending'
    have some_window : 0 < DEBOUNCE_WINDOW := by decide
    omega
  obtain ⟨before,after,split,_,_,fresh⟩ := tables_at_most_window_old constant_hash ∅ ∅ ⟨2,Nat.prime_two⟩ flapping (.tick 30) 30 rfl
    (by decide) ⟨trivial,fun due => absurd due (early rfl (by decide)),fun due => absurd due (early rfl (by decide)),
      fun due => absurd due (early rfl (by decide)),trivial⟩
  exact ⟨before,after,split,fresh⟩

end Lb.Orchestrator
