import Lb.Applier
import Lb.Maps
import Lb.Feed
import Lb.Runs

/-!
# The controller

The controller keeps the lookup tables in step with the configuration and with
the health of the backends, at once for a configuration and after a short delay
for a health change, and tells the BGP speaker at once which addresses to
announce.
-/
namespace Lb.Orchestrator
open Lb.Addr Lb.Types Lb.Maglev Lb.Applier

/-- Health changes within this window are batched into one rebuild. -/
def DEBOUNCE_WINDOW : Nat := 50 * 1000000

/-- A call to the BGP announcer. -/
abbrev BgpCall := Feed.Update Ipv4Addr

structure Controller where
  lookup_tables : LookupTables
  health_status : Health
  config : Option LbConfig
  backend_pool_index : HashMap IpAddr (Finset BackendPoolId)
  pending_pools : Finset BackendPoolId
  pending_since : Option Nat
  table_size : TableSize
  bgp : Bool
  vips_announced : Finset Ipv4Addr

namespace Controller

def new (lookup_tables : LookupTables) (health_status : Health) (table_size : TableSize) : Controller where
  lookup_tables := lookup_tables
  health_status := health_status
  config := none
  backend_pool_index := ∅
  pending_pools := ∅
  pending_since := none
  table_size := table_size
  bgp := false
  vips_announced := ∅

def with_bgp (c : Controller) : Controller := { c with bgp := true }

def reannounce_all (c : Controller) : List BgpCall :=
  if c.bgp then Feed.announceAll c.vips_announced else []
def withdraw_all (c : Controller) : Controller × List BgpCall :=
  ({ c with vips_announced := ∅ },if c.bgp then Feed.withdrawAll c.vips_announced else [])

/-- For each pool, whether one of its backends is not known to be unhealthy. -/
def pool_healthy (config : LbConfig) (health : Health) : HashMap BackendPoolId Bool :=
  config.pools.foldl (fun m pool => m.insert pool.id (pool.backends.any (fun b => usable health b.ip))) ∅

/-- The IPv4 addresses with a service whose pool is healthy. -/
def desired_announced_vips (c : Controller) : Finset Ipv4Addr :=
  match c.config with
  | none => ∅
  | some config =>
    (config.vips.filterMap fun vip =>
      match vip.address with
      | .V4 v4 =>
        if vip.services.any (fun svc =>
            ((pool_healthy config c.health_status).lookup ⟨svc.backend_pool⟩).getD false) then some v4
        else none
      | .V6 _ => none).toFinset

def sync_bgp_announcements (c : Controller) : Controller × List BgpCall :=
  if c.bgp then
    let desired := c.desired_announced_vips
    ({ c with vips_announced := desired },Feed.diff c.vips_announced desired)
  else (c,[])

section
variable (x : Xxh3)

/-- The first part of `apply_config`: everything is rebuilt, which supersedes
    the pending rebuilds. -/
def install (c : Controller) (config : LbConfig) : Controller :=
  let new_tables := build_lookup_tables x config c.health_status c.table_size
  { c with
    pending_pools := ∅
    pending_since := none
    lookup_tables := replace_tables new_tables c.lookup_tables
    backend_pool_index := build_backend_pool_index config
    config := some config }
def apply_config (c : Controller) (config : LbConfig) : Controller × List BgpCall :=
  (c.install x config).sync_bgp_announcements

def flush (c : Controller) : Controller :=
  if c.pending_pools = ∅ then { c with pending_since := none }
  else
    match c.config with
    | none => { c with pending_pools := ∅, pending_since := none }
    | some config =>
      let affected_pools := config.pools.filter (fun p => p.id ∈ c.pending_pools)
      let lookup_tables :=
        if affected_pools.isEmpty then c.lookup_tables
        else apply_tables (build_lookup_tables_for_pools x affected_pools c.health_status c.table_size) c.lookup_tables
      { c with lookup_tables := lookup_tables, pending_pools := ∅, pending_since := none }

def maybe_flush (c : Controller) (now : Nat) : Controller :=
  match c.pending_since with
  | some since => if DEBOUNCE_WINDOW ≤ now - since then c.flush x else c
  | none => c

/-- The first part of `on_health_change`: the status is recorded, and the pools
    with the backend wait for a rebuild. -/
def accumulate (c : Controller) (backend_ip : IpAddr) (status : HealthStatus) (now : Nat) : Controller :=
  let c := { c with health_status := c.health_status.insert backend_ip status }
  match c.backend_pool_index.lookup backend_ip with
  | some pool_ids =>
    { c with
      pending_pools := c.pending_pools ∪ pool_ids
      pending_since := if c.pending_since.isNone then some now else c.pending_since }
  | none => c
/-- The clock is read when a change starts a debounce window, and again to see
    whether the window has elapsed. -/
def on_health_change (c : Controller) (backend_ip : IpAddr) (status : HealthStatus) (now now' : Nat) :
    Controller × List BgpCall :=
  let (c,calls) := (c.accumulate backend_ip status now).sync_bgp_announcements
  (c.maybe_flush x now',calls)

def tick (c : Controller) (now : Nat) : Controller := c.maybe_flush x now
def has_pending_rebuilds (c : Controller) : Bool := c.pending_since.isSome
def flush_pending (c : Controller) : Controller := c.flush x

end

end Controller

/-- The calls that the rest of the node makes to the controller. -/
inductive Op
  | apply_config (config : LbConfig)
  | on_health_change (backend_ip : IpAddr) (status : HealthStatus) (now now' : Nat)
  | tick (now : Nat)
  | flush_pending
  | reannounce_all
  | withdraw_all

def Controller.perform (x : Xxh3) (c : Controller) : Op → Controller × List BgpCall
  | .apply_config config => c.apply_config x config
  | .on_health_change backend_ip status now now' => c.on_health_change x backend_ip status now now'
  | .tick now => (c.tick x now,[])
  | .flush_pending => (c.flush_pending x,[])
  | .reannounce_all => (c,c.reannounce_all)
  | .withdraw_all => c.withdraw_all

/-! ### Desired announcements -/

/-- The pool of an id: the last one that the configuration lists. -/
def pool_of (pools : List BackendPool) (id : BackendPoolId) : Option BackendPool :=
  (pools.filter (fun p => p.id = id)).getLast?

/-- The address has a service whose pool has a backend that is not known to be
    unhealthy. -/
def HealthyVip (config : Option LbConfig) (health : Health) (v4 : Ipv4Addr) : Prop :=
  ∃ cfg, config = some cfg ∧ ∃ vip ∈ cfg.vips, vip.address = .V4 v4 ∧ ∃ svc ∈ vip.services,
    ∃ pool, pool_of cfg.pools ⟨svc.backend_pool⟩ = some pool ∧
      ∃ b ∈ pool.backends, health.lookup b.ip ≠ some .Unhealthy

section
variable {config : LbConfig} {health : Health} {id : BackendPoolId}

theorem lookup_pool_healthy : (Controller.pool_healthy config health).lookup id =
    (pool_of config.pools id).map (fun pool => pool.backends.any (fun b => usable health b.ip)) := by
  rw [Controller.pool_healthy,Maps.lookup_foldl_insert BackendPool.id]
  simp [pool_of]

theorem pool_healthy_iff : ((Controller.pool_healthy config health).lookup id).getD false = true ↔
    ∃ pool, pool_of config.pools id = some pool ∧ ∃ b ∈ pool.backends, health.lookup b.ip ≠ some .Unhealthy := by
  rw [lookup_pool_healthy]
  cases pool_of config.pools id <;> simp [usable_iff]

end

namespace Controller
variable {x : Xxh3} {c : Controller}

theorem mem_desired {v4 : Ipv4Addr} :
    v4 ∈ c.desired_announced_vips ↔ HealthyVip c.config c.health_status v4 := by
  unfold desired_announced_vips HealthyVip
  cases c.config with
  | none => simp
  | some config =>
    simp only [List.mem_toFinset,List.mem_filterMap,Option.some.injEq,exists_eq_left']
    refine exists_congr fun vip => and_congr_right fun _ => ?_
    cases vip.address with
    | V4 ip =>
      simp only [Option.ite_none_right_eq_some,List.any_eq_true,pool_healthy_iff,Option.some.injEq,IpAddr.V4.injEq]
      exact and_comm
    | V6 ip => simp

/-! ### What the operations do -/

variable (x) in
/-- The tables after a flush. -/
def flushed (c : Controller) : LookupTables :=
  match c.config with
  | none => c.lookup_tables
  | some config =>
    apply_tables (build_lookup_tables_for_pools x (config.pools.filter (fun p => p.id ∈ c.pending_pools))
      c.health_status c.table_size) c.lookup_tables

/-- A flush rebuilds the tables of the pending pools, and does nothing else. -/
theorem flush_eq :
    c.flush x = { c with lookup_tables := c.flushed x, pending_pools := ∅, pending_since := none } := by
  have nothing : ∀ tables : LookupTables, apply_tables ∅ tables = tables := fun _ => Finmap.empty_union
  unfold flush flushed
  split_ifs with idle
  · have none_pending : ({ c with pending_since := none } : Controller) =
        { c with pending_pools := ∅, pending_since := none } := by rw [← idle]
    rw [none_pending]
    cases c.config with
    | none => rfl
    | some config => simp [idle,build_lookup_tables_for_pools,nothing]
  · cases c.config with
    | none => rfl
    | some config =>
      by_cases unaffected : config.pools.filter (fun p => p.id ∈ c.pending_pools) = []
      · simp [unaffected,build_lookup_tables_for_pools,nothing]
      · have affected : (config.pools.filter (fun p => p.id ∈ c.pending_pools)).isEmpty = false := by
          simpa using unaffected
        simp [affected]

theorem maybe_flush_cases (now : Nat) :
    c.maybe_flush x now = c ∨ c.maybe_flush x now = c.flush x := by
  unfold maybe_flush
  cases c.pending_since with
  | none => exact .inl rfl
  | some since => dsimp only; split_ifs <;> simp

/-- What becomes of the announced addresses when tables are rebuilt: nothing. -/
theorem maybe_flush_announced (now : Nat) :
    (c.maybe_flush x now).vips_announced = c.vips_announced ∧ (c.maybe_flush x now).bgp = c.bgp ∧
      (c.maybe_flush x now).config = c.config ∧ (c.maybe_flush x now).health_status = c.health_status := by
  rcases c.maybe_flush_cases (x := x) now with same | flushes
  · rw [same]
    exact ⟨rfl,rfl,rfl,rfl⟩
  · rw [flushes,flush_eq]
    exact ⟨rfl,rfl,rfl,rfl⟩

/-- The pools with the backend become pending, and start a window if there are any. -/
theorem accumulate_eq (backend_ip : IpAddr) (status : HealthStatus) (now : Nat) :
    c.accumulate backend_ip status now = { c with
      health_status := c.health_status.insert backend_ip status
      pending_pools := c.pending_pools ∪ (c.backend_pool_index.lookup backend_ip).getD ∅
      pending_since :=
        if (c.backend_pool_index.lookup backend_ip).isSome ∧ c.pending_since.isNone then some now
        else c.pending_since } := by
  unfold accumulate
  dsimp only
  cases c.backend_pool_index.lookup backend_ip <;> simp

theorem accumulate_announced (backend_ip : IpAddr) (status : HealthStatus) (now : Nat) :
    (c.accumulate backend_ip status now).vips_announced = c.vips_announced ∧
      (c.accumulate backend_ip status now).bgp = c.bgp ∧ (c.accumulate backend_ip status now).config = c.config ∧
      (c.accumulate backend_ip status now).health_status = c.health_status.insert backend_ip status := by
  rw [accumulate_eq]
  exact ⟨rfl,rfl,rfl,rfl⟩

/-! ### Announcements -/

theorem sync_spec (attached : c.bgp = true) :
    c.sync_bgp_announcements.1 = { c with vips_announced := c.desired_announced_vips } ∧
      c.sync_bgp_announcements.2 = Feed.diff c.vips_announced c.desired_announced_vips := by
  simp [sync_bgp_announcements,attached]

/-- The calls lead from the addresses announced before an operation to those
    announced after it. -/
structure Announces (c : Controller) (r : Controller × List BgpCall) : Prop where
  attached : r.1.bgp = true
  leads : Feed.Leads c.vips_announced r.2 r.1.vips_announced

theorem apply_config_eq (attached : c.bgp = true) (config : LbConfig) :
    c.apply_config x config =
      ({ c.install x config with vips_announced := (c.install x config).desired_announced_vips },
        Feed.diff c.vips_announced (c.install x config).desired_announced_vips) := by
  obtain ⟨state,calls⟩ := (c.install x config).sync_spec attached
  rw [apply_config,← state,← show _ = Feed.diff c.vips_announced _ from calls]

theorem on_health_change_eq (attached : c.bgp = true) (backend_ip : IpAddr) (status : HealthStatus)
    (now now' : Nat) :
    let noted := c.accumulate backend_ip status now
    c.on_health_change x backend_ip status now now' =
      (({ noted with vips_announced := noted.desired_announced_vips } : Controller).maybe_flush x now',
        Feed.diff c.vips_announced noted.desired_announced_vips) := by
  intro noted
  obtain ⟨vips,bgp,_,_⟩ := c.accumulate_announced backend_ip status now
  obtain ⟨state,calls⟩ := noted.sync_spec (bgp.trans attached)
  rw [on_health_change]
  show (maybe_flush x noted.sync_bgp_announcements.1 now',noted.sync_bgp_announcements.2) = _
  rw [state,calls,vips]

/-- With an announcer attached, the announced addresses are those with a healthy
    pool after every change of the configuration or of the health. -/
theorem apply_config_announced (attached : c.bgp = true) (config : LbConfig) (v4 : Ipv4Addr) :
    v4 ∈ (c.apply_config x config).1.vips_announced ↔
      HealthyVip (c.apply_config x config).1.config (c.apply_config x config).1.health_status v4 := by
  rw [apply_config_eq attached]
  exact mem_desired
theorem on_health_change_announced (attached : c.bgp = true) (backend_ip : IpAddr) (status : HealthStatus)
    (now now' : Nat) (v4 : Ipv4Addr) :
    v4 ∈ (c.on_health_change x backend_ip status now now').1.vips_announced ↔
      HealthyVip (c.on_health_change x backend_ip status now now').1.config
        (c.on_health_change x backend_ip status now now').1.health_status v4 := by
  rw [on_health_change_eq attached]
  dsimp only
  obtain ⟨vips,_,config,health⟩ := maybe_flush_announced (x := x) (c := { c.accumulate backend_ip status now with
    vips_announced := (c.accumulate backend_ip status now).desired_announced_vips }) now'
  rw [vips,config,health]
  exact mem_desired

theorem perform_announces (attached : c.bgp = true) (op : Op) : Announces c (c.perform x op) := by
  cases op with
  | apply_config config =>
    rw [perform,apply_config_eq attached]
    exact ⟨attached,Feed.leads_diff _ _⟩
  | on_health_change backend_ip status now now' =>
    rw [perform,on_health_change_eq attached]
    obtain ⟨vips,bgp,_,_⟩ := maybe_flush_announced (x := x) (c := { c.accumulate backend_ip status now with
      vips_announced := (c.accumulate backend_ip status now).desired_announced_vips }) now'
    refine ⟨bgp.trans ((c.accumulate_announced backend_ip status now).2.1.trans attached),?_⟩
    dsimp only
    rw [vips]
    exact Feed.leads_diff _ _
  | tick now =>
    obtain ⟨vips,bgp,_,_⟩ := c.maybe_flush_announced (x := x) now
    refine ⟨bgp.trans attached,?_⟩
    show Feed.Leads _ [] (c.maybe_flush x now).vips_announced
    rw [vips]
    exact Feed.Leads.refl _
  | flush_pending =>
    rw [perform,flush_pending,flush_eq]
    exact ⟨attached,Feed.Leads.refl _⟩
  | reannounce_all =>
    refine ⟨attached,?_⟩
    simp only [perform,reannounce_all,attached,if_true]
    exact Feed.leads_announceAll _
  | withdraw_all =>
    refine ⟨attached,?_⟩
    simp only [perform,withdraw_all,attached,if_true]
    exact Feed.leads_withdrawAll _

/-- No call is made for nothing. -/
theorem perform_nonempty (attached : c.bgp = true) (op : Op) : ∀ call ∈ (c.perform x op).2, call.items ≠ [] := by
  cases op with
  | apply_config config =>
    rw [perform,apply_config_eq attached]
    exact Feed.diff_nonempty _ _
  | on_health_change backend_ip status now now' =>
    rw [perform,on_health_change_eq attached]
    exact Feed.diff_nonempty _ _
  | tick now => simp [perform]
  | flush_pending => simp [perform]
  | reannounce_all =>
    simp only [perform,reannounce_all,attached,if_true]
    exact Feed.announceAll_nonempty _
  | withdraw_all =>
    simp only [perform,withdraw_all,attached,if_true]
    exact Feed.withdrawAll_nonempty _

/-- Only `reannounce_all` announces what is announced already. -/
theorem perform_exact (attached : c.bgp = true) {op : Op} (fresh : op ≠ .reannounce_all) :
    Feed.Exact c.vips_announced (c.perform x op).2 := by
  cases op with
  | apply_config config =>
    rw [perform,apply_config_eq attached]
    exact Feed.exact_diff _ _
  | on_health_change backend_ip status now now' =>
    rw [perform,on_health_change_eq attached]
    exact Feed.exact_diff _ _
  | tick now => trivial
  | flush_pending => trivial
  | reannounce_all => exact absurd rfl fresh
  | withdraw_all =>
    simp only [perform,withdraw_all,attached,if_true]
    exact Feed.exact_withdraw_whole _

end Controller

section
variable {x : Xxh3} (tables : LookupTables) (health : Health) (m : TableSize)

/-- The calls of a run lead to what the controller believes is announced. -/
theorem run_announces (ops : List Op) :
    let c := (Controller.new tables health m).with_bgp
    let c' := Runs.after (Controller.perform x) c ops
    c'.bgp = true ∧ Feed.replay ∅ (Runs.effects (Controller.perform x) c ops) = c'.vips_announced := by
  intro c
  dsimp only
  induction ops using List.reverseRecOn with
  | nil => exact ⟨rfl,rfl⟩
  | append_singleton ops op ih =>
    obtain ⟨attached,replayed⟩ := ih
    have step := Controller.perform_announces (x := x) attached op
    refine ⟨?_,?_⟩
    · rw [Runs.after_append]
      exact step.attached
    · rw [Runs.after_append,Runs.effects_append,Feed.replay_append,replayed]
      simp only [Runs.effects,List.append_nil]
      exact step.leads.whole

/-- The calls to the announcer, replayed in order, give the announced addresses
    after every operation. After a change of the configuration or of the health
    these are the addresses with a healthy pool, and no call but a
    re-announcement repeats what the announcer has been told. -/
theorem announcements_tracked (ops : List Op) :
    let c := (Controller.new tables health m).with_bgp
    let c' := Runs.after (Controller.perform x) c ops
    Feed.replay ∅ (Runs.effects (Controller.perform x) c ops) = c'.vips_announced ∧
    ∀ op,
      (match op with
        | .apply_config _ | .on_health_change .. => ∀ v4, v4 ∈ (c'.perform x op).1.vips_announced ↔
            HealthyVip (c'.perform x op).1.config (c'.perform x op).1.health_status v4
        | _ => True) ∧
      (op ≠ .reannounce_all → Feed.Exact c'.vips_announced (c'.perform x op).2) := by
  intro c c'
  obtain ⟨attached,replayed⟩ := run_announces (x := x) tables health m ops
  refine ⟨replayed,fun op => ⟨?_,fun fresh => Controller.perform_exact attached fresh⟩⟩
  cases op with
  | apply_config config => exact Controller.apply_config_announced attached config
  | on_health_change backend_ip status now now' =>
    exact Controller.on_health_change_announced attached backend_ip status now now'
  | tick now => trivial
  | flush_pending => trivial
  | reannounce_all => trivial
  | withdraw_all => trivial

end

end Lb.Orchestrator
