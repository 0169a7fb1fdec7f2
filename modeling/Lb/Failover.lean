import Lb.System

/-!
# Failover

Once no rebuild is pending, no packet goes to a backend that is known to be
unhealthy, as long as the pool of its service has a backend that can take it.
-/
namespace Lb.Orchestrator.Controller
open Lb.Addr Lb.Types Lb.Maglev Lb.Applier

variable (x : Xxh3)

/-- The map has tables of configured pools only, and every pool that is not
    pending and gets a table has the one that the current health gives. -/
structure Current (c : Controller) : Prop where
  idle : c.pending_since = none → c.pending_pools = ∅
  index : ∀ config, c.config = some config → c.backend_pool_index = build_backend_pool_index config
  known : ∀ id ∈ c.lookup_tables, ∃ config, c.config = some config ∧ ∃ pool ∈ config.pools, pool.id = id
  tables : ∀ config, c.config = some config → ∀ id ∉ c.pending_pools, BuildableId config c.health_status id →
    c.lookup_tables.lookup id = table_of x config.pools c.health_status c.table_size id

variable {x} {c : Controller}

theorem Current.announced (current : c.Current x) (vips : Finset Ipv4Addr) :
    ({ c with vips_announced := vips } : Controller).Current x :=
  ⟨current.idle,current.index,current.known,current.tables⟩

/-- A pool that a table comes from is one of the configuration. -/
theorem known_of_table {config : LbConfig} {health : Health} {m : TableSize} {id : BackendPoolId}
    (built : (table_of x config.pools health m id).isSome) : ∃ pool ∈ config.pools, pool.id = id := by
  obtain ⟨pool,listed,own,_⟩ := table_of_isSome.mp built
  exact ⟨pool,listed,own⟩

theorem install_current (config : LbConfig) : (c.install x config).Current x where
  idle := fun _ => rfl
  index := by rintro _ ⟨⟩; rfl
  known := by
    intro id present
    have built : (table_of x config.pools c.health_status c.table_size id).isSome := by
      rw [← lookup_build]
      exact Finmap.lookup_isSome.mpr present
    exact ⟨config,rfl,known_of_table built⟩
  tables := by rintro _ ⟨⟩ id _ _; exact lookup_build

theorem apply_config_current (config : LbConfig) : (c.apply_config x config).1.Current x := by
  obtain ⟨vips,state⟩ := (c.install x config).sync_state
  rw [apply_config,state]
  exact (install_current config).announced vips

theorem Current.accumulate (current : c.Current x) (backend_ip : IpAddr) (status : HealthStatus) (now : Nat) :
    (c.accumulate backend_ip status now).Current x := by
  have idle := accumulate_idle current.idle backend_ip status now
  rw [accumulate_eq] at idle ⊢
  refine ⟨idle,current.index,current.known,fun config configured id outside buildable => ?_⟩
  rw [Finset.mem_union,not_or] at outside
  have untouched := table_of_untouched x status (current.index config configured) outside.2
  dsimp only
  rw [untouched]
  obtain ⟨t,built⟩ := table_of_buildable x c.table_size buildable
  have unchanged : table_of x config.pools c.health_status c.table_size id = some t := untouched.symm.trans built
  exact current.tables config configured id outside.1 (table_of_isSome.mp (by rw [unchanged]; rfl))

/-- A flush brings the pending pools that get a table up to date. -/
theorem Current.flush (current : c.Current x) : (c.flush x).Current x := by
  rw [flush_eq]
  refine ⟨fun _ => rfl,current.index,?_,?_⟩
  · intro id present
    dsimp only at present ⊢
    cases configured : c.config with
    | none =>
      rw [flushed,configured] at present
      obtain ⟨config,configured',_⟩ := current.known id present
      rw [configured] at configured'
      cases configured'
    | some config =>
      rw [← Finmap.lookup_isSome,lookup_flushed configured] at present
      cases old : c.lookup_tables.lookup id with
      | some t =>
        obtain ⟨config',configured',known⟩ := current.known id (Finmap.lookup_isSome.mp (by rw [old]; rfl))
        rw [configured] at configured'
        exact ⟨config',configured',known⟩
      | none =>
        rw [old,Option.or_none] at present
        split_ifs at present
        · exact ⟨config,rfl,known_of_table present⟩
        · cases present
  · intro config configured id _ buildable
    replace configured : c.config = some config := configured
    show (c.flushed x).lookup id = table_of x config.pools c.health_status c.table_size id
    rw [lookup_flushed configured]
    split_ifs with pending
    · obtain ⟨t,built⟩ := table_of_buildable x c.table_size buildable
      rw [built]
      rfl
    · exact current.tables config configured id pending buildable

theorem Current.maybe_flush (current : c.Current x) (now : Nat) : (c.maybe_flush x now).Current x := by
  rcases c.maybe_flush_cases (x := x) now with same | flushes
  · rwa [same]
  · rw [flushes]
    exact current.flush

theorem Current.perform (current : c.Current x) (op : Op) : (c.perform x op).1.Current x := by
  cases op with
  | apply_config config => exact apply_config_current config
  | on_health_change backend_ip status now now' =>
    obtain ⟨vips,state⟩ := c.on_health_change_state (x := x) backend_ip status now now'
    rw [Controller.perform,state]
    exact ((current.accumulate backend_ip status now).maybe_flush now').announced vips
  | tick now => exact current.maybe_flush now
  | flush_pending => exact current.flush
  | reannounce_all => exact current
  | withdraw_all => exact current.announced ∅

/-- With no rebuild pending, the table of a pool all of whose entries have a
    backend that can take traffic answers with backends that are not unhealthy. -/
theorem Current.lookup_healthy (current : c.Current x) (none_pending : c.has_pending_rebuilds = false)
    {id : BackendPoolId} {t : LookupTable} (found : c.lookup_tables.lookup id = some t)
    (able : ∀ config, c.config = some config → ∀ pool ∈ config.pools, pool.id = id →
      ∃ b ∈ pool.backends, b.drain = false ∧ c.health_status.lookup b.ip ≠ some .Unhealthy ∧ 0 < b.weight)
    (hash : UInt64) : c.health_status.lookup (t.lookup hash).ip ≠ some .Unhealthy := by
  have idle : c.pending_pools = ∅ := current.idle (by simpa [has_pending_rebuilds] using none_pending)
  obtain ⟨config,configured,pool,listed,rfl⟩ := current.known id (Finmap.lookup_isSome.mp (by rw [found]; rfl))
  have active : ∀ other ∈ config.pools, other.id = pool.id →
      ∃ b ∈ active_backends c.health_status other, 0 < b.weight := by
    intro other member own
    obtain ⟨b,inside,undrained,healthy,weighted⟩ := able config configured other member own
    exact ⟨b,mem_active_backends.mpr ⟨inside,undrained,usable_iff.mpr healthy⟩,weighted⟩
  have built := current.tables config configured pool.id (by simp [idle])
    ⟨pool,listed,rfl,.inl (active pool listed rfl)⟩
  rw [found] at built
  obtain ⟨source,member,own,table⟩ := table_of_eq_some built.symm
  obtain ⟨b,inside,_⟩ := active source member own
  obtain ⟨_,_,chosen⟩ := pool_table_backends table (t.lookup_mem hash)
  have selected := mem_active_backends.mp (chosen (List.ne_nil_of_mem inside))
  exact usable_iff.mp selected.2.2

end Lb.Orchestrator.Controller

namespace Lb.System
open Lb.Addr Lb.Types Lb.Packet Lb.Buffer Lb.Maglev Lb.Applier Lb.Vips Lb.Rewriter Lb.Orchestrator

theorem boot_current (x : Xxh3) (initial : Option LbConfig) (m : TableSize) : (boot x initial m).1.Current x := by
  cases initial with
  | none => exact ⟨fun _ => rfl,by rintro _ ⟨⟩,fun id present => absurd present Finmap.notMem_empty,by rintro _ ⟨⟩⟩
  | some config => exact Controller.apply_config_current config

/-- Once no rebuild is pending, a packet that is not a later fragment is not
    forwarded to a backend that is known to be unhealthy, whatever the thread's
    tables hold, if every pool entry of the matched id has a backend that is
    undrained, not unhealthy and of positive weight. -/
theorem no_traffic_to_unhealthy (x : Xxh3) (initial : Option LbConfig) (m : TableSize) (rewriter : RewriterThread)
    (events : List Event) (r : RewriterThread) (vip_matcher : VipMatcher) (input : PacketBuf) (now : Nat)
    (backend : Ipv4Addr) :
    let c := (events.foldl (Node.step x) (.start x initial m rewriter)).controller
    c.has_pending_rebuilds = false → is_non_first_fragment input.as_slice = false →
    (∀ config, c.config = some config → ∀ pool ∈ config.pools, matched_pool vip_matcher input = some pool.id →
      ∃ b ∈ pool.backends, b.drain = false ∧ c.health_status.lookup b.ip ≠ some .Unhealthy ∧ 0 < b.weight) →
    (r.process_one x ⟨vip_matcher,c.lookup_tables,c.health_status⟩ input now).2.forwarded_to = some backend →
    c.health_status.lookup (.V4 backend) ≠ some .Unhealthy := by
  intro c none_pending first able forwarded
  have current : c.Current x :=
    Runs.invariant (fun n : Node => n.controller.Current x)
      (fun n event current => by
        cases event with
        | control op => exact current.perform op
        | store_matcher config => exact current
        | load_matcher => exact current
        | load_tables => exact current
        | process input now => exact current)
      (boot_current x initial m) events
  obtain ⟨pkt_meta,lookup_table,resolved,selected⟩ := RewriterThread.forwarded_to_backend first forwarded
  obtain ⟨_,_,pool_id,matched,found⟩ := RewriterThread.resolve_eq_some resolved
  rw [← selected]
  have fresh : c.health_status.lookup (lookup_table.lookup (pkt_meta.flow_hash x)).ip ≠ some .Unhealthy :=
    current.lookup_healthy none_pending found (fun config configured pool listed own =>
      able config configured pool listed (own ▸ matched)) _
  rcases backend_of_cases x r.conn_table c.health_status lookup_table pkt_meta now with healthy | hashed
  · exact usable_iff.mp healthy
  · rwa [hashed]

private def oneDown : List Event := [.control (.on_health_change (.V4 ⟨10,0,0,1⟩) .Unhealthy 0 0),.control .flush_pending]
private def booted : Node := .start hashedPair (some (pair false)) ⟨2,Nat.prime_two⟩ idle

/-- The first of two backends is unhealthy, and a packet of a flow that is pinned
    to it goes to the second one. -/
theorem no_traffic_to_unhealthy_pinned :
    (oneDown.foldl (Node.step hashedPair) booted).controller.health_status.lookup (.V4 ⟨10,0,0,2⟩) ≠ some .Unhealthy := by
  refine no_traffic_to_unhealthy hashedPair (some (pair false)) ⟨2,Nat.prime_two⟩ idle oneDown
    (idle.step hashedPair opening) (build_vip_matcher (pair false)) (segment 40000 40 []) (from_secs 2) ⟨10,0,0,2⟩
    (by decide) (by decide) ?_ (by decide +kernel)
  have unchanged : (oneDown.foldl (Node.step hashedPair) booted).controller.config = some (pair false) := by
    decide +kernel
  intro config configured
  cases configured.symm.trans unchanged
  decide +kernel

end Lb.System
