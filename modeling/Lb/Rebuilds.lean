import Lb.Orchestrator

/-!
# Incremental rebuilds

A health change rebuilds only the tables of the pools with the backend, and
merges them into the map. Over all histories the map is the one that a full
rebuild would give, unless a rebuild finds a pool without a table that the map
still has a table for: the merge keeps it.
-/
namespace Lb.Orchestrator
open Lb.Addr Lb.Types Lb.Maglev Lb.Applier

namespace Controller

/-- The debounce window has elapsed. -/
def Due (c : Controller) (now : Nat) : Prop := ∃ since, c.pending_since = some since ∧ DEBOUNCE_WINDOW ≤ now - since

theorem maybe_flush_due {x : Xxh3} {c : Controller} {now : Nat} (due : c.Due now) :
    c.maybe_flush x now = c.flush x := by
  obtain ⟨since,pending,elapsed⟩ := due
  simp [maybe_flush,pending,elapsed]
theorem maybe_flush_early {x : Xxh3} {c : Controller} {now : Nat} (early : ¬ c.Due now) :
    c.maybe_flush x now = c := by
  unfold maybe_flush
  cases pending : c.pending_since with
  | none => rfl
  | some since =>
    have open_window : ¬ DEBOUNCE_WINDOW ≤ now - since := fun elapsed => early ⟨since,pending,elapsed⟩
    simp [open_window]

/-- A pool of the configuration with the id gets a table. -/
def BuildableId (config : LbConfig) (health : Health) (id : BackendPoolId) : Prop :=
  ∃ pool ∈ config.pools, pool.id = id ∧ Buildable health pool

/-- Every pending pool gets a table, or has none in the map. -/
def RebuildsAll (c : Controller) : Prop :=
  ∀ config, c.config = some config → ∀ id ∈ c.pending_pools,
    BuildableId config c.health_status id ∨ id ∉ c.lookup_tables

/-- The flushes that the operation makes rebuild all pending pools. -/
def FlushesAll (c : Controller) : Op → Prop
  | .on_health_change backend_ip status now now' =>
    (c.accumulate backend_ip status now).Due now' → (c.accumulate backend_ip status now).RebuildsAll
  | .tick now => c.Due now → c.RebuildsAll
  | .flush_pending => c.RebuildsAll
  | .apply_config _ | .reannounce_all | .withdraw_all => True

variable (x : Xxh3)

/-- The tables of pools that are not pending are as a full rebuild would make them. -/
structure Synced (c : Controller) : Prop where
  idle : c.pending_since = none → c.pending_pools = ∅
  index : ∀ config, c.config = some config → c.backend_pool_index = build_backend_pool_index config
  tables : ∀ config, c.config = some config → ∀ id ∉ c.pending_pools,
    c.lookup_tables.lookup id = table_of x config.pools c.health_status c.table_size id

/-- With no rebuild pending, the map is the one that a full rebuild gives. -/
def Rebuilt (c : Controller) : Prop :=
  ∀ config, c.config = some config → c.has_pending_rebuilds = false →
    c.lookup_tables = build_lookup_tables x config c.health_status c.table_size

variable {x} {c : Controller}

theorem Synced.rebuilt (synced : c.Synced x) : c.Rebuilt x := by
  intro config current none_pending
  have idle : c.pending_pools = ∅ := synced.idle (by simpa [has_pending_rebuilds] using none_pending)
  refine Finmap.ext_lookup fun id => ?_
  rw [build_lookup_tables,lookup_build]
  exact synced.tables config current id (by simp [idle])

theorem install_synced (config : LbConfig) : (c.install x config).Synced x where
  idle := fun _ => rfl
  index := by rintro _ ⟨⟩; rfl
  tables := by rintro _ ⟨⟩ id _; exact lookup_build

/-- The health of a backend does not matter to the pools without it. -/
theorem table_of_untouched (x : Xxh3) {config : LbConfig} {backend_ip : IpAddr} (status : HealthStatus) {id : BackendPoolId}
    (indexed : c.backend_pool_index = build_backend_pool_index config)
    (outside : id ∉ (c.backend_pool_index.lookup backend_ip).getD ∅) :
    table_of x config.pools (c.health_status.insert backend_ip status) c.table_size id =
      table_of x config.pools c.health_status c.table_size id := by
  rw [indexed,mem_index] at outside
  refine table_of_congr fun pool listed own b member => Finmap.lookup_insert_of_ne _ fun same => outside ?_
  exact ⟨pool,listed,own,b,member,same⟩

theorem accumulate_idle (idle : c.pending_since = none → c.pending_pools = ∅) (backend_ip : IpAddr)
    (status : HealthStatus) (now : Nat) : (c.accumulate backend_ip status now).pending_since = none →
      (c.accumulate backend_ip status now).pending_pools = ∅ := by
  rw [accumulate_eq]
  dsimp only
  intro none_pending
  split_ifs at none_pending with starts
  have old := idle none_pending
  cases indexed : c.backend_pool_index.lookup backend_ip with
  | none => simp [old]
  | some pool_ids => simp [indexed,none_pending] at starts

/-- A health change makes the pools with the backend pending. -/
theorem Synced.accumulate (synced : c.Synced x) (backend_ip : IpAddr) (status : HealthStatus) (now : Nat) :
    (c.accumulate backend_ip status now).Synced x := by
  have idle := accumulate_idle synced.idle backend_ip status now
  rw [accumulate_eq] at idle ⊢
  refine ⟨idle,synced.index,fun config current id outside => ?_⟩
  rw [Finset.mem_union,not_or] at outside
  exact (synced.tables config current id outside.1).trans
    (table_of_untouched x status (synced.index config current) outside.2).symm

theorem lookup_flushed {config : LbConfig} (current : c.config = some config) (id : BackendPoolId) :
    (c.flushed x).lookup id =
      (if id ∈ c.pending_pools then table_of x config.pools c.health_status c.table_size id else none).or
        (c.lookup_tables.lookup id) := by
  rw [flushed,current]
  dsimp only
  rw [lookup_apply_tables,lookup_build,table_of_filter]

/-- A flush that rebuilds all pending pools leaves every table as a full rebuild
    would make it. -/
theorem Synced.flush (synced : c.Synced x) (all : c.RebuildsAll) : (c.flush x).Synced x := by
  rw [flush_eq]
  refine ⟨fun _ => rfl,synced.index,fun config current id _ => ?_⟩
  replace current : c.config = some config := current
  show (c.flushed x).lookup id = table_of x config.pools c.health_status c.table_size id
  rw [lookup_flushed current]
  split_ifs with pending
  · rcases all config current id pending with buildable | absent
    · obtain ⟨t,built⟩ := table_of_buildable x c.table_size buildable
      rw [built]
      rfl
    · rw [Finmap.lookup_eq_none.mpr absent,Option.or_none]
  · exact synced.tables config current id pending

/-- A flush that does not is noticed: the map has a table too many. -/
theorem Rebuilt.all (rebuilt : (c.flush x).Rebuilt x) : c.RebuildsAll := by
  intro config current id pending
  rw [flush_eq] at rebuilt
  by_contra stale
  obtain ⟨unbuildable,present⟩ := not_or.mp stale
  have no_table : table_of x config.pools c.health_status c.table_size id = none := by
    rw [← Option.not_isSome_iff_eq_none,table_of_isSome]
    exact unbuildable
  have same : (c.flushed x).lookup id = _ := congrArg (Finmap.lookup id) (rebuilt config current rfl)
  rw [build_lookup_tables,lookup_build,lookup_flushed current,if_pos pending] at same
  dsimp only at same
  rw [no_table,Option.none_or,Finmap.lookup_eq_none] at same
  exact present same

/-! ### Runs -/

theorem Synced.announced (synced : c.Synced x) (vips : Finset Ipv4Addr) :
    ({ c with vips_announced := vips } : Controller).Synced x :=
  ⟨synced.idle,synced.index,synced.tables⟩
theorem Rebuilt.announced {vips : Finset Ipv4Addr}
    (rebuilt : ({ c with vips_announced := vips } : Controller).Rebuilt x) : c.Rebuilt x := rebuilt

theorem sync_state : ∃ vips, c.sync_bgp_announcements.1 = { c with vips_announced := vips } := by
  unfold sync_bgp_announcements
  split_ifs
  · exact ⟨_,rfl⟩
  · exact ⟨c.vips_announced,rfl⟩

/-- The announced addresses apart, a health change notes the change, and flushes
    if it is time. -/
theorem on_health_change_state (backend_ip : IpAddr) (status : HealthStatus) (now now' : Nat) :
    ∃ vips, (c.on_health_change x backend_ip status now now').1 =
      { (c.accumulate backend_ip status now).maybe_flush x now' with vips_announced := vips } := by
  obtain ⟨vips,state⟩ := (c.accumulate backend_ip status now).sync_state
  refine ⟨vips,?_⟩
  show maybe_flush x (c.accumulate backend_ip status now).sync_bgp_announcements.1 now' = _
  rw [state]
  generalize c.accumulate backend_ip status now = noted
  by_cases due : noted.Due now'
  · rw [maybe_flush_due due,maybe_flush_due (c := { noted with vips_announced := vips }) due,flush_eq,flush_eq]
    rfl
  · rw [maybe_flush_early due,maybe_flush_early (c := { noted with vips_announced := vips }) due]

theorem Synced.maybe_flush (synced : c.Synced x) {now : Nat} (all : c.Due now → c.RebuildsAll) :
    (c.maybe_flush x now).Synced x := by
  by_cases due : c.Due now
  · rw [maybe_flush_due due]
    exact synced.flush (all due)
  · rwa [maybe_flush_early due]

theorem Synced.perform (synced : c.Synced x) {op : Op} (all : c.FlushesAll op) : (c.perform x op).1.Synced x := by
  cases op with
  | apply_config config =>
    obtain ⟨vips,state⟩ := (c.install x config).sync_state
    rw [Controller.perform,apply_config,state]
    exact (install_synced config).announced vips
  | on_health_change backend_ip status now now' =>
    obtain ⟨vips,state⟩ := c.on_health_change_state (x := x) backend_ip status now now'
    rw [Controller.perform,state]
    exact ((synced.accumulate backend_ip status now).maybe_flush all).announced vips
  | tick now => exact synced.maybe_flush all
  | flush_pending => exact synced.flush all
  | reannounce_all => exact synced
  | withdraw_all => exact synced.announced ∅

theorem FlushesAll.of_rebuilt {op : Op} (rebuilt : (c.perform x op).1.Rebuilt x) : c.FlushesAll op := by
  cases op with
  | apply_config config => trivial
  | on_health_change backend_ip status now now' =>
    intro due
    obtain ⟨vips,state⟩ := c.on_health_change_state (x := x) backend_ip status now now'
    rw [perform,state,maybe_flush_due due] at rebuilt
    exact rebuilt.announced.all
  | tick now =>
    intro due
    rw [perform,tick,maybe_flush_due due] at rebuilt
    exact Rebuilt.all rebuilt
  | flush_pending => exact Rebuilt.all rebuilt
  | reannounce_all => trivial
  | withdraw_all => trivial

theorem flush_table_size : (c.flush x).table_size = c.table_size := by
  rw [flush_eq]

theorem perform_table_size (op : Op) : (c.perform x op).1.table_size = c.table_size := by
  cases op with
  | apply_config config =>
    obtain ⟨vips,state⟩ := (c.install x config).sync_state
    rw [perform,apply_config,state]
    rfl
  | on_health_change backend_ip status now now' =>
    obtain ⟨vips,state⟩ := c.on_health_change_state (x := x) backend_ip status now now'
    have same : (c.accumulate backend_ip status now).table_size = c.table_size := by
      rw [accumulate_eq]
    rw [perform,state]
    rcases (c.accumulate backend_ip status now).maybe_flush_cases (x := x) now' with kept | flushed
    · rw [kept]
      exact same
    · rw [flushed]
      exact flush_table_size.trans same
  | tick now =>
    rcases c.maybe_flush_cases (x := x) now with kept | flushed
    · rw [perform,tick,kept]
    · rw [perform,tick,flushed]
      exact flush_table_size
  | flush_pending => exact flush_table_size
  | reannounce_all => rfl
  | withdraw_all => rfl

end Controller

/-- Incremental rebuilds are as good as a full rebuild in every state of a run if
    and only if each flush on the way rebuilds every pending pool, or finds no
    table of it to keep. -/
theorem rebuilds_agree (x : Xxh3) (tables : LookupTables) (health : Health) (m : TableSize) (ops : List Op) :
    let c := Controller.new tables health m
    (∀ pre, pre <+: ops → (Runs.after (Controller.perform x) c pre).Rebuilt x) ↔
      Runs.Along (fun c op => (c.perform x op).1) Controller.FlushesAll c ops := by
  intro c
  have start : c.Synced x := ⟨fun _ => rfl,by rintro _ ⟨⟩,by rintro _ ⟨⟩⟩
  exact (Runs.along_iff (fun _ _ synced all => synced.perform all) (fun _ synced => synced.rebuilt)
    (fun _ _ _ rebuilt => .of_rebuilt rebuilt) start ops).symm

/-- One pool, with a backend of weight zero and one of weight one. -/
private def halfWeighted : LbConfig where
  vips := [⟨⟨"web"⟩,.V4 ⟨188,184,100,10⟩,[⟨.Tcp,443,"pool"⟩]⟩]
  pools := [⟨⟨"pool"⟩,[⟨.V4 ⟨10,0,0,1⟩,443,0,false⟩,⟨.V4 ⟨10,0,0,2⟩,443,1,false⟩]⟩]
private def hashed : Xxh3 where
  xxh3_64 := fun _ => 0
  xxh3_64_with_seed := fun name seed =>
    if name = as_bytes "10.0.0.2:443".toList ∧ seed = 0 then 11915930431517149075
    else if name = as_bytes "10.0.0.2:443".toList ∧ seed = 1 then 13901280948490368874
    else 0

/-- The only backend with weight turns unhealthy. The one left active gives no
    table, and the flush keeps the old one, which a full rebuild would not have. -/
theorem flush_keeps_stale_table :
    ¬ ∀ (x : Xxh3) (tables : LookupTables) (health : Health) (m : TableSize) (ops : List Op),
      (∃ config, .apply_config config ∈ ops) →
      let c := Runs.after (Controller.perform x) (Controller.new tables health m) ops
      c.has_pending_rebuilds = false → ∀ config, c.config = some config →
        c.lookup_tables = build_lookup_tables x config c.health_status m := by
  intro agree
  have same := agree hashed ∅ ∅ ⟨2,Nat.prime_two⟩
    [.apply_config halfWeighted,.on_health_change (.V4 ⟨10,0,0,2⟩) .Unhealthy 0 0,.flush_pending]
    ⟨halfWeighted,by simp⟩ (by decide) halfWeighted rfl
  have lookups := congrArg (fun tables => (tables.lookup ⟨"pool"⟩).isSome) same
  exact absurd lookups (by decide)

end Lb.Orchestrator
