import Lb.Rebuilds
import Lb.Validator

/-!
# Announced addresses and lookup tables

Whether an address is announced depends on the health of its pools, at once;
whether its packets find a lookup table depends on weights and drains as well,
and on rebuilds that come later. An address is announced without a table where
the backends that are left healthy carry no weight.
-/
namespace Lb.Orchestrator
open Lb.Addr Lb.Types Lb.Maglev Lb.Applier

/-- A service of the address has the property, by the id of its pool. -/
def SomeService (config : LbConfig) (v4 : Ipv4Addr) (has : BackendPoolId → Prop) : Prop :=
  ∃ vip ∈ config.vips, vip.address = .V4 v4 ∧ ∃ svc ∈ vip.services, has ⟨svc.backend_pool⟩

theorem SomeService.imp {config : LbConfig} {v4 : Ipv4Addr} {has has' : BackendPoolId → Prop}
    (some_service : SomeService config v4 has) (weaker : ∀ id, has id → has' id) : SomeService config v4 has' := by
  obtain ⟨vip,listed,address,svc,offered,holds⟩ := some_service
  exact ⟨vip,listed,address,svc,offered,weaker _ holds⟩

/-- The pool of the id has a backend of positive weight. -/
def Weighted (config : LbConfig) (id : BackendPoolId) : Prop :=
  ∃ pool, pool_of config.pools id = some pool ∧ ∃ b ∈ pool.backends, 0 < b.weight

namespace Controller

/-- Every announced address has a service whose pool has a lookup table. -/
def Forwardable (c : Controller) : Prop :=
  ∀ v4 ∈ c.vips_announced, ∃ config, c.config = some config ∧ SomeService config v4 (· ∈ c.lookup_tables)

/-- The operation announces addresses only if a service of theirs is backed by
    weight: by a table that it builds, when it applies a configuration; by a pool
    with a backend of positive weight, when it is a health change. Where several
    pools share an id, the table of another pool will do, one that is there or
    that the same operation builds. -/
def BackedByWeight (c : Controller) : Op → Prop
  | .apply_config config => ∀ v4, HealthyVip (some config) c.health_status v4 →
      SomeService config v4 (BuildableId config c.health_status)
  | .on_health_change backend_ip status now now' =>
      let noted := c.accumulate backend_ip status now
      ∀ v4 ∉ c.vips_announced, HealthyVip noted.config noted.health_status v4 →
        ∃ config, c.config = some config ∧ SomeService config v4 fun id =>
          Weighted config id ∨ id ∈ c.lookup_tables ∨
            noted.Due now' ∧ id ∈ noted.pending_pools ∧ BuildableId config noted.health_status id
  | .tick _ | .flush_pending | .reannounce_all | .withdraw_all => True

/-- Beside the announced addresses, every address that has a pool with weight
    has a service with a table. -/
structure Backed (c : Controller) : Prop where
  attached : c.bgp = true
  forwardable : c.Forwardable
  weighted : ∀ config, c.config = some config → ∀ v4, SomeService config v4 (Weighted config) →
    SomeService config v4 (· ∈ c.lookup_tables)

variable {x : Xxh3} {c c' : Controller}

/-- More tables back no fewer addresses. -/
theorem Backed.grow (backed : c.Backed) (attached : c'.bgp = c.bgp) (announced : c'.vips_announced ⊆ c.vips_announced)
    (config : c'.config = c.config) (grows : ∀ id ∈ c.lookup_tables, id ∈ c'.lookup_tables) : c'.Backed where
  attached := attached.trans backed.attached
  forwardable := by
    intro v4 known
    obtain ⟨cfg,current,some_service⟩ := backed.forwardable v4 (announced known)
    exact ⟨cfg,config.trans current,some_service.imp grows⟩
  weighted := fun cfg current v4 some_service => (backed.weighted cfg (config ▸ current) v4 some_service).imp grows

theorem mem_flushed {config : LbConfig} (current : c.config = some config) {id : BackendPoolId} :
    id ∈ c.flushed x ↔ id ∈ c.pending_pools ∧ BuildableId config c.health_status id ∨ id ∈ c.lookup_tables := by
  rw [← Finmap.lookup_isSome,lookup_flushed current,Option.isSome_or,Bool.or_eq_true,Finmap.lookup_isSome]
  refine or_congr_left ?_
  split_ifs with pending
  · rw [table_of_isSome]
    exact ⟨fun buildable => ⟨pending,buildable⟩,And.right⟩
  · simp [pending]

theorem flushed_grows {id : BackendPoolId} (present : id ∈ c.lookup_tables) : id ∈ c.flushed x := by
  cases current : c.config with
  | none => simpa [flushed,current] using present
  | some config => exact (mem_flushed current).mpr (.inr present)

theorem Backed.flush (backed : c.Backed) : (c.flush x).Backed := by
  rw [flush_eq]
  exact backed.grow rfl (Finset.Subset.refl _) rfl (fun _ => flushed_grows)

theorem Backed.maybe_flush (backed : c.Backed) (now : Nat) : (c.maybe_flush x now).Backed := by
  rcases c.maybe_flush_cases (x := x) now with same | flushes
  · rwa [same]
  · rw [flushes]
    exact backed.flush

/-! ### A new configuration -/

theorem mem_install_tables {config : LbConfig} {id : BackendPoolId} :
    id ∈ (c.install x config).lookup_tables ↔ BuildableId config c.health_status id :=
  mem_build

/-- A pool with weight has a table, or backends without weight keep it healthy. -/
theorem weighted_cases {config : LbConfig} (health : Health) {id : BackendPoolId} (weighted : Weighted config id) :
    BuildableId config health id ∨ ∃ pool, pool_of config.pools id = some pool ∧
      ∃ b ∈ pool.backends, health.lookup b.ip ≠ some .Unhealthy := by
  obtain ⟨pool,last,b,listed,heavy⟩ := weighted
  obtain ⟨member,own⟩ := Maps.last_mem last
  cases active : active_backends health pool with
  | nil => exact .inl ⟨pool,member,own,.inr ⟨active,b,listed,heavy⟩⟩
  | cons a rest =>
    have usable_a := mem_active_backends.mp (active ▸ List.mem_cons_self : a ∈ active_backends health pool)
    exact .inr ⟨pool,last,a,usable_a.1,usable_iff.mp usable_a.2.2⟩

theorem Backed.apply_config (attached : c.bgp = true) {config : LbConfig}
    (by_weight : c.BackedByWeight (.apply_config config)) : (c.apply_config x config).1.Backed := by
  obtain ⟨state,_⟩ := (c.install x config).sync_spec attached
  rw [Controller.apply_config,state]
  have tables : ∀ v4, HealthyVip (some config) c.health_status v4 →
      SomeService config v4 (· ∈ (c.install x config).lookup_tables) :=
    fun v4 healthy => (by_weight v4 healthy).imp fun _ => mem_install_tables.mpr
  refine ⟨attached,fun v4 known => ⟨config,rfl,tables v4 (mem_desired.mp known)⟩,?_⟩
  rintro _ ⟨⟩ v4 ⟨vip,listed,address,svc,offered,weighted⟩
  rcases weighted_cases c.health_status weighted with buildable | ⟨pool,last,healthy⟩
  · exact ⟨vip,listed,address,svc,offered,mem_install_tables.mpr buildable⟩
  · exact tables v4 ⟨config,rfl,vip,listed,address,svc,offered,pool,last,healthy⟩

/-! ### A health change -/

theorem mem_maybe_flush_tables {config : LbConfig} (current : c.config = some config) {now : Nat} {id : BackendPoolId} :
    id ∈ (c.maybe_flush x now).lookup_tables ↔ id ∈ c.lookup_tables ∨
      c.Due now ∧ id ∈ c.pending_pools ∧ BuildableId config c.health_status id := by
  by_cases due : c.Due now
  · rw [maybe_flush_due due,flush_eq]
    simp only [mem_flushed current,due,true_and]
    exact or_comm
  · simp [maybe_flush_early due,due]

/-- What a health change does to the tables. -/
theorem mem_on_health_change_tables {config : LbConfig} (attached : c.bgp = true) (current : c.config = some config)
    (backend_ip : IpAddr) (status : HealthStatus) (now now' : Nat) {id : BackendPoolId} :
    let noted := c.accumulate backend_ip status now
    id ∈ (c.on_health_change x backend_ip status now now').1.lookup_tables ↔ id ∈ c.lookup_tables ∨
      noted.Due now' ∧ id ∈ noted.pending_pools ∧ BuildableId config noted.health_status id := by
  intro noted
  have config_kept : noted.config = some config := (c.accumulate_announced backend_ip status now).2.2.1.trans current
  have tables_kept : noted.lookup_tables = c.lookup_tables := by rw [show noted = _ from accumulate_eq ..]
  rw [on_health_change_eq attached,← tables_kept]
  exact mem_maybe_flush_tables (c := { noted with vips_announced := noted.desired_announced_vips }) config_kept

theorem on_health_change_config (attached : c.bgp = true) (backend_ip : IpAddr) (status : HealthStatus)
    (now now' : Nat) : (c.on_health_change x backend_ip status now now').1.config = c.config := by
  rw [on_health_change_eq attached]
  exact (maybe_flush_announced _).2.2.1.trans (c.accumulate_announced backend_ip status now).2.2.1

theorem on_health_change_vips (attached : c.bgp = true) (backend_ip : IpAddr) (status : HealthStatus)
    (now now' : Nat) {v4 : Ipv4Addr} :
    let noted := c.accumulate backend_ip status now
    v4 ∈ (c.on_health_change x backend_ip status now now').1.vips_announced ↔
      HealthyVip noted.config noted.health_status v4 := by
  intro noted
  rw [on_health_change_eq attached,(maybe_flush_announced _).1]
  exact mem_desired

theorem Backed.on_health_change (backed : c.Backed) {backend_ip : IpAddr} {status : HealthStatus} {now now' : Nat}
    (by_weight : c.BackedByWeight (.on_health_change backend_ip status now now')) :
    (c.on_health_change x backend_ip status now now').1.Backed := by
  have grows : ∀ config, c.config = some config → ∀ id ∈ c.lookup_tables,
      id ∈ (c.on_health_change x backend_ip status now now').1.lookup_tables :=
    fun config current id present =>
      (mem_on_health_change_tables backed.attached current backend_ip status now now').mpr (.inl present)
  have config_kept := on_health_change_config (x := x) backed.attached backend_ip status now now'
  refine ⟨(perform_announces (x := x) backed.attached (.on_health_change backend_ip status now now')).attached,?_,?_⟩
  · intro v4 known
    by_cases announced : v4 ∈ c.vips_announced
    · obtain ⟨config,current,some_service⟩ := backed.forwardable v4 announced
      exact ⟨config,config_kept.trans current,some_service.imp (grows config current)⟩
    · obtain ⟨config,current,vip,listed,address,svc,offered,reason⟩ := by_weight v4 announced
        ((on_health_change_vips backed.attached backend_ip status now now').mp known)
      refine ⟨config,config_kept.trans current,?_⟩
      rcases reason with weighted | table
      · exact (backed.weighted config current v4 ⟨vip,listed,address,svc,offered,weighted⟩).imp (grows config current)
      · exact ⟨vip,listed,address,svc,offered,
          (mem_on_health_change_tables backed.attached current backend_ip status now now').mpr table⟩
  · intro config current v4 weighted
    rw [config_kept] at current
    exact (backed.weighted config current v4 weighted).imp (grows config current)

/-! ### Runs -/

theorem Backed.perform (backed : c.Backed) {op : Op} (by_weight : c.BackedByWeight op) : (c.perform x op).1.Backed := by
  cases op with
  | apply_config config => exact .apply_config backed.attached by_weight
  | on_health_change backend_ip status now now' => exact backed.on_health_change by_weight
  | tick now => exact backed.maybe_flush now
  | flush_pending => exact backed.flush
  | reannounce_all => exact backed
  | withdraw_all => exact backed.grow rfl (Finset.empty_subset _) rfl (fun _ present => present)

theorem BackedByWeight.of_forwardable (attached : c.bgp = true) {op : Op}
    (forwardable : (c.perform x op).1.Forwardable) : c.BackedByWeight op := by
  cases op with
  | apply_config config =>
    intro v4 healthy
    obtain ⟨state,_⟩ := (c.install x config).sync_spec attached
    rw [perform,apply_config,state] at forwardable
    obtain ⟨_,⟨⟩,some_service⟩ := forwardable v4 (mem_desired.mpr healthy)
    exact some_service.imp fun _ => mem_install_tables.mp
  | on_health_change backend_ip status now now' =>
    intro v4 _ healthy
    obtain ⟨config,current,some_service⟩ := forwardable v4
      ((on_health_change_vips attached backend_ip status now now').mpr healthy)
    rw [perform,on_health_change_config attached] at current
    exact ⟨config,current,some_service.imp fun id present =>
      .inr ((mem_on_health_change_tables attached current backend_ip status now now').mp present)⟩
  | tick now => trivial
  | flush_pending => trivial
  | reannounce_all => trivial
  | withdraw_all => trivial

end Controller

/-- Every announced address can be forwarded in every state of a run if and only
    if each operation on the way announces addresses that are backed by weight. -/
theorem announced_forwardable (x : Xxh3) (tables : LookupTables) (health : Health) (m : TableSize) (ops : List Op) :
    let c := (Controller.new tables health m).with_bgp
    (∀ pre, pre <+: ops → (Runs.after (Controller.perform x) c pre).Forwardable) ↔
      Runs.Along (fun c op => (c.perform x op).1) Controller.BackedByWeight c ops := by
  intro c
  have start : c.Backed := ⟨rfl,by simp [c,Controller.new,Controller.with_bgp,Controller.Forwardable],by rintro _ ⟨⟩⟩
  exact (Runs.along_iff (fun _ _ backed by_weight => backed.perform by_weight) (fun _ backed => backed.forwardable)
    (fun _ _ backed forwardable => .of_forwardable backed.attached forwardable) start ops).symm

/-- One pool, whose only backend of positive weight is down. -/
private def weightless : LbConfig where
  vips := [⟨⟨"web"⟩,.V4 ⟨188,184,100,10⟩,[⟨.Tcp,443,"pool"⟩]⟩]
  pools := [⟨⟨"pool"⟩,[⟨.V4 ⟨10,0,0,1⟩,443,0,false⟩,⟨.V4 ⟨10,0,0,2⟩,443,1,false⟩]⟩]
private def unhashed : Xxh3 := ⟨fun _ => 0,fun _ _ => 0⟩

/-- The backend without weight keeps the address announced, and leaves its only
    pool without a table. -/
theorem weightless_vip_announced :
    ¬ ∀ (x : Xxh3) (tables : LookupTables) (health : Health) (m : TableSize) (ops : List Op),
      (∀ config, .apply_config config ∈ ops → Validator.Accepted config) →
      (Runs.after (Controller.perform x) (Controller.new tables health m).with_bgp ops).Forwardable := by
  intro forwardable
  have accepted : ∀ config, Op.apply_config config ∈
      [Op.on_health_change (.V4 ⟨10,0,0,2⟩) .Unhealthy 0 0,Op.apply_config weightless] → Validator.Accepted config := by
    intro config listed
    obtain rfl : config = weightless := by simpa using listed
    decide
  obtain ⟨config,current,vip,listed,_,svc,offered,present⟩ :=
    forwardable unhashed ∅ ∅ ⟨2,Nat.prime_two⟩ _ accepted ⟨188,184,100,10⟩ (by decide)
  cases current
  have absent : ∀ vip ∈ weightless.vips, ∀ svc ∈ vip.services,
      (⟨svc.backend_pool⟩ : BackendPoolId) ∉ build_lookup_tables unhashed weightless
        (Finmap.insert (.V4 ⟨10,0,0,2⟩) .Unhealthy ∅) ⟨2,Nat.prime_two⟩ := by decide
  exact absent vip listed svc offered present

end Lb.Orchestrator
