import Lb.Maglev

/-!
# Applying a configuration

The lookup tables of the pools of a configuration, without the backends that are
drained or unhealthy as long as others are left, and the map in which the
forwarder finds them.
-/
namespace Lb.Applier
open Lb.Addr Lb.Types Lb.Maglev

abbrev Health := HashMap IpAddr HealthStatus
abbrev LookupTables := HashMap BackendPoolId LookupTable

/-- A backend counts as healthy until it is known to be unhealthy. -/
def usable (health : Health) (ip : IpAddr) : Bool :=
  ((health.lookup ip).map (fun s => decide (s ≠ .Unhealthy))).getD true

def active_backends (health : Health) (pool : BackendPool) : List Backend :=
  pool.backends.filter (fun b => if b.drain then false else usable health b.ip)

section
variable (x : Xxh3)

/-- The table of one pool: of its active backends, or of all if none is active. -/
def pool_table (health : Health) (table_size : TableSize) (pool : BackendPool) : Except String LookupTable :=
  let active := active_backends health pool
  if active.isEmpty then LookupTable.build x pool.backends table_size else LookupTable.build x active table_size

def build_lookup_tables_for_pools (pools : List BackendPool) (health : Health) (table_size : TableSize) : LookupTables :=
  pools.foldl (fun tables pool =>
    match pool_table x health table_size pool with
    | .ok table => tables.insert pool.id table
    | .error _ => tables) ∅
def build_lookup_tables (config : LbConfig) (health : Health) (table_size : TableSize) : LookupTables :=
  build_lookup_tables_for_pools x config.pools health table_size

end

def build_backend_pool_index (config : LbConfig) : HashMap IpAddr (Finset BackendPoolId) :=
  config.pools.foldl (fun index pool =>
    pool.backends.foldl (fun index b => index.insert b.ip (insert pool.id ((index.lookup b.ip).getD ∅))) index) ∅

/-- The updates go over the tables that are there. -/
def apply_tables (updates shared : LookupTables) : LookupTables := updates ∪ shared
def replace_tables (new_tables _shared : LookupTables) : LookupTables := new_tables

/-! ### Pools that have a table -/

variable {x : Xxh3} {health health' : Health} {m : TableSize} {pool : BackendPool} {pools : List BackendPool}
  {id : BackendPoolId} {t : LookupTable}

theorem usable_iff {ip : IpAddr} : usable health ip = true ↔ health.lookup ip ≠ some .Unhealthy := by
  unfold usable
  cases health.lookup ip <;> simp

theorem mem_active_backends {b : Backend} :
    b ∈ active_backends health pool ↔ b ∈ pool.backends ∧ b.drain = false ∧ usable health b.ip = true := by
  cases drained : b.drain <;> simp [active_backends,drained]

/-- The pool has a backend of positive weight, an active one if it has active ones. -/
def Buildable (health : Health) (pool : BackendPool) : Prop :=
  (∃ b ∈ active_backends health pool, 0 < b.weight) ∨
    active_backends health pool = [] ∧ ∃ b ∈ pool.backends, 0 < b.weight

theorem pool_table_isOk : (pool_table x health m pool).isOk ↔ Buildable health pool := by
  unfold pool_table Buildable
  by_cases none_active : active_backends health pool = []
  · simp only [none_active,List.isEmpty_nil,if_true,LookupTable.build_isOk,List.not_mem_nil,false_and,exists_false,
      true_and,false_or]
  · have some_active : (active_backends health pool).isEmpty = false := by simpa using none_active
    simp only [some_active,Bool.false_eq_true,if_false,LookupTable.build_isOk,none_active,false_and,or_false]

/-- A pool's table is of backends of the pool, active ones if there are any. -/
theorem pool_table_backends (built : pool_table x health m pool = .ok t) {b : Backend} (listed : b ∈ t.backends) :
    b ∈ pool.backends ∧ 0 < b.weight ∧ (active_backends health pool ≠ [] → b ∈ active_backends health pool) := by
  unfold pool_table at built
  by_cases none_active : active_backends health pool = []
  · simp only [none_active,List.isEmpty_nil,if_true] at built
    obtain ⟨member,weighted⟩ := LookupTable.build_backends built listed
    exact ⟨member,weighted,fun some_active => absurd none_active some_active⟩
  · have some_active : (active_backends health pool).isEmpty = false := by simpa using none_active
    simp only [some_active,Bool.false_eq_true,if_false] at built
    obtain ⟨member,weighted⟩ := LookupTable.build_backends built listed
    exact ⟨(mem_active_backends.mp member).1,weighted,fun _ => member⟩

/-- A pool's table depends on the health of its own backends only. -/
theorem pool_table_congr (same : ∀ b ∈ pool.backends, health.lookup b.ip = health'.lookup b.ip) :
    pool_table x health m pool = pool_table x health' m pool := by
  have active : active_backends health pool = active_backends health' pool := by
    refine List.filter_congr fun b listed => ?_
    rw [usable,usable,same b listed]
  rw [pool_table,pool_table,active]

/-! ### The map of tables -/

variable (x) in
/-- The table that the map gets for an id: that of the last pool with the id
    that has one. -/
def table_of (pools : List BackendPool) (health : Health) (m : TableSize) (id : BackendPoolId) : Option LookupTable :=
  ((pools.filter (fun p => p.id = id)).filterMap (fun p => (pool_table x health m p).toOption)).getLast?

private theorem lookup_foldl (tables : LookupTables) :
    (pools.foldl (fun tables pool =>
      match pool_table x health m pool with
      | .ok table => tables.insert pool.id table
      | .error _ => tables) tables).lookup id = (table_of x pools health m id).or (tables.lookup id) := by
  induction pools generalizing tables with
  | nil => simp [table_of]
  | cons p pools ih =>
    rw [List.foldl_cons,ih]
    by_cases own : p.id = id
    · subst own
      cases built : pool_table x health m p with
      | ok t =>
        simp only [table_of,Finmap.lookup_insert,List.filter_cons,decide_true,if_true,List.filterMap_cons,built,
          Except.toOption,List.getLast?_cons]
        cases (((pools.filter fun q => q.id = p.id).filterMap fun q => (pool_table x health m q).toOption).getLast?) <;>
          simp
      | error e => simp [table_of,built,Except.toOption]
    · have other : id ≠ p.id := Ne.symm own
      cases built : pool_table x health m p with
      | ok t => simp [table_of,own,Finmap.lookup_insert_of_ne _ other]
      | error e => simp [table_of,own]

theorem lookup_build : (build_lookup_tables_for_pools x pools health m).lookup id = table_of x pools health m id := by
  rw [build_lookup_tables_for_pools,lookup_foldl]
  simp

theorem table_of_eq_some (found : table_of x pools health m id = some t) :
    ∃ pool ∈ pools, pool.id = id ∧ pool_table x health m pool = .ok t := by
  have listed := List.mem_of_getLast? found
  simp only [List.mem_filterMap,List.mem_filter,decide_eq_true_eq] at listed
  obtain ⟨pool,⟨member,own⟩,built⟩ := listed
  refine ⟨pool,member,own,?_⟩
  cases result : pool_table x health m pool with
  | ok t' => rw [result] at built; cases built; rfl
  | error e => rw [result] at built; cases built

theorem table_of_isSome :
    (table_of x pools health m id).isSome ↔ ∃ pool ∈ pools, pool.id = id ∧ Buildable health pool := by
  rw [table_of,List.getLast?_isSome]
  constructor
  · intro some_table
    obtain ⟨t,listed⟩ := List.exists_mem_of_ne_nil _ some_table
    simp only [List.mem_filterMap,List.mem_filter,decide_eq_true_eq] at listed
    obtain ⟨pool,⟨member,own⟩,built⟩ := listed
    refine ⟨pool,member,own,(pool_table_isOk (x := x) (m := m)).mp ?_⟩
    cases result : pool_table x health m pool with
    | ok t' => rfl
    | error e => rw [result] at built; cases built
  · rintro ⟨pool,member,own,buildable⟩
    have built := (pool_table_isOk (x := x) (m := m)).mpr buildable
    cases result : pool_table x health m pool with
    | ok t =>
      refine List.ne_nil_of_mem (a := t) ?_
      simp only [List.mem_filterMap,List.mem_filter,decide_eq_true_eq]
      exact ⟨pool,⟨member,own⟩,by rw [result]; rfl⟩
    | error e => rw [result] at built; cases built

theorem table_of_buildable (x : Xxh3) (m : TableSize) (buildable : ∃ pool ∈ pools, pool.id = id ∧ Buildable health pool) :
    ∃ t, table_of x pools health m id = some t :=
  Option.isSome_iff_exists.mp (table_of_isSome.mpr buildable)

/-- Pools of other ids do not matter to the table of an id. -/
theorem table_of_filter {ids : Finset BackendPoolId} :
    table_of x (pools.filter (fun p => p.id ∈ ids)) health m id =
      if id ∈ ids then table_of x pools health m id else none := by
  unfold table_of
  rw [List.filter_filter]
  split_ifs with inside
  · congr 2
    refine List.filter_congr fun p _ => ?_
    by_cases own : p.id = id <;> simp [own,inside]
  · have empty : pools.filter (fun p => decide (p.id = id) && decide (p.id ∈ ids)) = [] := by
      refine List.filter_eq_nil_iff.mpr fun p _ => ?_
      by_cases own : p.id = id <;> simp [own,inside]
    rw [empty]
    rfl

theorem table_of_congr (same : ∀ pool ∈ pools, pool.id = id → ∀ b ∈ pool.backends,
    health.lookup b.ip = health'.lookup b.ip) : table_of x pools health m id = table_of x pools health' m id := by
  unfold table_of
  congr 1
  refine List.filterMap_congr fun p listed => ?_
  simp only [List.mem_filter,decide_eq_true_eq] at listed
  rw [pool_table_congr (same p listed.1 listed.2)]

theorem lookup_apply_tables {updates shared : LookupTables} :
    (apply_tables updates shared).lookup id = (updates.lookup id).or (shared.lookup id) := by
  rw [apply_tables]
  by_cases updated : id ∈ updates
  · rw [Finmap.lookup_union_left updated]
    obtain ⟨t,found⟩ := Option.isSome_iff_exists.mp (Finmap.lookup_isSome.mpr updated)
    rw [found]
    rfl
  · rw [Finmap.lookup_union_right updated,Finmap.lookup_eq_none.mpr updated]
    rfl

/-! ### Pools that lose their table -/

/-- The fallback does not see the weights: the active backends have none, and keep
    an inactive one that has some from being used. -/
def Masked (health : Health) (pool : BackendPool) : Prop :=
  active_backends health pool ≠ [] ∧ (∀ b ∈ active_backends health pool, b.weight = 0) ∧
    ∃ b ∈ pool.backends, 0 < b.weight

theorem buildable_iff_not_masked (some_weight : ∃ b ∈ pool.backends, 0 < b.weight) :
    Buildable health pool ↔ ¬ Masked health pool := by
  constructor
  · rintro (⟨b,active,weighted⟩ | ⟨none_active,_⟩) ⟨some_active,weightless,_⟩
    · rw [weightless b active] at weighted
      exact absurd weighted (UInt32.lt_irrefl 0)
    · exact some_active none_active
  · intro unmasked
    by_cases none_active : active_backends health pool = []
    · exact .inr ⟨none_active,some_weight⟩
    · by_contra unbuildable
      refine unmasked ⟨none_active,?_,some_weight⟩
      intro b active
      by_contra weighted
      exact unbuildable (.inl ⟨b,active,UInt32.pos_iff_ne_zero.mpr weighted⟩)

theorem mem_build : id ∈ build_lookup_tables_for_pools x pools health m ↔
    ∃ pool ∈ pools, pool.id = id ∧ Buildable health pool := by
  rw [← Finmap.lookup_isSome,lookup_build,table_of_isSome]

/-- Every pool with a backend of some weight has a table exactly if in none of them
    active backends without a weight mask it. -/
theorem fallback_iff (x : Xxh3) (pools : List BackendPool) (distinct : (pools.map (·.id)).Nodup) (health : Health)
    (m : TableSize) :
    (∀ pool ∈ pools, (∃ b ∈ pool.backends, 0 < b.weight) →
        pool.id ∈ build_lookup_tables_for_pools x pools health m) ↔
      ∀ pool ∈ pools, ¬ Masked health pool := by
  constructor
  · intro all pool member masked
    obtain ⟨pool',member',same,buildable⟩ := mem_build.mp (all pool member masked.2.2)
    obtain rfl := List.inj_on_of_nodup_map distinct member' member same
    exact (buildable_iff_not_masked masked.2.2).mp buildable masked
  · intro unmasked pool member some_weight
    exact mem_build.mpr ⟨pool,member,rfl,(buildable_iff_not_masked some_weight).mpr (unmasked pool member)⟩

/-- One backend has been given no weight, and the other is drained. -/
private def weightless_and_drained : BackendPool :=
  ⟨⟨"pool"⟩,[⟨.V4 ⟨10,0,0,1⟩,443,0,false⟩,⟨.V4 ⟨10,0,0,2⟩,443,1,true⟩]⟩

theorem fallback_iff_masked :
    (∀ pool ∈ [weightless_and_drained], (∃ b ∈ pool.backends, 0 < b.weight) →
        pool.id ∈ build_lookup_tables_for_pools ⟨fun _ => 0,fun _ _ => 0⟩ [weightless_and_drained] ∅ ⟨2,Nat.prime_two⟩) ↔
      ∀ pool ∈ [weightless_and_drained], ¬ Masked ∅ pool :=
  fallback_iff ⟨fun _ => 0,fun _ _ => 0⟩ [weightless_and_drained] (by decide) ∅ ⟨2,Nat.prime_two⟩

/-- Traffic to the pool is dropped, although it has a backend of some weight. -/
theorem masked_pool_lost :
    ¬ ∀ (x : Xxh3) (pools : List BackendPool) (health : Health) (m : TableSize), (pools.map (·.id)).Nodup →
      ∀ pool ∈ pools, (∃ b ∈ pool.backends, 0 < b.weight) → pool.id ∈ build_lookup_tables_for_pools x pools health m := by
  intro kept
  have found := kept ⟨fun _ => 0,fun _ _ => 0⟩ [weightless_and_drained] ∅ ⟨2,Nat.prime_two⟩ (by decide)
    weightless_and_drained (List.mem_singleton_self _) (by decide)
  obtain ⟨pool,member,_,buildable⟩ := mem_build.mp found
  obtain rfl := List.mem_singleton.mp member
  have masked : Masked ∅ weightless_and_drained := ⟨by decide,by decide,by decide⟩
  exact (buildable_iff_not_masked masked.2.2).mp buildable masked

/-! ### The reverse index -/

private theorem mem_index_pool {ip : IpAddr} (backends : List Backend) (index : HashMap IpAddr (Finset BackendPoolId)) :
    id ∈ ((backends.foldl (fun index b => index.insert b.ip (insert pool.id ((index.lookup b.ip).getD ∅))) index).lookup
        ip).getD ∅ ↔ id ∈ (index.lookup ip).getD ∅ ∨ (pool.id = id ∧ ∃ b ∈ backends, b.ip = ip) := by
  induction backends generalizing index with
  | nil => simp
  | cons b backends ih =>
    rw [List.foldl_cons,ih]
    by_cases own : b.ip = ip
    · subst own
      simp only [Finmap.lookup_insert,Option.getD_some,Finset.mem_insert,List.mem_cons,exists_eq_or_imp]
      tauto
    · simp [Finmap.lookup_insert_of_ne _ (Ne.symm own),own]

/-- The index lists under an address the pools with a backend of that address. -/
theorem mem_index {config : LbConfig} {ip : IpAddr} :
    id ∈ ((build_backend_pool_index config).lookup ip).getD ∅ ↔
      ∃ pool ∈ config.pools, pool.id = id ∧ ∃ b ∈ pool.backends, b.ip = ip := by
  have general : ∀ (pools : List BackendPool) (index : HashMap IpAddr (Finset BackendPoolId)),
      id ∈ ((pools.foldl (fun index pool => pool.backends.foldl (fun index b =>
          index.insert b.ip (insert pool.id ((index.lookup b.ip).getD ∅))) index) index).lookup ip).getD ∅ ↔
        id ∈ (index.lookup ip).getD ∅ ∨ ∃ pool ∈ pools, pool.id = id ∧ ∃ b ∈ pool.backends, b.ip = ip := by
    intro pools
    induction pools with
    | nil => simp
    | cons p pools ih =>
      intro index
      rw [List.foldl_cons,ih,mem_index_pool]
      simp only [List.mem_cons,exists_eq_or_imp]
      exact or_assoc
  rw [build_backend_pool_index,general]
  simp

end Lb.Applier
