import Lb.Types
import Lb.Maps

/-!
# Validation of a configuration

The watcher passes on a configuration only if every service names a pool that
exists, no pool is empty, and no two VIPs share an id.
-/
namespace Lb.Validator
open Lb.Types

/-- The errors come in no order where they are read off a `HashMap`. -/
structure ValidationError where
  errors : Multiset String
deriving DecidableEq

def dangling_references (vips : List Vip) (pools : HashMap String BackendPool) : List String :=
  vips.flatMap fun vip => vip.services.filterMap fun svc =>
    if svc.backend_pool ∈ pools then none
    else some ("VIP '" ++ vip.id.id ++ "' references pool '" ++ svc.backend_pool ++ "' which does not exist")
def empty_pools (pools : HashMap String BackendPool) : Multiset String :=
  pools.entries.filterMap fun entry =>
    if entry.2.backends.isEmpty then some ("pool '" ++ entry.1 ++ "' has no backends") else none
/-- The VIPs whose id an earlier VIP has. -/
def duplicate_vips : List Vip → List VipId → List String
  | [], _ => []
  | vip :: vips, seen_vips =>
    if vip.id ∈ seen_vips then ("duplicate VIP ID '" ++ vip.id.id ++ "'") :: duplicate_vips vips seen_vips
    else duplicate_vips vips (vip.id :: seen_vips)

def validate (vips : List Vip) (pools : HashMap String BackendPool) : Except ValidationError Unit :=
  let errors := (dangling_references vips pools : Multiset String) + empty_pools pools +
    (duplicate_vips vips [] : Multiset String)
  if errors = 0 then .ok () else .error ⟨errors⟩

/-- Of several pools with one id the last is checked. -/
def pools_by_id (config : LbConfig) : HashMap String BackendPool :=
  config.pools.foldl (fun m p => m.insert p.id.id p) ∅
def validate_config (config : LbConfig) : Except ValidationError Unit :=
  validate config.vips (pools_by_id config)

/-- The configuration passes the watcher. -/
def Accepted (config : LbConfig) : Prop := (validate_config config).isOk = true

instance (config : LbConfig) : Decidable (Accepted config) :=
  inferInstanceAs (Decidable ((validate_config config).isOk = true))

variable {config : LbConfig}

theorem mem_pools_by_id {id : String} : id ∈ pools_by_id config ↔ ∃ pool ∈ config.pools, pool.id = ⟨id⟩ := by
  rw [← Finmap.lookup_isSome,pools_by_id,Maps.lookup_foldl_insert (fun p : BackendPool => p.id.id)]
  simp only [Finmap.lookup_empty,Option.or_none,Option.isSome_map,List.getLast?_isSome]
  constructor
  · intro some_pool
    obtain ⟨pool,listed⟩ := List.exists_mem_of_ne_nil _ some_pool
    simp only [List.mem_filter,decide_eq_true_eq] at listed
    exact ⟨pool,listed.1,by rw [← listed.2]⟩
  · rintro ⟨pool,listed,same⟩
    refine List.ne_nil_of_mem (a := pool) ?_
    simp [listed,same]

/-- Every service of an accepted configuration names one of its pools. -/
theorem Accepted.resolves (accepted : Accepted config) {vip : Vip} (listed : vip ∈ config.vips) {svc : VipService}
    (offered : svc ∈ vip.services) : ∃ pool ∈ config.pools, pool.id = ⟨svc.backend_pool⟩ := by
  unfold Accepted validate_config validate at accepted
  dsimp only at accepted
  split_ifs at accepted with clean
  · have count := congrArg Multiset.card clean
    simp only [Multiset.card_add,Multiset.coe_card,Multiset.card_zero] at count
    have no_dangling : dangling_references config.vips (pools_by_id config) = [] :=
      List.eq_nil_of_length_eq_zero (by omega)
    rw [dangling_references,List.flatMap_eq_nil_iff] at no_dangling
    have resolved := List.filterMap_eq_nil_iff.mp (no_dangling vip listed) svc offered
    rw [← mem_pools_by_id]
    by_contra dangling
    simp [dangling] at resolved
  · cases accepted

end Lb.Validator
