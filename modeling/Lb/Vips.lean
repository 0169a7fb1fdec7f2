import Lb.Validator

/-!
# Matching VIPs

The services of a configuration, by the address, protocol and port that packets
carry, and the pools that they go to.
-/
namespace Lb.Vips
open Lb.Addr Lb.Types

structure VipKey where
  ip : IpAddr
  protocol : Protocol
  port : UInt16
deriving DecidableEq

structure VipMatcher where
  table : HashMap VipKey BackendPoolId

def VipMatcher.new : VipMatcher := ⟨∅⟩
def VipMatcher.from_entries (entries : List (VipKey × BackendPoolId)) : VipMatcher :=
  ⟨entries.foldl (fun table entry => table.insert entry.1 entry.2) ∅⟩
def VipMatcher.match_packet (v : VipMatcher) (dst_ip : IpAddr) (protocol : Protocol) (dst_port : UInt16) :
    Option BackendPoolId := v.table.lookup ⟨dst_ip,protocol,dst_port⟩

def vip_entries (config : LbConfig) : List (VipKey × BackendPoolId) :=
  config.vips.flatMap fun vip => vip.services.map fun svc =>
    (⟨vip.address,svc.protocol,svc.port⟩,⟨svc.backend_pool⟩)
def build_vip_matcher (config : LbConfig) : VipMatcher := .from_entries (vip_entries config)

variable {config : LbConfig} {ip : IpAddr} {protocol : Protocol} {port : UInt16} {id : BackendPoolId}

/-- The configuration has a service at the address, protocol and port. -/
def Declares (config : LbConfig) (ip : IpAddr) (protocol : Protocol) (port : UInt16) : Prop :=
  ∃ vip ∈ config.vips, ∃ svc ∈ vip.services, vip.address = ip ∧ svc.protocol = protocol ∧ svc.port = port

theorem mem_vip_entries : (⟨ip,protocol,port⟩,id) ∈ vip_entries config ↔
    ∃ vip ∈ config.vips, ∃ svc ∈ vip.services, vip.address = ip ∧ svc.protocol = protocol ∧ svc.port = port ∧
      ⟨svc.backend_pool⟩ = id := by
  simp [vip_entries,and_assoc]

/-- Of several services with one key the last is matched. -/
theorem match_packet_build : (build_vip_matcher config).match_packet ip protocol port =
    ((vip_entries config).filter (fun entry => entry.1 = ⟨ip,protocol,port⟩)).getLast?.map Prod.snd := by
  rw [build_vip_matcher,VipMatcher.match_packet,VipMatcher.from_entries,
    Maps.lookup_foldl_insert Prod.fst Prod.snd,Finmap.lookup_empty,Option.or_none]

theorem match_packet_isSome :
    ((build_vip_matcher config).match_packet ip protocol port).isSome ↔ Declares config ip protocol port := by
  rw [match_packet_build,Option.isSome_map,List.getLast?_isSome]
  constructor
  · intro some_entry
    obtain ⟨⟨key,id⟩,listed⟩ := List.exists_mem_of_ne_nil _ some_entry
    simp only [List.mem_filter,decide_eq_true_eq] at listed
    obtain ⟨listed,rfl⟩ := listed
    obtain ⟨vip,vip_listed,svc,offered,same_ip,same_protocol,same_port,_⟩ := mem_vip_entries.mp listed
    exact ⟨vip,vip_listed,svc,offered,same_ip,same_protocol,same_port⟩
  · rintro ⟨vip,vip_listed,svc,offered,rfl,rfl,rfl⟩
    have listed := mem_vip_entries.mpr ⟨vip,vip_listed,svc,offered,rfl,rfl,rfl,rfl⟩
    exact List.ne_nil_of_mem (List.mem_filter.mpr ⟨listed,by simp⟩)

/-- A packet is matched to the pool of a service of its address, protocol and port. -/
theorem match_packet_service (found : (build_vip_matcher config).match_packet ip protocol port = some id) :
    ∃ vip ∈ config.vips, ∃ svc ∈ vip.services, vip.address = ip ∧ svc.protocol = protocol ∧ svc.port = port ∧
      ⟨svc.backend_pool⟩ = id := by
  rw [match_packet_build,Option.map_eq_some_iff] at found
  obtain ⟨⟨key,id'⟩,last,rfl⟩ := found
  obtain ⟨listed,rfl⟩ := Maps.last_mem last
  exact mem_vip_entries.mp listed

/-! ### Services of one key -/

/-- Every declared service gets its own packets if and only if services of one
    address, protocol and port go to one pool. -/
theorem services_routed (config : LbConfig) :
    (∀ vip ∈ config.vips, ∀ svc ∈ vip.services,
      (build_vip_matcher config).match_packet vip.address svc.protocol svc.port = some ⟨svc.backend_pool⟩) ↔
    ∀ vip ∈ config.vips, ∀ svc ∈ vip.services, ∀ vip' ∈ config.vips, ∀ svc' ∈ vip'.services,
      vip.address = vip'.address → svc.protocol = svc'.protocol → svc.port = svc'.port →
        svc.backend_pool = svc'.backend_pool := by
  have routed := Maps.all_found_iff Prod.fst Prod.snd (vip_entries config)
  have entry : ∀ {vip : Vip} {svc : VipService}, vip ∈ config.vips → svc ∈ vip.services →
      (⟨vip.address,svc.protocol,svc.port⟩,⟨svc.backend_pool⟩) ∈ vip_entries config :=
    fun {vip svc} listed offered => mem_vip_entries.mpr ⟨vip,listed,svc,offered,rfl,rfl,rfl,rfl⟩
  constructor
  · intro found vip listed svc offered vip' listed' svc' offered' same_ip same_protocol same_port
    have first := found vip listed svc offered
    rw [same_ip,same_protocol,same_port,found vip' listed' svc' offered'] at first
    exact (congrArg BackendPoolId.id (Option.some.inj first)).symm
  · intro one_pool vip listed svc offered
    refine routed.mpr ?_ _ (entry listed offered)
    rintro ⟨⟨ip,protocol,port⟩,id⟩ known ⟨⟨ip',protocol',port'⟩,id'⟩ known' same
    obtain ⟨vip,listed,svc,offered,rfl,rfl,rfl,rfl⟩ := mem_vip_entries.mp known
    obtain ⟨vip',listed',svc',offered',rfl,rfl,rfl,rfl⟩ := mem_vip_entries.mp known'
    obtain ⟨same_ip,same_protocol,same_port⟩ := VipKey.mk.inj same
    exact congrArg BackendPoolId.mk
      (one_pool vip listed svc offered vip' listed' svc' offered' same_ip same_protocol same_port)

/-- Two VIPs of one address. -/
private def overlapping : LbConfig where
  vips := [⟨⟨"web"⟩,.V4 ⟨188,184,100,10⟩,[⟨.Tcp,443,"web"⟩]⟩,⟨⟨"mail"⟩,.V4 ⟨188,184,100,10⟩,[⟨.Tcp,443,"mail"⟩]⟩]
  pools := [⟨⟨"web"⟩,[⟨.V4 ⟨10,0,0,1⟩,443,1,false⟩]⟩,⟨⟨"mail"⟩,[⟨.V4 ⟨10,0,0,2⟩,443,1,false⟩]⟩]

/-- The second of two VIPs of one address takes the service of the first. -/
theorem service_taken_over : ¬ ∀ config, Validator.Accepted config → ∀ vip ∈ config.vips, ∀ svc ∈ vip.services,
    (build_vip_matcher config).match_packet vip.address svc.protocol svc.port = some ⟨svc.backend_pool⟩ := by
  intro routed
  have first := routed overlapping (by decide) _ List.mem_cons_self _ List.mem_cons_self
  exact absurd first (by decide)

end Lb.Vips
