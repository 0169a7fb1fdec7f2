import Lb.Takeover

/-!
# Drained backends

A backend that is drained keeps the flows that it has and gets no others, as long as its
pools have backends that are active. The tables of a configuration without it take effect
with the first batch that loads them.
-/
namespace Lb.Applier
open Lb.Addr Lb.Types Lb.Maglev

/-- No hash falls to the address. -/
def Free (drained : IpAddr) (tables : LookupTables) : Prop :=
  ∀ id t, tables.lookup id = some t → ∀ hash, (t.lookup hash).ip ≠ drained

/-- Wherever the address is listed it is drained, and others are active. -/
def Drains (drained : IpAddr) (config : LbConfig) (health : Health) : Prop :=
  ∀ pool ∈ config.pools, (∃ b ∈ pool.backends, b.ip = drained) →
    (∀ b ∈ pool.backends, b.ip = drained → b.drain = true) ∧ active_backends health pool ≠ []

variable {x : Xxh3} {drained : IpAddr} {config : LbConfig} {health : Health} {m : TableSize} {id : BackendPoolId}
  {t : LookupTable}

theorem Drains.table_of (drains : Drains drained config health) (built : table_of x config.pools health m id = some t)
    (hash : UInt64) : (t.lookup hash).ip ≠ drained := by
  intro falls
  obtain ⟨pool,listed,_,table⟩ := table_of_eq_some built
  obtain ⟨member,_,chosen⟩ := pool_table_backends table (t.lookup_mem hash)
  obtain ⟨taken_out,others⟩ := drains pool listed ⟨_,member,falls⟩
  have active := (mem_active_backends.mp (chosen others)).2.1
  rw [taken_out _ member falls] at active
  cases active

end Lb.Applier

namespace Lb.Orchestrator.Controller
open Lb.Addr Lb.Types Lb.Maglev Lb.Applier

variable {x : Xxh3} {c : Controller} {drained : IpAddr}

/-- The current configuration drains the address. -/
def Drains (drained : IpAddr) (c : Controller) : Prop :=
  ∀ config, c.config = some config → Applier.Drains drained config c.health_status

theorem free_install {config : LbConfig} (drains : Applier.Drains drained config c.health_status) :
    Free drained (c.install x config).lookup_tables := by
  intro id t found
  exact drains.table_of (lookup_build.symm.trans found)

theorem free_flush (free : Free drained c.lookup_tables) (drains : c.Drains drained) :
    Free drained (c.flush x).lookup_tables := by
  rw [flush_eq]
  intro id t found
  cases configured : c.config with
  | none =>
    refine free id t ?_
    rwa [show c.flushed x = c.lookup_tables by rw [flushed,configured]] at found
  | some config =>
    replace found : (c.flushed x).lookup id = some t := found
    rw [lookup_flushed configured,Option.or_eq_some_iff] at found
    rcases found with built | ⟨_,kept⟩
    · split_ifs at built
      exact (drains config configured).table_of built
    · exact free id t kept

theorem free_maybe_flush {now : Nat} (free : Free drained c.lookup_tables) (drains : c.Drains drained) :
    Free drained (c.maybe_flush x now).lookup_tables := by
  rcases c.maybe_flush_cases (x := x) now with same | flushes
  · rwa [same]
  · rw [flushes]
    exact free_flush free drains

theorem maybe_flush_drains {now : Nat} : (c.maybe_flush x now).Drains drained ↔ c.Drains drained := by
  obtain ⟨_,_,config,health⟩ := c.maybe_flush_announced (x := x) now
  rw [Drains,Drains,config,health]

theorem free_apply_config {config : LbConfig} (drains : (c.apply_config x config).1.Drains drained) :
    Free drained (c.apply_config x config).1.lookup_tables := by
  obtain ⟨vips,state⟩ := (c.install x config).sync_state
  rw [apply_config,state] at drains ⊢
  exact free_install (drains config rfl)

/-- Operations after which the address is drained put no table with it into the map. -/
theorem free_perform {op : Op} (free : Free drained c.lookup_tables) (drains : (c.perform x op).1.Drains drained) :
    Free drained (c.perform x op).1.lookup_tables := by
  cases op with
  | apply_config config => exact free_apply_config drains
  | on_health_change backend_ip status now now' =>
    obtain ⟨vips,state⟩ := c.on_health_change_state (x := x) backend_ip status now now'
    rw [perform,state] at drains ⊢
    refine free_maybe_flush (c := c.accumulate backend_ip status now) ?_ (maybe_flush_drains.mp drains)
    rw [accumulate_eq]
    exact free
  | tick now => exact free_maybe_flush free (maybe_flush_drains.mp drains)
  | flush_pending =>
    refine free_flush free ?_
    rw [perform,flush_pending,flush_eq] at drains
    exact drains
  | reannounce_all => exact free
  | withdraw_all => exact free

end Lb.Orchestrator.Controller

namespace Lb.System
open Lb.Addr Lb.Types Lb.Packet Lb.Buffer Lb.Maglev Lb.Applier Lb.Vips Lb.Rewriter Lb.Orchestrator Lb.Connections

variable {x : Xxh3} {drained : IpAddr} {node : Node}

/-- After the event the address is drained. -/
def StaysDrained (x : Xxh3) (drained : IpAddr) (n : Node) (event : Event) : Prop :=
  (n.step x event).controller.Drains drained

theorem free_step {event : Event} (free : Free drained node.controller.lookup_tables)
    (stays : StaysDrained x drained node event) : Free drained (node.step x event).controller.lookup_tables := by
  cases event with
  | control op => exact Controller.free_perform free stays
  | store_matcher config => exact free
  | load_matcher => exact free
  | load_tables => exact free
  | process input now => exact free

/-- The hashes of the flows that the thread has an entry for the address of. -/
def Node.pinned (n : Node) (backend_ip : IpAddr) : Set UInt64 :=
  { hash | ∃ i e, Slots.slots n.rewriter.conn_table.entries i = some e ∧ e.hash = hash ∧ e.backend_ip = backend_ip }

/-- What a run in which an address is drained keeps. -/
structure Node.Freed (drained : IpAddr) (pinned : Set UInt64) (n : Node) : Prop where
  shared : Free drained n.controller.lookup_tables
  loaded : Free drained n.loaded_tables
  entries : n.rewriter.conn_table.Only fun hash backend_ip => backend_ip = drained → hash ∈ pinned

variable {pinned : Set UInt64}

theorem Node.Freed.falls (freed : node.Freed drained pinned) (input : PacketBuf) (now : Nat) :
    Falls x (fun hash backend_ip => backend_ip = drained → hash ∈ pinned) ⟨node.shared,input,now⟩ := by
  intro pkt_meta lookup_table resolved same
  obtain ⟨_,_,pool_id,_,found⟩ := RewriterThread.resolve_eq_some resolved
  exact absurd same (freed.loaded pool_id lookup_table found _)

theorem Node.Freed.step {event : Event} (freed : node.Freed drained pinned)
    (stays : StaysDrained x drained node event) : (node.step x event).Freed drained pinned := by
  refine ⟨free_step freed.shared stays,?_,?_⟩
  · cases event with
    | load_tables => exact freed.shared
    | control op => exact freed.loaded
    | store_matcher config => exact freed.loaded
    | load_matcher => exact freed.loaded
    | process input now => exact freed.loaded
  · cases event with
    | process input now => exact step_only freed.entries (freed.falls input now)
    | control op => exact freed.entries
    | store_matcher config => exact freed.entries
    | load_matcher => exact freed.entries
    | load_tables => exact freed.entries

/-- Once a thread has loaded tables that were made after the address was drained, only
    flows that it has an entry for at that time are forwarded there, and only while they
    are found, as long as the configuration stays one that drains the address and the
    pools with it have other active backends; new configurations, changes of the health,
    rebuilds and packets may come in any order. -/
theorem drained_gets_no_new_flows (x : Xxh3) (node : Node) (config : LbConfig) (drained : Ipv4Addr)
    (before after : List Event) (input : PacketBuf) (now : Nat) :
    let applied := node.step x (.control (.apply_config config))
    let loaded := (before.foldl (Node.step x) applied).step x .load_tables
    let later := after.foldl (Node.step x) loaded
    applied.controller.Drains (.V4 drained) →
    Runs.Along (Node.step x) (StaysDrained x (.V4 drained)) applied (before ++ .load_tables :: after) →
    is_non_first_fragment input.as_slice = false →
    (later.rewriter.process_one x later.shared input now).2.forwarded_to = some drained →
    ∃ pkt_meta, PacketMeta.from_ipv4_bytes input.as_slice = some pkt_meta ∧
      pkt_meta.flow_hash x ∈ loaded.pinned (.V4 drained) ∧
      later.rewriter.conn_table.get (pkt_meta.flow_hash x) now = some (.V4 drained) := by
  intro applied loaded later drains along first forwarded
  obtain ⟨before_load,_,after_load⟩ := (Runs.along_append _ _ _).mp along
  have free := before_load.invariant (fun n : Node => Free (.V4 drained) n.controller.lookup_tables)
    (fun _ _ free stays => free_step free stays) (Controller.free_apply_config drains)
  have freed : later.Freed (.V4 drained) (loaded.pinned (.V4 drained)) :=
    after_load.invariant (fun n : Node => n.Freed (.V4 drained) (loaded.pinned (.V4 drained)))
      (fun _ _ freed stays => freed.step stays) ⟨free,free,fun i e at_i same => ⟨i,e,at_i,rfl,same⟩⟩
  obtain ⟨pkt_meta,lookup_table,resolved,selected⟩ := RewriterThread.forwarded_to_backend first forwarded
  obtain ⟨_,parsed,pool_id,_,found⟩ := RewriterThread.resolve_eq_some resolved
  have elsewhere := freed.loaded pool_id lookup_table found (pkt_meta.flow_hash x)
  have hit : later.rewriter.conn_table.get (pkt_meta.flow_hash x) now = some (.V4 drained) := by
    rw [backend_of] at selected
    cases cached : later.rewriter.conn_table.get (pkt_meta.flow_hash x) now with
    | none =>
      rw [cached] at selected
      exact absurd selected elsewhere
    | some cached_ip =>
      rw [cached] at selected
      dsimp only at selected
      split_ifs at selected
      · rw [selected]
      · exact absurd selected elsewhere
  exact ⟨pkt_meta,parsed,freed.entries.get hit rfl,hit⟩

private def pinnedPair : Node :=
  (load ++ [Event.process opening.input opening.now]).foldl (Node.step hashedPair)
    (.start hashedPair (some (pair false)) ⟨2,Nat.prime_two⟩ idle)

private theorem pair_drains {c : Controller} (configured : c.config = some (pair true))
    (up : usable c.health_status (.V4 ⟨10,0,0,2⟩) = true) : c.Drains (.V4 ⟨10,0,0,1⟩) := by
  intro config current pool listed _
  obtain rfl := Option.some.inj (configured.symm.trans current)
  obtain rfl := List.mem_singleton.mp listed
  have active : active_backends c.health_status ⟨⟨"pool"⟩,[⟨.V4 ⟨10,0,0,1⟩,443,1,true⟩,⟨.V4 ⟨10,0,0,2⟩,443,1,false⟩]⟩ =
      [⟨.V4 ⟨10,0,0,2⟩,443,1,false⟩] := by
    simp [active_backends,up]
  exact ⟨by decide,by rw [active]; simp⟩

/-- A flow goes on to a backend that has been drained. -/
theorem drained_keeps_pinned_flow :
    ∃ pkt_meta, PacketMeta.from_ipv4_bytes (segment 40000 40 []).as_slice = some pkt_meta ∧
      pkt_meta.flow_hash hashedPair ∈ ((pinnedPair.step hashedPair (.control (.apply_config (pair true)))).step hashedPair
        .load_tables).pinned (.V4 ⟨10,0,0,1⟩) := by
  have up : usable ((∅ : Health)) (.V4 ⟨10,0,0,2⟩) = true := rfl
  obtain ⟨pkt_meta,parsed,pinned,_⟩ := drained_gets_no_new_flows hashedPair pinnedPair (pair true) ⟨10,0,0,1⟩ []
    [.process (segment 40001 40 []) (from_secs 2)] (segment 40000 40 []) (from_secs 3) (pair_drains rfl up)
    ⟨pair_drains rfl up,pair_drains rfl up,trivial⟩ (by decide) (by decide +kernel)
  exact ⟨pkt_meta,parsed,pinned⟩

end Lb.System
