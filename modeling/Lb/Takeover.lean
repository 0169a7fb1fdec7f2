import Lb.Failover
import Lb.Affinity
import Lb.Tracking

/-!
# Nodes in place of each other

A router that spreads flows over nodes may send a flow to another node at any time. Nodes
that have applied the same configuration and know the same of the backends have the same
tables, whatever their histories, so that the flow stays with its backend.
-/
namespace Lb.Connections.ConnTable
open Lb.Addr Lb.Types Lb.Packet Lb.Slots

/-- What is said of a hash and a backend holds of every entry. -/
def Only (P : UInt64 → IpAddr → Prop) (t : ConnTable) : Prop :=
  ∀ i e, slots t.entries i = some e → P e.hash e.backend_ip

variable {P : UInt64 → IpAddr → Prop} {t : ConnTable} {hash : UInt64} {now : Nat}

theorem new_only (bits : Nat) (small : bits < 64) (ttls : ConnTtls) (init_time : Nat) :
    (ConnTable.new bits small ttls init_time).Only P := by
  intro i e at_i
  simp [ConnTable.new,slots_replicate (e := empty_entry init_time) rfl] at at_i

theorem Only.get (only : t.Only P) {backend_ip : IpAddr} (found : t.get hash now = some backend_ip) :
    P hash backend_ip := by
  obtain ⟨e,⟨_,i,_,at_i⟩,rfl,rfl⟩ := get_held found
  exact only i e at_i

theorem Only.insert (only : t.Only P) {backend_ip : IpAddr} {proto : FlowProto} {tcp_state : TcpFlowState}
    (fits : P hash backend_ip) : (t.insert hash backend_ip proto tcp_state now).1.Only P := by
  intro i e at_i
  rw [(t.insert_eq hash backend_ip proto tcp_state now).1] at at_i
  refine Probing.insertFrom_all (S := t.scheme) (P := fun e => P e.hash e.backend_ip)
    (fun old new _ holds same => ?_) _ _ _ _ only fits i e at_i
  show P old.hash new.backend_ip
  rwa [show old.hash = new.hash from same]

theorem Only.with_matching_entry {f : ConnEntry → ConnEntry} (only : t.Only P)
    (keeps : ∀ e, (f e).hash = e.hash ∧ (f e).occupied = e.occupied) (same : ∀ e, (f e).backend_ip = e.backend_ip) :
    (t.with_matching_entry hash f).Only P := by
  intro i e at_i
  rcases slots_with_matching_entry t hash keeps with unchanged | ⟨idx,found,replaced⟩
  · rw [unchanged] at at_i
    exact only i e at_i
  · rw [replaced] at at_i
    rcases Probing.update_eq_some at_i with ⟨_,rfl⟩ | ⟨_,at_i⟩
    · rw [(keeps _).1,same]
      exact only idx _ (probe_found t.sized found).2.1
    · exact only i e at_i

theorem Only.apply {call : TableCall} (only : t.Only P)
    (fits : ∀ hash backend_ip proto tcp_state, call.op = .insert hash backend_ip proto tcp_state → P hash backend_ip) :
    (t.apply call).Only P := by
  obtain ⟨now,op⟩ := call
  cases op with
  | insert hash backend_ip proto tcp_state => exact only.insert (fits _ _ _ _ rfl)
  | touch hash => exact only.with_matching_entry (fun _ => ⟨rfl,rfl⟩) fun _ => rfl
  | mark_established hash =>
    refine only.with_matching_entry (fun e => ?_) fun e => ?_
    · split_ifs <;> exact ⟨rfl,rfl⟩
    · split_ifs <;> rfl
  | mark_closing hash =>
    refine only.with_matching_entry (fun e => ?_) fun e => ?_
    · split_ifs <;> exact ⟨rfl,rfl⟩
    · split_ifs <;> rfl

end Lb.Connections.ConnTable

namespace Lb.Rewriter
open Lb.Addr Lb.Types Lb.Packet Lb.Buffer Lb.Maglev Lb.Applier Lb.Connections

variable {x : Xxh3} {r : RewriterThread} {a : Arrival} {P : UInt64 → IpAddr → Prop}

/-- The backend that the packet's hash falls to is one that may be stored. -/
def Falls (x : Xxh3) (P : UInt64 → IpAddr → Prop) (a : Arrival) : Prop :=
  ∀ pkt_meta lookup_table, resolve a.shared a.input = some (pkt_meta,lookup_table) →
    P (pkt_meta.flow_hash x) (lookup_table.lookup (pkt_meta.flow_hash x)).ip

/-- A thread stores no other backends than those that the hashes fall to, -/
theorem step_only (only : r.conn_table.Only P) (falls : Falls x P a) : (r.step x a).conn_table.Only P := by
  cases resolved : resolve a.shared a.input with
  | none => rwa [(RewriterThread.step_unresolved resolved).1]
  | some found =>
    obtain ⟨pkt_meta,lookup_table⟩ := found
    rw [RewriterThread.step_conn_table resolved,table_calls,List.foldl_cons]
    refine transition_keeps _ _ (ConnTable.Only P)
      (fun only => @ConnTable.Only.apply _ _ ⟨a.now,.mark_closing _⟩ only (by simp))
      (fun only => @ConnTable.Only.apply _ _ ⟨a.now,.mark_established _⟩ only (by simp)) ?_
    refine only.apply fun hash backend_ip proto tcp_state insertion => ?_
    have falls := falls pkt_meta lookup_table resolved
    rw [selection] at insertion
    cases hit : r.conn_table.get (pkt_meta.flow_hash x) a.now with
    | none =>
      simp only [hit] at insertion
      cases insertion
      exact falls
    | some cached_ip =>
      simp only [hit] at insertion
      split_ifs at insertion
      cases insertion
      exact falls

/-- and forwards to no others. -/
theorem forwarded_only (only : r.conn_table.Only P) (falls : Falls x P a)
    (first : is_non_first_fragment a.input.as_slice = false) {backend : Ipv4Addr}
    (forwarded : (r.process_one x a.shared a.input a.now).2.forwarded_to = some backend) :
    ∃ pkt_meta lookup_table, resolve a.shared a.input = some (pkt_meta,lookup_table) ∧
      P (pkt_meta.flow_hash x) (.V4 backend) := by
  obtain ⟨pkt_meta,lookup_table,resolved,selected⟩ := RewriterThread.forwarded_to_backend first forwarded
  refine ⟨pkt_meta,lookup_table,resolved,?_⟩
  have falls := falls pkt_meta lookup_table resolved
  rw [← selected,backend_of]
  cases hit : r.conn_table.get (pkt_meta.flow_hash x) a.now with
  | none => exact falls
  | some cached_ip =>
    dsimp only
    split_ifs
    · exact only.get hit
    · exact falls

end Lb.Rewriter

namespace Lb.Applier
open Lb.Addr Lb.Types Lb.Maglev

variable {x : Xxh3} {health health' : Health} {m : TableSize} {id : BackendPoolId}

/-- All that matters of the health is which backends are usable. -/
theorem active_backends_congr (same : ∀ ip, usable health ip = usable health' ip) :
    active_backends health = active_backends health' := by
  funext pool
  exact List.filter_congr fun b _ => by rw [same b.ip]
theorem table_of_usable (same : ∀ ip, usable health ip = usable health' ip) (pools : List BackendPool) :
    table_of x pools health m id = table_of x pools health' m id := by
  unfold table_of pool_table
  rw [active_backends_congr same]

end Lb.Applier

namespace Lb.System
open Lb.Addr Lb.Types Lb.Packet Lb.Buffer Lb.Maglev Lb.Applier Lb.Vips Lb.Rewriter Lb.Orchestrator Lb.Connections

variable {x : Xxh3} {m : TableSize} {config : LbConfig} {health : Health} {f : PacketMeta} {node : Node} {event : Event}

/-- The backend that a flow has by the configuration and the health alone. -/
def assigned (x : Xxh3) (config : LbConfig) (health : Health) (m : TableSize) (f : PacketMeta) : Option IpAddr :=
  ((build_vip_matcher config).match_packet f.dst_ip f.protocol f.dst_port).bind fun id =>
    (table_of x config.pools health m id).map fun t => (t.lookup (f.flow_hash x)).ip

/-- The node has applied the configuration, finds the same backends usable and has rebuilt
    its tables since it does, and its thread has loaded them. -/
structure Node.Agrees (config : LbConfig) (health : Health) (n : Node) : Prop where
  applied : n.controller.config = some config
  known : ∀ ip, usable n.controller.health_status ip = usable health ip
  rebuilt : n.controller.has_pending_rebuilds = false
  matcher : n.loaded_matcher = build_vip_matcher config
  tables : n.loaded_tables = n.controller.lookup_tables

/-- Nodes, each with events of its own. -/
abbrev Cluster (k : Nat) := Fin k → Node

def Cluster.step {k : Nat} (x : Xxh3) (c : Cluster k) (e : Fin k × Event) : Cluster k :=
  Function.update c e.1 ((c e.1).step x e.2)

/-- A node that gets a packet of the flow agrees; packets of other flows have other hashes. -/
def Alike {k : Nat} (x : Xxh3) (config : LbConfig) (health : Health) (f : PacketMeta) (c : Cluster k) (e : Fin k × Event) :
    Prop :=
  match e.2 with
  | .process input _ =>
    (flow_of input = some f → (c e.1).Agrees config health) ∧
      ∀ g, flow_of input = some g → g ≠ f → g.flow_hash x ≠ f.flow_hash x
  | _ => True

/-- The controller is one that calls lead to. -/
structure Node.Kept (x : Xxh3) (m : TableSize) (n : Node) : Prop where
  current : n.controller.Current x
  sized : n.controller.table_size = m

theorem start_kept (initial : Option LbConfig) (rewriter : RewriterThread) :
    (Node.start x initial m rewriter).Kept x m := by
  refine ⟨boot_current x initial m,?_⟩
  cases initial with
  | none => rfl
  | some config => exact Controller.perform_table_size (.apply_config config)

theorem Node.Kept.step (kept : node.Kept x m) (event : Event) : (node.step x event).Kept x m := by
  cases event with
  | control op => exact ⟨kept.current.perform op,(Controller.perform_table_size op).trans kept.sized⟩
  | store_matcher config => exact ⟨kept.current,kept.sized⟩
  | load_matcher => exact ⟨kept.current,kept.sized⟩
  | load_tables => exact ⟨kept.current,kept.sized⟩
  | process input now => exact ⟨kept.current,kept.sized⟩

/-- On a node that agrees, the hash of the flow falls to the assigned backend. -/
theorem Node.Kept.falls (kept : node.Kept x m) (agrees : node.Agrees config health)
    (able : ∀ id, (build_vip_matcher config).match_packet f.dst_ip f.protocol f.dst_port = some id →
      Controller.BuildableId config health id) {input : PacketBuf} {pkt_meta : PacketMeta} {lookup_table : LookupTable}
    (own : flow_of input = some f) (resolved : resolve node.shared input = some (pkt_meta,lookup_table)) :
    assigned x config health m f = some (lookup_table.lookup (f.flow_hash x)).ip := by
  obtain ⟨first,parsed,pool_id,matched,found⟩ := RewriterThread.resolve_eq_some resolved
  have fields : f = five_tuple pkt_meta := by
    rw [flow_of,first,parsed] at own
    exact (Option.some.inj own).symm
  have service : (build_vip_matcher config).match_packet f.dst_ip f.protocol f.dst_port = some pool_id := by
    rw [matched_pool,parsed,Node.shared,agrees.matcher] at matched
    rw [fields]
    exact matched
  have idle : node.controller.pending_pools = ∅ :=
    kept.current.idle (by simpa [Controller.has_pending_rebuilds] using agrees.rebuilt)
  have buildable : Controller.BuildableId config node.controller.health_status pool_id := by
    rw [Controller.BuildableId]
    unfold Buildable
    rw [active_backends_congr agrees.known]
    exact able pool_id service
  have built := kept.current.tables config agrees.applied pool_id (by simp [idle]) buildable
  rw [Node.shared,agrees.tables] at found
  rw [found,table_of_usable agrees.known,kept.sized] at built
  rw [assigned,service,Option.bind_some,← built]
  rfl

/-- The entries of a flow are for the assigned backend. -/
def Placed (x : Xxh3) (config : LbConfig) (health : Health) (m : TableSize) (f : PacketMeta) (hash : UInt64)
    (backend_ip : IpAddr) : Prop :=
  hash = f.flow_hash x → assigned x config health m f = some backend_ip

/-- What a packet's hash falls to fits, on a node that is alike. -/
theorem Node.Kept.fits (kept : node.Kept x m)
    (able : ∀ id, (build_vip_matcher config).match_packet f.dst_ip f.protocol f.dst_port = some id →
      Controller.BuildableId config health id) {input : PacketBuf} {now : Nat}
    (agrees : flow_of input = some f → node.Agrees config health)
    (distinct : ∀ g, flow_of input = some g → g ≠ f → g.flow_hash x ≠ f.flow_hash x) :
    Falls x (Placed x config health m f) ⟨node.shared,input,now⟩ := by
  intro pkt_meta lookup_table resolved same
  have flow := flow_of_resolved (a := ⟨node.shared,input,now⟩) resolved
  have own : flow_of input = some f := by
    by_contra other
    refine distinct _ flow (fun equal => other (equal ▸ flow)) ?_
    exact same
  rw [same]
  exact kept.falls (agrees own) able own resolved

/-- A flow that starts on any of the nodes stays with one backend, whichever nodes its
    packets come to, as long as each node that gets one has applied the same
    configuration, knows the same of the backends and has rebuilt its tables: the nodes'
    histories, the other flows and what the nodes forget of the flow make no difference.
    The pool of the service must get a table, and other flows must have other hashes. -/
theorem flows_survive_rehashing (x : Xxh3) (m : TableSize) {k : Nat} (initial : Fin k → Option LbConfig)
    (threads : Fin k → RewriterThread) (history run : List (Fin k × Event)) (config : LbConfig) (health : Health)
    (f : PacketMeta) (able : ∀ id, (build_vip_matcher config).match_packet f.dst_ip f.protocol f.dst_port = some id →
      Controller.BuildableId config health id)
    (i : Fin k) (input : PacketBuf) (now : Nat) (b : Ipv4Addr) :
    let cluster := history.foldl (Cluster.step x) fun i => .start x (initial i) m (threads i)
    let cluster' := run.foldl (Cluster.step x) cluster
    (∀ i, (cluster i).rewriter.conn_table.Only (Placed x config health m f)) →
    Runs.Along (Cluster.step x) (Alike x config health f) cluster (run ++ [(i,.process input now)]) →
    flow_of input = some f →
    ((cluster' i).rewriter.process_one x (cluster' i).shared input now).2.forwarded_to = some b →
    assigned x config health m f = some (.V4 b) := by
  intro cluster cluster' placed alike own forwarded
  have kept_step : ∀ (c : Cluster k) e, (∀ i, (c i).Kept x m) → ∀ i, (c.step x e i).Kept x m := by
    intro c e kept i
    rw [Cluster.step]
    by_cases here : i = e.1
    · rw [here,Function.update_self]
      exact (kept e.1).step e.2
    · rw [Function.update_of_ne here]
      exact kept i
  have kept : ∀ i, (cluster i).Kept x m :=
    Runs.invariant (fun c : Cluster k => ∀ i, (c i).Kept x m) kept_step (fun i => start_kept (initial i) (threads i))
      history
  rw [Runs.along_append] at alike
  have placed' : ∀ i, (cluster' i).Kept x m ∧
      (cluster' i).rewriter.conn_table.Only (Placed x config health m f) := by
    refine alike.1.invariant
      (fun c : Cluster k => ∀ i, (c i).Kept x m ∧ (c i).rewriter.conn_table.Only (Placed x config health m f))
      (fun c e both alike i => ⟨kept_step c e (fun i => (both i).1) i,?_⟩) fun i => ⟨kept i,placed i⟩
    rw [Cluster.step]
    by_cases here : i = e.1
    · subst here
      rw [Function.update_self]
      obtain ⟨i,event⟩ := e
      cases event with
      | process input now => exact step_only (both i).2 ((both i).1.fits able alike.1 alike.2)
      | control op => exact (both i).2
      | store_matcher config => exact (both i).2
      | load_matcher => exact (both i).2
      | load_tables => exact (both i).2
    · rw [Function.update_of_ne here]
      exact (both i).2
  obtain ⟨agrees,distinct⟩ := alike.2.1
  obtain ⟨kept',only⟩ := placed' i
  obtain ⟨pkt_meta,lookup_table,resolved,fits⟩ := forwarded_only (a := ⟨(cluster' i).shared,input,now⟩) only
    (kept'.fits able agrees distinct) (flow_of_first own) forwarded
  have flow := flow_of_resolved (a := ⟨(cluster' i).shared,input,now⟩) resolved
  rw [show flow_of input = some f from own,Option.some.injEq] at flow
  exact fits (by rw [flow]; rfl)

private def firstBackend : IpAddr := .V4 ⟨10,0,0,1⟩
private def knowing : Fin 2 := ⟨0,Nat.two_pos⟩
private def other : Fin 2 := ⟨1,Nat.one_lt_two⟩
/-- The first backend fails and recovers, and only one of two nodes gets to know. -/
private def recovering : List (Fin 2 × Event) :=
  [(knowing,.control (.on_health_change firstBackend .Unhealthy 0 0)),(knowing,.control .flush_pending),
    (knowing,.control (.on_health_change firstBackend .Healthy 0 0)),(knowing,.control .flush_pending),
    (knowing,.load_matcher),(knowing,.load_tables),(other,.load_matcher),(other,.load_tables)]
private def twoNodes : Cluster 2 :=
  recovering.foldl (Cluster.step hashedPair) fun _ => .start hashedPair (some (pair false)) ⟨2,Nat.prime_two⟩ idle
private def moved : List (Fin 2 × Event) := [(knowing,.process (segment 40000 40 []) (from_secs 1))]

private theorem two_nodes_agree : ∀ i, (twoNodes i).Agrees (pair false) ∅ := by
  intro i
  have health : (twoNodes i).controller.health_status =
      if i = 0 then (∅ : Health).insert firstBackend .Healthy else ∅ := by
    fin_cases i <;> decide +kernel
  refine ⟨?_,fun ip => ?_,?_,?_,?_⟩
  · fin_cases i <;> decide +kernel
  · rw [health]
    split_ifs
    · by_cases first : ip = firstBackend
      · subst first
        decide
      · simp [usable,Finmap.lookup_insert_of_ne _ first]
    · rfl
  · fin_cases i <;> decide +kernel
  · fin_cases i <;> rfl
  · fin_cases i <;> decide +kernel

/-- A flow that starts on the node that knows goes on on the other one. -/
theorem flows_survive_recovery :
    assigned hashedPair (pair false) ∅ ⟨2,Nat.prime_two⟩ (flowFrom 40000) = some firstBackend := by
  have own : flow_of (segment 40000 40 []) = some (flowFrom 40000) := by decide
  have distinct : ∀ g, flow_of (segment 40000 40 []) = some g → g ≠ flowFrom 40000 →
      g.flow_hash hashedPair ≠ (flowFrom 40000).flow_hash hashedPair := fun g flow other =>
    absurd (Option.some.inj (flow.symm.trans own)) other
  have able : ∀ id, (build_vip_matcher (pair false)).match_packet (flowFrom 40000).dst_ip (flowFrom 40000).protocol
      (flowFrom 40000).dst_port = some id → Controller.BuildableId (pair false) ∅ id := by
    intro id matched
    rw [show (build_vip_matcher (pair false)).match_packet (flowFrom 40000).dst_ip (flowFrom 40000).protocol
      (flowFrom 40000).dst_port = some ⟨"pool"⟩ by decide,Option.some.injEq] at matched
    exact ⟨_,List.mem_cons_self,matched,.inl (by decide)⟩
  have idle_threads : ∀ i, (twoNodes i).rewriter = idle := by
    intro i
    fin_cases i <;> rfl
  refine flows_survive_rehashing hashedPair ⟨2,Nat.prime_two⟩ (fun _ => some (pair false)) (fun _ => idle) recovering
    moved (pair false) ∅ (flowFrom 40000) able 1 (segment 40000 40 []) (from_secs 2) ⟨10,0,0,1⟩ (fun i => ?_)
    ⟨⟨fun _ => two_nodes_agree knowing,distinct⟩,⟨fun _ => two_nodes_agree other,distinct⟩,trivial⟩ own (by decide +kernel)
  show (twoNodes i).rewriter.conn_table.Only _
  rw [idle_threads i]
  exact ConnTable.new_only 2 two_bits minutes 0

end Lb.System
