import Lb.Applier
import Lb.Connections
import Lb.Fragments
import Lb.Gre
import Lb.Mtu
import Lb.Vips

/-!
# The rewriter

One thread of the data plane: it finds the backend of a packet, from its own
tables and from what the controller shares with it, and sends the packet there
through a tunnel.
-/
namespace Lb.Rewriter
open Lb.Addr Lb.Types Lb.Packet Lb.Buffer Lb.Maglev Lb.Applier Lb.Vips Lb.Connections Lb.Fragments Lb.Mtu Lb.Gre

inductive Metric
  | packets_received
  | packets_forwarded
  | packets_dropped
  | conn_table_hits
  | conn_table_misses
  | conn_table_size
  | conn_table_inserts_total
  | eviction_expired_on_insert
  | eviction_dropped_full
  | tcp_transition_established
  | tcp_transition_closing_fin
  | tcp_transition_closing_rst
  | conn_table_fallback_to_maglev_total
  | conn_table_fill_bp
  | mss_clamp_total
  | mss_clamp_noop_total
  | mss_clamp_missing_total
  | icmp_frag_needed_sent_total
  | icmp_frag_needed_ratelimited_total
  | packets_oversized_dropped_total
  | fragment_first_total
  | fragment_subsequent_forwarded_total
  | fragment_drop_no_mapping_total
deriving DecidableEq

abbrev ForwarderMetrics := Metric → Nat

def ForwarderMetrics.set (m : ForwarderMetrics) (metric : Metric) (value : Nat) : ForwarderMetrics :=
  Function.update m metric value
def ForwarderMetrics.inc (m : ForwarderMetrics) (metric : Metric) : ForwarderMetrics := m.set metric (m metric + 1)

/-- What the rewriters share with the controller, as it is read for one packet. -/
structure Shared where
  vip_matcher : VipMatcher
  lookup_tables : LookupTables
  health_status : Health

structure RewriterThread where
  src_ip : IpAddr
  conn_table : ConnTable
  fragment_table : FragmentTable
  metrics : ForwarderMetrics
  mtu_config : MtuConfig
  icmp_rate_limiter : IcmpRateLimiter

inductive ProcessResult
  | Forwarded (pkt : PacketBuf)
  | Icmp (pkt : PacketBuf)
  | OversizedRateLimited
  | Dropped

def initial_tcp_state : Option TcpFlags → TcpFlowState
  | none => .NotTcp
  | some f =>
    if f.rst || f.fin then .Closing
    else if f.syn && !f.ack then .Handshake
    else if f.ack then .Established
    else .Handshake

namespace RewriterThread

/-- The tables have a power of two of slots each. -/
def new (src_ip : IpAddr) (conn_bits : Nat) (conn_small : conn_bits < 64) (conn_ttls : ConnTtls) (fragment_bits : Nat)
    (fragment_small : fragment_bits < 64) (fragment_ttl : Nat) (mtu_config : MtuConfig) (icmp_rate_limit now : Nat) :
    RewriterThread where
  src_ip := src_ip
  conn_table := .new conn_bits conn_small conn_ttls now
  fragment_table := .new fragment_bits fragment_small fragment_ttl now
  metrics := fun _ => 0
  mtu_config := mtu_config
  icmp_rate_limiter := .new icmp_rate_limit now

def inc (r : RewriterThread) (metric : Metric) : RewriterThread := { r with metrics := r.metrics.inc metric }

def insert_tracked (r : RewriterThread) (hash : UInt64) (backend_ip : IpAddr) (proto : FlowProto)
    (tcp_state : TcpFlowState) (now : Nat) : RewriterThread :=
  let (conn_table,result) := r.conn_table.insert hash backend_ip proto tcp_state now
  let r := { r with conn_table }
  match result with
  | .Inserted | .Updated => r.inc .conn_table_inserts_total
  | .EvictedExpired => (r.inc .conn_table_inserts_total).inc .eviction_expired_on_insert
  | .DroppedFull => r.inc .eviction_dropped_full

def apply_tcp_transitions (r : RewriterThread) (hash : UInt64) (flags : TcpFlags) (now : Nat) : RewriterThread :=
  if flags.rst then
    { r with conn_table := r.conn_table.mark_closing hash now }.inc .tcp_transition_closing_rst
  else if flags.fin then
    { r with conn_table := r.conn_table.mark_closing hash now }.inc .tcp_transition_closing_fin
  else if flags.ack && !flags.syn then
    { r with conn_table := r.conn_table.mark_established hash now }.inc .tcp_transition_established
  else r

def gre_encap_to (r : RewriterThread) (input : PacketBuf) (backend_ip : IpAddr) : ProcessResult :=
  match r.src_ip,backend_ip with
  | .V4 src_ipv4,.V4 dst_ipv4 =>
    match encapsulate_ipv4 input src_ipv4 dst_ipv4 with
    | some output => .Forwarded output
    | none => .Dropped
  | _,_ => .Dropped

def count_clamp (r : RewriterThread) : ClampResult → RewriterThread
  | .Clamped => r.inc .mss_clamp_total
  | .Noop => r.inc .mss_clamp_noop_total
  | .MssMissing => r.inc .mss_clamp_missing_total
  | .NotTcp | .NotSyn => r

section
variable (x : Xxh3)

/-- The part of `process_one` for fragments that have no L4 header. -/
def process_fragment (r : RewriterThread) (input : PacketBuf) (now : Nat) : RewriterThread × ProcessResult :=
  match FragmentId.from_ipv4_bytes input.as_slice with
  | none => (r,.Dropped)
  | some fid =>
    match r.fragment_table.get (fid.fragment_hash x) now with
    | none => (r.inc .fragment_drop_no_mapping_total,.Dropped)
    | some backend_ip => (r.inc .fragment_subsequent_forwarded_total,r.gre_encap_to input backend_ip)

/-- The part of `process_one` that selects the backend: the one that the flow is
    pinned to unless it is unhealthy, else the one that the hash falls to. -/
def select_backend (r : RewriterThread) (health : Health) (lookup_table : LookupTable) (pkt_meta : PacketMeta)
    (now : Nat) : RewriterThread × IpAddr :=
  let flow_hash := pkt_meta.flow_hash x
  let proto := FlowProto.from pkt_meta.protocol
  let initial_state := initial_tcp_state pkt_meta.tcp_flags
  match r.conn_table.get flow_hash now with
  | some cached_ip =>
    if usable health cached_ip then
      let r := r.inc .conn_table_hits
      ({ r with conn_table := r.conn_table.touch flow_hash now },cached_ip)
    else
      let r := r.inc .conn_table_fallback_to_maglev_total
      let backend := lookup_table.lookup flow_hash
      (r.insert_tracked flow_hash backend.ip proto initial_state now,backend.ip)
  | none =>
    let r := r.inc .conn_table_misses
    let backend := lookup_table.lookup flow_hash
    (r.insert_tracked flow_hash backend.ip proto initial_state now,backend.ip)

/-- The part of `process_one` that remembers the backend for later fragments. -/
def record_fragment (r : RewriterThread) (input : PacketBuf) (backend_ip : IpAddr) (now : Nat) : RewriterThread :=
  if is_fragment input.as_slice then
    match FragmentId.from_ipv4_bytes input.as_slice with
    | some fid =>
      { r with fragment_table := r.fragment_table.insert (fid.fragment_hash x) backend_ip now }.inc .fragment_first_total
    | none => r
  else r

end

/-- The last part of `process_one`: an error to the sender if the packet is too
    large, or the packet to the backend. -/
def send (r : RewriterThread) (output : PacketBuf) (dst_ip backend_ip : IpAddr) (now : Nat) :
    RewriterThread × ProcessResult :=
  if should_generate_icmp output.as_slice r.mtu_config.network_mtu then
    let (icmp_rate_limiter,allowed) := r.icmp_rate_limiter.allow now
    let r := { r with icmp_rate_limiter }
    if allowed then
      let vip_v4 :=
        match dst_ip with
        | .V4 v4 => v4
        | .V6 _ => .UNSPECIFIED
      (r,.Icmp (generate_icmp_frag_needed output.as_slice vip_v4 r.mtu_config.effective_inner_mtu))
    else (r,.OversizedRateLimited)
  else (r,r.gre_encap_to output backend_ip)

def clamp (r : RewriterThread) (input : PacketBuf) : PacketBuf :=
  input.with_slice (clamp_mss input.as_slice r.mtu_config.tcp_mss_clamp).1 (by simp [PacketBuf.as_slice_length])

def process_one (x : Xxh3) (r : RewriterThread) (shared : Shared) (input : PacketBuf) (now : Nat) :
    RewriterThread × ProcessResult :=
  if is_non_first_fragment input.as_slice then r.process_fragment x input now
  else
    match PacketMeta.from_ipv4_bytes input.as_slice with
    | none => (r,.Dropped)
    | some pkt_meta =>
      match shared.vip_matcher.match_packet pkt_meta.dst_ip pkt_meta.protocol pkt_meta.dst_port with
      | none => (r,.Dropped)
      | some pool_id =>
        let output := r.clamp input
        let r := r.count_clamp (clamp_mss input.as_slice r.mtu_config.tcp_mss_clamp).2
        match shared.lookup_tables.lookup pool_id with
        | none => (r,.Dropped)
        | some lookup_table =>
          let (r,backend_ip) := r.select_backend x shared.health_status lookup_table pkt_meta now
          let r :=
            match pkt_meta.tcp_flags with
            | some flags => r.apply_tcp_transitions (pkt_meta.flow_hash x) flags now
            | none => r
          let r := r.record_fragment x input backend_ip now
          r.send output pkt_meta.dst_ip backend_ip now

/-- What a batch makes of the result for one packet: the metrics, and the packet
    that goes out. -/
def count_result (r : RewriterThread) : ProcessResult → RewriterThread × Option PacketBuf
  | .Forwarded pkt => (r.inc .packets_forwarded,some pkt)
  | .Icmp pkt => ((r.inc .icmp_frag_needed_sent_total).inc .packets_oversized_dropped_total,some pkt)
  | .OversizedRateLimited =>
    (((r.inc .icmp_frag_needed_ratelimited_total).inc .packets_oversized_dropped_total).inc .packets_dropped,none)
  | .Dropped => (r.inc .packets_dropped,none)

/-- The loop of `process_batch`. The matcher, the tables and the time are read
    once a batch, the health for every packet. -/
def process_packets (x : Xxh3) (vip_matcher : VipMatcher) (lookup_tables : LookupTables) (now : Nat) :
    RewriterThread → List (PacketBuf × Health) → RewriterThread × List PacketBuf
  | r, [] => (r,[])
  | r, (input,health_status) :: packets =>
    let (r,result) := (r.inc .packets_received).process_one x { vip_matcher, lookup_tables, health_status } input now
    let (r,output) := r.count_result result
    let (r,outputs) := process_packets x vip_matcher lookup_tables now r packets
    (r,output.toList ++ outputs)
def process_batch (x : Xxh3) (r : RewriterThread) (vip_matcher : VipMatcher) (lookup_tables : LookupTables) (now : Nat)
    (packets : List (PacketBuf × Health)) : RewriterThread × List PacketBuf :=
  let (r,outputs) := process_packets x vip_matcher lookup_tables now r packets
  ({ r with metrics := (r.metrics.set .conn_table_size r.conn_table.len).set .conn_table_fill_bp r.conn_table.fill_bp },
    outputs)

end RewriterThread

/-- The backend that a packet was forwarded to. -/
def ProcessResult.forwarded_to : ProcessResult → Option Ipv4Addr
  | .Forwarded pkt => some (destination pkt)
  | .Icmp _ | .OversizedRateLimited | .Dropped => none

theorem ProcessResult.forwarded_to_eq_some {result : ProcessResult} {backend : Ipv4Addr} :
    result.forwarded_to = some backend ↔ ∃ pkt, result = .Forwarded pkt ∧ destination pkt = backend := by
  cases result <;> simp [forwarded_to]

/-- The packet that goes out. -/
def ProcessResult.output : ProcessResult → Option PacketBuf
  | .Forwarded pkt | .Icmp pkt => some pkt
  | .OversizedRateLimited | .Dropped => none

theorem RewriterThread.count_result_output {r : RewriterThread} (result : ProcessResult) :
    (r.count_result result).2 = result.output := by
  cases result <;> rfl

/-! ### The way of a packet -/

/-- The fields and the lookup table of a packet that gets as far as the backend
    selection. -/
def resolve (shared : Shared) (input : PacketBuf) : Option (PacketMeta × LookupTable) :=
  if is_non_first_fragment input.as_slice then none
  else
    (PacketMeta.from_ipv4_bytes input.as_slice).bind fun pkt_meta =>
      (shared.vip_matcher.match_packet pkt_meta.dst_ip pkt_meta.protocol pkt_meta.dst_port).bind fun pool_id =>
        (shared.lookup_tables.lookup pool_id).map fun lookup_table => (pkt_meta,lookup_table)

/-- The pool of the service that a packet is for. -/
def matched_pool (vip_matcher : VipMatcher) (input : PacketBuf) : Option BackendPoolId :=
  (PacketMeta.from_ipv4_bytes input.as_slice).bind fun pkt_meta =>
    vip_matcher.match_packet pkt_meta.dst_ip pkt_meta.protocol pkt_meta.dst_port

section
variable (x : Xxh3)

/-- The backend that a selection comes to. -/
def backend_of (conn_table : ConnTable) (health : Health) (lookup_table : LookupTable) (pkt_meta : PacketMeta)
    (now : Nat) : IpAddr :=
  match conn_table.get (pkt_meta.flow_hash x) now with
  | some cached_ip => if usable health cached_ip then cached_ip else (lookup_table.lookup (pkt_meta.flow_hash x)).ip
  | none => (lookup_table.lookup (pkt_meta.flow_hash x)).ip

/-- What a selection does to the connection table. -/
def selection (conn_table : ConnTable) (health : Health) (lookup_table : LookupTable) (pkt_meta : PacketMeta)
    (now : Nat) : TableOp :=
  let insertion := .insert (pkt_meta.flow_hash x) (lookup_table.lookup (pkt_meta.flow_hash x)).ip
    (FlowProto.from pkt_meta.protocol) (initial_tcp_state pkt_meta.tcp_flags)
  match conn_table.get (pkt_meta.flow_hash x) now with
  | some cached_ip => if usable health cached_ip then .touch (pkt_meta.flow_hash x) else insertion
  | none => insertion

/-- What the TCP flags of a packet do to the connection table. -/
def transition (pkt_meta : PacketMeta) : Option TableOp :=
  pkt_meta.tcp_flags.bind fun flags =>
    if flags.rst then some (.mark_closing (pkt_meta.flow_hash x))
    else if flags.fin then some (.mark_closing (pkt_meta.flow_hash x))
    else if flags.ack && !flags.syn then some (.mark_established (pkt_meta.flow_hash x))
    else none

/-- The calls that a resolved packet makes to the connection table. -/
def table_calls (conn_table : ConnTable) (health : Health) (lookup_table : LookupTable) (pkt_meta : PacketMeta)
    (now : Nat) : List TableCall :=
  ⟨now,selection x conn_table health lookup_table pkt_meta now⟩ :: (transition x pkt_meta).toList.map (TableCall.mk now)

/-- The fragment table after a packet that went to a backend. -/
def recorded (fragment_table : FragmentTable) (input : PacketBuf) (backend_ip : IpAddr) (now : Nat) : FragmentTable :=
  if is_fragment input.as_slice then
    match FragmentId.from_ipv4_bytes input.as_slice with
    | some fid => fragment_table.insert (fid.fragment_hash x) backend_ip now
    | none => fragment_table
  else fragment_table

/-- The thread with the tables as a resolved packet leaves them. -/
def settled (r : RewriterThread) (health : Health) (input : PacketBuf) (lookup_table : LookupTable)
    (pkt_meta : PacketMeta) (now : Nat) : RewriterThread :=
  { r with
    conn_table := (table_calls x r.conn_table health lookup_table pkt_meta now).foldl ConnTable.apply r.conn_table
    fragment_table :=
      recorded x r.fragment_table input (backend_of x r.conn_table health lookup_table pkt_meta now) now }

end

/-- The backend is not known to be unhealthy, or it is the one that the hash falls to. -/
theorem backend_of_cases (x : Xxh3) (conn_table : ConnTable) (health : Health) (lookup_table : LookupTable)
    (pkt_meta : PacketMeta) (now : Nat) :
    usable health (backend_of x conn_table health lookup_table pkt_meta now) = true ∨
      backend_of x conn_table health lookup_table pkt_meta now = (lookup_table.lookup (pkt_meta.flow_hash x)).ip := by
  unfold backend_of
  cases conn_table.get (pkt_meta.flow_hash x) now with
  | none => exact .inr rfl
  | some cached_ip =>
    dsimp only
    split_ifs with healthy
    · exact .inl healthy
    · exact .inr rfl

namespace RewriterThread
variable {x : Xxh3} {r : RewriterThread} {shared : Shared} {input output : PacketBuf} {now : Nat}
  {pkt_meta : PacketMeta} {lookup_table : LookupTable} {health : Health}

theorem clamp_len (r : RewriterThread) (input : PacketBuf) : (r.clamp input).len = input.len := rfl
theorem clamp_as_slice (r : RewriterThread) (input : PacketBuf) :
    (r.clamp input).as_slice = (clamp_mss input.as_slice r.mtu_config.tcp_mss_clamp).1 :=
  PacketBuf.as_slice_with_slice _ _

theorem insert_tracked_eq (r : RewriterThread) (hash : UInt64) (backend_ip : IpAddr) (proto : FlowProto)
    (tcp_state : TcpFlowState) (now : Nat) :
    ∃ metrics, r.insert_tracked hash backend_ip proto tcp_state now =
      { r with conn_table := r.conn_table.apply ⟨now,.insert hash backend_ip proto tcp_state⟩, metrics } := by
  unfold insert_tracked
  dsimp only
  cases (r.conn_table.insert hash backend_ip proto tcp_state now).2 <;> exact ⟨_,rfl⟩

theorem select_backend_eq (x : Xxh3) (r : RewriterThread) (health : Health) (lookup_table : LookupTable)
    (pkt_meta : PacketMeta) (now : Nat) : ∃ metrics, r.select_backend x health lookup_table pkt_meta now =
    ({ r with
        conn_table := r.conn_table.apply ⟨now,selection x r.conn_table health lookup_table pkt_meta now⟩
        metrics },
      backend_of x r.conn_table health lookup_table pkt_meta now) := by
  unfold select_backend selection backend_of
  dsimp only
  cases r.conn_table.get (pkt_meta.flow_hash x) now with
  | none =>
    dsimp only
    obtain ⟨metrics,inserted⟩ := insert_tracked_eq (r.inc .conn_table_misses) (pkt_meta.flow_hash x)
      (lookup_table.lookup (pkt_meta.flow_hash x)).ip (FlowProto.from pkt_meta.protocol)
      (initial_tcp_state pkt_meta.tcp_flags) now
    rw [inserted]
    exact ⟨metrics,rfl⟩
  | some cached_ip =>
    dsimp only
    split_ifs with healthy
    · exact ⟨_,rfl⟩
    · obtain ⟨metrics,inserted⟩ := insert_tracked_eq (r.inc .conn_table_fallback_to_maglev_total)
        (pkt_meta.flow_hash x) (lookup_table.lookup (pkt_meta.flow_hash x)).ip (FlowProto.from pkt_meta.protocol)
        (initial_tcp_state pkt_meta.tcp_flags) now
      rw [inserted]
      exact ⟨metrics,rfl⟩

theorem apply_tcp_transitions_eq (x : Xxh3) (r : RewriterThread) (pkt_meta : PacketMeta) (now : Nat) :
    ∃ metrics, (match pkt_meta.tcp_flags with
      | some flags => r.apply_tcp_transitions (pkt_meta.flow_hash x) flags now
      | none => r) =
      { r with
        conn_table := ((transition x pkt_meta).toList.map (TableCall.mk now)).foldl ConnTable.apply r.conn_table
        metrics } := by
  unfold transition
  cases pkt_meta.tcp_flags with
  | none => exact ⟨r.metrics,rfl⟩
  | some flags =>
    dsimp only [Option.bind_some]
    unfold apply_tcp_transitions
    split_ifs
    · exact ⟨_,rfl⟩
    · exact ⟨_,rfl⟩
    · exact ⟨_,rfl⟩
    · exact ⟨r.metrics,rfl⟩

theorem record_fragment_eq (x : Xxh3) (r : RewriterThread) (input : PacketBuf) (backend_ip : IpAddr) (now : Nat) :
    ∃ metrics, r.record_fragment x input backend_ip now =
      { r with fragment_table := recorded x r.fragment_table input backend_ip now, metrics } := by
  unfold record_fragment recorded
  split_ifs
  · cases FragmentId.from_ipv4_bytes input.as_slice with
    | none => exact ⟨r.metrics,rfl⟩
    | some fid => exact ⟨_,rfl⟩
  · exact ⟨r.metrics,rfl⟩

theorem count_clamp_eq (r : RewriterThread) (result : ClampResult) :
    ∃ metrics, r.count_clamp result = { r with metrics } := by
  cases result
  · exact ⟨r.metrics,rfl⟩
  · exact ⟨r.metrics,rfl⟩
  · exact ⟨_,rfl⟩
  · exact ⟨_,rfl⟩
  · exact ⟨_,rfl⟩

theorem process_one_fragment (later : is_non_first_fragment input.as_slice = true) :
    r.process_one x shared input now = r.process_fragment x input now := if_pos later

/-- Sending uses up the rate limit at most. -/
theorem send_eq (r : RewriterThread) (output : PacketBuf) (dst_ip backend_ip : IpAddr) (now : Nat) :
    ∃ icmp_rate_limiter, (r.send output dst_ip backend_ip now).1 = { r with icmp_rate_limiter } := by
  unfold send
  dsimp only
  split_ifs
  · exact ⟨_,rfl⟩
  · exact ⟨_,rfl⟩
  · exact ⟨r.icmp_rate_limiter,rfl⟩

theorem send_metrics (r : RewriterThread) (output : PacketBuf) (metrics : ForwarderMetrics)
    (dst_ip backend_ip : IpAddr) (now : Nat) :
    send { r with metrics } output dst_ip backend_ip now =
      ({ (r.send output dst_ip backend_ip now).1 with metrics },(r.send output dst_ip backend_ip now).2) := by
  unfold send
  dsimp only
  split_ifs <;> rfl

/-- A packet that gets as far as the backend selection goes to the backend
    selected, or is too large. -/
theorem process_one_resolved (x : Xxh3) (r : RewriterThread) (now : Nat)
    (resolved : resolve shared input = some (pkt_meta,lookup_table)) :
    let sent := (settled x r shared.health_status input lookup_table pkt_meta now).send (r.clamp input)
      pkt_meta.dst_ip (backend_of x r.conn_table shared.health_status lookup_table pkt_meta now) now
    ∃ metrics, r.process_one x shared input now = ({ sent.1 with metrics },sent.2) := by
  unfold resolve at resolved
  split_ifs at resolved with first
  simp only [Option.bind_eq_some_iff,Option.map_eq_some_iff,Prod.mk.injEq] at resolved
  obtain ⟨pkt_meta,parsed,pool_id,matched,lookup_table,found,rfl,rfl⟩ := resolved
  obtain ⟨clamp_metrics,counted⟩ := count_clamp_eq r (clamp_mss input.as_slice r.mtu_config.tcp_mss_clamp).2
  obtain ⟨select_metrics,selected⟩ := select_backend_eq x { r with metrics := clamp_metrics } shared.health_status
    lookup_table pkt_meta now
  obtain ⟨flag_metrics,flagged⟩ := apply_tcp_transitions_eq x
    { r with
      conn_table := r.conn_table.apply ⟨now,selection x r.conn_table shared.health_status lookup_table pkt_meta now⟩
      metrics := select_metrics }
    pkt_meta now
  obtain ⟨metrics,remembered⟩ := record_fragment_eq x
    { r with
      conn_table := (table_calls x r.conn_table shared.health_status lookup_table pkt_meta now).foldl ConnTable.apply
        r.conn_table
      metrics := flag_metrics }
    input (backend_of x r.conn_table shared.health_status lookup_table pkt_meta now) now
  refine ⟨metrics,Eq.trans ?_ (send_metrics _ _ metrics pkt_meta.dst_ip _ now)⟩
  rw [process_one,if_neg first,parsed]
  dsimp only
  rw [matched]
  dsimp only
  rw [found]
  dsimp only
  rw [counted,selected]
  dsimp only
  rw [flagged]
  exact congrArg (fun r => send r (clamp _ input) pkt_meta.dst_ip _ now) remembered

/-- A packet that does not get there is dropped, and leaves both tables as they were. -/
theorem process_one_unresolved (x : Xxh3) (r : RewriterThread) (now : Nat)
    (first : is_non_first_fragment input.as_slice = false) (unresolved : resolve shared input = none) :
    ∃ metrics, r.process_one x shared input now = ({ r with metrics },.Dropped) := by
  simp only [resolve,first,Bool.false_eq_true,if_false] at unresolved
  rw [process_one,if_neg (by simp [first])]
  cases parsed : PacketMeta.from_ipv4_bytes input.as_slice with
  | none => exact ⟨r.metrics,rfl⟩
  | some pkt_meta =>
    rw [parsed,Option.bind_some] at unresolved
    dsimp only
    cases matched : shared.vip_matcher.match_packet pkt_meta.dst_ip pkt_meta.protocol pkt_meta.dst_port with
    | none => exact ⟨r.metrics,rfl⟩
    | some pool_id =>
      rw [matched,Option.bind_some,Option.map_eq_none_iff] at unresolved
      obtain ⟨metrics,counted⟩ := count_clamp_eq r (clamp_mss input.as_slice r.mtu_config.tcp_mss_clamp).2
      dsimp only
      rw [unresolved,counted]
      exact ⟨metrics,rfl⟩

theorem process_fragment_eq (x : Xxh3) (r : RewriterThread) (input : PacketBuf) (now : Nat) :
    ∃ metrics, r.process_fragment x input now =
    ({ r with metrics },
      match (FragmentId.from_ipv4_bytes input.as_slice).bind fun fid => r.fragment_table.get (fid.fragment_hash x) now with
      | some backend_ip => r.gre_encap_to input backend_ip
      | none => .Dropped) := by
  unfold process_fragment
  cases FragmentId.from_ipv4_bytes input.as_slice with
  | none => exact ⟨r.metrics,rfl⟩
  | some fid =>
    rw [Option.bind_some]
    dsimp only
    cases r.fragment_table.get (fid.fragment_hash x) now <;> exact ⟨_,rfl⟩

theorem gre_encap_to_forwarded {backend_ip : IpAddr} {out : PacketBuf} :
    r.gre_encap_to input backend_ip = .Forwarded out ↔ ∃ src_ip dst_ip, r.src_ip = .V4 src_ip ∧ backend_ip = .V4 dst_ip ∧
      encapsulate_ipv4 input src_ip dst_ip = some out := by
  unfold gre_encap_to
  cases r.src_ip with
  | V6 => simp
  | V4 src_ip =>
    cases backend_ip with
    | V6 => simp
    | V4 dst_ip =>
      dsimp only
      cases encapsulated : encapsulate_ipv4 input src_ip dst_ip <;> simp [encapsulated]

/-- What is sent goes through the tunnel, unless it is too large. -/
theorem send_forwarded_iff {dst_ip backend_ip : IpAddr} {out : PacketBuf} :
    (r.send output dst_ip backend_ip now).2 = .Forwarded out ↔
      should_generate_icmp output.as_slice r.mtu_config.network_mtu = false ∧
        r.gre_encap_to output backend_ip = .Forwarded out := by
  unfold send
  dsimp only
  by_cases oversized : should_generate_icmp output.as_slice r.mtu_config.network_mtu = true
  · rw [if_pos oversized,oversized]
    split_ifs <;> simp
  · rw [if_neg oversized,Bool.eq_false_of_not_eq_true oversized]
    simp
theorem send_forwarded {dst_ip backend_ip : IpAddr} {out : PacketBuf}
    (forwarded : (r.send output dst_ip backend_ip now).2 = .Forwarded out) :
    r.gre_encap_to output backend_ip = .Forwarded out := (send_forwarded_iff.mp forwarded).2

/-- A packet that is forwarded goes to the backend that the selection came to. -/
theorem forwarded_to_backend (first : is_non_first_fragment input.as_slice = false) {backend : Ipv4Addr}
    (forwarded : (r.process_one x shared input now).2.forwarded_to = some backend) :
    ∃ pkt_meta lookup_table, resolve shared input = some (pkt_meta,lookup_table) ∧
      backend_of x r.conn_table shared.health_status lookup_table pkt_meta now = .V4 backend := by
  obtain ⟨out,tunnelled,same⟩ := ProcessResult.forwarded_to_eq_some.mp forwarded
  cases resolved : resolve shared input with
  | none =>
    obtain ⟨metrics,dropped⟩ := process_one_unresolved x r now first resolved
    rw [dropped] at tunnelled
    cases tunnelled
  | some found =>
    obtain ⟨pkt_meta,lookup_table⟩ := found
    obtain ⟨metrics,sent⟩ := process_one_resolved x r now resolved
    rw [sent] at tunnelled
    obtain ⟨src_ip,dst_ip,_,selected,encapsulated⟩ := gre_encap_to_forwarded.mp (send_forwarded tunnelled)
    refine ⟨pkt_meta,lookup_table,rfl,?_⟩
    rw [selected,← encapsulate_ipv4_destination encapsulated,same]

theorem resolve_eq_some (resolved : resolve shared input = some (pkt_meta,lookup_table)) :
    is_non_first_fragment input.as_slice = false ∧ PacketMeta.from_ipv4_bytes input.as_slice = some pkt_meta ∧
      ∃ pool_id, matched_pool shared.vip_matcher input = some pool_id ∧
        shared.lookup_tables.lookup pool_id = some lookup_table := by
  unfold resolve at resolved
  split_ifs at resolved with first
  simp only [Option.bind_eq_some_iff,Option.map_eq_some_iff,Prod.mk.injEq] at resolved
  obtain ⟨_,parsed,pool_id,matched,_,found,rfl,rfl⟩ := resolved
  refine ⟨by simpa using first,parsed,pool_id,?_,found⟩
  rw [matched_pool,parsed]
  exact matched

/-- A packet with an L4 header is resolved if its service has a pool and the pool
    has a table. -/
theorem resolve_isSome (first : is_non_first_fragment input.as_slice = false) : (resolve shared input).isSome ↔
    ∃ pool_id, matched_pool shared.vip_matcher input = some pool_id ∧ pool_id ∈ shared.lookup_tables := by
  constructor
  · intro some_table
    obtain ⟨⟨pkt_meta,lookup_table⟩,resolved⟩ := Option.isSome_iff_exists.mp some_table
    obtain ⟨_,_,pool_id,matched,found⟩ := resolve_eq_some resolved
    exact ⟨pool_id,matched,Finmap.lookup_isSome.mp (by rw [found]; rfl)⟩
  · rintro ⟨pool_id,matched,known⟩
    obtain ⟨lookup_table,found⟩ := Option.isSome_iff_exists.mp (Finmap.lookup_isSome.mpr known)
    obtain ⟨pkt_meta,parsed,matched⟩ := Option.bind_eq_some_iff.mp matched
    simp [resolve,first,parsed,matched,found]

/-- Only a packet that is resolved changes the tables. -/
theorem process_one_tables (x : Xxh3) (r : RewriterThread) (shared : Shared) (input : PacketBuf) (now : Nat) :
    (r.process_one x shared input now).1.conn_table =
      (match resolve shared input with
      | some (pkt_meta,lookup_table) =>
        (table_calls x r.conn_table shared.health_status lookup_table pkt_meta now).foldl ConnTable.apply r.conn_table
      | none => r.conn_table) ∧
    (r.process_one x shared input now).1.fragment_table =
      (match resolve shared input with
      | some (pkt_meta,lookup_table) =>
        recorded x r.fragment_table input (backend_of x r.conn_table shared.health_status lookup_table pkt_meta now) now
      | none => r.fragment_table) ∧
    (r.process_one x shared input now).1.src_ip = r.src_ip ∧
    (r.process_one x shared input now).1.mtu_config = r.mtu_config := by
  cases resolved : resolve shared input with
  | some found =>
    obtain ⟨pkt_meta,lookup_table⟩ := found
    obtain ⟨metrics,sent⟩ := process_one_resolved x r now resolved
    rw [sent]
    obtain ⟨icmp_rate_limiter,state⟩ := send_eq
      (settled x r shared.health_status input lookup_table pkt_meta now) (r.clamp input) pkt_meta.dst_ip
      (backend_of x r.conn_table shared.health_status lookup_table pkt_meta now) now
    rw [state]
    exact ⟨rfl,rfl,rfl,rfl⟩
  | none =>
    cases first : is_non_first_fragment input.as_slice with
    | true =>
      obtain ⟨metrics,state⟩ := process_fragment_eq x r input now
      rw [process_one_fragment first,state]
      exact ⟨rfl,rfl,rfl,rfl⟩
    | false =>
      obtain ⟨metrics,state⟩ := process_one_unresolved x r now first resolved
      rw [state]
      exact ⟨rfl,rfl,rfl,rfl⟩

end RewriterThread

/-! ### Runs -/

/-- A packet as the thread gets to it. -/
structure Arrival where
  shared : Shared
  input : PacketBuf
  now : Nat

/-- The thread after a packet. -/
def RewriterThread.step (x : Xxh3) (r : RewriterThread) (a : Arrival) : RewriterThread :=
  (r.process_one x a.shared a.input a.now).1

namespace RewriterThread
variable {x : Xxh3} {r : RewriterThread}

/-- Nothing but the metrics depends on the metrics. -/
theorem process_one_metrics (x : Xxh3) (r : RewriterThread) (metrics : ForwarderMetrics) (shared : Shared)
    (input : PacketBuf) (now : Nat) :
    ∃ metrics', process_one x { r with metrics } shared input now =
      ({ (r.process_one x shared input now).1 with metrics := metrics' },(r.process_one x shared input now).2) := by
  cases resolved : resolve shared input with
  | some found =>
    obtain ⟨pkt_meta,lookup_table⟩ := found
    obtain ⟨_,sent⟩ := process_one_resolved x r now resolved
    obtain ⟨after,sent'⟩ := process_one_resolved x { r with metrics } now resolved
    rw [sent,sent']
    have same := send_metrics (settled x r shared.health_status input lookup_table pkt_meta now) (r.clamp input)
      metrics pkt_meta.dst_ip (backend_of x r.conn_table shared.health_status lookup_table pkt_meta now) now
    exact ⟨after,congrArg (fun sent => (({ sent.1 with metrics := after } : RewriterThread),sent.2)) same⟩
  | none =>
    cases first : is_non_first_fragment input.as_slice with
    | true =>
      obtain ⟨_,state⟩ := process_fragment_eq x r input now
      obtain ⟨after,state'⟩ := process_fragment_eq x { r with metrics } input now
      rw [process_one_fragment first,process_one_fragment first,state,state']
      exact ⟨after,rfl⟩
    | false =>
      obtain ⟨_,state⟩ := process_one_unresolved x r now first resolved
      obtain ⟨after,state'⟩ := process_one_unresolved x { r with metrics } now first resolved
      rw [state,state']
      exact ⟨after,rfl⟩

theorem count_result_eq (r : RewriterThread) (result : ProcessResult) :
    ∃ metrics, (r.count_result result).1 = { r with metrics } := by
  cases result <;> exact ⟨_,rfl⟩

/-- The thread after a packet, and the result for the packet. -/
def answer (x : Xxh3) (r : RewriterThread) (a : Arrival) : RewriterThread × List ProcessResult :=
  (r.step x a,[(r.process_one x a.shared a.input a.now).2])

/-- A packet as a batch gets to it. -/
def arrival (vip_matcher : VipMatcher) (lookup_tables : LookupTables) (now : Nat) (packet : PacketBuf × Health) :
    Arrival :=
  ⟨⟨vip_matcher,lookup_tables,packet.2⟩,packet.1,now⟩

/-- The results for the packets of a batch. -/
def results (x : Xxh3) (vip_matcher : VipMatcher) (lookup_tables : LookupTables) (now : Nat) (r : RewriterThread)
    (packets : List (PacketBuf × Health)) : List ProcessResult :=
  Runs.effects (answer x) r (packets.map (arrival vip_matcher lookup_tables now))

theorem outputs_cons (result : ProcessResult) (rest : List ProcessResult) :
    (result :: rest).filterMap ProcessResult.output = result.output.toList ++ rest.filterMap ProcessResult.output := by
  cases result <;> rfl
theorem process_packets_cons {vip_matcher : VipMatcher} {lookup_tables : LookupTables} {now : Nat}
    {packet : PacketBuf × Health} {sent counted : RewriterThread} {result : ProcessResult}
    (processed : (r.inc .packets_received).process_one x ⟨vip_matcher,lookup_tables,packet.2⟩ packet.1 now = (sent,result))
    (counts : (sent.count_result result).1 = counted) (packets : List (PacketBuf × Health)) :
    process_packets x vip_matcher lookup_tables now r (packet :: packets) =
      ((process_packets x vip_matcher lookup_tables now counted packets).1,
        result.output.toList ++ (process_packets x vip_matcher lookup_tables now counted packets).2) := by
  rw [process_packets,processed,← counts,← @count_result_output sent result]

theorem process_packets_eq (vip_matcher : VipMatcher) (lookup_tables : LookupTables) (now : Nat)
    (packets : List (PacketBuf × Health)) (r : RewriterThread) (metrics : ForwarderMetrics) :
    ∃ after, process_packets x vip_matcher lookup_tables now { r with metrics } packets =
      ({ (packets.map (arrival vip_matcher lookup_tables now)).foldl (step x) r with metrics := after },
        (results x vip_matcher lookup_tables now r packets).filterMap ProcessResult.output) := by
  induction packets generalizing r metrics with
  | nil => exact ⟨metrics,rfl⟩
  | cons packet packets ih =>
    obtain ⟨one_metrics,one⟩ := process_one_metrics x r (metrics.inc .packets_received)
      ⟨vip_matcher,lookup_tables,packet.2⟩ packet.1 now
    obtain ⟨count_metrics,counted⟩ := count_result_eq
      { r.step x (arrival vip_matcher lookup_tables now packet) with metrics := one_metrics }
      (r.process_one x ⟨vip_matcher,lookup_tables,packet.2⟩ packet.1 now).2
    obtain ⟨after,rest⟩ := ih (r.step x (arrival vip_matcher lookup_tables now packet)) count_metrics
    refine ⟨after,(@process_packets_cons x { r with metrics } _ _ _ _ _ _ _ one counted packets).trans ?_⟩
    rw [rest]
    exact Prod.ext rfl (outputs_cons _ _).symm

/-- A batch does, the metrics apart, what its packets do one by one. -/
theorem process_batch_eq (vip_matcher : VipMatcher) (lookup_tables : LookupTables) (now : Nat)
    (packets : List (PacketBuf × Health)) :
    ∃ metrics, r.process_batch x vip_matcher lookup_tables now packets =
      ({ (packets.map (arrival vip_matcher lookup_tables now)).foldl (step x) r with metrics },
        (results x vip_matcher lookup_tables now r packets).filterMap ProcessResult.output) := by
  obtain ⟨after,run⟩ := @process_packets_eq x vip_matcher lookup_tables now packets r r.metrics
  unfold process_batch
  rw [run]
  exact ⟨_,rfl⟩

end RewriterThread

/-! ### Two backends -/

/-- Two backends, the first of which may be drained. -/
def pair (drain : Bool) : LbConfig where
  vips := [⟨⟨"web"⟩,.V4 ⟨188,184,100,10⟩,[⟨.Tcp,443,"pool"⟩]⟩]
  pools := [⟨⟨"pool"⟩,[⟨.V4 ⟨10,0,0,1⟩,443,1,drain⟩,⟨.V4 ⟨10,0,0,2⟩,443,1,false⟩]⟩]
def flowFrom (src_port : UInt16) : PacketMeta := ⟨.V4 ⟨10,1,0,1⟩,.V4 ⟨188,184,100,10⟩,src_port,443,.Tcp,none⟩
def hashedPair : Xxh3 where
  xxh3_64 := fun bytes =>
    if bytes = (flowFrom 40000).hash_buf then 8969431135655909139
    else if bytes = (flowFrom 40001).hash_buf then 2405259820598896384
    else 0
  xxh3_64_with_seed := fun name seed =>
    if name = as_bytes "10.0.0.1:443".toList then if seed = 0 then 11481796046511376287 else 13404576150445306452
    else if name = as_bytes "10.0.0.2:443".toList then if seed = 0 then 11915930431517149075 else 13901280948490368874
    else 0
/-- A segment with the ACK flag, not to be fragmented. -/
def segment (src_port total_len : UInt16) (payload : List UInt8) : PacketBuf :=
  .from_slice ([0x45,0] ++ to_be_bytes total_len ++ [0,0,0x40,0,64,6,0,0,10,1,0,1,188,184,100,10] ++
    to_be_bytes src_port ++ to_be_bytes 443 ++ [0,0,0,1,0,0,0,1,0x50,0x10,1,0,0,0,0,0] ++ payload)
def sharing (drain : Bool) (health : Health) : Shared where
  vip_matcher := build_vip_matcher (pair drain)
  lookup_tables := build_lookup_tables hashedPair (pair drain) health ⟨2,Nat.prime_two⟩
  health_status := health
def mtu1500 : MtuConfig := ⟨1500,1476,1436⟩
def minutes : ConnTtls := .with_established (from_secs 60)

theorem two_bits : 2 < 64 := by decide
def idle : RewriterThread :=
  .new (.V4 ⟨172,16,0,1⟩) 2 two_bits minutes 2 two_bits (from_secs 10) mtu1500 100 0
def opening : Arrival := ⟨sharing false ∅,segment 40000 40 [],from_secs 1⟩

end Lb.Rewriter
