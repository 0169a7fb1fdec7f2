import Lb.Rewriter

/-!
# The multi-threaded forwarder

A steering thread spreads packets over rewriter threads, and a muxer sends what
they rewrite. Packets stay in frames of a shared pool, and only the indices of
the frames pass through the queues; who holds an index has the frame to itself,
so the queues below hold the frames.
-/
namespace Lb.Threading
open Lb.Addr Lb.Types Lb.Packet Lb.Buffer Lb.Maglev Lb.Applier Lb.Vips Lb.Connections Lb.Fragments Lb.Gre Lb.Rewriter

/-- A frame of the pool is a buffer of the size of a packet buffer. -/
abbrev Frame := PacketBuf

def QUEUE_CAPACITY : Nat := 4096
def BATCH_DRAIN_SIZE : Nat := 64

/-- What a rewriter thread keeps to itself. -/
structure Worker where
  conn_table : ConnTable
  fragment_table : FragmentTable
  metrics : ForwarderMetrics

/-- The functions that follow are `initial_tcp_state`, `insert_tracked` and
    `apply_tcp_transitions` of this file of the source, which repeats them. -/
def initial_tcp_state : Option TcpFlags → TcpFlowState
  | none => .NotTcp
  | some f =>
    if f.rst || f.fin then .Closing
    else if f.syn && !f.ack then .Handshake
    else if f.ack then .Established
    else .Handshake

namespace Worker

def new (conn_bits : Nat) (conn_small : conn_bits < 64) (conn_ttls : ConnTtls) (fragment_bits : Nat)
    (fragment_small : fragment_bits < 64) (fragment_ttl now : Nat) : Worker where
  conn_table := .new conn_bits conn_small conn_ttls now
  fragment_table := .new fragment_bits fragment_small fragment_ttl now
  metrics := fun _ => 0

def inc (w : Worker) (metric : Metric) : Worker := { w with metrics := w.metrics.inc metric }

@[simp] theorem inc_conn_table (w : Worker) (metric : Metric) : (w.inc metric).conn_table = w.conn_table := rfl
@[simp] theorem inc_fragment_table (w : Worker) (metric : Metric) :
    (w.inc metric).fragment_table = w.fragment_table := rfl

def insert_tracked (w : Worker) (hash : UInt64) (backend_ip : IpAddr) (proto : FlowProto) (tcp_state : TcpFlowState)
    (now : Nat) : Worker :=
  let (conn_table,result) := w.conn_table.insert hash backend_ip proto tcp_state now
  let w := { w with conn_table }
  match result with
  | .Inserted | .Updated => w.inc .conn_table_inserts_total
  | .EvictedExpired => (w.inc .conn_table_inserts_total).inc .eviction_expired_on_insert
  | .DroppedFull => w.inc .eviction_dropped_full

def apply_tcp_transitions (w : Worker) (hash : UInt64) (flags : TcpFlags) (now : Nat) : Worker :=
  if flags.rst then
    { w with conn_table := w.conn_table.mark_closing hash now }.inc .tcp_transition_closing_rst
  else if flags.fin then
    { w with conn_table := w.conn_table.mark_closing hash now }.inc .tcp_transition_closing_fin
  else if flags.ack && !flags.syn then
    { w with conn_table := w.conn_table.mark_established hash now }.inc .tcp_transition_established
  else w

section
variable (x : Xxh3) (src_ipv4 : Ipv4Addr)

/-- The part of the loop of `run_rewriter` for fragments that have no L4 header. -/
def rewrite_fragment (w : Worker) (frame : Frame) (now : Nat) : Worker × Option Frame :=
  match (FragmentId.from_ipv4_bytes frame.as_slice).bind fun fid => w.fragment_table.get (fid.fragment_hash x) now with
  | none => ((w.inc .fragment_drop_no_mapping_total).inc .packets_dropped,none)
  | some (.V6 _) => (w.inc .packets_dropped,none)
  | some (.V4 dst_ipv4) =>
    match encapsulate_ipv4 frame src_ipv4 dst_ipv4 with
    | some frame => ((w.inc .fragment_subsequent_forwarded_total).inc .packets_forwarded,some frame)
    | none => (w.inc .packets_dropped,none)

/-- The part of the loop that selects the backend. -/
def select_backend (w : Worker) (health : Health) (lookup_table : LookupTable) (pkt_meta : PacketMeta) (now : Nat) :
    Worker × IpAddr :=
  let flow_hash := pkt_meta.flow_hash x
  let proto := FlowProto.from pkt_meta.protocol
  let initial_state := initial_tcp_state pkt_meta.tcp_flags
  match w.conn_table.get flow_hash now with
  | some cached_ip =>
    if usable health cached_ip then
      let w := w.inc .conn_table_hits
      ({ w with conn_table := w.conn_table.touch flow_hash now },cached_ip)
    else
      let w := w.inc .conn_table_fallback_to_maglev_total
      let backend := lookup_table.lookup flow_hash
      (w.insert_tracked flow_hash backend.ip proto initial_state now,backend.ip)
  | none =>
    let w := w.inc .conn_table_misses
    let backend := lookup_table.lookup flow_hash
    (w.insert_tracked flow_hash backend.ip proto initial_state now,backend.ip)

/-- The part of the loop that remembers the backend for later fragments. -/
def record_fragment (w : Worker) (frame : Frame) (backend_ip : IpAddr) (now : Nat) : Worker :=
  if is_fragment frame.as_slice then
    match FragmentId.from_ipv4_bytes frame.as_slice with
    | some fid =>
      { w with fragment_table := w.fragment_table.insert (fid.fragment_hash x) backend_ip now }.inc .fragment_first_total
    | none => w
  else w

/-- The part of the loop that encapsulates the frame in place. -/
def send (w : Worker) (frame : Frame) : IpAddr → Worker × Option Frame
  | .V6 _ => (w.inc .packets_dropped,none)
  | .V4 dst_ipv4 =>
    match encapsulate_ipv4 frame src_ipv4 dst_ipv4 with
    | some frame => (w.inc .packets_forwarded,some frame)
    | none => (w.inc .packets_dropped,none)

/-- The body of the loop of `run_rewriter` over the frames of a batch, for an
    IPv4 source: the frame as it goes to the transmit queue, unless it is freed. -/
def rewrite_frame (w : Worker) (shared : Shared) (frame : Frame) (now : Nat) : Worker × Option Frame :=
  let w := w.inc .packets_received
  if is_non_first_fragment frame.as_slice then w.rewrite_fragment x src_ipv4 frame now
  else
    match PacketMeta.from_ipv4_bytes frame.as_slice with
    | none => (w.inc .packets_dropped,none)
    | some pkt_meta =>
      match shared.vip_matcher.match_packet pkt_meta.dst_ip pkt_meta.protocol pkt_meta.dst_port with
      | none => (w.inc .packets_dropped,none)
      | some pool_id =>
        match shared.lookup_tables.lookup pool_id with
        | none => (w.inc .packets_dropped,none)
        | some lookup_table =>
          let (w,backend_ip) := w.select_backend x shared.health_status lookup_table pkt_meta now
          let w :=
            match pkt_meta.tcp_flags with
            | some flags => w.apply_tcp_transitions (pkt_meta.flow_hash x) flags now
            | none => w
          let w := w.record_fragment x frame backend_ip now
          w.send src_ipv4 frame backend_ip

end

/-! ### The way of a frame -/

variable {x : Xxh3} {src_ipv4 : Ipv4Addr} {w : Worker} {shared : Shared} {frame : Frame} {now : Nat}
  {pkt_meta : PacketMeta} {lookup_table : LookupTable}

theorem insert_tracked_eq (w : Worker) (hash : UInt64) (backend_ip : IpAddr) (proto : FlowProto)
    (tcp_state : TcpFlowState) (now : Nat) :
    ∃ metrics, w.insert_tracked hash backend_ip proto tcp_state now =
      { w with conn_table := w.conn_table.apply ⟨now,.insert hash backend_ip proto tcp_state⟩, metrics } := by
  unfold insert_tracked
  dsimp only
  cases (w.conn_table.insert hash backend_ip proto tcp_state now).2 <;> exact ⟨_,rfl⟩

theorem select_backend_eq (x : Xxh3) (w : Worker) (health : Health) (lookup_table : LookupTable)
    (pkt_meta : PacketMeta) (now : Nat) : ∃ metrics, w.select_backend x health lookup_table pkt_meta now =
    ({ w with
        conn_table := w.conn_table.apply ⟨now,selection x w.conn_table health lookup_table pkt_meta now⟩
        metrics },
      backend_of x w.conn_table health lookup_table pkt_meta now) := by
  unfold select_backend selection backend_of
  dsimp only
  cases w.conn_table.get (pkt_meta.flow_hash x) now with
  | none =>
    dsimp only
    obtain ⟨metrics,inserted⟩ := insert_tracked_eq (w.inc .conn_table_misses) (pkt_meta.flow_hash x)
      (lookup_table.lookup (pkt_meta.flow_hash x)).ip (FlowProto.from pkt_meta.protocol)
      (initial_tcp_state pkt_meta.tcp_flags) now
    rw [inserted]
    exact ⟨metrics,rfl⟩
  | some cached_ip =>
    dsimp only
    split_ifs with healthy
    · exact ⟨_,rfl⟩
    · obtain ⟨metrics,inserted⟩ := insert_tracked_eq (w.inc .conn_table_fallback_to_maglev_total)
        (pkt_meta.flow_hash x) (lookup_table.lookup (pkt_meta.flow_hash x)).ip (FlowProto.from pkt_meta.protocol)
        (initial_tcp_state pkt_meta.tcp_flags) now
      rw [inserted]
      exact ⟨metrics,rfl⟩

theorem apply_tcp_transitions_eq (x : Xxh3) (w : Worker) (pkt_meta : PacketMeta) (now : Nat) :
    ∃ metrics, (match pkt_meta.tcp_flags with
      | some flags => w.apply_tcp_transitions (pkt_meta.flow_hash x) flags now
      | none => w) =
      { w with
        conn_table := ((transition x pkt_meta).toList.map (TableCall.mk now)).foldl ConnTable.apply w.conn_table
        metrics } := by
  unfold transition
  cases pkt_meta.tcp_flags with
  | none => exact ⟨w.metrics,rfl⟩
  | some flags =>
    dsimp only [Option.bind_some]
    unfold apply_tcp_transitions
    split_ifs
    · exact ⟨_,rfl⟩
    · exact ⟨_,rfl⟩
    · exact ⟨_,rfl⟩
    · exact ⟨w.metrics,rfl⟩

theorem record_fragment_eq (x : Xxh3) (w : Worker) (frame : Frame) (backend_ip : IpAddr) (now : Nat) :
    ∃ metrics, w.record_fragment x frame backend_ip now =
    { w with fragment_table := recorded x w.fragment_table frame backend_ip now, metrics } := by
  unfold record_fragment recorded
  split_ifs
  · cases FragmentId.from_ipv4_bytes frame.as_slice with
    | none => exact ⟨w.metrics,rfl⟩
    | some fid => exact ⟨_,rfl⟩
  · exact ⟨w.metrics,rfl⟩

/-- The frame after encapsulation, if the backend has an IPv4 address and there
    is room for the headers. -/
def tunnelled (src_ipv4 : Ipv4Addr) (frame : Frame) : IpAddr → Option Frame
  | .V4 dst_ipv4 => encapsulate_ipv4 frame src_ipv4 dst_ipv4
  | .V6 _ => none

/-- The backend has no IPv4 address, or there is no room for the headers. -/
def Undeliverable (frame : Frame) (backend_ip : IpAddr) : Prop :=
  (∃ v6, backend_ip = .V6 v6) ∨ PACKET_BUF_SIZE < frame.len + ENCAP_OVERHEAD

theorem tunnelled_eq_none {backend_ip : IpAddr} :
    tunnelled src_ipv4 frame backend_ip = none ↔ Undeliverable frame backend_ip := by
  cases backend_ip with
  | V6 v6 => simp [tunnelled,Undeliverable]
  | V4 dst_ipv4 => simp [tunnelled,Undeliverable,encapsulate_ipv4_eq_none]

theorem tunnelled_eq_some {backend_ip : IpAddr} {out : Frame} (sent : tunnelled src_ipv4 frame backend_ip = some out) :
    out.as_slice.drop ENCAP_OVERHEAD = frame.as_slice ∧ byte out.as_slice 1 = 0x00 ∧
      backend_ip = .V4 (destination out) := by
  cases backend_ip with
  | V6 => cases sent
  | V4 dst_ipv4 =>
    exact ⟨encapsulate_ipv4_inner sent,encapsulate_ipv4_tos sent,
      congrArg IpAddr.V4 (encapsulate_ipv4_destination sent).symm⟩

theorem send_eq (src_ipv4 : Ipv4Addr) (w : Worker) (frame : Frame) (backend_ip : IpAddr) :
    ∃ metrics, w.send src_ipv4 frame backend_ip = ({ w with metrics },tunnelled src_ipv4 frame backend_ip) := by
  cases backend_ip with
  | V6 => exact ⟨_,rfl⟩
  | V4 dst_ipv4 =>
    unfold send tunnelled
    dsimp only
    cases encapsulate_ipv4 frame src_ipv4 dst_ipv4 <;> exact ⟨_,rfl⟩

theorem rewrite_fragment_eq (x : Xxh3) (src_ipv4 : Ipv4Addr) (w : Worker) (frame : Frame) (now : Nat) :
    ∃ metrics, w.rewrite_fragment x src_ipv4 frame now =
    ({ w with metrics },
      ((FragmentId.from_ipv4_bytes frame.as_slice).bind fun fid =>
        w.fragment_table.get (fid.fragment_hash x) now).bind (tunnelled src_ipv4 frame)) := by
  unfold rewrite_fragment
  cases (FragmentId.from_ipv4_bytes frame.as_slice).bind fun fid => w.fragment_table.get (fid.fragment_hash x) now with
  | none => exact ⟨_,rfl⟩
  | some backend_ip =>
    cases backend_ip with
    | V6 => exact ⟨_,rfl⟩
    | V4 dst_ipv4 =>
      rw [Option.bind_some,tunnelled]
      dsimp only
      cases encapsulate_ipv4 frame src_ipv4 dst_ipv4 <;> exact ⟨_,rfl⟩

theorem rewrite_frame_fragment (later : is_non_first_fragment frame.as_slice = true) :
    w.rewrite_frame x src_ipv4 shared frame now =
      (w.inc .packets_received).rewrite_fragment x src_ipv4 frame now := if_pos later

theorem rewrite_frame_resolved (x : Xxh3) (src_ipv4 : Ipv4Addr) (w : Worker) (now : Nat)
    (resolved : resolve shared frame = some (pkt_meta,lookup_table)) :
    ∃ metrics, w.rewrite_frame x src_ipv4 shared frame now =
      ({ conn_table := (table_calls x w.conn_table shared.health_status lookup_table pkt_meta now).foldl
            ConnTable.apply w.conn_table
         fragment_table := recorded x w.fragment_table frame
            (backend_of x w.conn_table shared.health_status lookup_table pkt_meta now) now
         metrics },
        tunnelled src_ipv4 frame (backend_of x w.conn_table shared.health_status lookup_table pkt_meta now)) := by
  unfold resolve at resolved
  split_ifs at resolved with first
  simp only [Option.bind_eq_some_iff,Option.map_eq_some_iff,Prod.mk.injEq] at resolved
  obtain ⟨pkt_meta,parsed,pool_id,matched,lookup_table,found,rfl,rfl⟩ := resolved
  obtain ⟨select_metrics,selected⟩ := select_backend_eq x (w.inc .packets_received) shared.health_status lookup_table
    pkt_meta now
  simp only [inc_conn_table,inc_fragment_table] at selected
  obtain ⟨flag_metrics,flagged⟩ := apply_tcp_transitions_eq x
    { w with
      conn_table := w.conn_table.apply ⟨now,selection x w.conn_table shared.health_status lookup_table pkt_meta now⟩
      metrics := select_metrics }
    pkt_meta now
  obtain ⟨record_metrics,remembered⟩ := record_fragment_eq x
    { w with
      conn_table := (table_calls x w.conn_table shared.health_status lookup_table pkt_meta now).foldl ConnTable.apply
        w.conn_table
      metrics := flag_metrics }
    frame (backend_of x w.conn_table shared.health_status lookup_table pkt_meta now) now
  obtain ⟨metrics,sent⟩ := send_eq src_ipv4
    { conn_table := (table_calls x w.conn_table shared.health_status lookup_table pkt_meta now).foldl ConnTable.apply
        w.conn_table
      fragment_table := recorded x w.fragment_table frame
        (backend_of x w.conn_table shared.health_status lookup_table pkt_meta now) now
      metrics := record_metrics }
    frame (backend_of x w.conn_table shared.health_status lookup_table pkt_meta now)
  refine ⟨metrics,Eq.trans ?_ sent⟩
  rw [rewrite_frame,if_neg first,parsed]
  dsimp only
  rw [matched]
  dsimp only
  rw [found]
  dsimp only
  rw [selected]
  dsimp only
  rw [flagged]
  exact congrArg (fun w => send src_ipv4 w frame _) remembered

theorem rewrite_frame_unresolved (x : Xxh3) (src_ipv4 : Ipv4Addr) (w : Worker) (now : Nat)
    (first : is_non_first_fragment frame.as_slice = false)
    (unresolved : resolve shared frame = none) :
    ∃ metrics, w.rewrite_frame x src_ipv4 shared frame now = ({ w with metrics },none) := by
  simp only [resolve,first,Bool.false_eq_true,if_false] at unresolved
  rw [rewrite_frame,if_neg (by simp [first])]
  cases parsed : PacketMeta.from_ipv4_bytes frame.as_slice with
  | none => exact ⟨_,rfl⟩
  | some pkt_meta =>
    rw [parsed,Option.bind_some] at unresolved
    dsimp only
    cases matched : shared.vip_matcher.match_packet pkt_meta.dst_ip pkt_meta.protocol pkt_meta.dst_port with
    | none => exact ⟨_,rfl⟩
    | some pool_id =>
      rw [matched,Option.bind_some,Option.map_eq_none_iff] at unresolved
      dsimp only
      rw [unresolved]
      exact ⟨_,rfl⟩

/-- Only a frame that is resolved changes the tables. -/
theorem rewrite_frame_tables (x : Xxh3) (src_ipv4 : Ipv4Addr) (w : Worker) (shared : Shared) (frame : Frame)
    (now : Nat) :
    (w.rewrite_frame x src_ipv4 shared frame now).1.conn_table =
      (match resolve shared frame with
      | some (pkt_meta,lookup_table) =>
        (table_calls x w.conn_table shared.health_status lookup_table pkt_meta now).foldl ConnTable.apply w.conn_table
      | none => w.conn_table) ∧
    (w.rewrite_frame x src_ipv4 shared frame now).1.fragment_table =
      (match resolve shared frame with
      | some (pkt_meta,lookup_table) =>
        recorded x w.fragment_table frame (backend_of x w.conn_table shared.health_status lookup_table pkt_meta now) now
      | none => w.fragment_table) := by
  cases resolved : resolve shared frame with
  | some found =>
    obtain ⟨metrics,state⟩ := rewrite_frame_resolved x src_ipv4 w now resolved
    rw [state]
    exact ⟨rfl,rfl⟩
  | none =>
    cases first : is_non_first_fragment frame.as_slice with
    | true =>
      obtain ⟨metrics,state⟩ := rewrite_fragment_eq x src_ipv4 (w.inc .packets_received) frame now
      rw [rewrite_frame_fragment first,state]
      exact ⟨rfl,rfl⟩
    | false =>
      obtain ⟨metrics,state⟩ := rewrite_frame_unresolved x src_ipv4 w now first resolved
      rw [state]
      exact ⟨rfl,rfl⟩

end Worker

end Lb.Threading
