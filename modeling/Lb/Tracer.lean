import Lb.Oversized

/-!
# The tracer

It answers which backend a packet of a flow would land on, from what the
rewriters read and without a packet. The tunnel is none of its concern.
-/
namespace Lb.Tracer
open Lb.Addr Lb.Types Lb.Packet Lb.Buffer Lb.Maglev Lb.Applier Lb.Vips Lb.Connections Lb.Mtu Lb.Gre Lb.Rewriter

structure TraceRequest where
  src_ip : IpAddr
  src_port : UInt16
  dst_ip : IpAddr
  dst_port : UInt16
  protocol : Protocol
deriving DecidableEq

structure TraceResult where
  node_id : String
  pool_id : Option String
  flow_hash : UInt64
  selected_backend : Option IpAddr
  backend_healthy : Bool
  steps : List String
deriving DecidableEq

/-- What the tracer reads. -/
structure TraceInputs where
  node_id : String
  shared : Shared

def debug_protocol : Protocol → String
  | .Tcp => "Tcp"
  | .Udp => "Udp"
/-- Sixteen hexadecimal digits. -/
def hex16 (hash : UInt64) : String :=
  .ofList (List.replicate (16 - (Nat.toDigits 16 hash.toNat).length) '0' ++ Nat.toDigits 16 hash.toNat)

def TraceRequest.to_meta (req : TraceRequest) (tcp_flags : Option TcpFlags) : PacketMeta where
  src_ip := req.src_ip
  dst_ip := req.dst_ip
  src_port := req.src_port
  dst_port := req.dst_port
  protocol := req.protocol
  tcp_flags := tcp_flags

def trace_packet (x : Xxh3) (req : TraceRequest) (inputs : TraceInputs) : TraceResult :=
  let pkt_meta := req.to_meta none
  let flow_hash := pkt_meta.flow_hash x
  let parsed := "parsed 5-tuple: " ++ .ofList req.src_ip.fmt ++ ":" ++ toString req.src_port.toNat ++ " → " ++
    .ofList req.dst_ip.fmt ++ ":" ++ toString req.dst_port.toNat ++ " (" ++ debug_protocol req.protocol ++ ")"
  match inputs.shared.vip_matcher.match_packet pkt_meta.dst_ip pkt_meta.protocol pkt_meta.dst_port with
  | none =>
    { node_id := inputs.node_id
      pool_id := none
      flow_hash
      selected_backend := none
      backend_healthy := false
      steps := [parsed,"no VIP match — packet would be dropped"] }
  | some pool_id =>
    let pool_id_str := pool_id.id
    let matched := "VIP matched → pool `" ++ pool_id_str ++ "`"
    match inputs.shared.lookup_tables.lookup pool_id with
    | none =>
      { node_id := inputs.node_id
        pool_id := some pool_id_str
        flow_hash
        selected_backend := none
        backend_healthy := false
        steps := [parsed,matched,"pool `" ++ pool_id_str ++
          "` has no lookup table (config-reload race?) — packet would be dropped"] }
    | some lookup =>
      let backend := lookup.lookup flow_hash
      let backend_healthy := usable inputs.shared.health_status backend.ip
      { node_id := inputs.node_id
        pool_id := some pool_id_str
        flow_hash
        selected_backend := some backend.ip
        backend_healthy
        steps := [parsed,matched,
          "Maglev lookup → " ++ .ofList backend.ip.fmt ++ " (flow_hash=0x" ++ hex16 flow_hash ++ ")",
          "health status: " ++
            if backend_healthy then "healthy (or unknown — treated as healthy)"
            else "UNHEALTHY — rewriter would fall back to another Maglev slot at packet time"] }

/-! ### Packets of a flow -/

/-- The packet is no fragment, and as long as its header says. -/
def WellFormed (data : List UInt8) : Prop :=
  if byte data 0 >>> 4 = 4 then is_fragment data = false ∧ (be16 data 2).toNat = data.length
  else (be16 data 4).toNat + 40 = data.length

instance (data : List UInt8) : Decidable (WellFormed data) := by
  unfold WellFormed
  infer_instance

/-- The packet is a well-formed one of the flow. -/
structure Carries (req : TraceRequest) (data : List UInt8) : Prop where
  flow : ∃ tcp_flags, PacketMeta.from_ip_bytes data = some (req.to_meta tcp_flags)
  formed : WellFormed data

/-- The packet leaves room for the headers of the tunnel. -/
structure Small (network_mtu : UInt16) (input : PacketBuf) : Prop where
  within : input.len + ENCAP_OVERHEAD ≤ network_mtu.toNat
  fits : input.len + ENCAP_OVERHEAD ≤ PACKET_BUF_SIZE

section
variable {x : Xxh3} {req : TraceRequest} {data : List UInt8} {src_ip : Ipv4Addr}

/-- A packet of an IPv4 flow is an IPv4 packet. -/
theorem Carries.from_ipv4_bytes (carries : Carries req data) (ipv4 : req.src_ip = .V4 src_ip) :
    byte data 0 >>> 4 = 4 ∧ ∃ tcp_flags, PacketMeta.from_ipv4_bytes data = some (req.to_meta tcp_flags) := by
  obtain ⟨tcp_flags,parsed⟩ := carries.flow
  obtain ⟨four,parsed',_⟩ | ⟨_,_,source,_⟩ := PacketMeta.from_ip_bytes_cases parsed
  · exact ⟨four,tcp_flags,parsed'⟩
  · rw [TraceRequest.to_meta,ipv4] at source
    cases source

theorem Carries.whole (carries : Carries req data) (ipv4 : req.src_ip = .V4 src_ip) :
    is_fragment data = false ∧ (be16 data 2).toNat = data.length := by
  have formed := carries.formed
  rwa [WellFormed,if_pos (carries.from_ipv4_bytes ipv4).1] at formed

theorem is_fragment_first (whole : is_fragment data = false) : is_non_first_fragment data = false := by
  unfold is_fragment at whole
  unfold is_non_first_fragment
  split_ifs with short
  · rfl
  · simp only [short,if_false,Bool.or_eq_false_iff] at whole
    exact whole.2

/-- The tracer finds the backend that the flow falls to, if the rewriter gets as
    far as the selection. -/
theorem selected_backend_eq (x : Xxh3) (inputs : TraceInputs) {input : PacketBuf} {tcp_flags : Option TcpFlags}
    (first : is_non_first_fragment input.as_slice = false)
    (parsed : PacketMeta.from_ipv4_bytes input.as_slice = some (req.to_meta tcp_flags)) :
    (trace_packet x req inputs).selected_backend =
      (resolve inputs.shared input).map fun found => (found.2.lookup (found.1.flow_hash x)).ip := by
  have same : (req.to_meta tcp_flags).flow_hash x = (req.to_meta none).flow_hash x := rfl
  rw [resolve,if_neg (by simp [first]),parsed,trace_packet]
  simp only [Option.bind_some,TraceRequest.to_meta]
  cases inputs.shared.vip_matcher.match_packet req.dst_ip req.protocol req.dst_port with
  | none => rfl
  | some pool_id =>
    simp only [Option.bind_some,Option.map_map]
    cases inputs.shared.lookup_tables.lookup pool_id <;> rfl

end

/-- A small packet is not answered with an error. -/
theorem send_small {r : RewriterThread} {input : PacketBuf} {dst_ip backend_ip : IpAddr} {now : Nat}
    {pkt_meta : PacketMeta} (parsed : PacketMeta.from_ipv4_bytes input.as_slice = some pkt_meta)
    (length : (be16 input.as_slice 2).toNat = input.as_slice.length) (small : Small r.mtu_config.network_mtu input) :
    (r.send (r.clamp input) dst_ip backend_ip now).2 = r.gre_encap_to (r.clamp input) backend_ip := by
  have overhead : ENCAP_OVERHEAD = GRE_OVERHEAD.toNat := rfl
  have within := small.within
  have top := UInt16.toNat_lt r.mtu_config.network_mtu
  rw [PacketBuf.as_slice_length] at length
  have fits : should_generate_icmp input.as_slice r.mtu_config.network_mtu = false := by
    by_contra generated
    have generated := Bool.eq_true_of_not_eq_false generated
    by_cases dont_fragment : DontFragment input.as_slice
    · have too_large := (should_generate_icmp_iff r.mtu_config.network_mtu parsed dont_fragment
        ⟨by rw [PacketBuf.as_slice_length,length],by omega⟩).mp generated
      omega
    · unfold should_generate_icmp at generated
      simp only [DontFragment,ne_eq,not_not] at dont_fragment
      simp [dont_fragment] at generated
  have clamped : should_generate_icmp (r.clamp input).as_slice r.mtu_config.network_mtu = false := by
    rw [RewriterThread.clamp,PacketBuf.as_slice_with_slice,should_generate_icmp_clamped,fits]
  unfold RewriterThread.send
  rw [if_neg (by simp [clamped])]

theorem forwarded_to_iff {r : RewriterThread} {input : PacketBuf} {backend_ip : IpAddr} {b : Ipv4Addr} (src_ip : Ipv4Addr)
    (source : r.src_ip = .V4 src_ip) (fits : input.len + ENCAP_OVERHEAD ≤ PACKET_BUF_SIZE) :
    (r.gre_encap_to input backend_ip).forwarded_to = some b ↔ backend_ip = .V4 b := by
  cases backend_ip with
  | V6 => simp [RewriterThread.gre_encap_to,source,ProcessResult.forwarded_to]
  | V4 dst_ip =>
    cases encapsulated : encapsulate_ipv4 input src_ip dst_ip with
    | none =>
      have full := encapsulate_ipv4_eq_none.mp encapsulated
      omega
    | some out =>
      simp only [RewriterThread.gre_encap_to,source,encapsulated,ProcessResult.forwarded_to,Option.some.injEq,
        encapsulate_ipv4_destination encapsulated,IpAddr.V4.injEq]

/-- For an IPv4 flow the tracer names a backend with an IPv4 address if a thread
    with an empty connection table sends a packet of the flow there. -/
theorem tracer_truthful (x : Xxh3) (inputs : TraceInputs) (r : RewriterThread) {src_ip : Ipv4Addr}
    (source : r.src_ip = .V4 src_ip) {bits : Nat} (few : bits < 64) {ttls : ConnTtls} {init_time : Nat}
    (empty : r.conn_table = .new bits few ttls init_time) (req : TraceRequest) {client_ip : Ipv4Addr}
    (ipv4 : req.src_ip = .V4 client_ip) (input : PacketBuf) (carries : Carries req input.as_slice)
    (small : Small r.mtu_config.network_mtu input) (now : Nat) (b : Ipv4Addr) :
    (trace_packet x req inputs).selected_backend = some (.V4 b) ↔
      (r.process_one x inputs.shared input now).2.forwarded_to = some b := by
  obtain ⟨_,tcp_flags,parsed⟩ := carries.from_ipv4_bytes ipv4
  obtain ⟨whole,length⟩ := carries.whole ipv4
  have first := is_fragment_first whole
  rw [selected_backend_eq x inputs first parsed]
  cases resolved : resolve inputs.shared input with
  | none =>
    obtain ⟨metrics,dropped⟩ := RewriterThread.process_one_unresolved x r now first resolved
    rw [dropped]
    simp [ProcessResult.forwarded_to]
  | some found =>
    obtain ⟨pkt_meta,lookup_table⟩ := found
    obtain ⟨metrics,sent⟩ := RewriterThread.process_one_resolved x r now resolved
    have selected : backend_of x r.conn_table inputs.shared.health_status lookup_table pkt_meta now =
        (lookup_table.lookup (pkt_meta.flow_hash x)).ip := by
      rw [backend_of,empty,ConnTable.new_get]
    have landed : (r.process_one x inputs.shared input now).2 =
        (settled x r inputs.shared.health_status input lookup_table pkt_meta now).gre_encap_to (r.clamp input)
          (lookup_table.lookup (pkt_meta.flow_hash x)).ip := by
      rw [sent]
      dsimp only
      rw [selected]
      exact send_small parsed length small
    rw [landed,Option.map_some,Option.some.injEq,forwarded_to_iff src_ip]
    · exact source
    · exact small.fits

/-- A request about a connection from the port, to the VIP of `pair`. -/
private def from_port (src_port : UInt16) : TraceRequest :=
  ⟨.V4 ⟨10,1,0,1⟩,src_port,.V4 ⟨188,184,100,10⟩,443,.Tcp⟩

private theorem segment_carries : Carries (from_port 40000) (segment 40000 40 []).as_slice :=
  ⟨⟨some ⟨0x10⟩,by decide +kernel⟩,by decide +kernel⟩

/-- A flow to the first of two backends. -/
theorem tracer_truthful_pair :
    (trace_packet hashedPair (from_port 40000) ⟨"lb-node-test",sharing false ∅⟩).selected_backend =
        some (.V4 ⟨10,0,0,1⟩) ↔
      (idle.process_one hashedPair (sharing false ∅) (segment 40000 40 []) (from_secs 1)).2.forwarded_to =
        some ⟨10,0,0,1⟩ :=
  tracer_truthful hashedPair ⟨"lb-node-test",sharing false ∅⟩ idle rfl (by decide) rfl (from_port 40000) rfl
    (segment 40000 40 [])
    segment_carries ⟨by decide +kernel,by decide +kernel⟩ (from_secs 1) ⟨10,0,0,1⟩

/-- The pool has one backend, with an IPv6 address. -/
private def ipv6_pool : Shared :=
  let config : LbConfig := ⟨(pair false).vips,[⟨⟨"pool"⟩,[⟨.V6 ⟨0x2001,0xdb8,0,0,0,0,0,1⟩,443,1,false⟩]⟩]⟩
  ⟨build_vip_matcher config,build_lookup_tables hashedPair config ∅ ⟨2,Nat.prime_two⟩,∅⟩

/-- A backend with an IPv6 address is reported, and nothing is forwarded to it. -/
theorem ipv6_backend_reported :
    ¬ ∀ (x : Xxh3) (inputs : TraceInputs) (r : RewriterThread) (src_ip : Ipv4Addr), r.src_ip = .V4 src_ip →
      ∀ (bits : Nat) (few : bits < 64) (ttls : ConnTtls) (init_time : Nat),
      r.conn_table = .new bits few ttls init_time →
      ∀ (req : TraceRequest) (input : PacketBuf), Carries req input.as_slice → Small r.mtu_config.network_mtu input →
      ∀ (now : Nat) (b : IpAddr), (trace_packet x req inputs).selected_backend = some b ↔
        (r.process_one x inputs.shared input now).2.forwarded_to.map IpAddr.V4 = some b := by
  intro truthful
  have reported : (trace_packet hashedPair (from_port 40000) ⟨"lb-node-test",ipv6_pool⟩).selected_backend =
      some (.V6 ⟨0x2001,0xdb8,0,0,0,0,0,1⟩) := by decide +kernel
  have forwarded := (truthful hashedPair ⟨"lb-node-test",ipv6_pool⟩ idle _ rfl _ (by decide) _ _ rfl (from_port 40000)
    (segment 40000 40 []) segment_carries ⟨by decide +kernel,by decide +kernel⟩ (from_secs 1) _).mp reported
  obtain ⟨_,_,same⟩ := Option.map_eq_some_iff.mp forwarded
  cases same

end Lb.Tracer
