import Lb.Rewriter
import Lb.Xsk

/-!
# The AF_XDP data path

A rewriter thread of its own for each queue: the packets that a socket receives
go through the rewriter, and what comes out of it is sent. The kernel delivers
whole Ethernet frames, and the rewriter reads IP packets.
-/
namespace Lb.DataPath
open Lb.Addr Lb.Types Lb.Packet Lb.Buffer Lb.Maglev Lb.Applier Lb.Vips Lb.Connections Lb.Fragments Lb.Mtu Lb.Gre
  Lb.Rewriter Lb.Xsk

section
variable (x : Xxh3) (vip_matcher : VipMatcher) (lookup_tables : LookupTables) (now : Nat)

/-- The packets that `recv_batch` put into the buffers. -/
def received (io : AfXdpIo) (buf : List PacketBuf) : List PacketBuf :=
  (io.recv_batch buf).2.1.take (io.recv_batch buf).2.2

/-- One round of the loop of `run_per_queue`, with the health as it is read for each
    packet. Packets that are not sent are written over in the next round. -/
def run_per_queue (io : AfXdpIo) (rewriter : RewriterThread) (buf : List PacketBuf) (health : List Health) :
    AfXdpIo × RewriterThread × List PacketBuf :=
  let (io,buf,n) := io.recv_batch buf
  if n = 0 then (io,rewriter,buf)
  else
    let (rewriter,processed) := rewriter.process_batch x vip_matcher lookup_tables now ((buf.take n).zip health)
    let buf := processed ++ buf.drop processed.length
    if 0 < processed.length then ((io.send_batch (buf.take processed.length)).1,rewriter,buf) else (io,rewriter,buf)

/-- What a round sends is what the rewriter makes of the packets received. -/
theorem run_per_queue_eq (io : AfXdpIo) (rewriter : RewriterThread) (buf : List PacketBuf) (health : List Health) :
    (run_per_queue x vip_matcher lookup_tables now io rewriter buf health).1 =
      ((io.recv_batch buf).1.send_batch ((rewriter.results x vip_matcher lookup_tables now
        ((received io buf).zip health)).filterMap ProcessResult.output)).1 := by
  unfold run_per_queue received
  obtain ⟨io,buf,n⟩ := io.recv_batch buf
  dsimp only
  by_cases idle : n = 0
  · rw [if_pos idle,idle,List.take_zero,List.zip_nil_left]
    rfl
  · obtain ⟨metrics,processed⟩ := @RewriterThread.process_batch_eq x rewriter vip_matcher lookup_tables now
      ((buf.take n).zip health)
    rw [if_neg idle,processed]
    dsimp only
    generalize (rewriter.results x vip_matcher lookup_tables now ((buf.take n).zip health)).filterMap
      ProcessResult.output = outputs
    split_ifs with some_output
    · rw [List.take_left' rfl]
    · rw [List.eq_nil_of_length_eq_zero (Nat.eq_zero_of_not_pos some_output)]
      rfl

end

/-! ### Packets that are forwarded -/

section
variable (x : Xxh3) (r : RewriterThread) (a : Arrival)

/-- The backend of a packet, which was recorded before if it is a later fragment. -/
def backend_found : Option IpAddr :=
  if is_non_first_fragment a.input.as_slice then
    (FragmentId.from_ipv4_bytes a.input.as_slice).bind fun fid => r.fragment_table.get (fid.fragment_hash x) a.now
  else
    (resolve a.shared a.input).map fun found =>
      backend_of x r.conn_table a.shared.health_status found.2 found.1 a.now

/-- The packet has a backend, both ends of the tunnel have IPv4 addresses, there is
    room for the outer headers, and the packet needs no error. -/
structure Forwardable : Prop where
  backend : ∃ dst_ip, backend_found x r a = some (.V4 dst_ip)
  source : ∃ src_ip, r.src_ip = .V4 src_ip
  room : a.input.len + ENCAP_OVERHEAD ≤ PACKET_BUF_SIZE
  small : is_non_first_fragment a.input.as_slice = true ∨
    should_generate_icmp a.input.as_slice r.mtu_config.network_mtu = false

/-- The packet as it goes into the tunnel. -/
def carried (input : PacketBuf) : PacketBuf :=
  if is_non_first_fragment input.as_slice then input else r.clamp input

end

section
variable {x : Xxh3} {r : RewriterThread} {a : Arrival}

theorem carried_len (r : RewriterThread) (input : PacketBuf) : (carried r input).as_slice.length = input.len := by
  rw [PacketBuf.as_slice_length,carried]
  split_ifs
  · rfl
  · exact RewriterThread.clamp_len r input

theorem gre_encap_to_iff {input : PacketBuf} {backend_ip : IpAddr} :
    (∃ out, r.gre_encap_to input backend_ip = .Forwarded out) ↔ (∃ dst_ip, backend_ip = .V4 dst_ip) ∧
      (∃ src_ip, r.src_ip = .V4 src_ip) ∧ input.len + ENCAP_OVERHEAD ≤ PACKET_BUF_SIZE := by
  simp only [RewriterThread.gre_encap_to_forwarded]
  constructor
  · rintro ⟨out,src_ip,dst_ip,source,backend,encapsulated⟩
    refine ⟨⟨dst_ip,backend⟩,⟨src_ip,source⟩,?_⟩
    by_contra large
    rw [encapsulate_ipv4_eq_none.mpr (Nat.lt_of_not_le large)] at encapsulated
    cases encapsulated
  · rintro ⟨⟨dst_ip,backend⟩,⟨src_ip,source⟩,room⟩
    obtain ⟨out,encapsulated⟩ := Option.ne_none_iff_exists'.mp fun none_ : encapsulate_ipv4 input src_ip dst_ip = none =>
      Nat.not_lt_of_le room (encapsulate_ipv4_eq_none.mp none_)
    exact ⟨out,src_ip,dst_ip,source,backend,encapsulated⟩

/-- What `process_one` puts into the tunnel, for a packet that has a backend and is
    not too large. -/
theorem process_one_tunnelled (x : Xxh3) (r : RewriterThread) (a : Arrival) (out : PacketBuf) :
    (r.process_one x a.shared a.input a.now).2 = .Forwarded out ↔
      (is_non_first_fragment a.input.as_slice = true ∨
        should_generate_icmp a.input.as_slice r.mtu_config.network_mtu = false) ∧
      ∃ backend_ip, backend_found x r a = some backend_ip ∧
        r.gre_encap_to (carried r a.input) backend_ip = .Forwarded out := by
  unfold backend_found carried
  by_cases later : is_non_first_fragment a.input.as_slice = true
  · obtain ⟨metrics,processed⟩ := RewriterThread.process_fragment_eq x r a.input a.now
    rw [RewriterThread.process_one_fragment later,processed,if_pos later,if_pos later]
    simp only [later,true_or,true_and]
    cases (FragmentId.from_ipv4_bytes a.input.as_slice).bind
        fun fid => r.fragment_table.get (fid.fragment_hash x) a.now with
    | none => simp
    | some backend_ip => simp
  · rw [if_neg later,if_neg later]
    simp only [later,Bool.false_eq_true,false_or]
    cases resolved : resolve a.shared a.input with
    | none =>
      obtain ⟨metrics,processed⟩ := RewriterThread.process_one_unresolved x r a.now (Bool.eq_false_of_not_eq_true later)
        resolved
      rw [processed]
      simp
    | some found =>
      obtain ⟨metrics,processed⟩ := RewriterThread.process_one_resolved x r a.now resolved
      rw [processed,Option.map_some]
      have checked : should_generate_icmp (r.clamp a.input).as_slice r.mtu_config.network_mtu =
          should_generate_icmp a.input.as_slice r.mtu_config.network_mtu := by
        rw [RewriterThread.clamp_as_slice,should_generate_icmp_clamped]
      rw [← checked]
      refine RewriterThread.send_forwarded_iff.trans (and_congr_right fun _ => ?_)
      constructor
      · intro sent
        exact ⟨_,rfl,sent⟩
      · rintro ⟨_,⟨⟩,sent⟩
        exact sent

theorem process_one_forwards (x : Xxh3) (r : RewriterThread) (a : Arrival) :
    (∃ out, (r.process_one x a.shared a.input a.now).2 = .Forwarded out) ↔ Forwardable x r a := by
  simp only [process_one_tunnelled]
  constructor
  · rintro ⟨out,small,backend_ip,found,sent⟩
    obtain ⟨⟨dst_ip,rfl⟩,source,room⟩ := gre_encap_to_iff.mp ⟨out,sent⟩
    exact ⟨⟨dst_ip,found⟩,source,by rwa [← PacketBuf.as_slice_length,carried_len] at room,small⟩
  · rintro ⟨⟨dst_ip,found⟩,source,room,small⟩
    rw [← carried_len r,PacketBuf.as_slice_length] at room
    obtain ⟨out,sent⟩ := gre_encap_to_iff.mpr ⟨⟨dst_ip,rfl⟩,source,room⟩
    exact ⟨out,small,_,found,sent⟩

/-- What comes out of the tunnel. -/
theorem process_one_inner {out : PacketBuf} (forwarded : (r.process_one x a.shared a.input a.now).2 = .Forwarded out) :
    out.as_slice.drop ENCAP_OVERHEAD = (carried r a.input).as_slice := by
  obtain ⟨_,_,_,sent⟩ := (process_one_tunnelled x r a out).mp forwarded
  obtain ⟨_,_,_,_,encapsulated⟩ := RewriterThread.gre_encap_to_forwarded.mp sent
  exact encapsulate_ipv4_inner encapsulated

end

/-! ### Packets in different buffers -/

/-- The same packet in two buffers, which may differ after it. -/
structure SamePacket (a b : Arrival) : Prop where
  shared : a.shared = b.shared
  slice : a.input.as_slice = b.input.as_slice
  now : a.now = b.now

section
variable {a b : Arrival}

theorem SamePacket.len (same : SamePacket a b) : a.input.len = b.input.len := by
  rw [← PacketBuf.as_slice_length,same.slice,PacketBuf.as_slice_length]

theorem SamePacket.forwardable (same : SamePacket a b) (x : Xxh3) (r : RewriterThread) :
    Forwardable x r a ↔ Forwardable x r b := by
  have found : backend_found x r a = backend_found x r b := by
    simp only [backend_found,resolve,same.shared,same.slice,same.now]
  constructor
  · rintro ⟨backend,source,room,small⟩
    exact ⟨found ▸ backend,source,same.len ▸ room,same.slice ▸ small⟩
  · rintro ⟨backend,source,room,small⟩
    exact ⟨found ▸ backend,source,same.len ▸ room,same.slice ▸ small⟩

theorem send_state {r : RewriterThread} {output output' : PacketBuf} (same : output.as_slice = output'.as_slice)
    (dst_ip backend_ip : IpAddr) (now : Nat) :
    (r.send output dst_ip backend_ip now).1 = (r.send output' dst_ip backend_ip now).1 := by
  unfold RewriterThread.send
  rw [same]
  dsimp only
  split_ifs <;> rfl

/-- What is after the packet in a buffer makes no difference to the thread. -/
theorem SamePacket.step (same : SamePacket a b) (x : Xxh3) (r : RewriterThread) : r.step x a = r.step x b := by
  have recorded : ∀ (r : RewriterThread) (backend_ip : IpAddr),
      r.record_fragment x a.input backend_ip b.now = r.record_fragment x b.input backend_ip b.now := by
    intro r backend_ip
    rw [RewriterThread.record_fragment,RewriterThread.record_fragment,same.slice]
  have clamped : (r.clamp a.input).as_slice = (r.clamp b.input).as_slice := by
    rw [RewriterThread.clamp_as_slice,RewriterThread.clamp_as_slice,same.slice]
  unfold RewriterThread.step RewriterThread.process_one
  rw [same.shared,same.now,same.slice]
  split_ifs
  · rw [RewriterThread.process_fragment,RewriterThread.process_fragment,same.slice]
    cases FragmentId.from_ipv4_bytes b.input.as_slice with
    | none => rfl
    | some fid => 
      dsimp only
      cases r.fragment_table.get (fid.fragment_hash x) b.now <;> rfl
  · cases PacketMeta.from_ipv4_bytes b.input.as_slice with
    | none => rfl
    | some pkt_meta =>
      dsimp only
      cases b.shared.vip_matcher.match_packet pkt_meta.dst_ip pkt_meta.protocol pkt_meta.dst_port with
      | none => rfl
      | some pool_id =>
        dsimp only
        cases b.shared.lookup_tables.lookup pool_id with
        | none => rfl
        | some lookup_table =>
          dsimp only
          rw [recorded]
          exact send_state clamped _ _ _

end

/-! ### Frames -/

def ETHERNET_HEADER_SIZE : Nat := 14

/-- An Ethernet II frame: the addresses and the type, and the packet. -/
structure EthernetFrame where
  header : List UInt8
  packet : List UInt8
  sized : header.length = ETHERNET_HEADER_SIZE

def EthernetFrame.bytes (frame : EthernetFrame) : List UInt8 := frame.header ++ frame.packet

/-- The descriptors of the RX ring are of whole frames. -/
def Holds (io : AfXdpIo) (frames : List EthernetFrame) : Prop :=
  List.Forall₂ (fun desc frame => io.umem_read desc.addr desc.len = EthernetFrame.bytes frame) io.rx frames

/-- A frame that the kernel delivers is on the ring, and those before it are still
    there if their descriptors do not reach into its area. -/
theorem Holds.deliver {io : AfXdpIo} {frames : List EthernetFrame} (holds : Holds io frames) {addr : Nat}
    {fill : List Nat} (next : io.fill = addr :: fill) (headroom : Nat) (frame : EthernetFrame)
    (apart : ∀ desc ∈ io.rx, desc.addr + desc.len ≤ addr + headroom ∨
      addr + headroom + frame.bytes.length ≤ desc.addr) :
    Holds (io.step (.deliver headroom frame.bytes)) (frames ++ [frame]) := by
  rw [Holds,AfXdpIo.step,next]
  refine List.rel_append ?_ (.cons ?_ .nil)
  · refine ((List.forall₂_and_left _ _).mpr ⟨apart,holds⟩).imp ?_
    rintro desc other ⟨outside,same⟩
    refine Eq.trans (List.map_congr_left fun i inside => if_neg ?_) same
    rw [List.mem_range] at inside
    omega
  · refine List.ext_getElem (by simp [AfXdpIo.umem_read]) fun i inside bound => ?_
    simp [AfXdpIo.umem_read,bound]

theorem received_eq (io : AfXdpIo) (buf : List PacketBuf) :
    received io buf = List.zipWith (fun pkt desc => pkt.write_from (io.umem_read desc.addr desc.len)) buf
      (io.rx.take buf.length) := by
  have filled : (List.zipWith (fun (pkt : PacketBuf) desc => pkt.write_from (io.umem_read desc.addr desc.len)) buf
      (io.rx.take buf.length)).length = (io.rx.take buf.length).length := by
    rw [List.length_zipWith,List.length_take]
    omega
  exact List.take_left' filled

section
variable (vip_matcher : VipMatcher) (lookup_tables : LookupTables) (now : Nat)

/-- What is received are the frames, headers and all. -/
theorem Holds.same_packets {io : AfXdpIo} {batch : List (EthernetFrame × Health)} (holds : Holds io (batch.map Prod.fst))
    (buf : List PacketBuf) :
    List.Forall₂ (fun a p => SamePacket a (RewriterThread.arrival vip_matcher lookup_tables now
        (.from_slice (EthernetFrame.bytes p.1),p.2)))
      (((received io buf).zip (batch.map Prod.snd)).map (RewriterThread.arrival vip_matcher lookup_tables now))
      (batch.take buf.length) := by
  rw [received_eq]
  replace holds := List.forall₂_map_right_iff.mp holds
  generalize io.rx = rx at holds
  induction holds generalizing buf with
  | nil => simp
  | @cons desc p rx batch first _ ih =>
    cases buf with
    | nil => simp
    | cons pkt buf =>
      refine .cons ⟨rfl,?_,rfl⟩ (ih buf)
      show (pkt.write_from _).as_slice = (PacketBuf.from_slice _).as_slice
      rw [PacketBuf.write_from_as_slice,PacketBuf.from_slice_as_slice,first]

end

/-! ### What the data path forwards -/

/-- Of the frames, those are encapsulated whose packets are forwarded, with the
    packets inside. -/
def ForwardsAlike (frames packets : List ProcessResult) (inner : List (List UInt8)) : Prop :=
  ∀ i : Nat, ((∃ out, frames[i]? = some (.Forwarded out)) ↔ ∃ out, packets[i]? = some (.Forwarded out)) ∧
    ∀ out, frames[i]? = some (.Forwarded out) → inner[i]? = some (out.as_slice.drop ENCAP_OVERHEAD)

theorem forwarded_at {results : List ProcessResult} {i : Nat} :
    (results[i]?.bind ProcessResult.forwarded_to).isSome = true ↔ ∃ out, results[i]? = some (.Forwarded out) := by
  cases results[i]? with
  | none => simp
  | some result => cases result <;> simp [ProcessResult.forwarded_to]

/-- Nothing is forwarded in a run exactly if no packet can be. -/
theorem none_forwarded_iff (x : Xxh3) (r : RewriterThread) (arrivals : List Arrival) :
    (∀ e ∈ Runs.effects (RewriterThread.answer x) r arrivals, ¬ ∃ out, e = .Forwarded out) ↔
      Runs.Along (RewriterThread.step x) (fun r a => ¬ Forwardable x r a) r arrivals := by
  refine @Runs.forall_effects_iff _ _ (fun r a => ¬ Forwardable x r a) _ (RewriterThread.answer x) _ (fun _ => True)
    (fun _ _ _ _ => trivial) (fun r a _ => ?_) _ trivial arrivals
  rw [← process_one_forwards]
  simp [RewriterThread.answer]

/-- A packet that is forwarded is as long inside the tunnel as it was before. -/
theorem forwarded_len {x : Xxh3} {r : RewriterThread} {arrivals : List Arrival} {i : Nat} {out : PacketBuf}
    (forwarded : (Runs.effects (RewriterThread.answer x) r arrivals)[i]? = some (.Forwarded out)) :
    ∃ a, arrivals[i]? = some a ∧ (out.as_slice.drop ENCAP_OVERHEAD).length = a.input.len ∧
      a.input.len + ENCAP_OVERHEAD ≤ PACKET_BUF_SIZE := by
  have one : ∀ r a, ∃ result, (RewriterThread.answer x r a).2 = [result] ∧ ∀ out, result = .Forwarded out →
      (out.as_slice.drop ENCAP_OVERHEAD).length = a.input.len ∧ a.input.len + ENCAP_OVERHEAD ≤ PACKET_BUF_SIZE := by
    intro r a
    refine ⟨_,rfl,fun out sent => ⟨?_,((process_one_forwards x r a).mp ⟨out,sent⟩).room⟩⟩
    rw [process_one_inner sent,carried_len]
  obtain ⟨a,here,fits⟩ := Runs.effects_at _ one forwarded
  exact ⟨a,here,fits out rfl⟩

/-- Packets of different lengths are never forwarded alike. -/
theorem forwards_alike_iff (x : Xxh3) (r : RewriterThread) {frames packets : List Arrival}
    (apart : List.Forall₂ (fun a b => a.input.len + ENCAP_OVERHEAD ≤ PACKET_BUF_SIZE → a.input.len ≠ b.input.len)
      frames packets) :
    ForwardsAlike (Runs.effects (RewriterThread.answer x) r frames) (Runs.effects (RewriterThread.answer x) r packets)
        (packets.map fun b => (carried r b.input).as_slice) ↔
      Runs.Along (RewriterThread.step x) (fun r a => ¬ Forwardable x r a) r frames ∧
        Runs.Along (RewriterThread.step x) (fun r a => ¬ Forwardable x r a) r packets := by
  rw [← none_forwarded_iff,← none_forwarded_iff]
  constructor
  · intro alike
    have frames_none : ∀ (i : Nat) (out : PacketBuf),
        (Runs.effects (RewriterThread.answer x) r frames)[i]? ≠ some (.Forwarded out) := by
      intro i out forwarded
      obtain ⟨a,frame,same,room⟩ := forwarded_len forwarded
      have inner := (alike i).2 out forwarded
      rw [List.getElem?_map,Option.map_eq_some_iff] at inner
      obtain ⟨b,packet,inner⟩ := inner
      rw [← inner,carried_len] at same
      obtain ⟨first,rfl⟩ := List.getElem?_eq_some_iff.mp frame
      obtain ⟨second,rfl⟩ := List.getElem?_eq_some_iff.mp packet
      exact (List.forall₂_iff_get.mp apart).2 i first second room same.symm
    refine ⟨?_,?_⟩
    · rintro _ mem ⟨out,rfl⟩
      obtain ⟨i,here⟩ := List.mem_iff_getElem?.mp mem
      exact frames_none i out here
    · rintro _ mem ⟨out,rfl⟩
      obtain ⟨i,here⟩ := List.mem_iff_getElem?.mp mem
      obtain ⟨out',forwarded⟩ := (alike i).1.mpr ⟨out,here⟩
      exact frames_none i out' forwarded
  · rintro ⟨frames_none,packets_none⟩ i
    have frame : ∀ out, (Runs.effects (RewriterThread.answer x) r frames)[i]? ≠ some (.Forwarded out) :=
      fun out here => frames_none _ (List.mem_of_getElem? here) ⟨out,rfl⟩
    have packet : ∀ out, (Runs.effects (RewriterThread.answer x) r packets)[i]? ≠ some (.Forwarded out) :=
      fun out here => packets_none _ (List.mem_of_getElem? here) ⟨out,rfl⟩
    refine ⟨⟨?_,?_⟩,fun out here => absurd here (frame out)⟩
    · rintro ⟨out,here⟩
      exact absurd here (frame out)
    · rintro ⟨out,here⟩
      exact absurd here (packet out)

/-- The packets of a batch, as the rewriter would read them. -/
def bare (batch : List (EthernetFrame × Health)) : List (PacketBuf × Health) :=
  batch.map fun p => (.from_slice p.1.packet,p.2)
/-- The frames of a batch, as the rewriter reads them. -/
def framed (batch : List (EthernetFrame × Health)) : List (PacketBuf × Health) :=
  batch.map fun p => (.from_slice p.1.bytes,p.2)

section
variable (x : Xxh3) (vip_matcher : VipMatcher) (lookup_tables : LookupTables) (now : Nat) (io : AfXdpIo)
  (r : RewriterThread) (buf : List PacketBuf) (batch : List (EthernetFrame × Health))

/-- The round forwards the packets of the frames that it receives. -/
def RoundForwards : Prop :=
  ForwardsAlike (r.results x vip_matcher lookup_tables now ((received io buf).zip (batch.map Prod.snd)))
    (r.results x vip_matcher lookup_tables now (bare (batch.take buf.length)))
    ((bare (batch.take buf.length)).map fun packet => (carried r packet.1).as_slice)

/-- No packet of a batch can be forwarded. -/
def NoneForwardable (packets : List (PacketBuf × Health)) : Prop :=
  Runs.Along (RewriterThread.step x) (fun r a => ¬ Forwardable x r a) r
    (packets.map (RewriterThread.arrival vip_matcher lookup_tables now))

end

/-- For every batch of whole frames and every state of the thread: the round
    forwards what the rewriter would forward exactly if that is nothing, with the
    header and without it. -/
theorem round_forwards_iff (x : Xxh3) (vip_matcher : VipMatcher) (lookup_tables : LookupTables) (now : Nat)
    (io : AfXdpIo) (r : RewriterThread) (buf : List PacketBuf) (batch : List (EthernetFrame × Health))
    (holds : Holds io (batch.map Prod.fst)) :
    RoundForwards x vip_matcher lookup_tables now io r buf batch ↔
      NoneForwardable x vip_matcher lookup_tables now r (framed (batch.take buf.length)) ∧
        NoneForwardable x vip_matcher lookup_tables now r (bare (batch.take buf.length)) := by
  have arrived := holds.same_packets vip_matcher lookup_tables now buf
  have same : Runs.Along (RewriterThread.step x) (fun r a => ¬ Forwardable x r a) r
      (((received io buf).zip (batch.map Prod.snd)).map (RewriterThread.arrival vip_matcher lookup_tables now)) ↔
      NoneForwardable x vip_matcher lookup_tables now r (framed (batch.take buf.length)) := by
    rw [NoneForwardable,framed,List.map_map]
    refine Runs.along_congr (R := SamePacket) (fun r a b same => ⟨same.step x r,not_congr (same.forwardable x r)⟩)
      (List.forall₂_map_right_iff.mpr arrived) r
  have apart : List.Forall₂
      (fun a b : Arrival => a.input.len + ENCAP_OVERHEAD ≤ PACKET_BUF_SIZE → a.input.len ≠ b.input.len)
      (((received io buf).zip (batch.map Prod.snd)).map (RewriterThread.arrival vip_matcher lookup_tables now))
      ((bare (batch.take buf.length)).map (RewriterThread.arrival vip_matcher lookup_tables now)) := by
    rw [bare,List.map_map]
    refine List.forall₂_map_right_iff.mpr (arrived.imp fun a p same room => ?_)
    have framed_len : a.input.len = min PACKET_BUF_SIZE (ETHERNET_HEADER_SIZE + p.1.packet.length) := by
      rw [same.len,← PacketBuf.as_slice_length]
      show (PacketBuf.from_slice (EthernetFrame.bytes p.1)).as_slice.length = _
      rw [PacketBuf.from_slice_as_slice,List.length_take,EthernetFrame.bytes,List.length_append,p.1.sized]
    have bare_len : (PacketBuf.from_slice p.1.packet).len = min PACKET_BUF_SIZE p.1.packet.length := by
      rw [← PacketBuf.as_slice_length,PacketBuf.from_slice_as_slice,List.length_take]
    have header : ETHERNET_HEADER_SIZE = 14 := rfl
    have overhead : ENCAP_OVERHEAD = 24 := rfl
    show a.input.len ≠ (PacketBuf.from_slice p.1.packet).len
    omega
  rw [← same,NoneForwardable,← forwards_alike_iff x r apart,List.map_map]
  rfl

private def idle_socket : AfXdpIo where
  rx := []
  fill := [0,2048]
  tx := []
  kernel := []
  completion := []
  umem := fun _ => 0
  free_frames := [2,3]
  capacity := 2
  frame_size := 2048
  ring_size := 2

example : AfXdpIo.new ⟨4,2048,2,by decide⟩ (fun _ => 0) 0 = .ok idle_socket := rfl

private def ethernet (packet : List UInt8) : EthernetFrame :=
  ⟨[2,0,0,0,0,1,2,0,0,0,0,2,0x08,0x00],packet,rfl⟩
/-- A UDP datagram to a port of the service that is for TCP. -/
private def datagram : List UInt8 :=
  [0x45,0,0,28,0,0,0,0,64,17,0,0,10,1,0,1,188,184,100,10] ++ to_be_bytes 40000 ++ to_be_bytes 443 ++ [0,8,0,0]

private theorem idle_socket_holds (frame : EthernetFrame) :
    Holds (idle_socket.step (.deliver 256 frame.bytes)) [frame] :=
  @Holds.deliver idle_socket [] List.Forall₂.nil 0 [2048] rfl 256 frame (by rintro _ ⟨⟩)

/-- A frame that nobody wants is dropped, as its packet would be. -/
theorem round_forwards_datagram :
    RoundForwards hashedPair (sharing false ∅).vip_matcher (sharing false ∅).lookup_tables (from_secs 1)
      (idle_socket.step (.deliver 256 (ethernet datagram).bytes)) idle [PacketBuf.new] [(ethernet datagram,∅)] := by
  refine (round_forwards_iff _ _ _ _ _ _ _ _ (idle_socket_holds (ethernet datagram))).mpr ⟨?_,?_⟩
  · refine ⟨?_,trivial⟩
    rintro ⟨⟨dst_ip,found⟩,_⟩
    have none_ : backend_found hashedPair idle
        ⟨sharing false ∅,.from_slice (ethernet datagram).bytes,from_secs 1⟩ = none := by
      decide +kernel
    cases none_.symm.trans found
  · refine ⟨?_,trivial⟩
    rintro ⟨⟨dst_ip,found⟩,_⟩
    have none_ : backend_found hashedPair idle ⟨sharing false ∅,.from_slice datagram,from_secs 1⟩ = none := by
      decide +kernel
    cases none_.symm.trans found

/-- A segment for the service is forwarded on its own, and dropped in its frame. -/
theorem frame_dropped :
    ¬ ∀ (x : Xxh3) (vip_matcher : VipMatcher) (lookup_tables : LookupTables) (now : Nat) (io : AfXdpIo)
      (r : RewriterThread) (buf : List PacketBuf) (batch : List (EthernetFrame × Health)),
      Holds io (batch.map Prod.fst) → RoundForwards x vip_matcher lookup_tables now io r buf batch := by
  intro forwards
  let frame := ethernet (segment 40000 40 []).as_slice
  let io := idle_socket.step (.deliver 256 frame.bytes)
  let answers := idle.results hashedPair (sharing false ∅).vip_matcher (sharing false ∅).lookup_tables (from_secs 1)
  have alike := (forwards hashedPair (sharing false ∅).vip_matcher (sharing false ∅).lookup_tables (from_secs 1) io
    idle [PacketBuf.new] [(frame,∅)] (idle_socket_holds frame) 0).1
  have alone : ((answers (bare [(frame,∅)]))[0]?.bind ProcessResult.forwarded_to).isSome = true := by decide +kernel
  have in_frame : ¬ ((answers ((received io [PacketBuf.new]).zip [∅]))[0]?.bind ProcessResult.forwarded_to).isSome =
    true := by decide +kernel
  exact in_frame (forwarded_at.mpr (alike.mpr (forwarded_at.mp alone)))

end Lb.DataPath
