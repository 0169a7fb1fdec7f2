import Lb.Rewriter

/-!
# Packets that must not be fragmented

What the tunnel makes of a packet is within the MTU of the network, or the
sender is told to send less. The check reads the length that the header
declares, and later fragments are not checked.
-/
namespace Lb.Rewriter
open Lb.Addr Lb.Types Lb.Packet Lb.Buffer Lb.Maglev Lb.Applier Lb.Vips Lb.Connections Lb.Fragments Lb.Mtu Lb.Gre

/-- The sender has asked that the packet not be fragmented. -/
def DontFragment (data : List UInt8) : Prop := be16 data 6 &&& DF_FLAG ≠ 0

/-- The length that the header declares covers the packet, and leaves room in 16
    bits for the headers of the tunnel. -/
structure Honest (data : List UInt8) : Prop where
  covers : data.length ≤ (be16 data 2).toNat
  room : (be16 data 2).toNat + GRE_OVERHEAD.toNat < 2 ^ 16

instance (data : List UInt8) : Decidable (DontFragment data) := inferInstanceAs (Decidable (_ ≠ _))
instance (data : List UInt8) : Decidable (Honest data) :=
  decidable_of_iff (_ ∧ _) ⟨fun both => ⟨both.1,both.2⟩,fun honest => ⟨honest.covers,honest.room⟩⟩

theorem MtuConfig.new_network_mtu {network_mtu : UInt16} {mtu_config : MtuConfig}
    (configured : MtuConfig.new network_mtu = .ok mtu_config) : mtu_config.network_mtu = network_mtu := by
  unfold MtuConfig.new at configured
  dsimp only at configured
  split_ifs at configured
  cases configured
  rfl

section
variable {data : List UInt8}

/-- A well-formed packet is checked for what the tunnel will make of it. -/
theorem should_generate_icmp_iff (network_mtu : UInt16) {pkt_meta : PacketMeta}
    (parsed : PacketMeta.from_ipv4_bytes data = some pkt_meta) (dont_fragment : DontFragment data) (honest : Honest data) :
    should_generate_icmp data network_mtu = true ↔ network_mtu.toNat < (be16 data 2).toNat + GRE_OVERHEAD.toNat := by
  have accepted := PacketMeta.from_ipv4_bytes_accepted parsed
  have long := accepted.long
  have sum : (be16 data 2 + GRE_OVERHEAD).toNat = (be16 data 2).toNat + GRE_OVERHEAD.toNat := by
    rw [UInt16.toNat_add,Nat.mod_eq_of_lt honest.room]
  have flagged : (be16 data 6 &&& DF_FLAG != 0) = true := by simpa [DontFragment] using dont_fragment
  rw [should_generate_icmp,if_neg (by omega),if_neg (not_not.mpr accepted.version),flagged,Bool.true_and,decide_eq_true_iff,
    UInt16.lt_iff_toNat_lt,sum]

end

theorem encapsulate_ipv4_len {pkt out : PacketBuf} {src_ip dst_ip : Ipv4Addr}
    (encapsulated : encapsulate_ipv4 pkt src_ip dst_ip = some out) : out.len = pkt.len + ENCAP_OVERHEAD := by
  obtain ⟨_,_,_,slice⟩ := encapsulate_ipv4_eq_some encapsulated
  have lengths := congrArg List.length slice
  simp only [PacketBuf.as_slice_length,List.length_append,outer_header_length,gre_header_length] at lengths
  rw [lengths,ENCAP_OVERHEAD]
  omega

namespace RewriterThread
variable {x : Xxh3} {r : RewriterThread} {shared : Shared} {input output : PacketBuf} {now : Nat}

theorem send_oversized (dst_ip backend_ip : IpAddr) (now : Nat)
    (oversized : should_generate_icmp output.as_slice r.mtu_config.network_mtu = true) :
    (∃ vip, (r.send output dst_ip backend_ip now).2 =
      .Icmp (generate_icmp_frag_needed output.as_slice vip r.mtu_config.effective_inner_mtu)) ∨
    (r.send output dst_ip backend_ip now).2 = .OversizedRateLimited := by
  unfold send
  rw [if_pos oversized]
  dsimp only
  split_ifs
  · exact .inl ⟨_,rfl⟩
  · exact .inr rfl

end RewriterThread

/-- The packet is answered with an error that names the MTU of the tunnel, or is
    counted among those that the limit leaves unanswered. -/
def Answered (r : RewriterThread) (input : PacketBuf) (result : ProcessResult) : Prop :=
  (∃ vip, result = .Icmp (generate_icmp_frag_needed (r.clamp input).as_slice vip r.mtu_config.effective_inner_mtu)) ∨
    result = .OversizedRateLimited

/-- In every state of a thread, a packet that must not be fragmented, is no later
    fragment and declares its length leaves the tunnel within the MTU of the
    network, and is answered if it would not. -/
theorem mtu_guarantee (x : Xxh3) (r : RewriterThread) (network_mtu : UInt16)
    (configured : MtuConfig.new network_mtu = .ok r.mtu_config) (shared : Shared) (input : PacketBuf) (now : Nat)
    (first : is_non_first_fragment input.as_slice = false) (dont_fragment : DontFragment input.as_slice)
    (honest : Honest input.as_slice) :
    (∀ out, (r.process_one x shared input now).2 = .Forwarded out → out.len ≤ network_mtu.toNat) ∧
    ((resolve shared input).isSome → network_mtu.toNat < input.len + ENCAP_OVERHEAD →
      Answered r input (r.process_one x shared input now).2) := by
  have mtu := MtuConfig.new_network_mtu configured
  have covers : input.len ≤ (be16 input.as_slice 2).toNat := input.as_slice_length ▸ honest.covers
  have overhead : ENCAP_OVERHEAD = GRE_OVERHEAD.toNat := rfl
  cases resolved : resolve shared input with
  | none =>
    obtain ⟨metrics,dropped⟩ := RewriterThread.process_one_unresolved x r now first resolved
    rw [dropped]
    exact ⟨by rintro out ⟨⟩,by rintro ⟨⟩⟩
  | some found =>
    obtain ⟨pkt_meta,lookup_table⟩ := found
    obtain ⟨metrics,sent⟩ := RewriterThread.process_one_resolved x r now resolved
    obtain ⟨_,parsed,_⟩ := RewriterThread.resolve_eq_some resolved
    have checked := should_generate_icmp_iff network_mtu parsed dont_fragment honest
    have same : should_generate_icmp (r.clamp input).as_slice network_mtu =
        should_generate_icmp input.as_slice network_mtu := by
      rw [RewriterThread.clamp_as_slice,should_generate_icmp_clamped]
    rw [sent]
    constructor
    · intro out forwarded
      have small := (RewriterThread.send_forwarded_iff.mp forwarded).1
      obtain ⟨_,_,_,_,encapsulated⟩ :=
        RewriterThread.gre_encap_to_forwarded.mp (RewriterThread.send_forwarded forwarded)
      have len : out.len = (r.clamp input).len + ENCAP_OVERHEAD := encapsulate_ipv4_len encapsulated
      have clamped : (r.clamp input).len = input.len := rfl
      have within : ¬ network_mtu.toNat < (be16 input.as_slice 2).toNat + GRE_OVERHEAD.toNat := by
        rw [← checked,← same,← mtu,Bool.not_eq_true]
        exact small
      omega
    · intro _ too_large
      have oversized : should_generate_icmp (r.clamp input).as_slice r.mtu_config.network_mtu = true := by
        rw [mtu,same,checked]
        omega
      exact RewriterThread.send_oversized _ _ now oversized

/-- A packet of 1500 bytes is answered. -/
theorem mtu_guarantee_full :
    Answered idle (segment 40000 1500 (List.replicate 1460 0))
      (idle.process_one hashedPair (sharing false ∅) (segment 40000 1500 (List.replicate 1460 0)) (from_secs 1)).2 :=
  (mtu_guarantee hashedPair idle 1500 (by decide) (sharing false ∅) (segment 40000 1500 (List.replicate 1460 0))
    (from_secs 1) (by decide +kernel) (by decide +kernel) (by decide +kernel)).2 (by decide +kernel) (by decide +kernel)

/-- A fragment of a datagram that must not be fragmented, with the given flags and
    offset. -/
private def part_of_datagram (flags_and_offset : UInt16) (payload : List UInt8) : PacketBuf :=
  .from_slice ([0x45,0] ++ to_be_bytes (UInt16.ofNat (20 + payload.length)) ++ [0,7] ++ to_be_bytes flags_and_offset ++
    [64,6,0,0,10,1,0,1,188,184,100,10] ++ payload)

/-- A later fragment of 1500 bytes goes into the tunnel unchecked. -/
theorem later_fragment_exceeds_mtu :
    ¬ ∀ (x : Xxh3) (network_mtu : UInt16) (mtu_config : MtuConfig), MtuConfig.new network_mtu = .ok mtu_config →
      ∀ (arrivals : List Arrival) (shared : Shared) (input : PacketBuf) (now : Nat),
      let r := arrivals.foldl (RewriterThread.step x) (.new (.V4 ⟨172,16,0,1⟩) 2 (by decide) minutes 2 (by decide)
        (from_secs 10) mtu_config 100 0)
      DontFragment input.as_slice → ∀ out, (r.process_one x shared input now).2 = .Forwarded out →
        out.len ≤ network_mtu.toNat := by
  intro guarantee
  let ports : List UInt8 := to_be_bytes 40000 ++ to_be_bytes 443
  let recorded : Arrival := ⟨sharing false ∅,part_of_datagram 0x6000 (ports ++ List.replicate 20 0),from_secs 1⟩
  let later := part_of_datagram 0x4003 (List.replicate 1480 0)
  let result := (((recorded :: []).foldl (RewriterThread.step hashedPair) idle).process_one hashedPair (sharing false ∅)
    later (from_secs 1)).2
  have found : result.forwarded_to.isSome := by decide +kernel
  have large : result.output.any (fun out => 1500 < out.len) := by decide +kernel
  obtain ⟨backend,to_backend⟩ := Option.isSome_iff_exists.mp found
  obtain ⟨out,forwarded,_⟩ := ProcessResult.forwarded_to_eq_some.mp to_backend
  have within := guarantee hashedPair 1500 mtu1500 (by decide) [recorded] (sharing false ∅) later (from_secs 1)
    (by decide +kernel) out forwarded
  rw [forwarded] at large
  exact absurd within (by simpa [ProcessResult.output] using large)

end Lb.Rewriter
