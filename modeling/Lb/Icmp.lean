import Lb.Checksums
import Lb.Rewriter

/-!
# ICMP errors

The error that tells a sender to fragment is a packet of its own, with two
checksums of its own. It quotes the first 28 bytes of the packet that was too
large, however long the header of that packet is.
-/
namespace Lb.Icmp
open Lb.Addr Lb.Types Lb.Packet Lb.Buffer Lb.Mtu Lb.Rewriter

/-- An error that tells the sender of a packet what fits into the tunnel. -/
structure FragNeeded (original out : List UInt8) (vip : Ipv4Addr) (effective_inner_mtu : UInt16) : Prop where
  header_checksum : ip_checksum (out.take 20) = 0
  icmp_checksum : ip_checksum (out.drop 20) = 0
  total_length : (be16 out 2).toNat = out.length
  source : ipv4_at out 12 = vip
  destination : ipv4_at out 16 = ipv4_at original 12
  next_hop_mtu : be16 out 26 = effective_inner_mtu
  payload : out.drop 28 <+: original

section
variable {total_len checksum effective_inner_mtu : UInt16} {vip dst_ip : Ipv4Addr} {payload : List UInt8}

@[simp] theorem icmp_ip_header_length : (icmp_ip_header total_len checksum vip dst_ip).length = 20 := rfl
@[simp] theorem icmp_message_length :
    (icmp_message checksum effective_inner_mtu payload).length = 8 + payload.length := by
  simp [icmp_message,to_be_bytes]
  omega

/-- The words of the header, with its checksum in place. -/
theorem sum_words_icmp_ip_header :
    sum_words (icmp_ip_header total_len checksum vip dst_ip) =
      sum_words (icmp_ip_header total_len 0 vip dst_ip) + checksum.toNat := by
  simp only [icmp_ip_header,to_be_bytes,Ipv4Addr.octets,List.cons_append,List.nil_append,sum_words,
    from_be_bytes_split,UInt16.toNat_ofNat]
  omega

/-- The words of the message, with its checksum in place; it stands in the second
    word, so that nothing depends on where the payload ends. -/
theorem sum_words_icmp_message :
    sum_words (icmp_message checksum effective_inner_mtu payload) =
      sum_words (icmp_message 0 effective_inner_mtu payload) + checksum.toNat := by
  simp only [icmp_message,to_be_bytes,List.cons_append,List.nil_append,sum_words,from_be_bytes_split,
    UInt16.toNat_ofNat]
  omega

theorem icmp_ip_header_verifies :
    ip_checksum (icmp_ip_header total_len (ip_checksum (icmp_ip_header total_len 0 vip dst_ip)) vip dst_ip) = 0 := by
  refine ip_checksum_filled ?_ ?_ sum_words_icmp_ip_header
  · simp
  · simp only [icmp_ip_header,List.cons_append,sum_words]
    exact Nat.add_pos_left (by decide) _

theorem icmp_message_verifies (short : payload.length ≤ 28) :
    ip_checksum (icmp_message (ip_checksum (icmp_message 0 effective_inner_mtu payload)) effective_inner_mtu payload) =
      0 := by
  refine ip_checksum_filled ?_ ?_ sum_words_icmp_message
  · rw [icmp_message_length]
    omega
  · simp only [icmp_message,List.cons_append,sum_words]
    exact Nat.add_pos_left (by decide) _

/-- The fields of the error. -/
theorem error_fields (checksum' : UInt16) :
    let out := icmp_ip_header total_len checksum vip dst_ip ++ icmp_message checksum' effective_inner_mtu payload
    (be16 out 2 = total_len ∧ ipv4_at out 12 = vip ∧ ipv4_at out 16 = dst_ip) ∧
      be16 out 26 = effective_inner_mtu ∧ out.drop 28 = payload :=
  ⟨⟨from_be_bytes_split total_len,rfl,rfl⟩,from_be_bytes_split effective_inner_mtu,rfl⟩

end

section
variable {original : List UInt8} (vip : Ipv4Addr) (effective_inner_mtu : UInt16)

/-- The error as it is put together; its two parts fit into a buffer. -/
theorem generate_icmp_frag_needed_slice (long : 16 ≤ original.length) :
    ∃ total_len checksum,
      (generate_icmp_frag_needed original vip effective_inner_mtu).as_slice =
        icmp_ip_header total_len (ip_checksum (icmp_ip_header total_len 0 vip (ipv4_at original 12))) vip
          (ipv4_at original 12) ++ icmp_message checksum effective_inner_mtu (original.take 28) ∧
      total_len.toNat = 28 + (original.take 28).length ∧
      checksum = ip_checksum (icmp_message 0 effective_inner_mtu (original.take 28)) := by
  have short : (original.take 28).length ≤ 28 := List.length_take_le ..
  have size : PACKET_BUF_SIZE = 2048 := rfl
  refine ⟨UInt16.ofNat (20 + 8 + (original.take 28).length),_,?_,?_,rfl⟩
  · rw [generate_icmp_frag_needed,if_pos long,PacketBuf.from_slice_as_slice,List.take_of_length_le]
    simp only [List.length_append,icmp_ip_header_length,icmp_message_length]
    omega
  · exact UInt16.toNat_ofNat_of_lt' (by rw [UInt16.size]; omega)

/-- What the error quotes. -/
theorem generate_icmp_frag_needed_payload (long : 16 ≤ original.length) :
    (generate_icmp_frag_needed original vip effective_inner_mtu).as_slice.drop 28 = original.take 28 := by
  obtain ⟨_,_,slice,_,_⟩ := generate_icmp_frag_needed_slice vip effective_inner_mtu long
  rw [slice]
  exact (error_fields _).2.2

end

/-- Whatever packet is too large, the error is well formed: both checksums are
    right, an odd length included, and it goes from the service to the sender. -/
theorem errors_well_formed (original : List UInt8) (long : 20 ≤ original.length) (vip : Ipv4Addr)
    (effective_inner_mtu : UInt16) :
    FragNeeded original (generate_icmp_frag_needed original vip effective_inner_mtu).as_slice vip effective_inner_mtu := by
  have short : (original.take 28).length ≤ 28 := List.length_take_le ..
  obtain ⟨total_len,checksum,slice,total,filled⟩ :=
    generate_icmp_frag_needed_slice vip effective_inner_mtu (show 16 ≤ original.length by omega)
  rw [slice]
  obtain ⟨⟨length,source,destination⟩,next_hop_mtu,quoted⟩ := @error_fields total_len
    (ip_checksum (icmp_ip_header total_len 0 vip (ipv4_at original 12))) effective_inner_mtu vip (ipv4_at original 12)
    (original.take 28) checksum
  constructor
  · rw [List.take_left' icmp_ip_header_length]
    exact icmp_ip_header_verifies
  · rw [List.drop_left' icmp_ip_header_length,filled]
    exact icmp_message_verifies short
  · rw [length,total]
    simp only [List.length_append,icmp_ip_header_length,icmp_message_length]
    omega
  · exact source
  · exact destination
  · exact next_hop_mtu
  · rw [quoted]
    exact List.take_prefix 28 original

/-- A packet of which an odd number of bytes is quoted. -/
theorem errors_well_formed_odd :
    FragNeeded ([0x45,0,0x05,0xDC,0,0,0x40,0,64,17,0,0,10,0,0,1,188,184,100,10] ++ [0x30])
      (generate_icmp_frag_needed ([0x45,0,0x05,0xDC,0,0,0x40,0,64,17,0,0,10,0,0,1,188,184,100,10] ++ [0x30])
        ⟨188,184,100,10⟩ 1476).as_slice ⟨188,184,100,10⟩ 1476 :=
  errors_well_formed ([0x45,0,0x05,0xDC,0,0,0x40,0,64,17,0,0,10,0,0,1,188,184,100,10] ++ [0x30]) (by decide)
    ⟨188,184,100,10⟩ 1476

/-! ### The quoted packet -/

/-- What is quoted is enough to find the flow: the whole header, options included,
    and the first 8 bytes behind it if the packet has them. -/
structure Identifies (original quoted : List UInt8) : Prop where
  header : original.take (ihl original) <+: quoted
  ports : ihl original + 8 ≤ original.length → original.take (ihl original + 8) <+: quoted

theorem take_prefix_take {α : Type} {data : List α} {n m : Nat} (inside : n ≤ data.length) :
    data.take n <+: data.take m ↔ n ≤ m := by
  constructor
  · intro quoted
    have lengths := quoted.length_le
    rw [List.length_take_of_le inside] at lengths
    exact lengths.trans (List.length_take_le ..)
  · intro enough
    exact List.take_prefix_take_left enough

/-- Clamping changes nothing of a header or of what stands right behind it. -/
theorem clamp_mss_take {data : List UInt8} (max_mss : UInt16) {n : Nat} (early : n ≤ ihl data + 16) :
    (clamp_mss data max_mss).1.take n = data.take n := by
  rcases clamp_mss_cases data max_mss with ⟨same,_⟩ | ⟨offset,first,_,_,changed⟩
  · rw [same]
  · rw [changed,incremental_checksum_update]
    unfold put16
    rw [List.take_set_of_le (by omega),List.take_set_of_le (by omega),List.take_set_of_le (by omega),
      List.take_set_of_le (by omega)]

/-! ### The packets that are answered -/

/-- The error that a packet is answered with, if it gets as far as a backend, is
    too large and the limit allows it. -/
def due (mtu_config : MtuConfig) (shared : Shared) (input : PacketBuf) : Option PacketBuf :=
  if (resolve shared input).isSome ∧ should_generate_icmp input.as_slice mtu_config.network_mtu = true then
    some (generate_icmp_frag_needed (clamp_mss input.as_slice mtu_config.tcp_mss_clamp).1 (ipv4_at input.as_slice 16)
      mtu_config.effective_inner_mtu)
  else none

def error_of : ProcessResult → Option PacketBuf
  | .Icmp pkt => some pkt
  | .Forwarded _ | .OversizedRateLimited | .Dropped => none

theorem error_of_eq_some {result : ProcessResult} {pkt : PacketBuf} :
    error_of result = some pkt ↔ result = .Icmp pkt := by
  cases result <;> simp [error_of]

section
variable {x : Xxh3} {r : RewriterThread} {shared : Shared} {input output : PacketBuf} {now : Nat}

@[simp] theorem error_of_gre_encap_to (backend_ip : IpAddr) : error_of (r.gre_encap_to input backend_ip) = none := by
  unfold RewriterThread.gre_encap_to
  cases r.src_ip with
  | V6 => rfl
  | V4 src_ip =>
    cases backend_ip with
    | V6 => rfl
    | V4 dst_ip =>
      dsimp only
      cases Gre.encapsulate_ipv4 input src_ip dst_ip <;> rfl

/-- What sending does about the limit. -/
theorem send_icmp (vip : Ipv4Addr) (backend_ip : IpAddr) :
    ((r.send output (.V4 vip) backend_ip now).1.icmp_rate_limiter,error_of (r.send output (.V4 vip) backend_ip now).2) =
      if should_generate_icmp output.as_slice r.mtu_config.network_mtu = true then
        ((r.icmp_rate_limiter.allow now).1,
          if (r.icmp_rate_limiter.allow now).2 = true then
            some (generate_icmp_frag_needed output.as_slice vip r.mtu_config.effective_inner_mtu)
          else none)
      else (r.icmp_rate_limiter,none) := by
  unfold RewriterThread.send
  dsimp only
  split_ifs
  · rfl
  · rfl
  · simp

/-- A packet asks the limiter if there is an error due, and is answered if the
    limiter allows it. -/
theorem process_one_icmp (x : Xxh3) (r : RewriterThread) (shared : Shared) (input : PacketBuf) (now : Nat) :
    ((r.process_one x shared input now).1.icmp_rate_limiter,error_of (r.process_one x shared input now).2) =
      match due r.mtu_config shared input with
      | none => (r.icmp_rate_limiter,none)
      | some error =>
        ((r.icmp_rate_limiter.allow now).1,if (r.icmp_rate_limiter.allow now).2 = true then some error else none) := by
  cases resolved : resolve shared input with
  | none =>
    have none_due : due r.mtu_config shared input = none := if_neg (by simp [resolved])
    rw [none_due]
    cases first : is_non_first_fragment input.as_slice with
    | true =>
      obtain ⟨metrics,state⟩ := RewriterThread.process_fragment_eq x r input now
      rw [RewriterThread.process_one_fragment first,state]
      dsimp only
      split
      · simp
      · rfl
    | false =>
      obtain ⟨metrics,dropped⟩ := RewriterThread.process_one_unresolved x r now first resolved
      rw [dropped]
      rfl
  | some found =>
    obtain ⟨pkt_meta,lookup_table⟩ := found
    obtain ⟨metrics,sent⟩ := RewriterThread.process_one_resolved x r now resolved
    obtain ⟨_,parsed,_⟩ := RewriterThread.resolve_eq_some resolved
    rw [sent,(PacketMeta.from_ipv4_bytes_accepted parsed).dst_ip]
    refine (send_icmp _ _).trans ?_
    have clamped := RewriterThread.clamp_as_slice r input
    have config : (settled x r shared.health_status input lookup_table pkt_meta now).mtu_config = r.mtu_config := rfl
    have limiter : (settled x r shared.health_status input lookup_table pkt_meta now).icmp_rate_limiter =
      r.icmp_rate_limiter := rfl
    rw [config,limiter,clamped,should_generate_icmp_clamped,due,resolved]
    by_cases oversized : should_generate_icmp input.as_slice r.mtu_config.network_mtu = true
    · simp [oversized]
    · simp [oversized]

theorem due_eq_some {mtu_config : MtuConfig} {error : PacketBuf} (some_error : due mtu_config shared input = some error) :
    (∃ pkt_meta, PacketMeta.from_ipv4_bytes input.as_slice = some pkt_meta) ∧
      error = generate_icmp_frag_needed (clamp_mss input.as_slice mtu_config.tcp_mss_clamp).1
        (ipv4_at input.as_slice 16) mtu_config.effective_inner_mtu := by
  unfold due at some_error
  split_ifs at some_error with reached
  obtain ⟨⟨pkt_meta,lookup_table⟩,resolved⟩ := Option.isSome_iff_exists.mp reached.1
  obtain ⟨_,parsed,_⟩ := RewriterThread.resolve_eq_some resolved
  cases some_error
  exact ⟨⟨pkt_meta,parsed⟩,rfl⟩

/-- A packet is answered with the error that is due. -/
theorem due_of_icmp {pkt : PacketBuf} (icmp : (r.process_one x shared input now).2 = .Icmp pkt) :
    due r.mtu_config shared input = some pkt := by
  have spec := congrArg Prod.snd (process_one_icmp x r shared input now)
  rw [icmp] at spec
  cases some_error : due r.mtu_config shared input with
  | none => simp [some_error,error_of] at spec
  | some error =>
    simp only [some_error,error_of] at spec
    split_ifs at spec
    exact spec.symm

/-- What an answer quotes of the packet that it answers. -/
theorem icmp_quotes {pkt : PacketBuf} (icmp : (r.process_one x shared input now).2 = .Icmp pkt)
    (header : 20 ≤ ihl input.as_slice) :
    pkt.as_slice.drop 28 = input.as_slice.take 28 ∧ ihl input.as_slice + 4 ≤ input.as_slice.length := by
  obtain ⟨⟨pkt_meta,parsed⟩,rfl⟩ := due_eq_some (due_of_icmp icmp)
  have long := (PacketMeta.from_ipv4_bytes_accepted parsed).whole
  constructor
  · rw [generate_icmp_frag_needed_payload _ _ (by rw [clamp_mss_length]; omega)]
    exact clamp_mss_take _ (by omega)
  · exact long

end

/-- Whatever the state of a thread, an answer identifies the flow of the packet
    exactly if the header has no options, or if the packet ends before the first 8
    bytes behind a header of at most 28 bytes do. -/
theorem icmp_identifies_iff (x : Xxh3) (r : RewriterThread) (shared : Shared) (input : PacketBuf) (now : Nat)
    (pkt : PacketBuf) (icmp : (r.process_one x shared input now).2 = .Icmp pkt) (header : 20 ≤ ihl input.as_slice) :
    Identifies input.as_slice (pkt.as_slice.drop 28) ↔
      ihl input.as_slice = 20 ∨ (input.len < ihl input.as_slice + 8 ∧ ihl input.as_slice ≤ 28) := by
  obtain ⟨quoted,long⟩ := icmp_quotes icmp header
  rw [quoted,← input.as_slice_length]
  constructor
  · rintro ⟨whole_header,ports⟩
    by_cases some_ports : ihl input.as_slice + 8 ≤ input.as_slice.length
    · have := (take_prefix_take some_ports).mp (ports some_ports)
      left
      omega
    · have := (take_prefix_take (by omega)).mp whole_header
      right
      omega
  · intro short
    constructor
    · exact (take_prefix_take (by omega)).mpr (by omega)
    · intro some_ports
      exact (take_prefix_take some_ports).mpr (by omega)

/-- A datagram of 1500 bytes that must not be fragmented, with a header of 24
    bytes. -/
private def datagram_with_options : PacketBuf :=
  .from_slice ([0x46,0] ++ to_be_bytes 1500 ++ [0,7,0x40,0,64,6,0,0,10,1,0,1,188,184,100,10,1,1,1,0] ++
    to_be_bytes 40000 ++ to_be_bytes 443 ++ List.replicate 1472 0)

theorem icmp_identifies_iff_options :
    ∃ pkt, (idle.process_one hashedPair (sharing false ∅) datagram_with_options (from_secs 1)).2 = .Icmp pkt ∧
      (Identifies datagram_with_options.as_slice (pkt.as_slice.drop 28) ↔
        ihl datagram_with_options.as_slice = 20 ∨ (datagram_with_options.len < ihl datagram_with_options.as_slice + 8 ∧
          ihl datagram_with_options.as_slice ≤ 28)) := by
  have some_error : (error_of (idle.process_one hashedPair (sharing false ∅) datagram_with_options
    (from_secs 1)).2).isSome := by decide +kernel
  obtain ⟨pkt,answer⟩ := Option.isSome_iff_exists.mp some_error
  have icmp := error_of_eq_some.mp answer
  exact ⟨pkt,icmp,icmp_identifies_iff hashedPair idle (sharing false ∅) datagram_with_options (from_secs 1) pkt icmp
    (by decide +kernel)⟩

/-- With options in the header the first 8 bytes behind it are not all quoted. -/
theorem options_hide_ports :
    ¬ ∀ (x : Xxh3) (r : RewriterThread) (shared : Shared) (input : PacketBuf) (now : Nat) (pkt : PacketBuf),
      (r.process_one x shared input now).2 = .Icmp pkt → 20 ≤ ihl input.as_slice →
      (be16 input.as_slice 2).toNat = input.len → Identifies input.as_slice (pkt.as_slice.drop 28) := by
  intro identifies
  have some_error : (error_of (idle.process_one hashedPair (sharing false ∅) datagram_with_options
    (from_secs 1)).2).isSome := by decide +kernel
  obtain ⟨pkt,answer⟩ := Option.isSome_iff_exists.mp some_error
  have icmp := error_of_eq_some.mp answer
  have ports := (identifies hashedPair idle (sharing false ∅) datagram_with_options (from_secs 1) pkt icmp
    (by decide +kernel) (by decide +kernel)).ports (by decide +kernel)
  rw [(icmp_quotes icmp (by decide +kernel)).1] at ports
  exact absurd ((take_prefix_take (by decide +kernel)).mp ports) (by decide +kernel)

end Lb.Icmp
