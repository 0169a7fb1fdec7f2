import Lb.Checksums
import Lb.Panics

/-!
# Into the tunnel

Encapsulation shifts a packet within its buffer and writes the outer headers in
front of it, or leaves the buffer as it is when there is no room for them.
-/
namespace Lb.Tunnel
open Lb.Addr Lb.Checked Lb.Packet Lb.Buffer Lb.Gre

/-- Encapsulation in the buffer: what is in the buffer afterwards, and the new
    length if the packet fits. -/
def encapsulate_ipv4_buf (data : List UInt8) (inner_len : Nat) (src_ip dst_ip : Ipv4Addr) :
    Option (List UInt8 × Option Nat) := do
  let new_len ← add 64 inner_len ENCAP_OVERHEAD
  if data.length < new_len then some (data,none)
  else do
    let inner_proto ← Panics.inner_proto data inner_len
    let data ← copy_within data inner_len ENCAP_OVERHEAD
    let data ← Panics.write_headers data (UInt16.ofNat new_len) inner_proto src_ip dst_ip
    some (data,some new_len)

/-- The buffer after an encapsulation: the two headers, the packet, and what was
    behind it. -/
structure Encapsulated (data data' : List UInt8) (inner_len : Nat) (src_ip dst_ip : Ipv4Addr) : Prop where
  length : data'.length = data.length
  inner : (data'.drop ENCAP_OVERHEAD).take inner_len = data.take inner_len
  rest : data'.drop (inner_len + ENCAP_OVERHEAD) = data.drop (inner_len + ENCAP_OVERHEAD)
  version : byte data' 0 = 0x45
  total_length : (be16 data' 2).toNat = inner_len + ENCAP_OVERHEAD
  protocol : byte data' 9 = 47
  source : ipv4_at data' 12 = src_ip
  destination : ipv4_at data' 16 = dst_ip
  checksum : fold_carry 2 (sum_words (data'.take OUTER_IP_HEADER_SIZE)) = 0xFFFF
  gre_flags : be16 data' 20 = 0
  gre_type : be16 data' 22 = if 0 < inner_len ∧ byte data 0 >>> 4 = 6 then GRE_PROTO_IPV6 else GRE_PROTO_IPV4

section
variable {data : List UInt8} {inner_len : Nat} {src_ip dst_ip : Ipv4Addr}

/-- The writes have the result of putting the parts together. -/
theorem encapsulate_ipv4_buf_eq (small : inner_len + ENCAP_OVERHEAD < 2 ^ 64) :
    encapsulate_ipv4_buf data inner_len src_ip dst_ip =
      match Gre.encapsulate_ipv4_buf data inner_len src_ip dst_ip with
      | none => some (data,none)
      | some (data',new_len) => some (data',some new_len) := by
  have checked := @Panics.encapsulate_ipv4_buf_eq data src_ip dst_ip inner_len small
  unfold Panics.encapsulate_ipv4_buf at checked
  unfold encapsulate_ipv4_buf
  rw [add_eq small] at checked ⊢
  simp only [Option.bind_eq_bind,Option.bind_some] at checked ⊢
  by_cases short : data.length < inner_len + ENCAP_OVERHEAD
  · rw [if_pos short] at checked ⊢
    rw [← Option.some.inj checked]
  · rw [if_neg short] at checked ⊢
    cases proto : Panics.inner_proto data inner_len with
    | none => simp [proto] at checked
    | some inner_proto =>
      cases shifted : copy_within data inner_len ENCAP_OVERHEAD with
      | none => simp [proto,shifted] at checked
      | some data' =>
        simp only [proto,shifted,Option.bind_some] at checked ⊢
        cases written : Panics.write_headers data' (UInt16.ofNat (inner_len + ENCAP_OVERHEAD)) inner_proto src_ip dst_ip with
        | none =>
          rw [written] at checked
          cases checked
        | some data'' =>
          rw [written,Option.bind_some] at checked
          rw [Option.bind_some,← Option.some.inj checked]

/-- The words of the outer header, with its checksum in place. -/
theorem sum_words_outer_header (total_len checksum : UInt16) :
    sum_words (outer_header total_len checksum src_ip dst_ip) =
      sum_words (outer_header total_len 0 src_ip dst_ip) + checksum.toNat := by
  simp only [outer_header,to_be_bytes,Ipv4Addr.octets,List.cons_append,List.nil_append,sum_words,from_be_bytes_split,
    UInt16.toNat_ofNat]
  omega

/-- A header with the checksum that it is given sums up to all ones. -/
theorem outer_header_verifies (total_len : UInt16) :
    fold_carry 2 (sum_words (outer_header total_len (ip_checksum (outer_header total_len 0 src_ip dst_ip)) src_ip dst_ip)) =
      0xFFFF := by
  refine fold_carry_filled ?_ ?_ (sum_words_outer_header total_len _)
  · rw [outer_header_length,show OUTER_IP_HEADER_SIZE = 20 from rfl]
    omega
  · simp only [outer_header,List.cons_append,sum_words]
    exact Nat.add_pos_left (by decide) _

/-- The fields of the two headers. -/
theorem headers_read (total_len checksum proto : UInt16) (packet : List UInt8) :
    let data' := outer_header total_len checksum src_ip dst_ip ++ gre_header proto ++ packet
    (byte data' 0 = 0x45 ∧ be16 data' 2 = total_len ∧ byte data' 9 = 47) ∧
      (ipv4_at data' 12 = src_ip ∧ ipv4_at data' 16 = dst_ip) ∧ be16 data' 20 = 0 ∧ be16 data' 22 = proto := by
  have none_set : from_be_bytes 0 0 = 0 := by decide
  exact ⟨⟨rfl,from_be_bytes_split total_len,rfl⟩,⟨rfl,rfl⟩,none_set,from_be_bytes_split proto⟩

/-- The parts put together are an encapsulated packet. -/
theorem encapsulated (room : inner_len + ENCAP_OVERHEAD ≤ data.length) (word : inner_len + ENCAP_OVERHEAD ≤ 65535) :
    ∃ data', Gre.encapsulate_ipv4_buf data inner_len src_ip dst_ip = some (data',inner_len + ENCAP_OVERHEAD) ∧
      Encapsulated data data' inner_len src_ip dst_ip := by
  have overhead : ENCAP_OVERHEAD = 24 := rfl
  refine ⟨_,if_neg (by omega),?_⟩
  have total : (UInt16.ofNat (inner_len + ENCAP_OVERHEAD)).toNat = inner_len + ENCAP_OVERHEAD :=
    UInt16.toNat_ofNat_of_lt' (by rw [UInt16.size]; omega)
  have verifies := @outer_header_verifies src_ip dst_ip (UInt16.ofNat (inner_len + ENCAP_OVERHEAD))
  generalize ip_checksum (outer_header (UInt16.ofNat (inner_len + ENCAP_OVERHEAD)) 0 src_ip dst_ip) = checksum at *
  generalize UInt16.ofNat (inner_len + ENCAP_OVERHEAD) = total_len at *
  generalize inner_type : (if 0 < inner_len ∧ byte data 0 >>> 4 = 6 then GRE_PROTO_IPV6 else GRE_PROTO_IPV4) = proto
  have headers : (outer_header total_len checksum src_ip dst_ip ++ gre_header proto).length = ENCAP_OVERHEAD := rfl
  have inner : (data.take inner_len).length = inner_len := List.length_take_of_le (by omega)
  obtain ⟨⟨version,total_length,protocol⟩,⟨source,destination⟩,gre_flags,gre_type⟩ :=
    @headers_read src_ip dst_ip total_len checksum proto (data.take inner_len ++ data.drop (inner_len + ENCAP_OVERHEAD))
  rw [← List.append_assoc] at version total_length protocol source destination gre_flags gre_type
  refine ⟨?_,?_,?_,version,?_,protocol,source,destination,verifies,gre_flags,?_⟩
  · rw [List.length_append,List.length_append,headers,inner,List.length_drop]
    omega
  · rw [List.append_assoc,List.drop_left' headers,List.take_left' inner]
  · exact List.drop_left' (by rw [List.length_append,headers,inner,Nat.add_comm])
  · rw [total_length,total]
  · rw [gre_type,inner_type]

end

/-- Encapsulation refuses exactly the packets for which there is no room, and then
    leaves the buffer as it is; any other packet is in the buffer behind the two
    headers afterwards. -/
theorem encapsulation_exact (data : List UInt8) (inner_len : Nat) (src_ip dst_ip : Ipv4Addr)
    (word : inner_len + ENCAP_OVERHEAD ≤ 65535) :
    ∃ data' result, encapsulate_ipv4_buf data inner_len src_ip dst_ip = some (data',result) ∧
      (result = none ↔ data.length < inner_len + ENCAP_OVERHEAD) ∧ (result = none → data' = data) ∧
      ∀ new_len, result = some new_len →
        new_len = inner_len + ENCAP_OVERHEAD ∧ Encapsulated data data' inner_len src_ip dst_ip := by
  rw [encapsulate_ipv4_buf_eq (by omega)]
  by_cases short : data.length < inner_len + ENCAP_OVERHEAD
  · rw [(encapsulate_ipv4_buf_eq_none src_ip dst_ip).mpr short]
    exact ⟨data,none,rfl,⟨fun _ => short,fun _ => rfl⟩,fun _ => rfl,nofun⟩
  · obtain ⟨data',fits,parts⟩ := @encapsulated data inner_len src_ip dst_ip (by omega) word
    rw [fits]
    refine ⟨data',some _,rfl,⟨nofun,fun short' => absurd short' short⟩,nofun,?_⟩
    rintro new_len ⟨⟩
    exact ⟨rfl,parts⟩

theorem encapsulation_exact_ipv6 :
    ∃ data' result, encapsulate_ipv4_buf ([0x60,1,2,3] ++ List.replicate 30 9) 4 ⟨10,0,0,1⟩ ⟨10,0,0,2⟩ = some (data',result) ∧
      (result = none ↔ ([0x60,1,2,3] ++ List.replicate 30 9 : List UInt8).length < 4 + ENCAP_OVERHEAD) ∧
      (result = none → data' = [0x60,1,2,3] ++ List.replicate 30 9) ∧
      ∀ new_len, result = some new_len → new_len = 4 + ENCAP_OVERHEAD ∧
        Encapsulated ([0x60,1,2,3] ++ List.replicate 30 9) data' 4 ⟨10,0,0,1⟩ ⟨10,0,0,2⟩ :=
  encapsulation_exact ([0x60,1,2,3] ++ List.replicate 30 9) 4 ⟨10,0,0,1⟩ ⟨10,0,0,2⟩ (by decide)

end Lb.Tunnel
