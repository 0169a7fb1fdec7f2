import Lb.Buffer

/-!
# GRE encapsulation

The outer IPv4 header and the GRE header that go in front of a packet, in its
buffer.
-/
namespace Lb.Gre
open Lb.Addr Lb.Packet Lb.Buffer

def GRE_HEADER_SIZE : Nat := 4
def OUTER_IP_HEADER_SIZE : Nat := 20
def ENCAP_OVERHEAD : Nat := GRE_HEADER_SIZE + OUTER_IP_HEADER_SIZE
def GRE_PROTO_IPV4 : UInt16 := 0x0800
def GRE_PROTO_IPV6 : UInt16 := 0x86DD

def outer_header (total_len checksum : UInt16) (src_ip dst_ip : Ipv4Addr) : List UInt8 :=
  [0x45,0x00] ++ to_be_bytes total_len ++ [0,0,0x40,0x00,64,47] ++ to_be_bytes checksum ++ src_ip.octets ++
    dst_ip.octets
def gre_header (inner_proto : UInt16) : List UInt8 := [0x00,0x00] ++ to_be_bytes inner_proto

/-- The buffer after encapsulation and the new length, if the packet still fits.
    The checksum is taken with zeroes in its place. -/
def encapsulate_ipv4_buf (data : List UInt8) (inner_len : Nat) (src_ip dst_ip : Ipv4Addr) : Option (List UInt8 × Nat) :=
  let new_len := inner_len + ENCAP_OVERHEAD
  if data.length < new_len then none
  else
    let inner_proto := if 0 < inner_len ∧ byte data 0 >>> 4 = 6 then GRE_PROTO_IPV6 else GRE_PROTO_IPV4
    let total_len := UInt16.ofNat new_len
    let checksum := ip_checksum (outer_header total_len 0 src_ip dst_ip)
    some (outer_header total_len checksum src_ip dst_ip ++ gre_header inner_proto ++ data.take inner_len ++
      data.drop new_len,new_len)

section
variable {data data' : List UInt8} {inner_len new_len : Nat} {src_ip dst_ip : Ipv4Addr}

@[simp] theorem outer_header_length (total_len checksum : UInt16) :
    (outer_header total_len checksum src_ip dst_ip).length = OUTER_IP_HEADER_SIZE := rfl
@[simp] theorem gre_header_length (inner_proto : UInt16) : (gre_header inner_proto).length = GRE_HEADER_SIZE := rfl

theorem encapsulate_ipv4_buf_eq_none (src_ip dst_ip : Ipv4Addr) :
    encapsulate_ipv4_buf data inner_len src_ip dst_ip = none ↔
    data.length < inner_len + ENCAP_OVERHEAD := by
  unfold encapsulate_ipv4_buf
  by_cases short : data.length < inner_len + ENCAP_OVERHEAD <;> simp [short]

theorem encapsulate_ipv4_buf_eq_some
    (encapsulated : encapsulate_ipv4_buf data inner_len src_ip dst_ip = some (data',new_len)) :
    new_len ≤ data.length ∧ data'.length = data.length ∧ ∃ total_len checksum inner_proto,
      data'.take new_len =
        outer_header total_len checksum src_ip dst_ip ++ gre_header inner_proto ++ data.take inner_len := by
  have room : inner_len + ENCAP_OVERHEAD ≤ data.length := by
    by_contra short
    rw [(encapsulate_ipv4_buf_eq_none src_ip dst_ip).mpr (by omega)] at encapsulated
    cases encapsulated
  have overhead : ENCAP_OVERHEAD = OUTER_IP_HEADER_SIZE + GRE_HEADER_SIZE := rfl
  unfold encapsulate_ipv4_buf at encapsulated
  rw [if_neg (by omega)] at encapsulated
  obtain ⟨rfl,rfl⟩ := Prod.mk.inj (Option.some.inj encapsulated)
  refine ⟨room,?_,_,_,_,List.take_left' ?_⟩
  · simp only [List.length_append,outer_header_length,gre_header_length,List.length_take,List.length_drop]
    omega
  · simp only [List.length_append,outer_header_length,gre_header_length,List.length_take]
    omega

end

def encapsulate_ipv4 (pkt : PacketBuf) (src_ip dst_ip : Ipv4Addr) : Option PacketBuf :=
  match encapsulated : encapsulate_ipv4_buf pkt.data pkt.len src_ip dst_ip with
  | none => none
  | some (data,new_len) =>
    some {
      data
      len := new_len
      sized := (encapsulate_ipv4_buf_eq_some encapsulated).2.1.trans pkt.sized
      fits := pkt.sized ▸ (encapsulate_ipv4_buf_eq_some encapsulated).1 }

variable {pkt out : PacketBuf} {src_ip dst_ip : Ipv4Addr}

theorem encapsulate_ipv4_eq_none :
    encapsulate_ipv4 pkt src_ip dst_ip = none ↔ PACKET_BUF_SIZE < pkt.len + ENCAP_OVERHEAD := by
  rw [← pkt.sized,← encapsulate_ipv4_buf_eq_none src_ip dst_ip,encapsulate_ipv4]
  split <;> simp_all

/-- An encapsulated packet is the packet after the two headers. -/
theorem encapsulate_ipv4_eq_some (encapsulated : encapsulate_ipv4 pkt src_ip dst_ip = some out) :
    ∃ total_len checksum inner_proto,
      out.as_slice = outer_header total_len checksum src_ip dst_ip ++ gre_header inner_proto ++ pkt.as_slice := by
  unfold encapsulate_ipv4 at encapsulated
  split at encapsulated
  · cases encapsulated
  · rename_i inside
    cases encapsulated
    exact (encapsulate_ipv4_buf_eq_some inside).2.2

/-- The destination of an IPv4 packet. -/
def destination (pkt : PacketBuf) : Ipv4Addr := ipv4_at pkt.as_slice 16

/-- An encapsulated packet goes to the address that it was encapsulated to. -/
theorem encapsulate_ipv4_destination (encapsulated : encapsulate_ipv4 pkt src_ip dst_ip = some out) :
    destination out = dst_ip := by
  obtain ⟨_,_,_,slice⟩ := encapsulate_ipv4_eq_some encapsulated
  rw [destination,slice]
  rfl
theorem encapsulate_ipv4_tos (encapsulated : encapsulate_ipv4 pkt src_ip dst_ip = some out) :
    byte out.as_slice 1 = 0x00 := by
  obtain ⟨_,_,_,slice⟩ := encapsulate_ipv4_eq_some encapsulated
  rw [slice]
  rfl
/-- What comes out of the tunnel is the packet that went in. -/
theorem encapsulate_ipv4_inner (encapsulated : encapsulate_ipv4 pkt src_ip dst_ip = some out) :
    out.as_slice.drop ENCAP_OVERHEAD = pkt.as_slice := by
  obtain ⟨_,_,_,slice⟩ := encapsulate_ipv4_eq_some encapsulated
  rw [slice]
  exact List.drop_left' rfl

end Lb.Gre
