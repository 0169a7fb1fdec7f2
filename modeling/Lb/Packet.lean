import Lb.Types

/-!
# Parsing packets

The 5-tuple of a packet, the 3-tuple of a fragment, and their hashes. Bytes are
read by index; every read below comes after a length check that covers it.
-/
namespace Lb.Packet
open Lb.Addr Lb.Types

/-- The byte at an index. -/
def byte (data : List UInt8) (i : Nat) : UInt8 := data.getD i 0
/-- The big-endian 16-bit number at an index. -/
def be16 (data : List UInt8) (i : Nat) : UInt16 := from_be_bytes (byte data i) (byte data (i + 1))

section
variable {front rest : List UInt8} {i : Nat}

theorem byte_append (inside : i < front.length) : byte (front ++ rest) i = byte front i := by
  simp only [byte,List.getD_eq_getElem?_getD,List.getElem?_append_left inside]
theorem byte_take {n : Nat} (inside : i < n) : byte (front.take n) i = byte front i := by
  simp only [byte,List.getD_eq_getElem?_getD,List.getElem?_take_of_lt inside]
theorem byte_drop {n : Nat} : byte (front.drop n) i = byte front (n + i) := by
  simp only [byte,List.getD_eq_getElem?_getD,List.getElem?_drop]
theorem byte_append_right (i : Nat) : byte (front ++ rest) (front.length + i) = byte rest i := by
  simp only [byte,List.getD_eq_getElem?_getD]
  rw [List.getElem?_append_right (Nat.le_add_right ..),Nat.add_sub_cancel_left]

theorem be16_append (inside : i + 1 < front.length) : be16 (front ++ rest) i = be16 front i := by
  rw [be16,be16,byte_append (by omega),byte_append inside]
theorem be16_append_right (i : Nat) : be16 (front ++ rest) (front.length + i) = be16 rest i := by
  rw [be16,be16,byte_append_right,Nat.add_assoc,byte_append_right]

end

/-- L4 protocol family, for the time to live of a tracked connection. -/
inductive FlowProto
  | Tcp
  | Udp
  | Other
deriving DecidableEq

def FlowProto.from : Protocol → FlowProto
  | .Tcp => .Tcp
  | .Udp => .Udp

inductive TcpFlowState
  | NotTcp
  | Handshake
  | Established
  | Closing
deriving DecidableEq

structure TcpFlags where
  bits : UInt8
deriving DecidableEq

def TcpFlags.fin (f : TcpFlags) : Bool := f.bits &&& 0x01 != 0
def TcpFlags.syn (f : TcpFlags) : Bool := f.bits &&& 0x02 != 0
def TcpFlags.rst (f : TcpFlags) : Bool := f.bits &&& 0x04 != 0
def TcpFlags.ack (f : TcpFlags) : Bool := f.bits &&& 0x10 != 0

/-- The fields of a packet that identify its flow, and its TCP flags. -/
structure PacketMeta where
  src_ip : IpAddr
  dst_ip : IpAddr
  src_port : UInt16
  dst_port : UInt16
  protocol : Protocol
  tcp_flags : Option TcpFlags
deriving DecidableEq

/-- The four bytes of an IPv4 address at an index. -/
def ipv4_at (data : List UInt8) (i : Nat) : Ipv4Addr :=
  ⟨byte data i,byte data (i + 1),byte data (i + 2),byte data (i + 3)⟩
/-- The eight segments of an IPv6 address at an index. -/
def ipv6_at (data : List UInt8) (i : Nat) : Ipv6Addr :=
  ⟨be16 data i,be16 data (i + 2),be16 data (i + 4),be16 data (i + 6),
    be16 data (i + 8),be16 data (i + 10),be16 data (i + 12),be16 data (i + 14)⟩

/-- The length of the IPv4 header that the first byte declares. -/
def ihl (data : List UInt8) : Nat := (byte data 0 &&& 0x0F).toNat * 4

def PacketMeta.from_ipv4_bytes (data : List UInt8) : Option PacketMeta :=
  if data.length < 24 then none
  else if byte data 0 >>> 4 ≠ 4 then none
  else if data.length < ihl data + 4 then none
  else
    match Protocol.from_ip_proto (byte data 9) with
    | none => none
    | some protocol =>
      some {
        src_ip := .V4 (ipv4_at data 12)
        dst_ip := .V4 (ipv4_at data 16)
        src_port := be16 data (ihl data)
        dst_port := be16 data (ihl data + 2)
        protocol := protocol
        tcp_flags :=
          if protocol = .Tcp ∧ ihl data + 14 ≤ data.length then some ⟨byte data (ihl data + 13)⟩ else none }

/-- What the parser has checked of an IPv4 packet, and reads from it. -/
structure PacketMeta.FromIpv4 (data : List UInt8) (m : PacketMeta) : Prop where
  long : 24 ≤ data.length
  version : byte data 0 >>> 4 = 4
  whole : ihl data + 4 ≤ data.length
  protocol : Protocol.from_ip_proto (byte data 9) = some m.protocol
  dst_ip : m.dst_ip = .V4 (ipv4_at data 16)

theorem PacketMeta.from_ipv4_bytes_accepted {data : List UInt8} {m : PacketMeta}
    (parsed : PacketMeta.from_ipv4_bytes data = some m) : FromIpv4 data m := by
  unfold from_ipv4_bytes at parsed
  split_ifs at parsed with short version truncated
  cases proto : Protocol.from_ip_proto (byte data 9) with
  | none => simp [proto] at parsed
  | some protocol =>
    rw [proto] at parsed
    cases parsed
    exact ⟨Nat.not_lt.mp short,not_not.mp version,Nat.not_lt.mp truncated,proto,rfl⟩

def PacketMeta.from_ipv6_bytes (data : List UInt8) : Option PacketMeta :=
  if data.length < 44 then none
  else if byte data 0 >>> 4 ≠ 6 then none
  else
    match Protocol.from_ip_proto (byte data 6) with
    | none => none
    | some protocol =>
      some {
        src_ip := .V6 (ipv6_at data 8)
        dst_ip := .V6 (ipv6_at data 24)
        src_port := be16 data 40
        dst_port := be16 data 42
        protocol := protocol
        tcp_flags := if protocol = .Tcp ∧ 54 ≤ data.length then some ⟨byte data 53⟩ else none }

def PacketMeta.from_ip_bytes (data : List UInt8) : Option PacketMeta :=
  if data.isEmpty then none
  else if byte data 0 >>> 4 = 4 then PacketMeta.from_ipv4_bytes data
  else if byte data 0 >>> 4 = 6 then PacketMeta.from_ipv6_bytes data
  else none

/-- The version of an accepted packet decides which parser reads it, and where its
    addresses are. -/
theorem PacketMeta.from_ip_bytes_cases {data : List UInt8} {m : PacketMeta}
    (parsed : PacketMeta.from_ip_bytes data = some m) :
    (byte data 0 >>> 4 = 4 ∧ from_ipv4_bytes data = some m ∧
      m.src_ip = .V4 (ipv4_at data 12) ∧ m.dst_ip = .V4 (ipv4_at data 16)) ∨
    (byte data 0 >>> 4 = 6 ∧ from_ipv6_bytes data = some m ∧
      m.src_ip = .V6 (ipv6_at data 8) ∧ m.dst_ip = .V6 (ipv6_at data 24)) := by
  unfold from_ip_bytes at parsed
  split_ifs at parsed with empty four six
  · refine .inl ⟨four,parsed,?_⟩
    unfold from_ipv4_bytes at parsed
    split_ifs at parsed
    cases proto : Protocol.from_ip_proto (byte data 9) with
    | none => simp [proto] at parsed
    | some protocol =>
      rw [proto] at parsed
      cases parsed
      exact ⟨rfl,rfl⟩
  · refine .inr ⟨six,parsed,?_⟩
    unfold from_ipv6_bytes at parsed
    split_ifs at parsed
    cases proto : Protocol.from_ip_proto (byte data 6) with
    | none => simp [proto] at parsed
    | some protocol =>
      rw [proto] at parsed
      cases parsed
      exact ⟨rfl,rfl⟩

/-- The 16-byte field that an address is hashed as: an IPv4 address is padded
    with zeroes. -/
def hash_field : IpAddr → List UInt8
  | .V4 ip => ip.octets ++ List.replicate 12 0
  | .V6 ip => ip.octets

/-- The 37 bytes that the flow hash is taken of. -/
def PacketMeta.hash_buf (m : PacketMeta) : List UInt8 :=
  hash_field m.src_ip ++ hash_field m.dst_ip ++ to_be_bytes m.src_port ++ to_be_bytes m.dst_port ++
    [m.protocol.toU8]
def PacketMeta.flow_hash (x : Xxh3) (m : PacketMeta) : UInt64 := x.xxh3_64 m.hash_buf

/-- The 3-tuple that the fragments of one datagram share. -/
structure FragmentId where
  src_ip : IpAddr
  dst_ip : IpAddr
  ip_id : UInt16
deriving DecidableEq

def FragmentId.from_ipv4_bytes (data : List UInt8) : Option FragmentId :=
  if data.length < 20 then none
  else if byte data 0 >>> 4 ≠ 4 then none
  else some { src_ip := .V4 (ipv4_at data 12), dst_ip := .V4 (ipv4_at data 16), ip_id := be16 data 4 }

/-- The 34 bytes that the fragment hash is taken of. -/
def FragmentId.hash_buf (f : FragmentId) : List UInt8 :=
  hash_field f.src_ip ++ hash_field f.dst_ip ++ to_be_bytes f.ip_id
def FragmentId.fragment_hash (x : Xxh3) (f : FragmentId) : UInt64 := x.xxh3_64 f.hash_buf

/-- The flags and the fragment offset of an IPv4 header. -/
def flags_and_offset (data : List UInt8) : UInt16 := be16 data 6

def is_fragment (data : List UInt8) : Bool :=
  if data.length < 20 then false
  else flags_and_offset data &&& 0x2000 != 0 || flags_and_offset data &&& 0x1FFF != 0
def is_non_first_fragment (data : List UInt8) : Bool :=
  if data.length < 20 then false else flags_and_offset data &&& 0x1FFF != 0

end Lb.Packet
