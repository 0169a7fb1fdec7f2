import Lb.Headers

/-!
# Flow keys

A flow is known by the hash of 37 bytes: its two addresses in fields of sixteen
bytes, its ports and its protocol. The fields do not say which family an address
is of (`hash_field_eq`): an IPv4 address leaves the bytes of the IPv6 address
that begins with its octets and goes on with zeroes. So an IPv4 flow and the
IPv6 flow between the two widened addresses have one key (`Shadows`); the bytes
of any other two flows differ where the flows do (`same_bytes_cases`).
-/
namespace Lb.FlowKeys
open Lb.Addr Lb.Types Lb.Packet

/-! ### Bytes of the fields -/

theorem segments_inj {s s' : List UInt16} (same : s.flatMap to_be_bytes = s'.flatMap to_be_bytes) : s = s' := by
  induction s generalizing s' with
  | nil =>
    cases s' with
    | nil => rfl
    | cons v' rest' => simp [to_be_bytes] at same
  | cons v rest ih =>
    cases s' with
    | nil => simp [to_be_bytes] at same
    | cons v' rest' =>
      rw [List.flatMap_cons,List.flatMap_cons] at same
      obtain ⟨first,others⟩ := List.append_inj same rfl
      rw [to_be_bytes_inj first,ih others]

theorem Ipv6Addr.octets_length (ip : Ipv6Addr) : ip.octets.length = 16 := rfl

theorem Ipv6Addr.octets_inj {ip ip' : Ipv6Addr} (same : ip.octets = ip'.octets) : ip = ip' := by
  have segments := segments_inj same
  cases ip
  cases ip'
  simp only [Ipv6Addr.segments,List.cons.injEq,and_true] at segments
  simp only [segments]

/-! ### Addresses without their family -/

/-- The IPv6 address of the octets of an IPv4 address and twelve zero bytes. -/
def padded (ip : Ipv4Addr) : Ipv6Addr := ⟨from_be_bytes ip.a ip.b,from_be_bytes ip.c ip.d,0,0,0,0,0,0⟩

/-- The IPv6 address that the sixteen bytes of a hash field spell. -/
def widened : IpAddr → Ipv6Addr
  | .V4 ip => padded ip
  | .V6 ip => ip

theorem padded_octets (ip : Ipv4Addr) : (padded ip).octets = ip.octets ++ List.replicate 12 0 := by
  simp only [Ipv6Addr.octets,Ipv6Addr.segments,padded,List.flatMap_cons,to_be_bytes_from_be_bytes]
  rfl

theorem padded_inj {ip ip' : Ipv4Addr} (same : padded ip = padded ip') : ip = ip' := by
  have octets := congrArg Ipv6Addr.octets same
  rw [padded_octets,padded_octets] at octets
  obtain ⟨octets,_⟩ := List.append_inj octets rfl
  cases ip
  cases ip'
  simp only [Ipv4Addr.octets,List.cons.injEq,and_true] at octets
  simp only [octets]

theorem hash_field_widened (addr : IpAddr) : hash_field addr = (widened addr).octets := by
  cases addr with
  | V4 ip => exact (padded_octets ip).symm
  | V6 ip => rfl

theorem hash_field_length (addr : IpAddr) : (hash_field addr).length = 16 := by
  rw [hash_field_widened,Ipv6Addr.octets_length]

/-- A hash field tells two addresses apart up to their families. -/
theorem hash_field_eq {addr addr' : IpAddr} : hash_field addr = hash_field addr' ↔ widened addr = widened addr' := by
  rw [hash_field_widened,hash_field_widened]
  constructor
  · intro same
    exact Ipv6Addr.octets_inj same
  · intro same
    rw [same]

/-- Both addresses are of one family. -/
inductive OneFamily : IpAddr → IpAddr → Prop
  | ipv4 (src dst : Ipv4Addr) : OneFamily (.V4 src) (.V4 dst)
  | ipv6 (src dst : Ipv6Addr) : OneFamily (.V6 src) (.V6 dst)

/-- The addresses of a packet that is accepted are of one family. -/
theorem from_ip_bytes_family {data : List UInt8} {m : PacketMeta} (parsed : PacketMeta.from_ip_bytes data = some m) :
    OneFamily m.src_ip m.dst_ip := by
  obtain ⟨_,_,src_ip,dst_ip⟩ | ⟨_,_,src_ip,dst_ip⟩ := PacketMeta.from_ip_bytes_cases parsed
  · rw [src_ip,dst_ip]
    exact .ipv4 _ _
  · rw [src_ip,dst_ip]
    exact .ipv6 _ _

/-! ### The 37 bytes -/

section
variable {m m' : PacketMeta}

/-- The ports and the protocol are the same. -/
structure SameService (m m' : PacketMeta) : Prop where
  src_port : m.src_port = m'.src_port
  dst_port : m.dst_port = m'.dst_port
  protocol : m.protocol = m'.protocol

/-- The 5-tuples are the same, the families of the addresses included. -/
structure SameFlow (m m' : PacketMeta) : Prop where
  src_ip : m.src_ip = m'.src_ip
  dst_ip : m.dst_ip = m'.dst_ip
  service : SameService m m'

/-- The second flow is the IPv6 flow whose addresses are the IPv4 addresses of
    the first, each with twelve zero bytes behind it. -/
structure Shadows (m m' : PacketMeta) : Prop where
  addresses : ∃ src dst : Ipv4Addr, m.src_ip = .V4 src ∧ m.dst_ip = .V4 dst ∧
    m'.src_ip = .V6 (padded src) ∧ m'.dst_ip = .V6 (padded dst)
  service : SameService m m'

theorem toU8_inj {p p' : Protocol} (same : p.toU8 = p'.toU8) : p = p' := by
  cases p <;> cases p' <;> simp_all [Protocol.toU8]

theorem hash_buf_length (m : PacketMeta) : m.hash_buf.length = 37 := by
  simp only [PacketMeta.hash_buf,List.length_append,hash_field_length,to_be_bytes,List.length_cons,List.length_nil]

/-- The bytes determine everything but the families. -/
theorem hash_buf_eq :
    m.hash_buf = m'.hash_buf ↔
      widened m.src_ip = widened m'.src_ip ∧ widened m.dst_ip = widened m'.dst_ip ∧ SameService m m' := by
  unfold PacketMeta.hash_buf
  constructor
  · intro same
    have ports_width : ∀ v w : UInt16, (to_be_bytes v).length = (to_be_bytes w).length := fun _ _ => rfl
    obtain ⟨same,protocol⟩ := List.append_inj' same rfl
    obtain ⟨same,dst_port⟩ := List.append_inj' same (ports_width _ _)
    obtain ⟨same,src_port⟩ := List.append_inj' same (ports_width _ _)
    obtain ⟨src_ip,dst_ip⟩ := List.append_inj' same (by rw [hash_field_length,hash_field_length])
    exact ⟨hash_field_eq.mp src_ip,hash_field_eq.mp dst_ip,to_be_bytes_inj src_port,to_be_bytes_inj dst_port,
      toU8_inj (List.singleton_inj.mp protocol)⟩
  · intro ⟨src_ip,dst_ip,service⟩
    rw [hash_field_eq.mpr src_ip,hash_field_eq.mpr dst_ip,service.src_port,service.dst_port,service.protocol]

theorem Shadows.same_bytes (shadows : Shadows m m') : m.hash_buf = m'.hash_buf := by
  obtain ⟨⟨src,dst,src_ip,dst_ip,src_ip',dst_ip'⟩,service⟩ := shadows
  rw [hash_buf_eq,src_ip,dst_ip,src_ip',dst_ip']
  exact ⟨rfl,rfl,service⟩

theorem Shadows.not_same (shadows : Shadows m m') : ¬ SameFlow m m' := by
  obtain ⟨⟨src,dst,src_ip,_,src_ip',_⟩,_⟩ := shadows
  intro same
  have families := same.src_ip
  rw [src_ip,src_ip'] at families
  cases families

theorem SameFlow.symm (same : SameFlow m m') : SameFlow m' m := by
  obtain ⟨src_ip,dst_ip,service⟩ := same
  exact ⟨src_ip.symm,dst_ip.symm,service.src_port.symm,service.dst_port.symm,service.protocol.symm⟩

/-- Flows of one family, or of two, whose bytes are the same are one flow, or one
    is the shadow of the other. -/
theorem same_bytes_cases (family : OneFamily m.src_ip m.dst_ip) (family' : OneFamily m'.src_ip m'.dst_ip)
    (same : m.hash_buf = m'.hash_buf) : SameFlow m m' ∨ Shadows m m' ∨ Shadows m' m := by
  obtain ⟨src_ip,dst_ip,service⟩ := hash_buf_eq.mp same
  have service' : SameService m' m := ⟨service.src_port.symm,service.dst_port.symm,service.protocol.symm⟩
  generalize source : m.src_ip = addr at family src_ip
  generalize dest : m.dst_ip = dst_addr at family dst_ip
  generalize source' : m'.src_ip = addr' at family' src_ip
  generalize dest' : m'.dst_ip = dst_addr' at family' dst_ip
  cases family with
  | ipv4 src dst =>
    cases family' with
    | ipv4 src' dst' =>
      rw [padded_inj src_ip] at source
      rw [padded_inj dst_ip] at dest
      exact .inl ⟨source.trans source'.symm,dest.trans dest'.symm,service⟩
    | ipv6 src' dst' =>
      refine .inr (.inl ⟨⟨src,dst,source,dest,?_,?_⟩,service⟩)
      · rw [source',← show padded src = src' from src_ip]
      · rw [dest',← show padded dst = dst' from dst_ip]
  | ipv6 src dst =>
    cases family' with
    | ipv4 src' dst' =>
      refine .inr (.inr ⟨⟨src',dst',source',dest',?_,?_⟩,service'⟩)
      · rw [source,show src = padded src' from src_ip]
      · rw [dest,show dst = padded dst' from dst_ip]
    | ipv6 src' dst' =>
      rw [show src = src' from src_ip] at source
      rw [show dst = dst' from dst_ip] at dest
      exact .inl ⟨source.trans source'.symm,dest.trans dest'.symm,service⟩

end

/-! ### The shadow of a flow -/

/-- The header of an IPv6 packet between two addresses, of four bytes of payload. -/
def shadow_header (protocol : Protocol) (src dst : Ipv6Addr) : List UInt8 :=
  [0x60,0,0,0,0,4,protocol.toU8,64] ++ (src.octets ++ dst.octets)
def shadow_segment (src_port dst_port : UInt16) : List UInt8 := to_be_bytes src_port ++ to_be_bytes dst_port

/-- The flow between the widened addresses. -/
def shadow (m : PacketMeta) : PacketMeta :=
  { m with src_ip := .V6 (widened m.src_ip), dst_ip := .V6 (widened m.dst_ip), tcp_flags := none }

theorem ipv6_at_octets (front rest : List UInt8) (ip : Ipv6Addr) :
    ipv6_at (front ++ (ip.octets ++ rest)) front.length = ip := by
  have segment : ∀ (s : UInt16) (i : Nat), be16 (ip.octets ++ rest) i = from_be_bytes (s >>> 8).toUInt8 s.toUInt8 →
      be16 (front ++ (ip.octets ++ rest)) (front.length + i) = s := by
    intro s i bytes
    rw [be16_append_right,bytes,from_be_bytes_split]
  unfold ipv6_at
  rw [segment ip.b 2 rfl,segment ip.c 4 rfl,segment ip.d 6 rfl,segment ip.e 8 rfl,segment ip.f 10 rfl,
    segment ip.g 12 rfl,segment ip.h 14 rfl]
  have first := segment ip.a 0 rfl
  rw [Nat.add_zero] at first
  rw [first]

/-- The shadow of a flow is the flow of a packet that is accepted. -/
theorem shadow_parsed (m : PacketMeta) : ∃ data, PacketMeta.from_ip_bytes data = some (shadow m) := by
  have source := ipv6_at_octets [0x60,0,0,0,0,4,m.protocol.toU8,64] (widened m.dst_ip).octets (widened m.src_ip)
  have dest := ipv6_at_octets ([0x60,0,0,0,0,4,m.protocol.toU8,64] ++ (widened m.src_ip).octets) [] (widened m.dst_ip)
  rw [List.append_nil,List.append_assoc] at dest
  have formed : Ipv6Header (shadow_header m.protocol (widened m.src_ip) (widened m.dst_ip)) :=
    ⟨show (0x60 : UInt8) >>> 4 = 6 by decide,rfl⟩
  have fields := HeaderFields.ipv6 m.protocol formed rfl
  rw [show ipv6_at (shadow_header m.protocol (widened m.src_ip) (widened m.dst_ip)) 8 = widened m.src_ip from source,
    show ipv6_at (shadow_header m.protocol (widened m.src_ip) (widened m.dst_ip)) 24 = widened m.dst_ip from dest] at fields
  refine ⟨_,Describes.parsed ⟨_,shadow_segment m.src_port m.dst_port,rfl,fields,?_⟩⟩
  constructor
  · exact Nat.le_refl 4
  · exact (from_be_bytes_split m.src_port).symm
  · exact (from_be_bytes_split m.dst_port).symm
  · exact (if_neg fun flags => absurd flags.2 (show ¬ 14 ≤ 4 by decide)).symm

theorem shadow_shadows {m : PacketMeta} {src dst : Ipv4Addr} (source : m.src_ip = .V4 src) (dest : m.dst_ip = .V4 dst) :
    Shadows m (shadow m) := by
  refine ⟨⟨src,dst,source,dest,?_,?_⟩,⟨rfl,rfl,rfl⟩⟩
  · rw [shadow,source]
    rfl
  · rw [shadow,dest]
    rfl

/-- Every IPv4 flow has a key that is the key of another accepted packet's flow. -/
theorem every_ipv4_flow_shadowed {m : PacketMeta} {src dst : Ipv4Addr} (source : m.src_ip = .V4 src)
    (dest : m.dst_ip = .V4 dst) :
    ∃ data' m', PacketMeta.from_ip_bytes data' = some m' ∧ ¬ SameFlow m m' ∧ ∀ x, m.flow_hash x = m'.flow_hash x := by
  obtain ⟨data',parsed⟩ := shadow_parsed m
  have shadows := shadow_shadows source dest
  refine ⟨data',shadow m,parsed,shadows.not_same,?_⟩
  intro x
  rw [PacketMeta.flow_hash,shadows.same_bytes,PacketMeta.flow_hash]

/-! ### Keys of the connection table -/

/-- Different inputs of one hash. -/
structure Collision (x : Xxh3) (buf buf' : List UInt8) : Prop where
  differ : buf ≠ buf'
  same_hash : x.xxh3_64 buf = x.xxh3_64 buf'

/-- The same bytes are hashed of one flow only, and two flows share a key only if
    the hash itself collides. -/
structure KeysApart (m m' : PacketMeta) : Prop where
  bytes : m.hash_buf = m'.hash_buf → SameFlow m m'
  keys : ∀ x : Xxh3, m.flow_hash x = m'.flow_hash x → SameFlow m m' ∨ Collision x m.hash_buf m'.hash_buf

theorem KeysApart.of_bytes {m m' : PacketMeta} (bytes : m.hash_buf = m'.hash_buf → SameFlow m m') :
    KeysApart m m' := by
  refine ⟨bytes,?_⟩
  intro x key
  by_cases same : m.hash_buf = m'.hash_buf
  · exact .inl (bytes same)
  · exact .inr ⟨same,key⟩

/-- Two accepted packets have keys that tell their flows apart unless one flow is
    IPv4 and the other its shadow. -/
theorem flow_keys_apart_iff {data data' : List UInt8} {m m' : PacketMeta}
    (parsed : PacketMeta.from_ip_bytes data = some m) (parsed' : PacketMeta.from_ip_bytes data' = some m') :
    KeysApart m m' ↔ ¬ (Shadows m m' ∨ Shadows m' m) := by
  constructor
  · intro apart shadowed
    rcases shadowed with shadows | shadows
    · exact shadows.not_same (apart.bytes shadows.same_bytes)
    · exact shadows.not_same (apart.bytes shadows.same_bytes.symm).symm
  · intro regular
    apply KeysApart.of_bytes
    intro same
    rcases same_bytes_cases (from_ip_bytes_family parsed) (from_ip_bytes_family parsed') same with flow | shadowed
    · exact flow
    · exact absurd shadowed regular

private def ipv4_flow (client : UInt8) : List UInt8 :=
  [0x45,0,0,40,0,0,0x40,0,64,6,0,0,52,10,0,client,32,1,20,88,0x9c,0x40,0x01,0xbb]
private def ipv6_flow : List UInt8 :=
  [0x60,0,0,0,0,20,6,64,0x34,0x0a,0x00,0x01,0,0,0,0,0,0,0,0,0,0,0,0,0x20,0x01,0x14,0x58,0,0,0,0,0,0,0,0,0,0,0,0,
    0x9c,0x40,0x01,0xbb]
private def ipv4_meta (client : UInt8) : PacketMeta :=
  ⟨.V4 ⟨52,10,0,client⟩,.V4 ⟨32,1,20,88⟩,40000,443,.Tcp,none⟩
private def ipv6_meta : PacketMeta :=
  ⟨.V6 ⟨0x340a,0x0001,0,0,0,0,0,0⟩,.V6 ⟨0x2001,0x1458,0,0,0,0,0,0⟩,40000,443,.Tcp,none⟩

/-- Two clients of one service have different keys. -/
theorem different_flows_apart : KeysApart (ipv4_meta 1) (ipv4_meta 2) := by
  apply (@flow_keys_apart_iff (ipv4_flow 1) (ipv4_flow 2) _ _ (by decide +kernel) (by decide +kernel)).mpr
  intro shadowed
  rcases shadowed with shadows | shadows <;> obtain ⟨⟨_,_,_,_,ipv6,_⟩,_⟩ := shadows <;> cases ipv6

/-- The bytes of the flow from 52.10.0.1 to 32.1.20.88 are the bytes of the flow
    from 340a:1:: to 2001:1458::. -/
theorem families_share_key :
    ¬ ∀ data data' m m', PacketMeta.from_ip_bytes data = some m → PacketMeta.from_ip_bytes data' = some m' →
      KeysApart m m' := by
  intro apart
  have parsed : PacketMeta.from_ip_bytes (ipv4_flow 1) = some (ipv4_meta 1) := by decide +kernel
  have parsed' : PacketMeta.from_ip_bytes ipv6_flow = some ipv6_meta := by decide +kernel
  have same := (apart _ _ _ _ parsed parsed').bytes (by decide +kernel)
  cases same.src_ip

end Lb.FlowKeys
