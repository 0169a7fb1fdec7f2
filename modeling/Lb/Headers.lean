import Lb.Packet

/-!
# The headers that the parser accepts

A packet is an IP header and a segment behind it. The addresses and the protocol
are fields of the header, the ports and the TCP flags fields of the segment. An
IPv4 fragment other than the first has no segment, but some of the payload.
-/
namespace Lb.Packet
open Lb.Addr Lb.Types

/-- The header says its own length, of five words or more. -/
structure Ipv4Header (header : List UInt8) : Prop where
  version : byte header 0 >>> 4 = 4
  length : header.length = ihl header
  minimum : 20 ≤ header.length

structure Ipv6Header (header : List UInt8) : Prop where
  version : byte header 0 >>> 4 = 6
  length : header.length = 40

/-- What an IP header with the start of a segment behind it says of addresses and
    protocol. -/
inductive HeaderFields (header : List UInt8) : IpAddr → IpAddr → Protocol → Prop
  | ipv4 (protocol : Protocol) (formed : Ipv4Header header) (next : byte header 9 = protocol.toU8)
    (starts : is_non_first_fragment header = false) :
    HeaderFields header (.V4 (ipv4_at header 12)) (.V4 (ipv4_at header 16)) protocol
  | ipv6 (protocol : Protocol) (formed : Ipv6Header header) (next : byte header 6 = protocol.toU8) :
    HeaderFields header (.V6 (ipv6_at header 8)) (.V6 (ipv6_at header 24)) protocol

/-- What a TCP or UDP segment with at least its ports says. -/
structure SegmentFields (segment : List UInt8) (m : PacketMeta) : Prop where
  ports : 4 ≤ segment.length
  src_port : m.src_port = be16 segment 0
  dst_port : m.dst_port = be16 segment 2
  tcp_flags : m.tcp_flags = if m.protocol = .Tcp ∧ 14 ≤ segment.length then some ⟨byte segment 13⟩ else none

/-- The packet is a header and a segment, with these fields. -/
def Describes (data : List UInt8) (m : PacketMeta) : Prop :=
  ∃ header segment, data = header ++ segment ∧ HeaderFields header m.src_ip m.dst_ip m.protocol ∧ SegmentFields segment m

/-- An IPv4 packet that says that its header is shorter than the fixed part. -/
def ShortHeader (data : List UInt8) : Prop := byte data 0 >>> 4 = 4 ∧ ihl data < 20
/-- An IPv4 packet with a fragment offset. -/
def LaterFragment (data : List UInt8) : Prop := byte data 0 >>> 4 = 4 ∧ is_non_first_fragment data = true

/-! ### Reading a header and a segment -/

section
variable {data header segment : List UInt8} {m : PacketMeta}

theorem ihl_append (inside : 0 < header.length) : ihl (header ++ segment) = ihl header := by
  rw [ihl,ihl,byte_append inside]

theorem ihl_take {n : Nat} (inside : 0 < n) : ihl (data.take n) = ihl data := by
  rw [ihl,ihl,byte_take inside]

theorem is_non_first_fragment_append (fixed : 20 ≤ header.length) :
    is_non_first_fragment (header ++ segment) = is_non_first_fragment header := by
  have length : 20 ≤ (header ++ segment).length := by
    rw [List.length_append]
    omega
  rw [is_non_first_fragment,is_non_first_fragment,if_neg (by omega),if_neg (by omega),flags_and_offset,flags_and_offset,
    be16_append (by omega)]

theorem ipv4_at_append {i : Nat} (inside : i + 3 < header.length) : ipv4_at (header ++ segment) i = ipv4_at header i := by
  rw [ipv4_at,ipv4_at,byte_append (by omega),byte_append (by omega),byte_append (by omega),byte_append inside]

theorem ipv6_at_append {i : Nat} (inside : i + 15 < header.length) : ipv6_at (header ++ segment) i = ipv6_at header i := by
  simp (disch := omega) only [ipv6_at,be16_append]

/-- The parser on an IPv4 header and a segment. -/
theorem from_ipv4_bytes_append (formed : Ipv4Header header) (ports : 4 ≤ segment.length) :
    PacketMeta.from_ipv4_bytes (header ++ segment) = (Protocol.from_ip_proto (byte header 9)).map fun protocol => {
      src_ip := .V4 (ipv4_at header 12)
      dst_ip := .V4 (ipv4_at header 16)
      src_port := be16 segment 0
      dst_port := be16 segment 2
      protocol := protocol
      tcp_flags := if protocol = .Tcp ∧ 14 ≤ segment.length then some ⟨byte segment 13⟩ else none } := by
  have minimum := formed.minimum
  have length : (header ++ segment).length = header.length + segment.length := List.length_append
  have version : byte (header ++ segment) 0 >>> 4 = 4 := by rw [byte_append (by omega),formed.version]
  have first := @be16_append_right header segment 0
  rw [Nat.add_zero] at first
  rw [PacketMeta.from_ipv4_bytes,ihl_append (by omega),← formed.length,if_neg (by omega),if_neg (by simp [version]),
    if_neg (by omega),byte_append (by omega),ipv4_at_append (by omega),ipv4_at_append (by omega),first,be16_append_right,
    byte_append_right,length]
  cases Protocol.from_ip_proto (byte header 9) with
  | none => rfl
  | some protocol => simp only [Nat.add_le_add_iff_left,Option.map_some]

/-- The parser on an IPv6 header and a segment. -/
theorem from_ipv6_bytes_append (formed : Ipv6Header header) (ports : 4 ≤ segment.length) :
    PacketMeta.from_ipv6_bytes (header ++ segment) = (Protocol.from_ip_proto (byte header 6)).map fun protocol => {
      src_ip := .V6 (ipv6_at header 8)
      dst_ip := .V6 (ipv6_at header 24)
      src_port := be16 segment 0
      dst_port := be16 segment 2
      protocol := protocol
      tcp_flags := if protocol = .Tcp ∧ 14 ≤ segment.length then some ⟨byte segment 13⟩ else none } := by
  have fixed := formed.length
  have length : (header ++ segment).length = 40 + segment.length := by rw [List.length_append,fixed]
  have version : byte (header ++ segment) 0 >>> 4 = 6 := by rw [byte_append (by omega),formed.version]
  have first := @be16_append_right header segment 0
  have second := @be16_append_right header segment 2
  have flags := @byte_append_right header segment 13
  rw [fixed] at first second flags
  rw [PacketMeta.from_ipv6_bytes,if_neg (by omega),if_neg (by simp [version]),byte_append (by omega),
    ipv6_at_append (by omega),ipv6_at_append (by omega),first,second,flags,length]
  cases Protocol.from_ip_proto (byte header 6) with
  | none => rfl
  | some protocol => simp only [Option.map_some,show (54 : Nat) = 40 + 14 from rfl,Nat.add_le_add_iff_left]

theorem from_ip_bytes_ipv4 (version : byte data 0 >>> 4 = 4) (some_byte : 0 < data.length) :
    PacketMeta.from_ip_bytes data = PacketMeta.from_ipv4_bytes data := by
  rw [PacketMeta.from_ip_bytes,if_neg (by simpa [← List.length_pos_iff] using some_byte),if_pos version]

theorem from_ip_bytes_ipv6 (version : byte data 0 >>> 4 = 6) (some_byte : 0 < data.length) :
    PacketMeta.from_ip_bytes data = PacketMeta.from_ipv6_bytes data := by
  rw [PacketMeta.from_ip_bytes,if_neg (by simpa [← List.length_pos_iff] using some_byte),if_neg (by simp [version]),
    if_pos version]

/-- Every packet that is a header and a segment is accepted. -/
theorem Describes.parsed (describes : Describes data m) : PacketMeta.from_ip_bytes data = some m := by
  obtain ⟨header,segment,rfl,fields,⟨ports,first,second,flags⟩⟩ := describes
  obtain ⟨src_ip,dst_ip,src_port,dst_port,protocol,tcp_flags⟩ := m
  dsimp only at fields first second flags
  rw [first,second,flags]
  cases fields with
  | ipv4 _ formed next starts =>
    have minimum := formed.minimum
    rw [from_ip_bytes_ipv4 (by rw [byte_append (by omega),formed.version]) (by simp; omega),
      from_ipv4_bytes_append formed ports,Protocol.from_ip_proto_eq_some.mpr next]
    rfl
  | ipv6 _ formed next =>
    have fixed := formed.length
    rw [from_ip_bytes_ipv6 (by rw [byte_append (by omega),formed.version]) (by simp; omega),
      from_ipv6_bytes_append formed ports,Protocol.from_ip_proto_eq_some.mpr next]
    rfl

/-- An IPv4 packet that is accepted, does not say that its header is short and has no
    fragment offset is a header and a segment. -/
theorem from_ipv4_bytes_describes (parsed : PacketMeta.from_ipv4_bytes data = some m) (long : 20 ≤ ihl data)
    (starts : is_non_first_fragment data = false) : Describes data m := by
  have accepted := PacketMeta.from_ipv4_bytes_accepted parsed
  have whole_header := accepted.whole
  have length : (data.take (ihl data)).length = ihl data := by
    rw [List.length_take]
    omega
  have whole : data.take (ihl data) ++ data.drop (ihl data) = data := List.take_append_drop ..
  have said : ihl (data.take (ihl data)) = ihl data := ihl_take (by omega)
  have formed : Ipv4Header (data.take (ihl data)) := by
    refine ⟨?_,by omega,by omega⟩
    rw [byte_take (by omega)]
    exact accepted.version
  have ports : 4 ≤ (data.drop (ihl data)).length := by
    rw [List.length_drop]
    omega
  rw [← whole,from_ipv4_bytes_append formed ports] at parsed
  rw [← whole,is_non_first_fragment_append formed.minimum] at starts
  obtain ⟨protocol,next,rfl⟩ := Option.map_eq_some_iff.mp parsed
  exact ⟨_,_,whole.symm,.ipv4 protocol formed (Protocol.from_ip_proto_eq_some.mp next) starts,ports,rfl,rfl,rfl⟩

/-- An IPv6 packet that is accepted is a header and a segment. -/
theorem from_ipv6_bytes_describes (parsed : PacketMeta.from_ipv6_bytes data = some m) : Describes data m := by
  have accepted := parsed
  rw [PacketMeta.from_ipv6_bytes] at accepted
  split_ifs at accepted with short version
  have length : (data.take 40).length = 40 := by
    rw [List.length_take]
    omega
  have whole : data.take 40 ++ data.drop 40 = data := List.take_append_drop ..
  have formed : Ipv6Header (data.take 40) := by
    refine ⟨?_,length⟩
    rw [byte_take (by omega)]
    exact not_not.mp version
  have ports : 4 ≤ (data.drop 40).length := by
    rw [List.length_drop]
    omega
  rw [← whole,from_ipv6_bytes_append formed ports] at parsed
  obtain ⟨protocol,next,rfl⟩ := Option.map_eq_some_iff.mp parsed
  exact ⟨_,_,whole.symm,.ipv6 protocol formed (Protocol.from_ip_proto_eq_some.mp next),ports,rfl,rfl,rfl⟩

/-- What there is of an IPv4 packet that is a header and a segment. -/
theorem Describes.ipv4 (describes : Describes data m) (version : byte data 0 >>> 4 = 4) :
    ∃ header segment, data = header ++ segment ∧ Ipv4Header header ∧ is_non_first_fragment header = false := by
  obtain ⟨header,segment,rfl,fields,_⟩ := describes
  obtain ⟨src_ip,dst_ip,_,_,protocol,_⟩ := m
  dsimp only at fields
  cases fields with
  | ipv4 _ formed next starts => exact ⟨header,segment,rfl,formed,starts⟩
  | ipv6 _ formed =>
    have fixed := formed.length
    rw [byte_append (by omega),formed.version] at version
    exact absurd version (by decide)

/-- A packet that says that its header is short is no header and segment. -/
theorem ShortHeader.not_describes (short : ShortHeader data) : ¬ Describes data m := by
  intro describes
  obtain ⟨header,segment,rfl,formed,_⟩ := describes.ipv4 short.1
  have minimum := formed.minimum
  have said := short.2
  rw [ihl_append (by omega),← formed.length] at said
  omega

/-- Behind the header of a later fragment there is no segment. -/
theorem LaterFragment.not_describes (later : LaterFragment data) : ¬ Describes data m := by
  intro describes
  obtain ⟨header,segment,rfl,formed,starts⟩ := describes.ipv4 later.1
  have offset := later.2
  rw [is_non_first_fragment_append formed.minimum,starts] at offset
  cases offset

/-- An IPv4 packet with its ports inside the buffer is accepted. -/
theorem accepted_of_ports (version : byte data 0 >>> 4 = 4) (long : 24 ≤ data.length) (whole : ihl data + 4 ≤ data.length)
    (next : byte data 9 = 6 ∨ byte data 9 = 17) : ∃ m, PacketMeta.from_ip_bytes data = some m := by
  refine Option.isSome_iff_exists.mp ?_
  rw [from_ip_bytes_ipv4 version (by omega),PacketMeta.from_ipv4_bytes,if_neg (by omega),if_neg (by simp [version]),
    if_neg (by omega)]
  rcases next with tcp | udp
  · rw [tcp]
    rfl
  · rw [udp]
    rfl

end

/-- What the parser accepts is a header and a segment behind it, with the fields
    that they have, unless it says that its IPv4 header is shorter than the fixed
    part of one, or is a later fragment. -/
theorem parsed_describes_iff (data : List UInt8) :
    (∀ m, PacketMeta.from_ip_bytes data = some m → Describes data m) ↔
      ¬ ((ShortHeader data ∨ LaterFragment data) ∧ 24 ≤ data.length ∧ ihl data + 4 ≤ data.length ∧
        (byte data 9 = 6 ∨ byte data 9 = 17)) := by
  constructor
  · rintro describes ⟨short | later,long,whole,next⟩
    · obtain ⟨m,parsed⟩ := accepted_of_ports short.1 long whole next
      exact short.not_describes (describes m parsed)
    · obtain ⟨m,parsed⟩ := accepted_of_ports later.1 long whole next
      exact later.not_describes (describes m parsed)
  · intro regular m parsed
    rw [PacketMeta.from_ip_bytes] at parsed
    split_ifs at parsed with empty version version'
    · have accepted := PacketMeta.from_ipv4_bytes_accepted parsed
      have next : byte data 9 = 6 ∨ byte data 9 = 17 := by
        rw [Protocol.from_ip_proto_eq_some.mp accepted.protocol]
        cases m.protocol <;> decide
      refine from_ipv4_bytes_describes parsed ?_ ?_
      · by_contra short
        exact regular ⟨.inl ⟨version,by omega⟩,accepted.long,accepted.whole,next⟩
      · by_contra later
        exact regular ⟨.inr ⟨version,Bool.eq_true_of_not_eq_false later⟩,accepted.long,accepted.whole,next⟩
    · exact from_ipv6_bytes_describes parsed

private def overlapping : List UInt8 :=
  [0x40,0,0,24,0,0,0x40,0,64,6,0,0,10,1,0,1,188,184,100,10,0x9c,0x40,0x01,0xbb]
private def payload : List UInt8 := [0x45,0,0,28,0,7,0,3,64,6,0,0,10,1,0,1,188,184,100,10,1,2,3,4,5,6,7,8]

/-- A packet that says that its header has no length is accepted, with ports that are
    the first bytes of the header; a later fragment is, with ports from the payload. -/
theorem headerless_accepted : (∃ m, PacketMeta.from_ip_bytes overlapping = some m ∧ ¬ Describes overlapping m) ∧
    ∃ m, PacketMeta.from_ip_bytes payload = some m ∧ ¬ Describes payload m := by
  have short : ShortHeader overlapping := ⟨by decide,by decide⟩
  have later : LaterFragment payload := ⟨by decide,by decide⟩
  obtain ⟨m,parsed⟩ := accepted_of_ports short.1 (by decide) (by decide) (.inl rfl)
  obtain ⟨m',parsed'⟩ := accepted_of_ports later.1 (by decide) (by decide) (.inl rfl)
  exact ⟨⟨m,parsed,short.not_describes⟩,m',parsed',later.not_describes⟩

end Lb.Packet
