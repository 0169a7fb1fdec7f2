import Lb.Checked
import Lb.Checksums
import Lb.Oversized

/-!
# Packets that stop a thread

The packet path as the code performs it, access by access and sum by sum, where
an access out of bounds or a sum that overflows has no result. It has the result
of the functions without checks, except for the sum that decides whether a packet
is too large.
-/
namespace Lb.Panics
open Lb.Addr Lb.Types Lb.Checked Lb.Rewriter Lb.Buffer
open Lb.Packet hiding be16 ipv4_at ihl is_fragment is_non_first_fragment
open Lb.Mtu hiding find_mss incremental_checksum_update clamp_mss should_generate_icmp generate_icmp_frag_needed
open Lb.Gre hiding encapsulate_ipv4_buf encapsulate_ipv4

/-! ### Parsing -/

/-- The indices of a packet are numbers of 64 bits. -/
def be16 (data : List UInt8) (i : Nat) : Option UInt16 := do
  let hi ← read data i
  let lo ← read data (← add 64 i 1)
  some (from_be_bytes hi lo)

def ipv4_at (data : List UInt8) (i : Nat) : Option Ipv4Addr := do
  let a ← read data i
  let b ← read data (← add 64 i 1)
  let c ← read data (← add 64 i 2)
  let d ← read data (← add 64 i 3)
  some ⟨a,b,c,d⟩

def version (data : List UInt8) : Option UInt8 := do some ((← read data 0) >>> 4)
def ihl (data : List UInt8) : Option Nat := do mul 64 ((← read data 0) &&& 0x0F).toNat 4

def is_fragment (data : List UInt8) : Option Bool :=
  if data.length < 20 then some false
  else do
    let flags_and_offset ← be16 data 6
    some (flags_and_offset &&& 0x2000 != 0 || flags_and_offset &&& 0x1FFF != 0)
def is_non_first_fragment (data : List UInt8) : Option Bool :=
  if data.length < 20 then some false
  else do
    let flags_and_offset ← be16 data 6
    some (flags_and_offset &&& 0x1FFF != 0)

def tcp_flags (data : List UInt8) (protocol : Protocol) (ihl : Nat) : Option (Option TcpFlags) := do
  if protocol = .Tcp ∧ (← add 64 ihl 14) ≤ data.length then do
    let bits ← read data (← add 64 ihl 13)
    some (some ⟨bits⟩)
  else some none

def from_ipv4_bytes (data : List UInt8) : Option (Option PacketMeta) :=
  if data.length < 24 then some none
  else do
    if (← version data) ≠ 4 then some none
    else do
      let ihl ← ihl data
      if data.length < (← add 64 ihl 4) then some none
      else do
        match Protocol.from_ip_proto (← read data 9) with
        | none => some none
        | some protocol => do
          let src_ip ← ipv4_at data 12
          let dst_ip ← ipv4_at data 16
          let src_port ← be16 data ihl
          let dst_port ← be16 data (← add 64 ihl 2)
          let tcp_flags ← tcp_flags data protocol ihl
          some (some { src_ip := .V4 src_ip, dst_ip := .V4 dst_ip, src_port, dst_port, protocol, tcp_flags })

def fragment_id (data : List UInt8) : Option (Option FragmentId) :=
  if data.length < 20 then some none
  else do
    if (← version data) ≠ 4 then some none
    else do
      let ip_id ← be16 data 4
      let src_ip ← ipv4_at data 12
      let dst_ip ← ipv4_at data 16
      some (some { src_ip := .V4 src_ip, dst_ip := .V4 dst_ip, ip_id })

section
variable {data : List UInt8} {i : Nat}

theorem read_byte (inside : i < data.length) : read data i = some (byte data i) := read_eq 0 inside

theorem be16_eq (inside : i + 1 < data.length) (bounded : data.length ≤ PACKET_BUF_SIZE) :
    be16 data i = some (Packet.be16 data i) := by
  have size : PACKET_BUF_SIZE = 2048 := rfl
  rw [be16,add_eq (by omega),read_byte (by omega)]
  simp only [Option.bind_eq_bind,Option.bind_some]
  rw [read_byte inside]
  rfl

theorem ipv4_at_eq (inside : i + 3 < data.length) (bounded : data.length ≤ PACKET_BUF_SIZE) :
    ipv4_at data i = some (Packet.ipv4_at data i) := by
  have size : PACKET_BUF_SIZE = 2048 := rfl
  simp (disch := omega) only [ipv4_at,add_eq,read_byte,Option.bind_eq_bind,Option.bind_some]
  rfl

theorem version_eq (some_byte : 0 < data.length) : version data = some (byte data 0 >>> 4) := by
  rw [version,read_byte some_byte]
  rfl

theorem ihl_le (data : List UInt8) : Packet.ihl data ≤ 60 := by
  have low : (byte data 0 &&& 0x0F).toNat ≤ 15 := by
    rw [UInt8.toNat_and]
    exact Nat.and_le_right
  rw [Packet.ihl]
  omega

theorem ihl_eq (some_byte : 0 < data.length) : ihl data = some (Packet.ihl data) := by
  have low := ihl_le data
  rw [Packet.ihl] at low
  rw [ihl,read_byte some_byte]
  simp only [Option.bind_eq_bind,Option.bind_some]
  rw [mul_eq (by omega)]
  rfl

theorem is_fragment_eq (bounded : data.length ≤ PACKET_BUF_SIZE) : is_fragment data = some (Packet.is_fragment data) := by
  unfold is_fragment Packet.is_fragment
  split_ifs with short
  · rfl
  · rw [be16_eq (by omega) bounded]
    rfl

theorem is_non_first_fragment_eq (bounded : data.length ≤ PACKET_BUF_SIZE) :
    is_non_first_fragment data = some (Packet.is_non_first_fragment data) := by
  unfold is_non_first_fragment Packet.is_non_first_fragment
  split_ifs with short
  · rfl
  · rw [be16_eq (by omega) bounded]
    rfl

theorem tcp_flags_eq {protocol : Protocol} {ihl : Nat} (small : ihl ≤ 60) :
    tcp_flags data protocol ihl =
      some (if protocol = .Tcp ∧ ihl + 14 ≤ data.length then some ⟨byte data (ihl + 13)⟩ else none) := by
  rw [tcp_flags,add_eq (by omega),add_eq (by omega)]
  simp only [Option.bind_eq_bind,Option.bind_some]
  split_ifs with present
  · rw [read_byte (by omega)]
    rfl
  · rfl

theorem from_ipv4_bytes_eq (bounded : data.length ≤ PACKET_BUF_SIZE) :
    from_ipv4_bytes data = some (PacketMeta.from_ipv4_bytes data) := by
  unfold from_ipv4_bytes PacketMeta.from_ipv4_bytes
  by_cases short : data.length < 24
  · rw [if_pos short,if_pos short]
  · have small := ihl_le data
    rw [if_neg short,if_neg short,version_eq (by omega),ihl_eq (by omega)]
    simp only [Option.bind_eq_bind,Option.bind_some]
    split_ifs with other header
    · rfl
    · rw [add_eq (by omega),Option.bind_some,if_pos header]
    · rw [add_eq (by omega),Option.bind_some,if_neg header,read_byte (by omega),Option.bind_some]
      cases Protocol.from_ip_proto (byte data 9) with
      | none => rfl
      | some protocol =>
        dsimp only
        rw [ipv4_at_eq (by omega) bounded,ipv4_at_eq (by omega) bounded,be16_eq (by omega) bounded,
          add_eq (by omega),Option.bind_some,Option.bind_some,Option.bind_some,Option.bind_some,
          be16_eq (by omega) bounded,tcp_flags_eq small]
        rfl

theorem fragment_id_eq (bounded : data.length ≤ PACKET_BUF_SIZE) :
    fragment_id data = some (FragmentId.from_ipv4_bytes data) := by
  unfold fragment_id FragmentId.from_ipv4_bytes
  by_cases short : data.length < 20
  · rw [if_pos short,if_pos short]
  · rw [if_neg short,if_neg short,version_eq (by omega)]
    simp only [Option.bind_eq_bind,Option.bind_some]
    split_ifs with other
    · rfl
    · rw [be16_eq (by omega) bounded,ipv4_at_eq (by omega) bounded,ipv4_at_eq (by omega) bounded]
      rfl

end

/-! ### The maximum segment size -/

def find_mss (data : List UInt8) (options_end : Nat) : Nat → Nat → Option (Option Nat)
  | 0, _ => some none
  | fuel + 1, offset =>
    if options_end ≤ offset then some none
    else do
      let kind ← read data offset
      if kind = 0 then some none
      else if kind = 1 then do find_mss data options_end fuel (← add 64 offset 1)
      else do
        if options_end ≤ (← add 64 offset 1) then some none
        else do
          let length := (← read data (← add 64 offset 1)).toNat
          if length < 2 then some none
          else if kind = 2 ∧ length = 4 then do
            if options_end < (← add 64 offset 4) then some none else some (some offset)
          else do find_mss data options_end fuel (← add 64 offset length)

def put16 (data : List UInt8) (i : Nat) (v : UInt16) : Option (List UInt8) := do
  let data ← write data i (v >>> 8).toUInt8
  write data (← add 64 i 1) v.toUInt8

def fold_carry : Nat → Nat → Option Nat
  | 0, sum => some sum
  | fuel + 1, sum =>
    if 0xFFFF < sum then do fold_carry fuel (← add 32 (sum % 0x10000) (sum / 0x10000)) else some sum

def incremental_checksum_update (data : List UInt8) (checksum_offset : Nat) (old new : UInt16) :
    Option (List UInt8) := do
  let old_checksum ← be16 data checksum_offset
  let sum ← add 32 (~~~old_checksum).toNat (~~~old).toNat
  let sum ← add 32 sum new.toNat
  let sum ← fold_carry 2 sum
  put16 data checksum_offset (~~~(UInt16.ofNat sum))

def clamp_mss (data : List UInt8) (max_mss : UInt16) : Option (List UInt8 × ClampResult) :=
  if data.length < 40 then some (data,.NotTcp)
  else do
    if (← version data) ≠ 4 then some (data,.NotTcp)
    else do
      if (← read data 9) ≠ 6 then some (data,.NotTcp)
      else do
        let ihl ← ihl data
        if data.length < (← add 64 ihl 20) then some (data,.NotTcp)
        else do
          if (← read data (← add 64 ihl 13)) &&& 0x02 = 0 then some (data,.NotSyn)
          else do
            let data_offset ← mul 64 ((← read data (← add 64 ihl 12)) >>> 4).toNat 4
            let options_end ← add 64 ihl data_offset
            if data_offset < 20 ∨ data.length < options_end then some (data,.MssMissing)
            else do
              match ← find_mss data options_end data_offset (← add 64 ihl 20) with
              | none => some (data,.MssMissing)
              | some offset => do
                let current_mss ← be16 data (← add 64 offset 2)
                if max_mss < current_mss then do
                  let data ← put16 data (← add 64 offset 2) max_mss
                  let data ← incremental_checksum_update data (← add 64 ihl 16) current_mss max_mss
                  some (data,.Clamped)
                else some (data,.Noop)

section
variable {data : List UInt8}

theorem find_mss_eq {options_end : Nat} (inside : options_end ≤ data.length) (bounded : data.length ≤ PACKET_BUF_SIZE)
    (fuel offset : Nat) : find_mss data options_end fuel offset = some (Mtu.find_mss data options_end fuel offset) := by
  have size : PACKET_BUF_SIZE = 2048 := rfl
  induction fuel generalizing offset with
  | zero => rfl
  | succ fuel ih =>
    rw [find_mss,Mtu.find_mss]
    by_cases at_end : options_end ≤ offset
    · rw [if_pos at_end,if_pos at_end]
    · have step_fits : ∀ length, length < 2 ^ 8 → add 64 offset length = some (offset + length) :=
        fun length small => add_eq (by omega)
      rw [if_neg at_end,if_neg at_end,read_byte (by omega)]
      simp only [Option.bind_eq_bind,Option.bind_some,step_fits 1 (by omega),step_fits 4 (by omega),ih]
      by_cases last : options_end ≤ offset + 1
      · simp only [last,if_true]
        split_ifs <;> rfl
      · simp only [last,if_false,read_byte (show offset + 1 < data.length by omega),Option.bind_some,
          step_fits _ (UInt8.toNat_lt _)]
        split_ifs <;> rfl

theorem put16_eq {i : Nat} (v : UInt16) (inside : i + 1 < data.length) (bounded : data.length ≤ PACKET_BUF_SIZE) :
    put16 data i v = some (Mtu.put16 data i v) := by
  have size : PACKET_BUF_SIZE = 2048 := rfl
  rw [put16,write_eq _ (by omega),add_eq (by omega)]
  simp only [Option.bind_eq_bind,Option.bind_some]
  rw [write_eq _ (by simpa using inside)]
  rfl

theorem fold_carry_eq {fuel sum : Nat} (word : sum < 2 ^ 32) :
    fold_carry fuel sum = some (Buffer.fold_carry fuel sum) := by
  induction fuel generalizing sum with
  | zero => rfl
  | succ fuel ih =>
    rw [fold_carry,Buffer.fold_carry]
    split_ifs with large
    · rw [add_eq (by omega)]
      exact ih (by omega)
    · rfl

theorem incremental_checksum_update_eq {checksum_offset : Nat} (old new : UInt16)
    (inside : checksum_offset + 1 < data.length) (bounded : data.length ≤ PACKET_BUF_SIZE) :
    incremental_checksum_update data checksum_offset old new =
      some (Mtu.incremental_checksum_update data checksum_offset old new) := by
  have first := (~~~Packet.be16 data checksum_offset).toNat_lt
  have second := (~~~old).toNat_lt
  have third := new.toNat_lt
  rw [incremental_checksum_update,be16_eq inside bounded]
  simp only [Option.bind_eq_bind,Option.bind_some]
  rw [add_eq (by omega),Option.bind_some,add_eq (by omega),Option.bind_some,fold_carry_eq (by omega),Option.bind_some,
    put16_eq _ inside bounded]
  rfl

theorem clamp_mss_eq (max_mss : UInt16) (bounded : data.length ≤ PACKET_BUF_SIZE) :
    clamp_mss data max_mss = some (Mtu.clamp_mss data max_mss) := by
  have size : PACKET_BUF_SIZE = 2048 := rfl
  have small := ihl_le data
  unfold clamp_mss Mtu.clamp_mss
  by_cases short : data.length < 40
  · rw [if_pos short,if_pos short]
  have sum : ∀ k, k ≤ 60 → add 64 (Packet.ihl data) k = some (Packet.ihl data + k) := fun k _ => add_eq (by omega)
  rw [if_neg short,if_neg short,version_eq (by omega),ihl_eq (by omega),read_byte (by omega)]
  simp only [Option.bind_eq_bind,Option.bind_some,sum 20 (by omega),sum 13 (by omega),sum 12 (by omega),
    sum 16 (by omega)]
  by_cases other : byte data 0 >>> 4 ≠ 4
  · rw [if_pos other,if_pos other]
  rw [if_neg other,if_neg other]
  by_cases not_tcp : byte data 9 ≠ 6
  · rw [if_pos not_tcp,if_pos not_tcp]
  rw [if_neg not_tcp,if_neg not_tcp]
  by_cases header : data.length < Packet.ihl data + 20
  · rw [if_pos header,if_pos header]
  rw [if_neg header,if_neg header,read_byte (show Packet.ihl data + 13 < data.length by omega),Option.bind_some]
  by_cases not_syn : byte data (Packet.ihl data + 13) &&& 0x02 = 0
  · rw [if_pos not_syn,if_pos not_syn]
  have words := UInt8.toNat_lt (byte data (Packet.ihl data + 12) >>> 4)
  have nibble : (byte data (Packet.ihl data + 12) >>> 4).toNat ≤ 15 := by
    have eight := UInt8.toNat_lt (byte data (Packet.ihl data + 12))
    rw [UInt8.toNat_shiftRight,Nat.shiftRight_eq_div_pow]
    simp
    omega
  rw [if_neg not_syn,if_neg not_syn,read_byte (show Packet.ihl data + 12 < data.length by omega),Option.bind_some,
    mul_eq (by omega),Option.bind_some,sum _ (by omega),Option.bind_some]
  by_cases missing : (byte data (Packet.ihl data + 12) >>> 4).toNat * 4 < 20 ∨
      data.length < Packet.ihl data + (byte data (Packet.ihl data + 12) >>> 4).toNat * 4
  · rw [if_pos missing,if_pos missing]
  rw [if_neg missing,if_neg missing,find_mss_eq (by omega) bounded,Option.bind_some]
  cases found : Mtu.find_mss data (Packet.ihl data + (byte data (Packet.ihl data + 12) >>> 4).toNat * 4)
      ((byte data (Packet.ihl data + 12) >>> 4).toNat * 4) (Packet.ihl data + 20) with
  | none => rfl
  | some offset =>
    obtain ⟨first,last⟩ := find_mss_inside found
    dsimp only
    rw [add_eq (by omega),Option.bind_some,be16_eq (by omega) bounded,Option.bind_some]
    by_cases above : max_mss < Packet.be16 data (offset + 2)
    · rw [if_pos above,if_pos above,Option.bind_some,put16_eq _ (by omega) bounded,Option.bind_some,
        incremental_checksum_update_eq _ _ (by simp; omega) (by simpa using bounded)]
      rfl
    · rw [if_neg above,if_neg above]

end

/-! ### Checksums -/

/-- The loop over the words from `i` on, and the odd byte after it. -/
def sum_words (data : List UInt8) : Nat → Nat → Nat → Option Nat
  | 0, _, sum => some sum
  | fuel + 1, i, sum => do
    let last ← sub data.length 1
    if i < last then do
      let word ← be16 data i
      let sum ← add 32 sum word.toNat
      sum_words data fuel (← add 64 i 2) sum
    else if data.length % 2 ≠ 0 then do add 32 sum ((← read data last).toNat * 256)
    else some sum

def ip_checksum (data : List UInt8) : Option UInt16 := do
  let sum ← sum_words data data.length 0 0
  let sum ← fold_carry 2 sum
  some (~~~(UInt16.ofNat sum))

theorem drop_byte {data : List UInt8} {i : Nat} (inside : i < data.length) :
    data.drop i = byte data i :: data.drop (i + 1) := by
  rw [List.drop_eq_getElem_cons inside,byte,List.getD_eq_getElem?_getD,List.getElem?_eq_getElem inside,Option.getD_some]

theorem sum_words_eq {data : List UInt8} (some_byte : 0 < data.length) (bounded : data.length ≤ PACKET_BUF_SIZE)
    (fuel i sum : Nat) (even : i % 2 = 0) (inside : i ≤ data.length) (enough : data.length ≤ 2 * fuel + i)
    (word : sum + 65535 * (data.length - i) < 2 ^ 32) :
    sum_words data fuel i sum = some (sum + Buffer.sum_words (data.drop i)) := by
  have size : PACKET_BUF_SIZE = 2048 := rfl
  induction fuel generalizing i sum with
  | zero =>
    rw [sum_words,List.drop_of_length_le (by omega)]
    rfl
  | succ fuel ih =>
    rw [sum_words,sub_eq (by omega)]
    simp only [Option.bind_eq_bind,Option.bind_some]
    by_cases more : i < data.length - 1
    · have value := (Packet.be16 data i).toNat_lt
      rw [if_pos more,be16_eq (by omega) bounded,Option.bind_some,add_eq (by omega),Option.bind_some,
        add_eq (by omega),Option.bind_some,ih (i + 2) _ (by omega) (by omega) (by omega) (by omega),
        drop_byte (show i < data.length by omega),drop_byte (show i + 1 < data.length by omega),Buffer.sum_words,
        Packet.be16,Nat.add_assoc]
    · rw [if_neg more]
      by_cases odd : data.length % 2 ≠ 0
      · have last : data.length - 1 = i := by omega
        have value := (byte data i).toNat_lt
        rw [if_pos odd,last,read_byte (by omega),Option.bind_some,add_eq (by omega),drop_byte (by omega),
          List.drop_of_length_le (by omega)]
        rfl
      · rw [if_neg odd,List.drop_of_length_le (by omega)]
        rfl

theorem ip_checksum_eq {data : List UInt8} (some_byte : 0 < data.length) (bounded : data.length ≤ PACKET_BUF_SIZE) :
    ip_checksum data = some (Buffer.ip_checksum data) := by
  have size : PACKET_BUF_SIZE = 2048 := rfl
  have word := Buffer.sum_words_le data
  rw [ip_checksum,sum_words_eq some_byte bounded _ 0 0 rfl (by omega) (by omega) (by omega)]
  simp only [Option.bind_eq_bind,Option.bind_some,List.drop_zero,Nat.zero_add]
  rw [fold_carry_eq (by omega)]
  rfl

/-! ### Too large for the tunnel -/

def should_generate_icmp (data : List UInt8) (network_mtu : UInt16) : Option Bool :=
  if data.length < 20 then some false
  else do
    if (← version data) ≠ 4 then some false
    else do
      let total_len ← be16 data 2
      let flags_frag ← be16 data 6
      if flags_frag &&& DF_FLAG ≠ 0 then do
        let sum ← add 16 total_len.toNat GRE_OVERHEAD.toNat
        some (decide (network_mtu.toNat < sum))
      else some false

/-- The first eight bytes of the ICMP message, before its checksum. -/
def write_icmp_header (icmp : List UInt8) (effective_inner_mtu : UInt16) : Option (List UInt8) := do
  let icmp ← write icmp 0 ICMP_TYPE_DEST_UNREACH
  let icmp ← write icmp 1 ICMP_CODE_FRAG_NEEDED
  let icmp ← copy_from_slice icmp 2 4 [0,0]
  let icmp ← write icmp 4 0
  let icmp ← write icmp 5 0
  copy_from_slice icmp 6 8 (to_be_bytes effective_inner_mtu)

/-- The IPv4 header of the ICMP message, before its checksum. -/
def write_ip_header (buf : List UInt8) (total_len : Nat) (vip dst_ip : Ipv4Addr) : Option (List UInt8) := do
  let buf ← write buf 0 0x45
  let buf ← write buf 1 0xC0
  let buf ← copy_from_slice buf 2 4 (to_be_bytes (UInt16.ofNat total_len))
  let buf ← copy_from_slice buf 4 6 [0,0]
  let buf ← copy_from_slice buf 6 8 [0,0]
  let buf ← write buf 8 64
  let buf ← write buf 9 1
  let buf ← copy_from_slice buf 10 12 [0,0]
  let buf ← copy_from_slice buf 12 16 vip.octets
  copy_from_slice buf 16 20 dst_ip.octets

def write_icmp_headers (buf : List UInt8) (total_len : Nat) (vip dst_ip : Ipv4Addr) (effective_inner_mtu : UInt16) :
    Option (List UInt8) := do
  let buf ← write_ip_header buf total_len vip dst_ip
  let ip_cksum ← ip_checksum (← slice buf 0 20)
  let buf ← copy_from_slice buf 10 12 (to_be_bytes ip_cksum)
  let icmp ← write_icmp_header (← slice buf 20 28) effective_inner_mtu
  copy_from_slice buf 20 28 icmp

def sender (original : List UInt8) : Option Ipv4Addr :=
  if 16 ≤ original.length then ipv4_at original 12 else some .UNSPECIFIED

/-- The message is written into the front of a new buffer. -/
def generate_icmp_frag_needed (original : List UInt8) (vip : Ipv4Addr) (effective_inner_mtu : UInt16) :
    Option PacketBuf := do
  let payload_len := min original.length 28
  let total_len ← add 64 28 payload_len
  let buf ← slice PacketBuf.new.data 0 total_len
  let dst_ip ← sender original
  let buf ← write_icmp_headers buf total_len vip dst_ip effective_inner_mtu
  let buf ← copy_from_slice buf 28 (← add 64 28 payload_len) (← slice original 0 payload_len)
  let icmp_cksum ← ip_checksum (← slice buf 20 total_len)
  let buf ← copy_from_slice buf 22 24 (to_be_bytes icmp_cksum)
  some (.from_slice buf)

section
variable {data : List UInt8} {vip dst_ip : Ipv4Addr} {effective_inner_mtu : UInt16}

/-- The sum of the total length and the overhead is all that can go wrong. -/
theorem should_generate_icmp_eq (network_mtu : UInt16) (bounded : data.length ≤ PACKET_BUF_SIZE)
    (long : 20 ≤ data.length) (ipv4 : byte data 0 >>> 4 = 4) :
    should_generate_icmp data network_mtu =
      if DontFragment data ∧ 2 ^ 16 ≤ (Packet.be16 data 2).toNat + GRE_OVERHEAD.toNat then none
      else some (Mtu.should_generate_icmp data network_mtu) := by
  have not_short : ¬ data.length < 20 := by omega
  rw [should_generate_icmp,Mtu.should_generate_icmp,if_neg not_short,if_neg not_short,version_eq (by omega),
    be16_eq (by omega) bounded,be16_eq (by omega) bounded]
  simp only [Option.bind_eq_bind,Option.bind_some]
  rw [if_neg (not_not.mpr ipv4),if_neg (not_not.mpr ipv4)]
  by_cases flagged : Packet.be16 data 6 &&& DF_FLAG ≠ 0
  · have set : (Packet.be16 data 6 &&& DF_FLAG != 0) = true := by simpa using flagged
    by_cases overflows : 2 ^ 16 ≤ (Packet.be16 data 2).toNat + GRE_OVERHEAD.toNat
    · have both : DontFragment data ∧ 2 ^ 16 ≤ (Packet.be16 data 2).toNat + GRE_OVERHEAD.toNat := ⟨flagged,overflows⟩
      rw [if_pos flagged,if_pos both,add_overflow overflows]
      rfl
    · have fits : ¬ (DontFragment data ∧ 2 ^ 16 ≤ (Packet.be16 data 2).toNat + GRE_OVERHEAD.toNat) :=
        fun both => overflows both.2
      rw [if_pos flagged,if_neg fits,add_eq (by omega),Option.bind_some,set,Bool.true_and]
      refine congrArg some (decide_eq_decide.mpr ?_)
      rw [UInt16.lt_iff_toNat_lt,UInt16.toNat_add,Nat.mod_eq_of_lt (by omega)]
  · have unset : (Packet.be16 data 6 &&& DF_FLAG != 0) = false := by simpa using flagged
    have may : ¬ (DontFragment data ∧ 2 ^ 16 ≤ (Packet.be16 data 2).toNat + GRE_OVERHEAD.toNat) :=
      fun both => flagged both.1
    rw [if_neg flagged,if_neg may,unset,Bool.false_and]

theorem write_ip_header_eq (n : Nat) (rest : List UInt8) :
    write_ip_header (List.replicate 20 0 ++ rest) n vip dst_ip =
      some (icmp_ip_header (UInt16.ofNat n) 0 vip dst_ip ++ rest) := by
  simp [write_ip_header,write,copy_from_slice,icmp_ip_header,to_be_bytes,Ipv4Addr.octets,List.replicate_succ]

theorem write_icmp_header_eq :
    write_icmp_header (List.replicate 8 0) effective_inner_mtu = some (icmp_message 0 effective_inner_mtu []) := by
  simp [write_icmp_header,write,copy_from_slice,icmp_message,to_be_bytes,List.replicate_succ]

theorem write_icmp_headers_eq (n : Nat) (tail : List UInt8) :
    write_icmp_headers (List.replicate 20 0 ++ List.replicate 8 0 ++ tail) n vip dst_ip effective_inner_mtu =
      some (icmp_ip_header (UInt16.ofNat n) (Buffer.ip_checksum (icmp_ip_header (UInt16.ofNat n) 0 vip dst_ip)) vip dst_ip ++
        icmp_message 0 effective_inner_mtu [] ++ tail) := by
  have read_header : ∀ rest, slice (icmp_ip_header (UInt16.ofNat n) 0 vip dst_ip ++ rest) 0 20 =
      some (icmp_ip_header (UInt16.ofNat n) 0 vip dst_ip) := fun rest => slice_middle [] _ rest rfl rfl
  have write_checksum : ∀ checksum rest,
      copy_from_slice (icmp_ip_header (UInt16.ofNat n) 0 vip dst_ip ++ rest) 10 12 (to_be_bytes checksum) =
        some (icmp_ip_header (UInt16.ofNat n) checksum vip dst_ip ++ rest) := by
    simp [copy_from_slice,icmp_ip_header,to_be_bytes,Ipv4Addr.octets]
  have read_icmp : ∀ checksum, slice (icmp_ip_header (UInt16.ofNat n) checksum vip dst_ip ++ List.replicate 8 0 ++ tail)
      20 28 = some (List.replicate 8 0) := fun _ => slice_middle _ _ tail rfl rfl
  have write_icmp : ∀ checksum, copy_from_slice (icmp_ip_header (UInt16.ofNat n) checksum vip dst_ip ++
      List.replicate 8 0 ++ tail) 20 28 (icmp_message 0 effective_inner_mtu []) =
        some (icmp_ip_header (UInt16.ofNat n) checksum vip dst_ip ++ icmp_message 0 effective_inner_mtu [] ++ tail) :=
    fun _ => copy_middle _ _ tail rfl rfl rfl
  have checksum : ip_checksum (icmp_ip_header (UInt16.ofNat n) 0 vip dst_ip) =
      some (Buffer.ip_checksum (icmp_ip_header (UInt16.ofNat n) 0 vip dst_ip)) :=
    ip_checksum_eq (show 0 < 20 by decide) (show 20 ≤ PACKET_BUF_SIZE by decide)
  simp only [write_icmp_headers,Option.bind_eq_bind]
  rw [List.append_assoc,write_ip_header_eq,Option.bind_some,read_header,Option.bind_some,checksum,Option.bind_some,
    write_checksum,Option.bind_some,← List.append_assoc,read_icmp,Option.bind_some,
    write_icmp_header_eq,Option.bind_some,write_icmp]

theorem generate_icmp_frag_needed_eq (bounded : data.length ≤ PACKET_BUF_SIZE) :
    generate_icmp_frag_needed data vip effective_inner_mtu =
      some (Mtu.generate_icmp_frag_needed data vip effective_inner_mtu) := by
  have size : PACKET_BUF_SIZE = 2048 := rfl
  obtain ⟨n,payload⟩ : ∃ n, min data.length 28 = n := ⟨_,rfl⟩
  have length : (data.take 28).length = n := by rw [List.length_take,Nat.min_comm,payload]
  have zeroes : slice PacketBuf.new.data 0 (28 + n) =
      some (List.replicate 20 0 ++ List.replicate 8 0 ++ List.replicate n 0) := by
    rw [slice_eq (by omega) (by rw [PacketBuf.new.sized]; omega),List.drop_zero]
    simp only [PacketBuf.new,List.take_replicate,List.replicate_append_replicate]
    congr 2
    omega
  have source : slice data 0 n = some (data.take 28) := by
    rw [slice_eq (by omega) (by omega),List.drop_zero,← payload,Nat.min_comm,← List.take_take,List.take_length]
  have sender : sender data = some (if 16 ≤ data.length then Packet.ipv4_at data 12 else .UNSPECIFIED) := by
    unfold sender
    split_ifs
    · exact ipv4_at_eq (by omega) bounded
    · rfl
  rw [generate_icmp_frag_needed,Mtu.generate_icmp_frag_needed]
  simp only [Option.bind_eq_bind,payload,length]
  generalize hip : (if 16 ≤ data.length then Packet.ipv4_at data 12 else .UNSPECIFIED) = dst_ip at sender
  have total : 20 + 8 + n = 28 + n := rfl
  rw [total]
  let header (checksum : UInt16) := icmp_ip_header (UInt16.ofNat (28 + n)) checksum vip dst_ip
  let message (checksum : UInt16) := icmp_message checksum effective_inner_mtu (data.take 28)
  have write_payload : ∀ checksum, copy_from_slice (header checksum ++ icmp_message 0 effective_inner_mtu [] ++
      List.replicate n 0) 28 (28 + n) (data.take 28) = some (header checksum ++ message 0) := by
    intro checksum
    have written : copy_from_slice (header checksum ++ icmp_message 0 effective_inner_mtu [] ++ List.replicate n 0 ++ [])
        28 (28 + n) (data.take 28) =
          some (header checksum ++ icmp_message 0 effective_inner_mtu [] ++ data.take 28 ++ []) :=
      copy_middle _ _ [] rfl (by rw [List.length_replicate]) (by rw [length,List.length_replicate])
    rw [List.append_nil,List.append_nil] at written
    rw [written]
    simp [message,icmp_message]
  have message_length : ∀ checksum, (message checksum).length = 8 + n := by
    intro checksum
    simp only [message,icmp_message,List.length_append,length]
    rfl
  have read_message : ∀ checksum, slice (header checksum ++ message 0) 20 (28 + n) = some (message 0) := by
    intro checksum
    have found : slice (header checksum ++ message 0 ++ []) 20 (28 + n) = some (message 0) :=
      slice_middle _ _ [] rfl (by rw [message_length]; omega)
    rwa [List.append_nil] at found
  have write_checksum : ∀ checksum icmp_cksum, copy_from_slice (header checksum ++ message 0) 22 24
      (to_be_bytes icmp_cksum) = some (header checksum ++ message icmp_cksum) := by
    intro checksum icmp_cksum
    have written : copy_from_slice (header checksum ++ [ICMP_TYPE_DEST_UNREACH,ICMP_CODE_FRAG_NEEDED] ++ [0,0] ++
        ([0,0] ++ to_be_bytes effective_inner_mtu ++ data.take 28)) 22 24 (to_be_bytes icmp_cksum) = some (header checksum ++
        [ICMP_TYPE_DEST_UNREACH,ICMP_CODE_FRAG_NEEDED] ++ to_be_bytes icmp_cksum ++
        ([0,0] ++ to_be_bytes effective_inner_mtu ++ data.take 28)) := copy_middle _ _ _ rfl rfl rfl
    simpa [message,icmp_message,to_be_bytes] using written
  have summed : ip_checksum (message 0) = some (Buffer.ip_checksum (message 0)) :=
    ip_checksum_eq (by rw [message_length]; omega) (by rw [message_length]; omega)
  rw [add_eq (by omega),Option.bind_some,zeroes,Option.bind_some,sender,Option.bind_some,write_icmp_headers_eq,
    Option.bind_some,Option.bind_some,source,Option.bind_some,write_payload,Option.bind_some,read_message,
    Option.bind_some,summed,Option.bind_some,write_checksum]
  rfl

end

/-! ### Encapsulation -/

/-- The outer IPv4 header, before its checksum. -/
def write_outer_header (outer : List UInt8) (total_len : UInt16) (src_ip dst_ip : Ipv4Addr) : Option (List UInt8) := do
  let outer ← write outer 0 0x45
  let outer ← write outer 1 0x00
  let outer ← copy_from_slice outer 2 4 (to_be_bytes total_len)
  let outer ← copy_from_slice outer 4 6 [0,0]
  let outer ← copy_from_slice outer 6 8 [0x40,0x00]
  let outer ← write outer 8 64
  let outer ← write outer 9 47
  let outer ← copy_from_slice outer 10 12 [0,0]
  let outer ← copy_from_slice outer 12 16 src_ip.octets
  copy_from_slice outer 16 20 dst_ip.octets

def write_gre_header (gre : List UInt8) (inner_proto : UInt16) : Option (List UInt8) := do
  let gre ← write gre 0 0x00
  let gre ← write gre 1 0x00
  copy_from_slice gre 2 4 (to_be_bytes inner_proto)

def write_headers (data : List UInt8) (total_len inner_proto : UInt16) (src_ip dst_ip : Ipv4Addr) :
    Option (List UInt8) := do
  let outer ← write_outer_header (← slice data 0 OUTER_IP_HEADER_SIZE) total_len src_ip dst_ip
  let data ← copy_from_slice data 0 OUTER_IP_HEADER_SIZE outer
  let checksum ← ip_checksum (← slice data 0 OUTER_IP_HEADER_SIZE)
  let data ← copy_from_slice data 10 12 (to_be_bytes checksum)
  let gre ← write_gre_header (← slice data OUTER_IP_HEADER_SIZE (OUTER_IP_HEADER_SIZE + GRE_HEADER_SIZE)) inner_proto
  copy_from_slice data OUTER_IP_HEADER_SIZE (OUTER_IP_HEADER_SIZE + GRE_HEADER_SIZE) gre

/-- The GRE protocol type of the inner packet. -/
def inner_proto (data : List UInt8) (inner_len : Nat) : Option UInt16 :=
  if 0 < inner_len then do some (if (← version data) = 6 then GRE_PROTO_IPV6 else GRE_PROTO_IPV4)
  else some GRE_PROTO_IPV4

def encapsulate_ipv4_buf (data : List UInt8) (inner_len : Nat) (src_ip dst_ip : Ipv4Addr) :
    Option (Option (List UInt8 × Nat)) := do
  let new_len ← add 64 inner_len ENCAP_OVERHEAD
  if data.length < new_len then some none
  else do
    let inner_proto ← inner_proto data inner_len
    let data ← copy_within data inner_len ENCAP_OVERHEAD
    let data ← write_headers data (UInt16.ofNat new_len) inner_proto src_ip dst_ip
    some (some (data,new_len))

section
variable {data : List UInt8} {src_ip dst_ip : Ipv4Addr}

theorem write_outer_header_eq (total_len : UInt16) : ∀ outer : List UInt8, outer.length = 20 →
    write_outer_header outer total_len src_ip dst_ip = some (outer_header total_len 0 src_ip dst_ip)
  | [_,_,_,_,_,_,_,_,_,_,_,_,_,_,_,_,_,_,_,_], _ => by
    simp [write_outer_header,write,copy_from_slice,outer_header,to_be_bytes,Ipv4Addr.octets]

theorem write_gre_header_eq (inner_proto : UInt16) : ∀ gre : List UInt8, gre.length = 4 →
    write_gre_header gre inner_proto = some (gre_header inner_proto)
  | [_,_,_,_], _ => by simp [write_gre_header,write,copy_from_slice,gre_header,to_be_bytes]

theorem write_outer_checksum (total_len checksum : UInt16) (rest : List UInt8) :
    copy_from_slice (outer_header total_len 0 src_ip dst_ip ++ rest) 10 12 (to_be_bytes checksum) =
      some (outer_header total_len checksum src_ip dst_ip ++ rest) := by
  simp [copy_from_slice,outer_header,to_be_bytes,Ipv4Addr.octets]

theorem write_headers_eq (total_len inner_proto : UInt16) {outer gre rest : List UInt8} (outer_size : outer.length = 20)
    (gre_size : gre.length = 4) :
    write_headers (outer ++ gre ++ rest) total_len inner_proto src_ip dst_ip =
      some (outer_header total_len (Buffer.ip_checksum (outer_header total_len 0 src_ip dst_ip)) src_ip dst_ip ++
        gre_header inner_proto ++ rest) := by
  have read_front : ∀ front : List UInt8, front.length = 20 →
      slice (front ++ gre ++ rest) 0 OUTER_IP_HEADER_SIZE = some front := by
    intro front size
    rw [List.append_assoc]
    exact slice_middle [] front (gre ++ rest) rfl (by rw [size]; rfl)
  have write_front : ∀ src : List UInt8, src.length = 20 →
      copy_from_slice (outer ++ gre ++ rest) 0 OUTER_IP_HEADER_SIZE src = some (src ++ gre ++ rest) := by
    intro src size
    rw [List.append_assoc,List.append_assoc]
    exact copy_middle [] outer (gre ++ rest) rfl (by rw [outer_size]; rfl) (by rw [outer_size,size])
  have header_size : ∀ checksum, (outer_header total_len checksum src_ip dst_ip).length = 20 := fun _ => rfl
  have read_gre : ∀ checksum, slice (outer_header total_len checksum src_ip dst_ip ++ gre ++ rest) OUTER_IP_HEADER_SIZE
      (OUTER_IP_HEADER_SIZE + GRE_HEADER_SIZE) = some gre :=
    fun checksum => slice_middle _ gre rest rfl (by rw [gre_size]; rfl)
  have write_gre : ∀ checksum, copy_from_slice (outer_header total_len checksum src_ip dst_ip ++ gre ++ rest)
      OUTER_IP_HEADER_SIZE (OUTER_IP_HEADER_SIZE + GRE_HEADER_SIZE) (gre_header inner_proto) =
        some (outer_header total_len checksum src_ip dst_ip ++ gre_header inner_proto ++ rest) :=
    fun checksum => copy_middle _ gre rest rfl (by rw [gre_size]; rfl) (by rw [gre_size]; rfl)
  simp only [write_headers,Option.bind_eq_bind]
  rw [read_front outer outer_size,Option.bind_some,write_outer_header_eq _ outer outer_size,Option.bind_some,
    write_front _ (header_size 0),Option.bind_some,read_front _ (header_size 0),Option.bind_some,
    ip_checksum_eq (by rw [header_size]; decide) (by rw [header_size]; decide),Option.bind_some,List.append_assoc,
    write_outer_checksum,Option.bind_some,← List.append_assoc,read_gre,Option.bind_some,
    write_gre_header_eq _ gre gre_size,Option.bind_some,write_gre]

theorem encapsulate_ipv4_buf_eq {inner_len : Nat} (small : inner_len + ENCAP_OVERHEAD < 2 ^ 64) :
    encapsulate_ipv4_buf data inner_len src_ip dst_ip = some (Gre.encapsulate_ipv4_buf data inner_len src_ip dst_ip) := by
  have overhead : ENCAP_OVERHEAD = 24 := rfl
  unfold encapsulate_ipv4_buf Gre.encapsulate_ipv4_buf
  rw [add_eq small]
  simp only [Option.bind_eq_bind,Option.bind_some]
  by_cases short : data.length < inner_len + ENCAP_OVERHEAD
  · rw [if_pos short,if_pos short]
  have proto : inner_proto data inner_len =
      some (if 0 < inner_len ∧ byte data 0 >>> 4 = 6 then GRE_PROTO_IPV6 else GRE_PROTO_IPV4) := by
    unfold inner_proto
    by_cases empty : 0 < inner_len
    · rw [if_pos empty,version_eq (by omega)]
      simp [empty]
    · simp [empty]
  have front : data.take ENCAP_OVERHEAD = data.take 20 ++ (data.take ENCAP_OVERHEAD).drop 20 := by
    have whole := (List.take_append_drop 20 (data.take ENCAP_OVERHEAD)).symm
    rwa [List.take_take] at whole
  rw [if_neg short,if_neg short,proto,Option.bind_some,copy_within_eq (by omega),Option.bind_some]
  rw [front,List.append_assoc (_ ++ _),write_headers_eq _ _ (by simp; omega) (by simp; omega)]
  simp only [Option.bind_some,List.append_assoc,Nat.add_comm ENCAP_OVERHEAD]

end

/-! ### The packet path -/

/-- A packet whose bytes and length have been changed in its buffer. -/
def in_buffer (data : List UInt8) (len : Nat) : Option PacketBuf :=
  if inside : data.length = PACKET_BUF_SIZE ∧ len ≤ PACKET_BUF_SIZE then
    some { data, len, sized := inside.1, fits := inside.2 }
  else none

def encapsulate_ipv4 (pkt : PacketBuf) (src_ip dst_ip : Ipv4Addr) : Option (Option PacketBuf) := do
  match ← encapsulate_ipv4_buf pkt.data pkt.len src_ip dst_ip with
  | none => some none
  | some (data,new_len) => do some (some (← in_buffer data new_len))

def gre_encap_to (r : RewriterThread) (input : PacketBuf) (backend_ip : IpAddr) : Option ProcessResult :=
  match r.src_ip,backend_ip with
  | .V4 src_ipv4,.V4 dst_ipv4 => do
    match ← encapsulate_ipv4 input src_ipv4 dst_ipv4 with
    | some output => some (.Forwarded output)
    | none => some .Dropped
  | _,_ => some .Dropped

def process_fragment (x : Xxh3) (r : RewriterThread) (input : PacketBuf) (now : Nat) :
    Option (RewriterThread × ProcessResult) := do
  match ← fragment_id input.as_slice with
  | none => some (r,.Dropped)
  | some fid =>
    match r.fragment_table.get (fid.fragment_hash x) now with
    | none => some (r.inc .fragment_drop_no_mapping_total,.Dropped)
    | some backend_ip => do
      some (r.inc .fragment_subsequent_forwarded_total,← gre_encap_to r input backend_ip)

def record_fragment (x : Xxh3) (r : RewriterThread) (input : PacketBuf) (backend_ip : IpAddr) (now : Nat) :
    Option RewriterThread := do
  if ← is_fragment input.as_slice then do
    match ← fragment_id input.as_slice with
    | some fid =>
      some ({ r with fragment_table := r.fragment_table.insert (fid.fragment_hash x) backend_ip now }.inc
        .fragment_first_total)
    | none => some r
  else some r

def send (r : RewriterThread) (output : PacketBuf) (dst_ip backend_ip : IpAddr) (now : Nat) :
    Option (RewriterThread × ProcessResult) := do
  if ← should_generate_icmp output.as_slice r.mtu_config.network_mtu then do
    let (icmp_rate_limiter,allowed) := r.icmp_rate_limiter.allow now
    let r := { r with icmp_rate_limiter }
    if allowed then do
      let vip_v4 :=
        match dst_ip with
        | .V4 v4 => v4
        | .V6 _ => .UNSPECIFIED
      some (r,.Icmp (← generate_icmp_frag_needed output.as_slice vip_v4 r.mtu_config.effective_inner_mtu))
    else some (r,.OversizedRateLimited)
  else do some (r,← gre_encap_to r output backend_ip)

/-- The packet after the clamping, and what it was. -/
def clamp (r : RewriterThread) (input : PacketBuf) : Option (PacketBuf × ClampResult) := do
  let (slice,result) ← clamp_mss input.as_slice r.mtu_config.tcp_mss_clamp
  some (← in_buffer (slice ++ input.data.drop input.len) input.len,result)

def process_one (x : Xxh3) (r : RewriterThread) (shared : Shared) (input : PacketBuf) (now : Nat) :
    Option (RewriterThread × ProcessResult) := do
  if ← is_non_first_fragment input.as_slice then process_fragment x r input now
  else do
    match ← from_ipv4_bytes input.as_slice with
    | none => some (r,.Dropped)
    | some pkt_meta =>
      match shared.vip_matcher.match_packet pkt_meta.dst_ip pkt_meta.protocol pkt_meta.dst_port with
      | none => some (r,.Dropped)
      | some pool_id => do
        let (output,clamped) ← clamp r input
        let r := r.count_clamp clamped
        match shared.lookup_tables.lookup pool_id with
        | none => some (r,.Dropped)
        | some lookup_table => do
          let (r,backend_ip) := r.select_backend x shared.health_status lookup_table pkt_meta now
          let r :=
            match pkt_meta.tcp_flags with
            | some flags => r.apply_tcp_transitions (pkt_meta.flow_hash x) flags now
            | none => r
          let r ← record_fragment x r input backend_ip now
          send r output pkt_meta.dst_ip backend_ip now

section
variable {x : Xxh3} {r : RewriterThread} {input : PacketBuf} {now : Nat}

theorem slice_bounded : input.as_slice.length ≤ PACKET_BUF_SIZE := input.as_slice_length ▸ input.fits

theorem encapsulate_ipv4_eq (src_ip dst_ip : Ipv4Addr) :
    encapsulate_ipv4 input src_ip dst_ip = some (Gre.encapsulate_ipv4 input src_ip dst_ip) := by
  have small : input.len + ENCAP_OVERHEAD < 2 ^ 64 := by
    have fits := input.fits
    rw [show PACKET_BUF_SIZE = 2048 from rfl] at fits
    rw [show ENCAP_OVERHEAD = 24 from rfl]
    omega
  rw [encapsulate_ipv4,encapsulate_ipv4_buf_eq small,Gre.encapsulate_ipv4]
  simp only [Option.bind_eq_bind,Option.bind_some]
  split
  · rename_i none_fits
    split
    · rfl
    · rename_i fits
      cases none_fits.symm.trans fits
  · rename_i encapsulated
    split
    · rename_i none_fits
      cases none_fits.symm.trans encapsulated
    · rename_i fits
      cases fits.symm.trans encapsulated
      have inside := (encapsulate_ipv4_buf_eq_some encapsulated)
      rw [in_buffer,dif_pos ⟨inside.2.1.trans input.sized,input.sized ▸ inside.1⟩]
      rfl

theorem gre_encap_to_eq (backend_ip : IpAddr) :
    gre_encap_to r input backend_ip = some (r.gre_encap_to input backend_ip) := by
  unfold gre_encap_to RewriterThread.gre_encap_to
  cases r.src_ip with
  | V6 src_ip => rfl
  | V4 src_ip =>
    cases backend_ip with
    | V6 dst_ip => rfl
    | V4 dst_ip =>
      dsimp only
      rw [encapsulate_ipv4_eq]
      simp only [Option.bind_eq_bind,Option.bind_some]
      cases Gre.encapsulate_ipv4 input src_ip dst_ip <;> rfl

theorem process_fragment_eq : process_fragment x r input now = some (r.process_fragment x input now) := by
  rw [process_fragment,fragment_id_eq slice_bounded,RewriterThread.process_fragment]
  simp only [Option.bind_eq_bind,Option.bind_some]
  cases FragmentId.from_ipv4_bytes input.as_slice with
  | none => rfl
  | some fid =>
    dsimp only
    cases r.fragment_table.get (fid.fragment_hash x) now with
    | none => rfl
    | some backend_ip =>
      dsimp only
      rw [gre_encap_to_eq]
      rfl

theorem record_fragment_eq (backend_ip : IpAddr) :
    record_fragment x r input backend_ip now = some (r.record_fragment x input backend_ip now) := by
  rw [record_fragment,is_fragment_eq slice_bounded,RewriterThread.record_fragment]
  simp only [Option.bind_eq_bind,Option.bind_some]
  split_ifs
  · rw [fragment_id_eq slice_bounded,Option.bind_some]
    cases FragmentId.from_ipv4_bytes input.as_slice <;> rfl
  · rfl

theorem clamp_eq : clamp r input =
    some (r.clamp input,(Mtu.clamp_mss input.as_slice r.mtu_config.tcp_mss_clamp).2) := by
  have sized := (r.clamp input).sized
  have inside : in_buffer ((Mtu.clamp_mss input.as_slice r.mtu_config.tcp_mss_clamp).1 ++ input.data.drop input.len)
      input.len = some (r.clamp input) := dif_pos ⟨sized,input.fits⟩
  rw [clamp,clamp_mss_eq _ slice_bounded]
  simp only [Option.bind_eq_bind,Option.bind_some,inside]

theorem send_eq (output : PacketBuf) (dst_ip backend_ip : IpAddr) (long : 20 ≤ output.as_slice.length)
    (ipv4 : byte output.as_slice 0 >>> 4 = 4) :
    send r output dst_ip backend_ip now =
      if DontFragment output.as_slice ∧ 2 ^ 16 ≤ (Packet.be16 output.as_slice 2).toNat + GRE_OVERHEAD.toNat then none
      else some (r.send output dst_ip backend_ip now) := by
  unfold send
  rw [should_generate_icmp_eq _ slice_bounded long ipv4]
  split_ifs with overflows
  · rfl
  simp only [Option.bind_eq_bind,Option.bind_some,RewriterThread.send]
  split_ifs
  · rw [generate_icmp_frag_needed_eq slice_bounded]
    rfl
  · rfl
  · rw [gre_encap_to_eq]
    rfl

end

/-- The packet gets to the check of its size, must not be fragmented, and declares
    a length that overflows with the overhead of the tunnel. -/
def Overflows (shared : Shared) (input : PacketBuf) : Prop :=
  (resolve shared input).isSome ∧ DontFragment input.as_slice ∧
    2 ^ 16 ≤ (Packet.be16 input.as_slice 2).toNat + GRE_OVERHEAD.toNat

section
variable {shared : Shared} {input : PacketBuf}

theorem not_overflows (unresolved : resolve shared input = none) : ¬ Overflows shared input := by
  rintro ⟨some_table,_⟩
  rw [unresolved] at some_table
  cases some_table

/-- Clamping leaves the fields that the check of the size reads. -/
theorem clamped_header (r : RewriterThread) (input : PacketBuf) :
    (r.clamp input).as_slice.length = input.as_slice.length ∧ byte (r.clamp input).as_slice 0 = byte input.as_slice 0 ∧
      Packet.be16 (r.clamp input).as_slice 2 = Packet.be16 input.as_slice 2 ∧
      Packet.be16 (r.clamp input).as_slice 6 = Packet.be16 input.as_slice 6 := by
  have slice : (r.clamp input).as_slice = (Mtu.clamp_mss input.as_slice r.mtu_config.tcp_mss_clamp).1 :=
    PacketBuf.as_slice_with_slice _ _
  have same : ∀ i < 16, byte (r.clamp input).as_slice i = byte input.as_slice i := fun i early => by
    rw [slice,clamp_mss_byte early]
  refine ⟨by rw [slice,clamp_mss_length],same 0 (by omega),?_,?_⟩
  · rw [Packet.be16,same 2 (by omega),same 3 (by omega)]
    rfl
  · rw [Packet.be16,same 6 (by omega),same 7 (by omega)]
    rfl

/-- The checks have the result of the functions without checks, or none if the
    declared length overflows. -/
theorem process_one_eq (x : Xxh3) (r : RewriterThread) (shared : Shared) (input : PacketBuf) (now : Nat) :
    (Overflows shared input → process_one x r shared input now = none) ∧
    (¬ Overflows shared input → process_one x r shared input now = some (r.process_one x shared input now)) := by
  unfold process_one RewriterThread.process_one
  rw [is_non_first_fragment_eq slice_bounded]
  simp only [Option.bind_eq_bind,Option.bind_some]
  by_cases later : Packet.is_non_first_fragment input.as_slice = true
  · have unresolved : resolve shared input = none := by simp [resolve,later]
    rw [if_pos later,if_pos later,process_fragment_eq]
    exact ⟨fun overflows => absurd overflows (not_overflows unresolved),fun _ => rfl⟩
  rw [if_neg later,if_neg later,from_ipv4_bytes_eq slice_bounded,Option.bind_some]
  cases parsed : PacketMeta.from_ipv4_bytes input.as_slice with
  | none =>
    have unresolved : resolve shared input = none := by simp [resolve,later,parsed]
    exact ⟨fun overflows => absurd overflows (not_overflows unresolved),fun _ => rfl⟩
  | some pkt_meta =>
    dsimp only
    cases matched : shared.vip_matcher.match_packet pkt_meta.dst_ip pkt_meta.protocol pkt_meta.dst_port with
    | none =>
      have unresolved : resolve shared input = none := by simp [resolve,later,parsed,matched]
      exact ⟨fun overflows => absurd overflows (not_overflows unresolved),fun _ => rfl⟩
    | some pool_id =>
      dsimp only
      rw [clamp_eq,Option.bind_some]
      dsimp only
      cases found : shared.lookup_tables.lookup pool_id with
      | none =>
        have unresolved : resolve shared input = none := by simp [resolve,later,parsed,matched,found]
        exact ⟨fun overflows => absurd overflows (not_overflows unresolved),fun _ => rfl⟩
      | some lookup_table =>
        obtain ⟨long,ipv4,_,_,_⟩ := PacketMeta.from_ipv4_bytes_accepted parsed
        obtain ⟨length,first,total_len,flags⟩ := clamped_header r input
        have some_table : (resolve shared input).isSome := by simp [resolve,later,parsed,matched,found]
        have same : Overflows shared input ↔ DontFragment (r.clamp input).as_slice ∧
            2 ^ 16 ≤ (Packet.be16 (r.clamp input).as_slice 2).toNat + GRE_OVERHEAD.toNat := by
          rw [Overflows,DontFragment,DontFragment,total_len,flags]
          exact and_iff_right some_table
        dsimp only
        rw [record_fragment_eq,Option.bind_some,send_eq _ _ _ (by omega) (by rw [first,ipv4])]
        exact ⟨fun overflows => if_pos (same.mp overflows),fun fits => if_neg (fun both => fits (same.mpr both))⟩

end

/-- In every state of a thread, a packet is processed without an access out of
    bounds or a sum that overflows if and only if its declared length does not
    overflow with the overhead of the tunnel. -/
theorem processed_iff (x : Xxh3) (r : RewriterThread) (shared : Shared) (input : PacketBuf) (now : Nat) :
    (process_one x r shared input now).isSome ↔ ¬ Overflows shared input := by
  obtain ⟨panics,processes⟩ := process_one_eq x r shared input now
  by_cases overflows : Overflows shared input
  · rw [panics overflows]
    simp [overflows]
  · rw [processes overflows]
    simp [overflows]

/-- A segment of 40 bytes that declares 65535. -/
theorem declared_length_overflows :
    ¬ ∀ (x : Xxh3) (network_mtu : UInt16) (mtu_config : MtuConfig), MtuConfig.new network_mtu = .ok mtu_config →
      ∀ (arrivals : List Arrival) (shared : Shared) (input : PacketBuf) (now : Nat),
      let r := arrivals.foldl (RewriterThread.step x) (.new (.V4 ⟨172,16,0,1⟩) 2 (by decide) minutes 2 (by decide)
        (from_secs 10) mtu_config 100 0)
      (process_one x r shared input now).isSome := by
  intro processed
  have overflows : Overflows (sharing false ∅) (segment 40000 65535 []) :=
    ⟨by decide +kernel,by decide +kernel,by decide +kernel⟩
  have some_result : (process_one hashedPair idle (sharing false ∅) (segment 40000 65535 []) (from_secs 1)).isSome :=
    processed hashedPair 1500 mtu1500 (by decide) [] (sharing false ∅) (segment 40000 65535 []) (from_secs 1)
  have none_result := (process_one_eq hashedPair idle (sharing false ∅) (segment 40000 65535 []) (from_secs 1)).1 overflows
  rw [none_result] at some_result
  cases some_result

end Lb.Panics
