import Lb.Buffer

/-!
# Packets too large for the tunnel

The MTU parameters, the clamping of the TCP maximum segment size, and the ICMP
errors that tell a sender to fragment.
-/
namespace Lb.Mtu
open Lb.Addr Lb.Types Lb.Packet Lb.Buffer

def GRE_OVERHEAD : UInt16 := 24
def IP_TCP_HEADER_SIZE : UInt16 := 40
def MIN_MSS : UInt16 := 536

structure MtuConfig where
  network_mtu : UInt16
  effective_inner_mtu : UInt16
  tcp_mss_clamp : UInt16
deriving DecidableEq

def MtuConfig.new (network_mtu : UInt16) : Except String MtuConfig :=
  if network_mtu < 1280 then
    .error ("network_mtu " ++ toString network_mtu.toNat ++ " is below minimum 1280")
  else
    let effective_inner_mtu := network_mtu - GRE_OVERHEAD
    let tcp_mss_clamp := effective_inner_mtu - IP_TCP_HEADER_SIZE
    if tcp_mss_clamp < MIN_MSS then
      .error ("derived tcp_mss_clamp " ++ toString tcp_mss_clamp.toNat ++ " is below RFC 879 minimum " ++
        toString MIN_MSS.toNat ++ " (network_mtu must be >= 600)")
    else .ok { network_mtu, effective_inner_mtu, tcp_mss_clamp }

/-! ### The maximum segment size -/

inductive ClampResult
  | NotTcp
  | NotSyn
  | Clamped
  | Noop
  | MssMissing
deriving DecidableEq

/-- The loop over the TCP options, from `offset` on: where the MSS option is. -/
def find_mss (data : List UInt8) (options_end : Nat) : Nat → Nat → Option Nat
  | 0, _ => none
  | fuel + 1, offset =>
    if options_end ≤ offset then none
    else
      let kind := byte data offset
      if kind = 0 then none
      else if kind = 1 then find_mss data options_end fuel (offset + 1)
      else if options_end ≤ offset + 1 then none
      else
        let length := (byte data (offset + 1)).toNat
        if length < 2 then none
        else if kind = 2 ∧ length = 4 then if options_end < offset + 4 then none else some offset
        else find_mss data options_end fuel (offset + length)

/-- The bytes with a 16-bit number written at an index. -/
def put16 (data : List UInt8) (i : Nat) (v : UInt16) : List UInt8 :=
  (data.set i (v >>> 8).toUInt8).set (i + 1) v.toUInt8

def incremental_checksum_update (data : List UInt8) (checksum_offset : Nat) (old new : UInt16) : List UInt8 :=
  let old_checksum := be16 data checksum_offset
  let sum := (~~~old_checksum).toNat + (~~~old).toNat + new.toNat
  put16 data checksum_offset (~~~(UInt16.ofNat (fold_carry 2 sum)))

/-- Every round of the loop over the options goes on by a byte or more. -/
def clamp_mss (data : List UInt8) (max_mss : UInt16) : List UInt8 × ClampResult :=
  if data.length < 40 then (data,.NotTcp)
  else if byte data 0 >>> 4 ≠ 4 then (data,.NotTcp)
  else if byte data 9 ≠ 6 then (data,.NotTcp)
  else if data.length < ihl data + 20 then (data,.NotTcp)
  else if byte data (ihl data + 13) &&& 0x02 = 0 then (data,.NotSyn)
  else
    let data_offset := (byte data (ihl data + 12) >>> 4).toNat * 4
    if data_offset < 20 ∨ data.length < ihl data + data_offset then (data,.MssMissing)
    else
      match find_mss data (ihl data + data_offset) data_offset (ihl data + 20) with
      | none => (data,.MssMissing)
      | some offset =>
        let current_mss := be16 data (offset + 2)
        if max_mss < current_mss then
          (incremental_checksum_update (put16 data (offset + 2) max_mss) (ihl data + 16) current_mss max_mss,.Clamped)
        else (data,.Noop)

/-! ### What clamping leaves alone -/

section
variable {data : List UInt8} {max_mss : UInt16}

@[simp] theorem put16_length (i : Nat) (v : UInt16) : (put16 data i v).length = data.length := by simp [put16]

theorem byte_put16 {i j : Nat} (v : UInt16) (outside : j ≠ i ∧ j ≠ i + 1) : byte (put16 data i v) j = byte data j := by
  simp only [byte,put16,List.getD_eq_getElem?_getD]
  rw [List.getElem?_set_ne (Ne.symm outside.2),List.getElem?_set_ne (Ne.symm outside.1)]

theorem be16_put16 {i : Nat} (v : UInt16) (inside : i + 1 < data.length) : be16 (put16 data i v) i = v := by
  have hi : byte (put16 data i v) i = (v >>> 8).toUInt8 := by
    simp only [byte,put16,List.getD_eq_getElem?_getD]
    rw [List.getElem?_set_ne (by omega),List.getElem?_set_self (by omega)]
    rfl
  have lo : byte (put16 data i v) (i + 1) = v.toUInt8 := by
    simp only [byte,put16,List.getD_eq_getElem?_getD]
    rw [List.getElem?_set_self (by simpa using inside)]
    rfl
  rw [be16,hi,lo,from_be_bytes_split]

theorem be16_incremental_checksum_update {checksum_offset i : Nat} {old new : UInt16} (after : checksum_offset + 1 < i) :
    be16 (incremental_checksum_update data checksum_offset old new) i = be16 data i := by
  rw [incremental_checksum_update,be16,byte_put16 _ (by omega),byte_put16 _ (by omega),be16]

/-- The option that the loop finds lies within the options. -/
theorem find_mss_inside {options_end fuel offset found : Nat}
    (some_option : find_mss data options_end fuel offset = some found) : offset ≤ found ∧ found + 4 ≤ options_end := by
  induction fuel generalizing offset with
  | zero => cases some_option
  | succ fuel ih =>
    simp only [find_mss] at some_option
    split_ifs at some_option
    · have := ih some_option
      omega
    · cases some_option
      omega
    · have := ih some_option
      omega

/-- Only a packet with an MSS option above the maximum is changed, in the option
    and in the checksum. -/
theorem clamp_mss_cases (data : List UInt8) (max_mss : UInt16) :
    ((clamp_mss data max_mss).1 = data ∧ (clamp_mss data max_mss).2 ≠ .Clamped) ∨
    ∃ offset, ihl data + 20 ≤ offset ∧ offset + 4 ≤ data.length ∧ max_mss < be16 data (offset + 2) ∧
      clamp_mss data max_mss = (incremental_checksum_update (put16 data (offset + 2) max_mss) (ihl data + 16)
        (be16 data (offset + 2)) max_mss,.Clamped) := by
  rw [clamp_mss]
  split_ifs with short version proto header syn
  all_goals try exact .inl ⟨rfl,nofun⟩
  set data_offset := (byte data (ihl data + 12) >>> 4).toNat * 4
  dsimp only
  split_ifs with missing
  · exact .inl ⟨rfl,nofun⟩
  cases found : find_mss data (ihl data + data_offset) data_offset (ihl data + 20) with
  | none => exact .inl ⟨rfl,nofun⟩
  | some offset =>
    obtain ⟨first,last⟩ := find_mss_inside found
    by_cases above : max_mss < be16 data (offset + 2)
    · refine .inr ⟨offset,first,by omega,above,?_⟩
      simp only [above,if_true]
    · simp only [above,if_false]
      exact .inl ⟨trivial,nofun⟩

@[simp] theorem clamp_mss_length : (clamp_mss data max_mss).1.length = data.length := by
  rcases clamp_mss_cases data max_mss with ⟨same,_⟩ | ⟨_,_,_,_,changed⟩
  · rw [same]
  · simp [changed,incremental_checksum_update]

/-- The header up to the addresses stays as it was. -/
theorem clamp_mss_byte {i : Nat} (early : i < 16) : byte (clamp_mss data max_mss).1 i = byte data i := by
  rcases clamp_mss_cases data max_mss with ⟨same,_⟩ | ⟨_,first,_,_,changed⟩
  · rw [same]
  · rw [changed,incremental_checksum_update,byte_put16 _ (by omega),byte_put16 _ (by omega)]

/-- A packet is changed exactly if it is clamped. -/
theorem clamp_mss_same : (clamp_mss data max_mss).1 = data ↔ (clamp_mss data max_mss).2 ≠ .Clamped := by
  rcases clamp_mss_cases data max_mss with ⟨same,other⟩ | ⟨offset,first,last,above,changed⟩
  · exact ⟨fun _ => other,fun _ => same⟩
  · have clamped : (clamp_mss data max_mss).2 = .Clamped := congrArg Prod.snd changed
    have written : be16 (clamp_mss data max_mss).1 (offset + 2) = max_mss := by
      rw [changed,be16_incremental_checksum_update (by omega),be16_put16 _ (by omega)]
    constructor
    · intro same
      rw [same] at written
      exact absurd (written ▸ above) (UInt16.lt_irrefl _)
    · intro other
      exact absurd clamped other

end

/-! ### Fragmentation needed -/

def DF_FLAG : UInt16 := 0x4000
def ICMP_TYPE_DEST_UNREACH : UInt8 := 3
def ICMP_CODE_FRAG_NEEDED : UInt8 := 4

/-- The sum is taken in 16 bits. -/
def should_generate_icmp (data : List UInt8) (network_mtu : UInt16) : Bool :=
  if data.length < 20 then false
  else if byte data 0 >>> 4 ≠ 4 then false
  else be16 data 6 &&& DF_FLAG != 0 && decide (network_mtu < be16 data 2 + GRE_OVERHEAD)

def icmp_ip_header (total_len : UInt16) (checksum : UInt16) (vip dst_ip : Ipv4Addr) : List UInt8 :=
  [0x45,0xC0] ++ to_be_bytes total_len ++ [0,0,0,0,64,1] ++ to_be_bytes checksum ++ vip.octets ++ dst_ip.octets
def icmp_message (checksum effective_inner_mtu : UInt16) (payload : List UInt8) : List UInt8 :=
  [ICMP_TYPE_DEST_UNREACH,ICMP_CODE_FRAG_NEEDED] ++ to_be_bytes checksum ++ [0,0] ++ to_be_bytes effective_inner_mtu ++
    payload

/-- Each checksum is taken with zeroes in its place. -/
def generate_icmp_frag_needed (original : List UInt8) (vip : Ipv4Addr) (effective_inner_mtu : UInt16) : PacketBuf :=
  let payload := original.take 28
  let total_len := UInt16.ofNat (20 + 8 + payload.length)
  let dst_ip := if 16 ≤ original.length then ipv4_at original 12 else .UNSPECIFIED
  let ip_cksum := ip_checksum (icmp_ip_header total_len 0 vip dst_ip)
  let icmp_cksum := ip_checksum (icmp_message 0 effective_inner_mtu payload)
  .from_slice (icmp_ip_header total_len ip_cksum vip dst_ip ++ icmp_message icmp_cksum effective_inner_mtu payload)

structure IcmpRateLimiter where
  max_per_second : Nat
  count : Nat
  window_start : Nat
deriving DecidableEq

def IcmpRateLimiter.new (max_per_second now : Nat) : IcmpRateLimiter :=
  { max_per_second, count := 0, window_start := now }

def IcmpRateLimiter.allow (l : IcmpRateLimiter) (now : Nat) : IcmpRateLimiter × Bool :=
  if l.max_per_second = 0 then (l,false)
  else
    let l := if 1 ≤ (now - l.window_start) / from_secs 1 then { l with count := 0, window_start := now } else l
    if l.count < l.max_per_second then ({ l with count := l.count + 1 },true) else (l,false)

/-- The limit of the current second is used up. -/
def IcmpRateLimiter.Exhausted (l : IcmpRateLimiter) (now : Nat) : Prop :=
  l.max_per_second = 0 ∨ (now - l.window_start < from_secs 1 ∧ l.max_per_second ≤ l.count)

theorem IcmpRateLimiter.not_allowed {l : IcmpRateLimiter} {now : Nat} : (l.allow now).2 = false ↔ l.Exhausted now := by
  unfold allow Exhausted
  have second : 0 < from_secs 1 := by decide
  by_cases never : l.max_per_second = 0
  · simp [never]
  · by_cases elapsed : 1 ≤ (now - l.window_start) / from_secs 1
    · have later := (Nat.one_le_div_iff second).mp elapsed
      simp only [never,elapsed,if_true,if_false,false_or]
      rw [if_pos (Nat.pos_of_ne_zero never)]
      simp only [Bool.true_eq_false,false_iff]
      omega
    · have within : now - l.window_start < from_secs 1 := by
        rw [Nat.one_le_div_iff second] at elapsed
        omega
      simp only [never,elapsed,if_false,within,true_and,false_or]
      split_ifs with below
      · simp only [false_iff]
        omega
      · simpa using below

section
variable {original : List UInt8} {vip : Ipv4Addr} {effective_inner_mtu : UInt16}

/-- The checks of the ICMP errors read nothing that clamping changes. -/
@[simp] theorem should_generate_icmp_clamped {max_mss network_mtu : UInt16} :
    should_generate_icmp (clamp_mss original max_mss).1 network_mtu = should_generate_icmp original network_mtu := by
  unfold should_generate_icmp be16
  simp only [clamp_mss_length,clamp_mss_byte (show 0 < 16 by omega),clamp_mss_byte (show 2 < 16 by omega),
    clamp_mss_byte (show 2 + 1 < 16 by omega),clamp_mss_byte (show 6 < 16 by omega),
    clamp_mss_byte (show 6 + 1 < 16 by omega)]

/-- The type of service of an ICMP error is that of network control. -/
theorem generate_icmp_tos : byte (generate_icmp_frag_needed original vip effective_inner_mtu).as_slice 1 = 0xC0 := by
  simp [generate_icmp_frag_needed,icmp_ip_header,byte,PACKET_BUF_SIZE]

end

end Lb.Mtu
