import Lb.Framing
import Lb.Packet
import Lb.Rfc4271

/-!
# Writing and framing BGP messages

The messages that a session writes, and the cutting of a stream into messages.
What is written comes out of any stream as it was, and says what was meant.
-/
namespace Lb.Messages
open Lb.Addr Lb.Packet Lb.Framing Lb.Rfc4271

def MARKER : List UInt8 := List.replicate 16 0xFF

inductive BgpMessageType
  | Open
  | Update
  | Notification
  | Keepalive
deriving DecidableEq

def BgpMessageType.toU8 : BgpMessageType → UInt8
  | .Open => 1
  | .Update => 2
  | .Notification => 3
  | .Keepalive => 4

/-- A 16-bit length is filled in where a placeholder stands. -/
def fix_length (buf : List UInt8) (pos : Nat) (length : UInt16) : List UInt8 :=
  (buf.set pos (length >>> 8).toUInt8).set (pos + 1) length.toUInt8

def encode_open (local_asn hold_time : UInt16) (router_id : Ipv4Addr) : List UInt8 :=
  let buf := MARKER
  let length_pos := buf.length
  let buf := buf ++ to_be_bytes 0 ++ [BgpMessageType.Open.toU8]
  let buf := buf ++ [4] ++ to_be_bytes local_asn ++ to_be_bytes hold_time ++ router_id.octets ++ [0]
  fix_length buf length_pos (UInt16.ofNat buf.length)

def encode_keepalive : List UInt8 := MARKER ++ to_be_bytes 19 ++ [BgpMessageType.Keepalive.toU8]

def encode_notification (error_code error_subcode : UInt8) : List UInt8 :=
  MARKER ++ to_be_bytes 21 ++ [BgpMessageType.Notification.toU8] ++ [error_code] ++ [error_subcode]

/-- The number of bytes that a number of bits takes. -/
def octets_of (prefix_len : UInt8) : Nat := (prefix_len.toNat + 7) / 8

def encode_update_announce (address : Ipv4Addr) (prefix_len : UInt8) (next_hop : Ipv4Addr) (local_asn : UInt16) :
    List UInt8 :=
  let buf := MARKER
  let length_pos := buf.length
  let buf := buf ++ to_be_bytes 0 ++ [BgpMessageType.Update.toU8] ++ to_be_bytes 0
  let path_attrs_len_pos := buf.length
  let buf := buf ++ to_be_bytes 0
  let buf := buf ++ [0x40] ++ [1] ++ [1] ++ [0]
  let buf := buf ++ [0x40] ++ [2] ++ [4] ++ [2] ++ [1] ++ to_be_bytes local_asn
  let buf := buf ++ [0x40] ++ [3] ++ [4] ++ next_hop.octets
  let buf := fix_length buf path_attrs_len_pos (UInt16.ofNat (buf.length - path_attrs_len_pos - 2))
  let buf := buf ++ [prefix_len] ++ address.octets.take (octets_of prefix_len)
  fix_length buf length_pos (UInt16.ofNat buf.length)

def encode_update_withdraw (address : Ipv4Addr) (prefix_len : UInt8) : List UInt8 :=
  let buf := MARKER
  let length_pos := buf.length
  let buf := buf ++ to_be_bytes 0 ++ [BgpMessageType.Update.toU8]
  let buf := buf ++ to_be_bytes (UInt16.ofNat (1 + octets_of prefix_len)) ++ [prefix_len] ++
    address.octets.take (octets_of prefix_len)
  let buf := buf ++ to_be_bytes 0
  fix_length buf length_pos (UInt16.ofNat buf.length)

def parse_message_type (data : List UInt8) : Option BgpMessageType :=
  if data.length < 19 then none
  else if byte data 18 = 1 then some .Open
  else if byte data 18 = 2 then some .Update
  else if byte data 18 = 3 then some .Notification
  else if byte data 18 = 4 then some .Keepalive
  else none

def parse_notification (data : List UInt8) : Option (UInt8 × UInt8) :=
  if data.length < 21 then none
  else if parse_message_type data ≠ some .Notification then none
  else some (byte data 19,byte data 20)

def parse_open_hold_time (data : List UInt8) : Option UInt16 :=
  if data.length < 24 then none
  else if parse_message_type data ≠ some .Open then none
  else some (be16 data 22)

/-- One byte is dropped at a time until the buffer starts with a header again. -/
def take_message (buf : List UInt8) : Option (List UInt8) × List UInt8 :=
  if buf.length < 19 then (none,buf)
  else if buf.take 16 ≠ MARKER then (none,buf.drop 1)
  else
    let len := (be16 buf 16).toNat
    if ¬ (19 ≤ len ∧ len ≤ 4096) then (none,buf.drop 1)
    else if buf.length < len then (none,buf)
    else (some (buf.take len),buf.drop len)

@[simp] theorem MARKER_length : MARKER.length = 16 := rfl
@[simp] theorem to_be_bytes_length (v : UInt16) : (to_be_bytes v).length = 2 := rfl
@[simp] theorem octets_length (ip : Ipv4Addr) : ip.octets.length = 4 := rfl

/-! ### Framing -/

section
variable {message front rest : List UInt8} {i : Nat}

/-- A message that RFC 4271 knows, by its header. -/
theorem framed (formed : WellFormed message) :
    19 ≤ message.length ∧ message.length ≤ 4096 ∧ message.take 16 = MARKER ∧
      (be16 message 16).toNat = message.length := by
  obtain ⟨fields,decoded⟩ := Option.isSome_iff_exists.mp formed
  obtain ⟨⟨long,fits⟩,marked,said,_⟩ := decode_framed decoded
  exact ⟨long,fits,marked,said⟩

theorem take_message_whole (formed : WellFormed message) (rest : List UInt8) :
    take_message (message ++ rest) = (some message,rest) := by
  obtain ⟨long,fits,marked,said⟩ := framed formed
  have length : (be16 (message ++ rest) 16).toNat = message.length := by rw [be16_append (by omega),said]
  have same : (message ++ rest).take 16 = MARKER := by rw [List.take_append_of_le_length (by omega),marked]
  have total : message.length ≤ (message ++ rest).length := by simp
  rw [take_message,if_neg (by omega),if_neg (absurd same)]
  dsimp only
  rw [length,if_neg (not_not.mpr ⟨long,fits⟩),if_neg (by omega),List.take_left' rfl,List.drop_left' rfl]

theorem take_message_part (formed : WellFormed message) (begins : front <+: message) (proper : front ≠ message) :
    take_message front = (none,front) := by
  obtain ⟨long,fits,marked,said⟩ := framed formed
  obtain ⟨rest,rfl⟩ := begins
  have missing : 0 < rest.length := by
    refine List.length_pos_iff.mpr fun none_left => proper ?_
    rw [none_left,List.append_nil]
  rw [List.length_append] at long fits said
  by_cases short : front.length < 19
  · rw [take_message,if_pos short]
  · have same : front.take 16 = MARKER := by rw [← marked,List.take_append_of_le_length (by omega)]
    have length : (be16 front 16).toNat = front.length + rest.length := by rw [← said,be16_append (by omega)]
    rw [take_message,if_neg short,if_neg (absurd same)]
    dsimp only
    rw [length,if_neg (not_not.mpr ⟨long,fits⟩),if_pos (by omega)]

/-- `take_message` knows the end of a message. -/
theorem take_message_cuts : Cuts take_message WellFormed where
  nonempty := by
    intro message formed
    have long := (framed formed).1
    exact List.length_pos_iff.mp (by omega)
  empty := rfl
  whole := fun _ rest formed => take_message_whole formed rest
  part := fun _ _ formed begins proper => take_message_part formed begins proper

theorem take_message_splits : Splits take_message := by
  have cases_of : ∀ buf, (∃ count, take_message buf = (none,buf.drop count)) ∨
      ∃ len, take_message buf = (some (buf.take len),buf.drop len) := by
    intro buf
    rw [take_message]
    by_cases short : buf.length < 19
    · exact .inl ⟨0,if_pos short⟩
    · rw [if_neg short]
      by_cases marked : buf.take 16 ≠ MARKER
      · exact .inl ⟨1,if_pos marked⟩
      · rw [if_neg marked]
        dsimp only
        split_ifs
        · exact .inl ⟨0,rfl⟩
        · exact .inr ⟨_,rfl⟩
        · exact .inl ⟨1,rfl⟩
  constructor
  · intro buf message rest took
    rcases cases_of buf with ⟨count,none_yet⟩ | ⟨len,cut⟩
    · rw [none_yet] at took
      cases took
    · rw [cut] at took
      cases took
      exact (List.take_append_drop len buf).symm
  · intro buf rest took
    rcases cases_of buf with ⟨count,none_yet⟩ | ⟨len,cut⟩
    · rw [none_yet] at took
      cases took
      exact List.drop_suffix count buf
    · rw [cut] at took
      cases took

end

/-! ### What a session writes -/

structure PeerSession where
  router_id : Ipv4Addr
  local_asn : UInt16
deriving DecidableEq

/-- What `drive` writes for a command, or when a keepalive is due. -/
inductive Output
  | Announce (vips : List Ipv4Addr)
  | Withdraw (vips : List Ipv4Addr)
  | Keepalive
deriving DecidableEq

namespace PeerSession

def send_announce (s : PeerSession) (vips : List Ipv4Addr) : List (List UInt8) :=
  vips.map fun vip => encode_update_announce vip 32 s.router_id s.local_asn
def send_withdraw (vips : List Ipv4Addr) : List (List UInt8) := vips.map fun vip => encode_update_withdraw vip 32
def write (s : PeerSession) : Output → List (List UInt8)
  | .Announce vips => s.send_announce vips
  | .Withdraw vips => send_withdraw vips
  | .Keepalive => [encode_keepalive]

/-- What the session means to say: the prefix is announced with the session's own
    AS as the path and its router as the next hop. -/
def announcement (s : PeerSession) (vip : Ipv4Addr) : Update :=
  ⟨[],[.Origin 0,.AsPath [⟨2,[s.local_asn]⟩],.NextHop s.router_id],[⟨32,vip⟩]⟩
def withdrawal (vip : Ipv4Addr) : Update := ⟨[⟨32,vip⟩],[],[]⟩
def say (s : PeerSession) : Output → List Message
  | .Announce vips => vips.map fun vip => .Update (s.announcement vip)
  | .Withdraw vips => vips.map fun vip => .Update (withdrawal vip)
  | .Keepalive => [.Keepalive]

end PeerSession

/-- The attributes of an announcement. -/
def PeerSession.attributes (s : PeerSession) : List UInt8 :=
  path_attribute 0x40 1 [0] ++ (path_attribute 0x40 2 ([2,1] ++ to_be_bytes s.local_asn) ++
    (path_attribute 0x40 3 s.router_id.octets ++ []))

@[simp] theorem PeerSession.attributes_length (s : PeerSession) : s.attributes.length = 18 := rfl

/-- A length is filled in where there was a zero before. -/
theorem fix_length_placeholder (front rest : List UInt8) (length : UInt16) :
    fix_length (front ++ (to_be_bytes 0 ++ rest)) front.length length = front ++ (to_be_bytes length ++ rest) := by
  rw [fix_length,List.set_append_right _ _ (Nat.le_refl _),List.set_append_right _ _ (Nat.le_succ _),Nat.sub_self,
    Nat.succ_sub (Nat.le_refl _),Nat.sub_self]
  rfl

/-- The lengths that are filled in are those of what follows. -/
theorem encode_update_announce_eq (s : PeerSession) (address : Ipv4Addr) (prefix_len : UInt8) :
    encode_update_announce address prefix_len s.router_id s.local_asn =
      message 2 (update_body [] s.attributes (prefix_len :: address.octets.take (octets_of prefix_len))) := by
  have attributes : ∀ rest, [0x40] ++ ([1] ++ ([1] ++ ([0] ++ ([0x40] ++ ([2] ++ ([4] ++ ([2] ++ ([1] ++
      (to_be_bytes s.local_asn ++ ([0x40] ++ ([3] ++ ([4] ++ (s.router_id.octets ++ rest))))))))))))) =
      s.attributes ++ rest := fun _ => rfl
  have filled : ∀ rest length, fix_length (MARKER ++ (to_be_bytes 0 ++ ([BgpMessageType.Update.toU8] ++ (to_be_bytes 0 ++
      (to_be_bytes 0 ++ rest))))) (MARKER ++ (to_be_bytes 0 ++ ([BgpMessageType.Update.toU8] ++ to_be_bytes 0))).length
      length = MARKER ++ (to_be_bytes 0 ++ ([BgpMessageType.Update.toU8] ++ (to_be_bytes 0 ++
      (to_be_bytes length ++ rest)))) := fun rest length => by
    simpa only [List.append_assoc] using fix_length_placeholder
      (MARKER ++ (to_be_bytes 0 ++ ([BgpMessageType.Update.toU8] ++ to_be_bytes 0))) rest length
  simp only [encode_update_announce,List.append_assoc,filled,fix_length_placeholder MARKER,attributes]
  simp only [message,update_body,header,List.append_assoc,List.length_append,List.length_cons,List.length_nil,
    to_be_bytes_length,octets_length,MARKER_length,PeerSession.attributes_length,List.nil_append]
  have total : ∀ n, 16 + (2 + (0 + 1 + (2 + (2 + (18 + (0 + 1 + n)))))) = 19 + (2 + (2 + (18 + (n + 1)))) := by omega
  rw [total]
  rfl

theorem encode_update_withdraw_eq (address : Ipv4Addr) {prefix_len : UInt8} (short : octets_of prefix_len ≤ 4) :
    encode_update_withdraw address prefix_len =
      message 2 (update_body (prefix_len :: address.octets.take (octets_of prefix_len)) [] []) := by
  have length : (address.octets.take (octets_of prefix_len)).length = octets_of prefix_len := by simp [short]
  simp only [encode_update_withdraw,List.append_assoc,fix_length_placeholder MARKER]
  simp only [message,update_body,header,List.append_assoc,List.length_append,List.length_cons,List.length_nil,
    to_be_bytes_length,MARKER_length,length]
  have total : ∀ n, 16 + (2 + (0 + 1 + (2 + (0 + 1 + (n + 2))))) = 19 + (2 + (n + 1 + (2 + (0 + 0)))) := by omega
  rw [total,Nat.add_comm 1]
  rfl

theorem decode_attributes_announce (s : PeerSession) :
    decode_attributes s.attributes = some [.Origin 0,.AsPath [⟨2,[s.local_asn]⟩],.NextHop s.router_id] := by
  have path : decode_value 0x40 2 ([2,1] ++ to_be_bytes s.local_asn) = some (.AsPath [⟨2,[s.local_asn]⟩]) := by
    have asns : decode_asns (to_be_bytes s.local_asn) = some [s.local_asn] := by
      rw [to_be_bytes,decode_asns,decode_asns,Option.map_some,from_be_bytes_split]
    have segments : decode_segments ([2,1] ++ to_be_bytes s.local_asn) = some [⟨2,[s.local_asn]⟩] := by
      rw [List.cons_append,List.cons_append,List.nil_append,decode_segments]
      simp [to_be_bytes] at asns ⊢
      rw [asns,decode_segments]
      rfl
    unfold decode_value
    rw [if_neg (by decide),if_pos rfl,if_pos (by decide),segments]
    rfl
  rw [PeerSession.attributes,decode_attributes_cons 1 _ (by decide) (by decide),
    decode_attributes_cons 2 _ (by decide) (by simp [to_be_bytes]),
    decode_attributes_cons 3 _ (by decide) (by simp),path,decode_attributes]
  rfl

theorem host_octets (vip : Ipv4Addr) : 32 :: vip.octets.take (octets_of 32) = 32 :: vip.octets ++ [] := rfl

theorem decode_announce (s : PeerSession) (vip : Ipv4Addr) :
    decode (encode_update_announce vip 32 s.router_id s.local_asn) = some (.Update (s.announcement vip)) := by
  rw [encode_update_announce_eq,host_octets,decode_message 2 (by simp [update_body]),decode_update_body]
  rw [decode_update_eq _ (by simp) (by simp),decode_attributes_announce,decode_prefixes_host,decode_prefixes]
  rfl

theorem decode_withdraw (vip : Ipv4Addr) :
    decode (encode_update_withdraw vip 32) = some (.Update (PeerSession.withdrawal vip)) := by
  rw [encode_update_withdraw_eq vip (by decide),host_octets,decode_message 2 (by simp [update_body]),decode_update_body]
  rw [decode_update_eq _ (by simp) (by simp),decode_prefixes_host,decode_prefixes,decode_attributes]
  rfl

theorem decode_keepalive : decode encode_keepalive = some .Keepalive := by decide +kernel

/-- Every message says what the session means. -/
theorem decode_write (s : PeerSession) (output : Output) :
    (s.write output).map decode = (s.say output).map some := by
  cases output with
  | Announce vips => simp [PeerSession.write,PeerSession.send_announce,PeerSession.say,decode_announce]
  | Withdraw vips => simp [PeerSession.write,PeerSession.send_withdraw,PeerSession.say,decode_withdraw]
  | Keepalive => simp [PeerSession.write,PeerSession.say,decode_keepalive]

/-- Whatever a session writes, and however it is split on the way, a reader gets
    the messages that were written, and they say what was meant. -/
theorem outbound_round_trip (s : PeerSession) (outputs : List Output) (chunks : List (List UInt8))
    (stream : chunks.flatten = (outputs.flatMap s.write).flatten) :
    let reader := Reader.new.run take_message (fun _ => false) chunks
    reader.messages = outputs.flatMap s.write ∧ reader.incoming = [] ∧
      reader.messages.map decode = (outputs.flatMap s.say).map some ∧
      ∀ message ∈ reader.messages, (be16 message 16).toNat = message.length ∧ message.length ≤ 4096 := by
  have said : (outputs.flatMap s.write).map decode = (outputs.flatMap s.say).map some := by
    rw [List.map_flatMap,List.map_flatMap]
    exact congrArg (fun f => outputs.flatMap f) (funext (decode_write s))
  have formed : ∀ message ∈ outputs.flatMap s.write, WellFormed message := by
    intro message written
    have decoded := List.mem_map_of_mem (f := decode) written
    rw [said] at decoded
    obtain ⟨fields,_,same⟩ := List.mem_map.mp decoded
    rw [WellFormed,← same]
    rfl
  obtain ⟨messages,rest⟩ := run_stream take_message_cuts (fun _ => false) formed stream
  rw [upto_eq_self fun _ _ => rfl] at messages
  have going := run_going take_message_cuts formed (fun _ _ => rfl) stream
  dsimp only
  rw [messages]
  refine ⟨rfl,rest going,said,fun message written => ?_⟩
  obtain ⟨_,fits,_,length⟩ := framed (formed message written)
  exact ⟨length,fits⟩

/-- Two addresses announced and one withdrawn, with a keepalive between, in pieces
    of 50 bytes. -/
theorem outbound_round_trip_pieces :
    let s : PeerSession := ⟨⟨10,0,0,1⟩,65000⟩
    let outputs : List Output := [.Announce [⟨203,0,113,1⟩,⟨203,0,113,2⟩],.Keepalive,.Withdraw [⟨203,0,113,1⟩]]
    let stream := (outputs.flatMap s.write).flatten
    let reader := Reader.new.run take_message (fun _ => false) [stream.take 50,(stream.drop 50).take 50,stream.drop 100]
    reader.messages = outputs.flatMap s.write ∧ reader.incoming = [] ∧
      reader.messages.map decode = (outputs.flatMap s.say).map some ∧
      ∀ message ∈ reader.messages, (be16 message 16).toNat = message.length ∧ message.length ≤ 4096 :=
  outbound_round_trip _ _ _ (by decide +kernel)

end Lb.Messages
