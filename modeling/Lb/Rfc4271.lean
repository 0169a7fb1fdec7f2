import Lb.Addr
import Mathlib.Algebra.Group.Nat.Defs

/-!
# BGP messages

What the bytes of a BGP message say, by RFC 4271: a header with a marker, a
length and a type, and for each type its fields. Every length inside a message
is checked against what it covers.
-/
namespace Lb.Rfc4271
open Lb.Addr

structure IpPrefix where
  length : UInt8
  address : Ipv4Addr
deriving DecidableEq

/-- A part of an AS path; the type is a set or a sequence. -/
structure PathSegment where
  segment_type : UInt8
  asns : List UInt16
deriving DecidableEq

inductive PathAttribute
  | Origin (origin : UInt8)
  | AsPath (segments : List PathSegment)
  | NextHop (next_hop : Ipv4Addr)
  | Other (flags type_code : UInt8) (value : List UInt8)
deriving DecidableEq

structure Update where
  withdrawn : List IpPrefix
  attributes : List PathAttribute
  nlri : List IpPrefix
deriving DecidableEq

structure Open where
  version : UInt8
  asn : UInt16
  hold_time : UInt16
  router_id : Ipv4Addr
  opt_params : List UInt8
deriving DecidableEq

inductive Message
  | Open (fields : Open)
  | Update (fields : Update)
  | Notification (error_code error_subcode : UInt8) (data : List UInt8)
  | Keepalive
deriving DecidableEq

/-! ### Fields -/

/-- The first bytes of an address; those left out are zero. -/
def address_of (octets : List UInt8) : Ipv4Addr :=
  ⟨octets.getD 0 0,octets.getD 1 0,octets.getD 2 0,octets.getD 3 0⟩

theorem drop_shorter (count : Nat) (x : UInt8) (rest : List UInt8) :
    (rest.drop count).length < (x :: rest).length := by
  rw [List.length_drop,List.length_cons]
  omega

/-- A length in bits and the bytes that it takes, over and over. -/
def decode_prefixes : List UInt8 → Option (List IpPrefix)
  | [] => some []
  | length :: rest =>
    let count := (length.toNat + 7) / 8
    if 32 < length.toNat ∨ rest.length < count then none
    else (decode_prefixes (rest.drop count)).map (⟨length,address_of (rest.take count)⟩ :: ·)
termination_by data => data.length
decreasing_by exact drop_shorter _ _ _

def decode_asns : List UInt8 → Option (List UInt16)
  | [] => some []
  | [_] => none
  | hi :: lo :: rest => (decode_asns rest).map (from_be_bytes hi lo :: ·)

def decode_segments : List UInt8 → Option (List PathSegment)
  | [] => some []
  | [_] => none
  | segment_type :: count :: rest =>
    if rest.length < 2 * count.toNat then none
    else do
      let asns ← decode_asns (rest.take (2 * count.toNat))
      let segments ← decode_segments (rest.drop (2 * count.toNat))
      return ⟨segment_type,asns⟩ :: segments
termination_by data => data.length
decreasing_by exact Nat.lt_succ_of_lt (drop_shorter _ _ _)

/-- ORIGIN, AS_PATH and NEXT_HOP are well-known, so neither optional nor partial. -/
def decode_value (flags type_code : UInt8) (value : List UInt8) : Option PathAttribute :=
  if type_code = 1 then
    match value with
    | [origin] => if flags &&& 0xE0 = 0x40 ∧ origin ≤ 2 then some (.Origin origin) else none
    | _ => none
  else if type_code = 2 then if flags &&& 0xE0 = 0x40 then (decode_segments value).map .AsPath else none
  else if type_code = 3 then
    match value with
    | [a,b,c,d] => if flags &&& 0xE0 = 0x40 then some (.NextHop ⟨a,b,c,d⟩) else none
    | _ => none
  else some (.Other flags type_code value)

/-- The length of an attribute takes two bytes if a flag says so. -/
def attribute_length (flags : UInt8) : List UInt8 → Option (Nat × List UInt8)
  | [] => none
  | [length] => if flags &&& 0x10 = 0 then some (length.toNat,[]) else none
  | hi :: lo :: rest =>
    if flags &&& 0x10 = 0 then some (hi.toNat,lo :: rest) else some ((from_be_bytes hi lo).toNat,rest)

theorem attribute_length_shorter {flags : UInt8} {data rest : List UInt8} {length : Nat}
    (found : attribute_length flags data = some (length,rest)) : rest.length < data.length := by
  unfold attribute_length at found
  split at found
  · cases found
  · split_ifs at found
    cases found
    simp
  · split_ifs at found
    · cases found
      simp
    · cases found
      simp only [List.length_cons]
      omega

def decode_attributes : List UInt8 → Option (List PathAttribute)
  | [] => some []
  | [_] => none
  | flags :: type_code :: data =>
    match _ : attribute_length flags data with
    | none => none
    | some (length,rest) =>
      if rest.length < length then none
      else do
        let first ← decode_value flags type_code (rest.take length)
        let attributes ← decode_attributes (rest.drop length)
        return first :: attributes
termination_by data => data.length
decreasing_by
  have shorter := attribute_length_shorter ‹_›
  simp only [List.length_drop,List.length_cons]
  omega

/-! ### Messages -/

def decode_update (body : List UInt8) : Option Update :=
  match body with
  | hi :: lo :: body =>
    let withdrawn_len := (from_be_bytes hi lo).toNat
    match body.drop withdrawn_len with
    | hi :: lo :: rest =>
      let attributes_len := (from_be_bytes hi lo).toNat
      if rest.length < attributes_len then none
      else do
        let withdrawn ← decode_prefixes (body.take withdrawn_len)
        let attributes ← decode_attributes (rest.take attributes_len)
        let nlri ← decode_prefixes (rest.drop attributes_len)
        return ⟨withdrawn,attributes,nlri⟩
    | _ => none
  | _ => none

def decode_body (message_type : UInt8) (body : List UInt8) : Option Message :=
  if message_type = 1 then
    match body with
    | version :: asn_hi :: asn_lo :: hold_hi :: hold_lo :: a :: b :: c :: d :: opt_len :: opt_params =>
      if opt_params.length = opt_len.toNat then
        some (.Open ⟨version,from_be_bytes asn_hi asn_lo,from_be_bytes hold_hi hold_lo,⟨a,b,c,d⟩,opt_params⟩)
      else none
    | _ => none
  else if message_type = 2 then (decode_update body).map .Update
  else if message_type = 3 then
    match body with
    | error_code :: error_subcode :: data => some (.Notification error_code error_subcode data)
    | _ => none
  else if message_type = 4 then if body.isEmpty then some .Keepalive else none
  else none

def marker : List UInt8 := List.replicate 16 0xFF
def header (length : UInt16) (message_type : UInt8) : List UInt8 := marker ++ to_be_bytes length ++ [message_type]

/-- A message, an update and an attribute of a path, with the lengths filled in. -/
def message (message_type : UInt8) (body : List UInt8) : List UInt8 :=
  header (UInt16.ofNat (19 + body.length)) message_type ++ body
def update_body (withdrawn attributes nlri : List UInt8) : List UInt8 :=
  to_be_bytes (UInt16.ofNat withdrawn.length) ++ (withdrawn ++
    (to_be_bytes (UInt16.ofNat attributes.length) ++ (attributes ++ nlri)))
def path_attribute (flags type_code : UInt8) (value : List UInt8) : List UInt8 :=
  flags :: type_code :: UInt8.ofNat value.length :: value

/-- A message is as long as it says, and no longer than 4096 bytes. -/
def decode (data : List UInt8) : Option Message :=
  if data.length < 19 ∨ 4096 < data.length then none
  else if data.take 16 ≠ marker then none
  else if from_be_bytes (data.getD 16 0) (data.getD 17 0) ≠ UInt16.ofNat data.length then none
  else decode_body (data.getD 18 0) (data.drop 19)

/-- The bytes are a message. -/
def WellFormed (data : List UInt8) : Prop := (decode data).isSome

section
variable {data : List UInt8} {fields : Message}

@[simp] theorem header_length (length : UInt16) (message_type : UInt8) : (header length message_type).length = 19 := rfl

theorem decode_message (message_type : UInt8) {body : List UInt8} (fits : 19 + body.length ≤ 4096) :
    decode (message message_type body) = decode_body message_type body := by
  have length : (message message_type body).length = 19 + body.length := by simp [message]
  have said : from_be_bytes ((message message_type body).getD 16 0) ((message message_type body).getD 17 0) =
      UInt16.ofNat (19 + body.length) := from_be_bytes_split _
  have marked : (message message_type body).take 16 = marker := rfl
  rw [decode,length,if_neg (by omega),if_neg (absurd marked),if_neg (absurd said),message,
    List.drop_left' (header_length _ _)]
  rfl

theorem decode_update_body (body : List UInt8) : decode_body 2 body = (decode_update body).map .Update := by
  unfold decode_body
  rw [if_neg (by decide),if_pos rfl]

/-- An OPEN has its fields one after the other. -/
theorem decode_body_open {message_type : UInt8} {body : List UInt8} {fields : Open}
    (decoded : decode_body message_type body = some (.Open fields)) :
    message_type = 1 ∧ ∃ version asn_hi asn_lo hold_hi hold_lo a b c d opt_len opt_params,
      body = version :: asn_hi :: asn_lo :: hold_hi :: hold_lo :: a :: b :: c :: d :: opt_len :: opt_params ∧
      opt_params.length = opt_len.toNat ∧ fields.hold_time = from_be_bytes hold_hi hold_lo := by
  unfold decode_body at decoded
  split_ifs at decoded with is_open is_update is_notification is_keepalive
  · refine ⟨is_open,?_⟩
    split at decoded
    · split_ifs at decoded with length
      cases decoded
      exact ⟨_,_,_,_,_,_,_,_,_,_,_,rfl,length,rfl⟩
    · cases decoded
  · obtain ⟨_,_,same⟩ := Option.map_eq_some_iff.mp decoded
    cases same
  · split at decoded
    · cases decoded
    · cases decoded
  · cases decoded

/-- What a message says of itself. -/
theorem decode_framed (decoded : decode data = some fields) :
    (19 ≤ data.length ∧ data.length ≤ 4096) ∧ data.take 16 = marker ∧
      (from_be_bytes (data.getD 16 0) (data.getD 17 0)).toNat = data.length ∧
      decode_body (data.getD 18 0) (data.drop 19) = some fields := by
  unfold decode at decoded
  split_ifs at decoded with bounds marked said
  rw [not_not] at marked said
  refine ⟨by omega,marked,?_,decoded⟩
  rw [said,UInt16.toNat_ofNat',Nat.mod_eq_of_lt]
  omega

theorem toNat_length {bytes : List UInt8} (small : bytes.length < 2 ^ 16) :
    (from_be_bytes (UInt16.ofNat bytes.length >>> 8).toUInt8 (UInt16.ofNat bytes.length).toUInt8).toNat =
      bytes.length := by
  rw [from_be_bytes_split,UInt16.toNat_ofNat',Nat.mod_eq_of_lt small]

/-- The parts of an update, each after its length. -/
theorem decode_update_eq {withdrawn attributes : List UInt8} (nlri : List UInt8)
    (small_withdrawn : withdrawn.length < 2 ^ 16) (small_attributes : attributes.length < 2 ^ 16) :
    decode_update (update_body withdrawn attributes nlri) =
      do
        let withdrawn ← decode_prefixes withdrawn
        let attributes ← decode_attributes attributes
        let nlri ← decode_prefixes nlri
        return ⟨withdrawn,attributes,nlri⟩ := by
  simp only [decode_update,update_body,to_be_bytes,List.cons_append,List.nil_append,toNat_length small_withdrawn,
    List.drop_left',
    List.take_left']
  simp only [toNat_length small_attributes,List.drop_left',List.take_left',List.length_append]
  rw [if_neg (by omega)]

theorem attribute_length_short {flags : UInt8} (length : UInt8) (rest : List UInt8) (short : flags &&& 0x10 = 0) :
    attribute_length flags (length :: rest) = some (length.toNat,rest) := by
  cases rest with
  | nil => rw [attribute_length,if_pos short]
  | cons byte rest => rw [attribute_length,if_pos short]

theorem decode_attributes_cons {flags : UInt8} (type_code : UInt8) {value : List UInt8} (rest : List UInt8)
    (short : flags &&& 0x10 = 0) (small : value.length < 2 ^ 8) :
    decode_attributes (path_attribute flags type_code value ++ rest) =
      do
        let first ← decode_value flags type_code value
        let attributes ← decode_attributes rest
        return first :: attributes := by
  have length : (UInt8.ofNat value.length).toNat = value.length := by
    rw [UInt8.toNat_ofNat',Nat.mod_eq_of_lt small]
  rw [path_attribute,List.cons_append,List.cons_append,List.cons_append,decode_attributes,
    attribute_length_short _ _ short,length]
  dsimp only
  rw [if_neg (by rw [List.length_append]; omega),List.take_left' rfl,List.drop_left' rfl]

/-- An address of 32 bits. -/
theorem decode_prefixes_host (ip : Ipv4Addr) (rest : List UInt8) :
    decode_prefixes (32 :: ip.octets ++ rest) = (decode_prefixes rest).map (⟨32,ip⟩ :: ·) := by
  rw [List.cons_append,decode_prefixes]
  rfl

end

end Lb.Rfc4271
