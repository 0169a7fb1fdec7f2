import Lb.Messages

/-!
# The OPEN of the peer

`connect` reads once and takes what it gets for the OPEN; `drive` collects what
it reads and cuts messages off it. Only if the first read returns the OPEN and
nothing else do the messages come out whatever the other reads return.
-/
namespace Lb.Handshake
open Lb.Addr Lb.Packet Lb.Framing Lb.Rfc4271 Lb.Messages

inductive BgpError
  | Session (text : String)
deriving DecidableEq

def debug_type : Option BgpMessageType → String
  | none => "None"
  | some .Open => "Some(Open)"
  | some .Update => "Some(Update)"
  | some .Notification => "Some(Notification)"
  | some .Keepalive => "Some(Keepalive)"

/-- The hold time that `connect` comes to, from what its one read returns. -/
def connect (our_hold : UInt16) (buf : List UInt8) : Except BgpError UInt16 :=
  if buf.length < 19 then .error (.Session "incomplete BGP message from peer")
  else if parse_message_type buf ≠ some .Open then
    .error (.Session ("expected OPEN from peer, got " ++ debug_type (parse_message_type buf)))
  else
    match parse_open_hold_time buf with
    | none => .error (.Session "peer OPEN was malformed; missing hold_time")
    | some peer_hold => .ok (min our_hold peer_hold)

/-- A notification ends the session. -/
def is_notification (msg : List UInt8) : Bool := (parse_notification msg).isSome

/-- What the reads of `drive` make of what they return. The other arms of its
    loop touch none of it. -/
def drive (reads : List (List UInt8)) : Reader UInt8 := Reader.new.run take_message is_notification reads

/-- The hold time of a session and its messages. -/
def session (our_hold : UInt16) (first : List UInt8) (reads : List (List UInt8)) :
    Except BgpError (UInt16 × List (List UInt8)) :=
  match connect our_hold first with
  | .error e => .error e
  | .ok negotiated => .ok (negotiated,(drive reads).messages)

/-- The size of both read buffers. -/
def READ_BUF_SIZE : Nat := 4096

/-- The reads return the stream, piece by piece. -/
structure Reads (reads : List (List UInt8)) (stream : List UInt8) : Prop where
  pieces : reads.flatten = stream
  sizes : ∀ chunk ∈ reads, 0 < chunk.length ∧ chunk.length ≤ READ_BUF_SIZE

/-- The session comes to the hold time of the OPEN and to the messages after it,
    if the first read returns `n` bytes. -/
def Right (our_hold : UInt16) (open_bytes : List UInt8) (fields : Open) (n : Nat) : Prop :=
  ∀ (messages : List (List UInt8)) (first : List UInt8) (reads : List (List UInt8)),
    (∀ message ∈ messages, WellFormed message) → Reads (first :: reads) (open_bytes ++ messages.flatten) →
    first.length = n →
    session our_hold first reads = .ok (min our_hold fields.hold_time,upto is_notification messages)

section
variable {our_hold : UInt16} {open_bytes first : List UInt8} {fields : Open}

/-- Where the fields of an OPEN are. -/
theorem decode_open (valid : decode open_bytes = some (.Open fields)) :
    29 ≤ open_bytes.length ∧ open_bytes.length ≤ 284 ∧ byte open_bytes 18 = 1 ∧
      be16 open_bytes 22 = fields.hold_time := by
  obtain ⟨⟨long,fits⟩,_,_,body⟩ := decode_framed valid
  obtain ⟨is_open,version,asn_hi,asn_lo,hold_hi,hold_lo,a,b,c,d,opt_len,opt_params,split,length,hold⟩ :=
    decode_body_open body
  have small := opt_len.toNat_lt
  have total : (open_bytes.drop 19).length = opt_params.length + 10 := by rw [split]; rfl
  have at_byte : ∀ i, byte open_bytes (19 + i) = (open_bytes.drop 19).getD i 0 := by
    intro i
    simp [byte,List.getD_eq_getElem?_getD,List.getElem?_drop]
  rw [List.length_drop] at total
  refine ⟨by omega,by omega,is_open,?_⟩
  rw [hold,be16,at_byte 3,at_byte 4,split]
  rfl

/-- Enough of an OPEN gives the hold time, whatever is missing or follows. -/
theorem connect_open (our_hold : UInt16) (valid : decode open_bytes = some (.Open fields)) {stream : List UInt8}
    (front : first <+: open_bytes ++ stream) (enough : 24 ≤ first.length) :
    connect our_hold first = .ok (min our_hold fields.hold_time) := by
  obtain ⟨long,_,type,hold⟩ := decode_open valid
  obtain ⟨rest,split⟩ := front
  have same : ∀ i < 24, byte first i = byte open_bytes i := by
    intro i inside
    have joined : byte (first ++ rest) i = byte (open_bytes ++ stream) i := by rw [split]
    rwa [byte_append (by omega),byte_append (by omega)] at joined
  have type_first : parse_message_type first = some .Open := by
    rw [parse_message_type,if_neg (by omega),same 18 (by omega),if_pos type]
  have hold_first : parse_open_hold_time first = some fields.hold_time := by
    rw [parse_open_hold_time,if_neg (by omega),if_neg (absurd type_first),be16,same 22 (by omega),same 23 (by omega),
      ← hold,be16]
  rw [connect,if_neg (by omega),if_neg (absurd type_first),hold_first]

/-- A first read that is too short ends the session. -/
theorem connect_short (our_hold : UInt16) (short : first.length < 24) (negotiated : UInt16) :
    connect our_hold first ≠ .ok negotiated := by
  have no_hold : parse_open_hold_time first = none := by rw [parse_open_hold_time,if_pos short]
  unfold connect
  split_ifs
  · simp
  · simp
  · simp [no_hold]

/-- After a first read of the OPEN alone the messages come out however the rest is
    split. -/
theorem right_open (our_hold : UInt16) (valid : decode open_bytes = some (.Open fields)) :
    Right our_hold open_bytes fields open_bytes.length := by
  intro messages first reads formed returned length
  obtain ⟨long,_⟩ := decode_open valid
  have pieces : first ++ reads.flatten = open_bytes ++ messages.flatten := returned.pieces
  obtain ⟨rfl,stream⟩ := List.append_inj pieces length
  have connected := connect_open our_hold valid (List.prefix_append first messages.flatten) (by omega)
  rw [session,connected,drive,(run_stream take_message_cuts is_notification formed stream).1]

end

/-! ### Other first reads -/

/-- A notification with diagnostic data. -/
def cease (size : Nat) : List UInt8 := message 3 (6 :: 0 :: List.replicate size 0)

theorem cease_length (size : Nat) : (cease size).length = size + 21 := by
  simp [cease,message]
  omega

theorem cease_formed {size : Nat} (fits : size + 21 ≤ 4096) : WellFormed (cease size) := by
  rw [WellFormed,cease,decode_message 3 (by simp; omega)]
  rfl

section
variable {our_hold : UInt16} {open_bytes first : List UInt8} {fields : Open} {n : Nat}

theorem session_ok {reads messages : List (List UInt8)} {negotiated : UInt16}
    (came : session our_hold first reads = .ok (negotiated,messages)) :
    connect our_hold first = .ok negotiated ∧ (drive reads).messages = messages := by
  unfold session at came
  cases connected : connect our_hold first with
  | error e =>
    rw [connected] at came
    cases came
  | ok hold =>
    rw [connected] at came
    cases came
    exact ⟨rfl,rfl⟩

/-- What is left of an OPEN is not the beginning of a message, unless the message
    repeats what is left. -/
theorem left_apart {left : List UInt8} (some_left : left ≠ []) (short : left.length ≤ 400) (rest : List UInt8) :
    left ++ cease 400 ≠ cease 400 ++ rest := by
  intro same
  have positive := List.length_pos_iff.mpr some_left
  have length := cease_length 400
  have differs : ∀ b ∈ (cease 400).drop 16, b ≠ 0xFF := by decide +kernel
  have moved : byte (left ++ cease 400) (left.length + 15) = byte (cease 400) 15 := by
    simp [byte,List.getD_eq_getElem?_getD,List.getElem?_append_right]
  have inside : left.length - 1 < ((cease 400).drop 16).length := by
    rw [List.length_drop]
    omega
  have later : byte (cease 400) (left.length + 15) = ((cease 400).drop 16).get ⟨left.length - 1,inside⟩ := by
    rw [List.get_eq_getElem,List.getElem_drop,byte,List.getD_eq_getElem?_getD,List.getElem?_eq_getElem (by omega)]
    simp only [Option.getD_some]
    congr 1
    omega
  rw [same,byte_append (by omega),later] at moved
  exact differs _ (List.get_mem _ _) moved

/-- A first read that ends inside the OPEN leaves bytes that hold up the messages. -/
theorem wrong_short (valid : decode open_bytes = some (.Open fields)) (positive : 0 < n) (short : n < open_bytes.length) :
    ¬ Right our_hold open_bytes fields n := by
  intro right
  obtain ⟨long,bounded,_⟩ := decode_open valid
  have length : (open_bytes.take n).length = n := by rw [List.length_take]; omega
  have left_length : (open_bytes.drop n).length = open_bytes.length - n := List.length_drop
  have returned : Reads (open_bytes.take n :: [open_bytes.drop n ++ cease 400]) (open_bytes ++ [cease 400].flatten) := by
    refine ⟨by simp [← List.append_assoc],fun chunk listed => ?_⟩
    rcases List.mem_cons.mp listed with rfl | listed
    · rw [length,READ_BUF_SIZE]
      omega
    · rw [List.mem_singleton.mp listed,List.length_append,left_length,cease_length,READ_BUF_SIZE]
      omega
  have came := right [cease 400] (open_bytes.take n) [open_bytes.drop n ++ cease 400]
    (by simpa using cease_formed (by omega)) returned length
  obtain ⟨connected,driven⟩ := session_ok came
  by_cases enough : 24 ≤ n
  · rw [upto_singleton] at driven
    have cut : (take_message (open_bytes.drop n ++ cease 400)).1 = some (cease 400) := Reader.read_first driven
    have same := take_message_splits.cut (open_bytes.drop n ++ cease 400) (cease 400)
      (take_message (open_bytes.drop n ++ cease 400)).2 (by rw [← cut])
    exact left_apart (List.length_pos_iff.mp (by omega)) (by omega) _ same
  · exact connect_short our_hold (by omega) _ connected

/-- A first read that goes on after the OPEN loses what it returns of the messages. -/
theorem wrong_long (valid : decode open_bytes = some (.Open fields)) (fits : n ≤ READ_BUF_SIZE)
    (more : open_bytes.length < n) : ¬ Right our_hold open_bytes fields n := by
  intro right
  obtain ⟨long,_⟩ := decode_open valid
  rw [READ_BUF_SIZE] at fits
  have cease_long := cease_length 4075
  let taken := n - open_bytes.length
  have length : (open_bytes ++ (cease 4075).take taken).length = n := by
    rw [List.length_append,List.length_take]
    omega
  have left_length : ((cease 4075).drop taken).length = 4096 - taken := by rw [List.length_drop,cease_long]
  have returned : Reads ((open_bytes ++ (cease 4075).take taken) :: [(cease 4075).drop taken])
      (open_bytes ++ [cease 4075].flatten) := by
    refine ⟨by simp,fun chunk listed => ?_⟩
    rcases List.mem_cons.mp listed with rfl | listed
    · rw [length,READ_BUF_SIZE]
      omega
    · rw [List.mem_singleton.mp listed,left_length,READ_BUF_SIZE]
      omega
  have came := right [cease 4075] (open_bytes ++ (cease 4075).take taken) [(cease 4075).drop taken]
    (by simpa using cease_formed (by omega)) returned length
  obtain ⟨_,driven⟩ := session_ok came
  have size : (drive [(cease 4075).drop taken]).size ≤
      (Reader.new : Reader UInt8).size + [(cease 4075).drop taken].flatten.length :=
    Reader.run_size take_message_splits .new _
  have empty : (Reader.new : Reader UInt8).size = 0 := rfl
  rw [upto_singleton] at driven
  rw [Reader.size,driven,empty,List.flatten_singleton,List.flatten_singleton,left_length,cease_long] at size
  omega

end

/-- The session comes out right, whatever messages follow and however they are
    split, if and only if the first read returns the OPEN and nothing else. -/
theorem right_iff (our_hold : UInt16) {open_bytes : List UInt8} {fields : Open}
    (valid : decode open_bytes = some (.Open fields)) {n : Nat} (positive : 0 < n) (fits : n ≤ READ_BUF_SIZE) :
    Right our_hold open_bytes fields n ↔ n = open_bytes.length := by
  constructor
  · intro right
    rcases Nat.lt_trichotomy n open_bytes.length with short | same | more
    · exact absurd right (wrong_short valid positive short)
    · exact same
    · exact absurd right (wrong_long valid fits more)
  · rintro rfl
    exact right_open our_hold valid

/-- An OPEN without parameters. -/
theorem right_iff_open :
    Right 90 (encode_open 65000 90 ⟨10,0,0,2⟩) ⟨4,65000,90,⟨10,0,0,2⟩,[]⟩ 29 ↔
      29 = (encode_open 65000 90 ⟨10,0,0,2⟩).length :=
  right_iff 90 (by decide +kernel) (by decide) (by decide)

/-- A notification that comes with the OPEN is lost. -/
theorem notification_lost :
    ¬ ∀ (our_hold : UInt16) (open_bytes : List UInt8) (fields : Open), decode open_bytes = some (.Open fields) →
      ∀ (messages : List (List UInt8)) (first : List UInt8) (reads : List (List UInt8)),
      (∀ message ∈ messages, WellFormed message) → Reads (first :: reads) (open_bytes ++ messages.flatten) →
      session our_hold first reads = .ok (min our_hold fields.hold_time,upto is_notification messages) := by
  intro independent
  have came := independent 90 (encode_open 65000 90 ⟨10,0,0,2⟩) ⟨4,65000,90,⟨10,0,0,2⟩,[]⟩ (by decide +kernel)
    [encode_notification 6 0] (encode_open 65000 90 ⟨10,0,0,2⟩ ++ encode_notification 6 0) []
    (by unfold WellFormed; decide +kernel) ⟨rfl,by decide +kernel⟩
  have none_came : session 90 (encode_open 65000 90 ⟨10,0,0,2⟩ ++ encode_notification 6 0) [] = .ok (90,[]) := by
    decide +kernel
  rw [none_came,upto_singleton] at came
  cases came

end Lb.Handshake
