import Lb.Handshake

/-!
# Bytes that start no message

`take_message` drops one byte that starts no message and says that there is no
message yet, and `drive` then waits for more bytes. Messages behind that byte stay
in the buffer, and so do all other bytes that start none.
-/
namespace Lb.Resync
open Lb.Addr Lb.Packet Lb.Framing Lb.Rfc4271 Lb.Messages Lb.Handshake

/-- The bytes begin with a marker and a length that a message may have. -/
def Header (buf : List UInt8) : Prop :=
  19 ≤ buf.length ∧ buf.take 16 = MARKER ∧ 19 ≤ (be16 buf 16).toNat ∧ (be16 buf 16).toNat ≤ 4096
/-- The bytes begin with a message that has ended. -/
def Whole (buf : List UInt8) : Prop := Header buf ∧ (be16 buf 16).toNat ≤ buf.length
/-- None of the first `n` bytes starts a message. -/
def Garbage (buf : List UInt8) (n : Nat) : Prop := ∀ i < n, ¬ Header (buf.drop i)

instance (buf : List UInt8) : Decidable (Header buf) := inferInstanceAs (Decidable (_ ∧ _))
instance (buf : List UInt8) : Decidable (Whole buf) := inferInstanceAs (Decidable (_ ∧ _))

/-- No message has ended behind bytes that start none, and the buffer is short. -/
structure CaughtUp (buf : List UInt8) : Prop where
  no_message : ∀ n, Garbage buf n → ¬ Whole (buf.drop n)
  short : buf.length < 4096

/-- What is left of the bytes when the messages at their front are cut off, none of
    them a notification. -/
inductive Leaves : List UInt8 → List UInt8 → Prop
  | here {buf : List UInt8} (open_ended : ¬ Whole buf) : Leaves buf buf
  | cut {buf left : List UInt8} (whole : Whole buf) (goes_on : is_notification (buf.take (be16 buf 16).toNat) = false)
      (rest : Leaves (buf.drop (be16 buf 16).toNat) left) : Leaves buf left

/-- What is left starts no message, and has a message behind that or is too long. -/
def Stuck (buf : List UInt8) : Prop :=
  ∃ left, Leaves buf left ∧ 19 ≤ left.length ∧ ¬ Header left ∧
    (4096 < left.length ∨ ∃ n, Garbage left n ∧ Whole (left.drop n))

section
variable {buf left left' : List UInt8}

/-- All that `take_message` does. -/
theorem take_message_cases (buf : List UInt8) :
    (buf.length < 19 ∧ take_message buf = (none,buf)) ∨
    (19 ≤ buf.length ∧ ¬ Header buf ∧ take_message buf = (none,buf.drop 1)) ∨
    (Header buf ∧ ¬ Whole buf ∧ take_message buf = (none,buf)) ∨
    (Whole buf ∧ take_message buf = (some (buf.take (be16 buf 16).toNat),buf.drop (be16 buf 16).toNat)) := by
  unfold take_message
  by_cases short : buf.length < 19
  · exact .inl ⟨short,if_pos short⟩
  · rw [if_neg short]
    have long := Nat.not_lt.mp short
    by_cases marked : buf.take 16 = MARKER
    · rw [if_neg (not_not.mpr marked)]
      dsimp only
      by_cases fits : 19 ≤ (be16 buf 16).toNat ∧ (be16 buf 16).toNat ≤ 4096
      · rw [if_neg (not_not.mpr fits)]
        have header : Header buf := ⟨long,marked,fits⟩
        by_cases part : buf.length < (be16 buf 16).toNat
        · exact .inr (.inr (.inl ⟨header,fun whole => absurd whole.2 (Nat.not_le.mpr part),if_pos part⟩))
        · exact .inr (.inr (.inr ⟨⟨header,Nat.not_lt.mp part⟩,if_neg part⟩))
      · exact .inr (.inl ⟨long,fun header => fits header.2.2,if_pos fits⟩)
    · exact .inr (.inl ⟨long,fun header => marked header.2.1,if_pos marked⟩)

theorem Leaves.open_ended (leaves : Leaves buf left) : ¬ Whole left := by
  induction leaves with
  | here open_ended => exact open_ended
  | cut _ _ _ ih => exact ih

theorem Leaves.unique (leaves : Leaves buf left) (leaves' : Leaves buf left') : left' = left := by
  induction leaves with
  | here open_ended =>
    cases leaves' with
    | here => rfl
    | cut whole => exact absurd whole open_ended
  | cut whole _ _ ih =>
    cases leaves' with
    | here open_ended => exact absurd whole open_ended
    | cut _ _ rest => exact ih rest

/-- The loop stops at a notification, or does one more thing to what is left. -/
theorem cut_leaves (r : Reader UInt8) (going : r.closed = false) (fuel : Nat) (enough : r.incoming.length < fuel) :
    (∃ left, Leaves r.incoming left ∧ (r.cut take_message is_notification fuel).closed = false ∧
      (r.cut take_message is_notification fuel).incoming = (take_message left).2) ∨
    ((r.cut take_message is_notification fuel).closed = true ∧ ∀ left, ¬ Leaves r.incoming left) := by
  induction fuel generalizing r with
  | zero => omega
  | succ fuel ih =>
    rw [Reader.cut]
    obtain ⟨short,taken⟩ | ⟨_,garbage,taken⟩ | ⟨_,part,taken⟩ | ⟨whole,taken⟩ := take_message_cases r.incoming
    · refine .inl ⟨r.incoming,.here fun whole => absurd whole.1.1 (by omega),?_⟩
      rw [taken]
      exact ⟨going,rfl⟩
    · refine .inl ⟨r.incoming,.here fun whole => garbage whole.1,?_⟩
      rw [taken]
      exact ⟨going,rfl⟩
    · refine .inl ⟨r.incoming,.here part,?_⟩
      rw [taken]
      exact ⟨going,rfl⟩
    · rw [taken]
      dsimp only
      by_cases stops : is_notification (r.incoming.take (be16 r.incoming 16).toNat) = true
      · rw [if_pos stops]
        refine .inr ⟨rfl,fun left leaves => ?_⟩
        cases leaves with
        | here open_ended => exact open_ended whole
        | cut _ goes_on => simp [stops] at goes_on
      · rw [if_neg stops]
        have goes_on := Bool.eq_false_of_not_eq_true stops
        have positive := whole.1.2.2.1
        have fewer : (r.incoming.drop (be16 r.incoming 16).toNat).length < fuel := by
          rw [List.length_drop]
          have := whole.2
          omega
        obtain ⟨left,leaves,result⟩ | ⟨closed,none_left⟩ := ih ⟨r.incoming.drop (be16 r.incoming 16).toNat,
          r.messages ++ [r.incoming.take (be16 r.incoming 16).toNat],r.closed⟩ going fewer
        · exact .inl ⟨left,.cut whole goes_on leaves,result⟩
        · refine .inr ⟨closed,fun left leaves => ?_⟩
          cases leaves with
          | here open_ended => exact open_ended whole
          | cut _ _ rest => exact none_left left rest

theorem Garbage.next {n : Nat} (first : ¬ Header buf) : Garbage (buf.drop 1) n ↔ Garbage buf (n + 1) := by
  have shifted : ∀ i, (buf.drop 1).drop i = buf.drop (i + 1) := by
    intro i
    rw [List.drop_drop,Nat.add_comm]
  constructor
  · intro garbage i below
    cases i with
    | zero => exact first
    | succ i =>
      rw [← shifted]
      exact garbage i (by omega)
  · intro garbage i below
    rw [shifted]
    exact garbage (i + 1) (by omega)

theorem Whole.long (whole : Whole buf) : 19 ≤ buf.length := whole.1.1

/-- A few bytes hold no message. -/
theorem caught_up_short (short : buf.length < 19) : CaughtUp buf := by
  refine ⟨fun n _ whole => ?_,by omega⟩
  have long := whole.long
  rw [List.length_drop] at long
  omega

/-- The beginning of a message is caught up with. -/
theorem caught_up_part (header : Header buf) (part : ¬ Whole buf) : CaughtUp buf := by
  constructor
  · intro n garbage
    cases n with
    | zero => exact part
    | succ n => exact absurd header (garbage 0 (by omega))
  · have bounded := header.2.2.2
    have missing : buf.length < (be16 buf 16).toNat := by
      by_contra ended
      exact part ⟨header,by omega⟩
    omega

/-- After one byte that starts no message is dropped, nothing more may follow it
    than fits, and no message. -/
theorem caught_up_drop (long : 19 ≤ buf.length) (garbage : ¬ Header buf) :
    CaughtUp (buf.drop 1) ↔ ¬ (4096 < buf.length ∨ ∃ n, Garbage buf n ∧ Whole (buf.drop n)) := by
  constructor
  · rintro ⟨no_message,short⟩ (too_long | ⟨n,before,whole⟩)
    · rw [List.length_drop] at short
      omega
    · cases n with
      | zero => exact garbage whole.1
      | succ n =>
        refine no_message n ((Garbage.next garbage).mpr before) ?_
        rwa [List.drop_drop,Nat.add_comm]
  · intro fine
    constructor
    · intro n before whole
      rw [List.drop_drop,Nat.add_comm] at whole
      exact fine (.inr ⟨n + 1,(Garbage.next garbage).mp before,whole⟩)
    · have fits : ¬ 4096 < buf.length := fun too_long => fine (.inl too_long)
      rw [List.length_drop]
      omega

/-- What `take_message` leaves of bytes that do not begin with a whole message. -/
theorem take_caught_up (open_ended : ¬ Whole left) :
    CaughtUp (take_message left).2 ↔ ¬ (19 ≤ left.length ∧ ¬ Header left ∧
      (4096 < left.length ∨ ∃ n, Garbage left n ∧ Whole (left.drop n))) := by
  obtain ⟨short,taken⟩ | ⟨long,garbage,taken⟩ | ⟨header,part,taken⟩ | ⟨whole,_⟩ := take_message_cases left
  · rw [taken]
    exact iff_of_true (caught_up_short short) fun stuck => absurd stuck.1 (by omega)
  · rw [taken]
    simp only [long,garbage,not_false_eq_true,true_and]
    exact caught_up_drop long garbage
  · rw [taken]
    exact iff_of_true (caught_up_part header part) fun stuck => stuck.2.1 header
  · exact absurd whole open_ended

/-- A read leaves the buffer caught up with unless it leaves the reader stuck. -/
theorem read_caught_up {r : Reader UInt8} (going : r.closed = false) (chunk : List UInt8) :
    ((r.read take_message is_notification chunk).closed = false →
      CaughtUp (r.read take_message is_notification chunk).incoming) ↔ ¬ Stuck (r.incoming ++ chunk) := by
  have start : r.read take_message is_notification chunk =
      ({ r with incoming := r.incoming ++ chunk } : Reader UInt8).cut take_message is_notification
        ((r.incoming ++ chunk).length + 1) := by
    rw [Reader.read,if_neg (by simp [going])]
  rw [start]
  obtain ⟨left,leaves,still,incoming⟩ | ⟨closed,none_left⟩ :=
    cut_leaves { r with incoming := r.incoming ++ chunk } going _ (Nat.lt_succ_self _)
  · rw [still,incoming,take_caught_up leaves.open_ended]
    constructor
    · rintro fine ⟨left',leaves',stuck⟩
      rw [leaves.unique leaves'] at stuck
      exact fine rfl stuck
    · intro free _ stuck
      exact free ⟨left,leaves,stuck⟩
  · rw [closed]
    refine iff_of_true (fun still => by simp at still) ?_
    rintro ⟨left,leaves,_⟩
    exact none_left left leaves

theorem drive_snoc (seen : List (List UInt8)) (chunk : List UInt8) :
    drive (seen ++ [chunk]) = (drive seen).read take_message is_notification chunk := by
  simp [drive,Reader.run]

/-- A session that goes on has gone on before. -/
theorem drive_going {seen : List (List UInt8)} {chunk : List UInt8}
    (going : (drive (seen ++ [chunk])).closed = false) : (drive seen).closed = false := by
  by_contra closed
  rw [drive_snoc,Reader.read,if_pos (by simpa using closed)] at going
  exact closed going

theorem caught_up_nil : CaughtUp [] := caught_up_short (by simp)

/-! ### Streams of messages and of garbage -/

/-- The beginning of a message is caught up with, however much of it there is. -/
theorem begun_caught_up {rest : List UInt8} {todo : List (List UInt8)} (formed : ∀ message ∈ todo, WellFormed message)
    (begun : Begun rest todo) : CaughtUp rest := by
  rcases begun with ⟨rfl,_⟩ | ⟨message,later,rfl,front,proper⟩
  · exact caught_up_nil
  · have waits := take_message_part (formed message List.mem_cons_self) front proper
    obtain ⟨short,_⟩ | ⟨long,_,taken⟩ | ⟨header,part,_⟩ | ⟨_,taken⟩ := take_message_cases rest
    · exact caught_up_short short
    · rw [waits,Prod.mk.injEq] at taken
      have fewer := congrArg List.length taken.2
      rw [List.length_drop] at fewer
      omega
    · exact caught_up_part header part
    · rw [waits] at taken
      cases taken

/-- Where the stream is one of messages, every read catches up, however the stream
    is split. -/
theorem formed_caught_up {messages reads : List (List UInt8)} (formed : ∀ message ∈ messages, WellFormed message)
    (front : reads.flatten <+: messages.flatten) (going : (drive reads).closed = false) :
    CaughtUp (drive reads).incoming := by
  have caught : (drive reads).Caught is_notification ([] ++ reads.flatten) messages :=
    Reader.run_caught take_message_cuts formed (Reader.new_caught take_message_cuts formed) (by simpa using front)
  obtain ⟨todo,same,_,_,begun⟩ := caught.going going
  refine begun_caught_up (fun message listed => formed message ?_) begun
  rw [same]
  exact List.mem_append_right _ listed

theorem zeroes_start_nothing (size : Nat) : ¬ Header (List.replicate size 0) := by
  intro header
  have marked := header.2.1
  rw [List.take_replicate,Nat.min_eq_left (by simpa using Nat.le_trans (by decide) header.1)] at marked
  exact absurd marked (by decide)

/-- Each read of zeroes leaves all but one of them: the buffer has no bound. -/
theorem zeroes_pile_up (size : Nat) (long : 19 ≤ size) (count : Nat) :
    drive (List.replicate count (List.replicate size 0)) = ⟨List.replicate (count * (size - 1)) 0,[],false⟩ := by
  induction count with
  | zero => simp [drive,Reader.run,Reader.new]
  | succ count ih =>
    rw [List.replicate_succ',drive_snoc,ih,Reader.read,if_neg (by simp)]
    dsimp only
    rw [List.replicate_append_replicate,Reader.cut]
    obtain ⟨short,_⟩ | ⟨_,_,taken⟩ | ⟨header,_⟩ | ⟨whole,_⟩ :=
      take_message_cases (List.replicate (count * (size - 1) + size) 0)
    · rw [List.length_replicate] at short
      omega
    · have left : count * (size - 1) + size - 1 = (count + 1) * (size - 1) := by
        rw [Nat.succ_mul]
        omega
      rw [taken,List.drop_replicate,left]
    · exact absurd header (zeroes_start_nothing _)
    · exact absurd whole.1 (zeroes_start_nothing _)

end

/-- The buffer is caught up with after every read if and only if no read leaves the
    reader stuck, whatever the bytes and the reads. -/
theorem catches_up_iff (reads : List (List UInt8)) :
    (∀ seen, seen <+: reads → (drive seen).closed = false → CaughtUp (drive seen).incoming) ↔
      ∀ seen chunk, seen ++ [chunk] <+: reads → (drive seen).closed = false →
        ¬ Stuck ((drive seen).incoming ++ chunk) := by
  constructor
  · intro caught seen chunk front going
    rw [← read_caught_up going chunk,← drive_snoc]
    exact caught (seen ++ [chunk]) front
  · intro free seen front going
    rcases List.eq_nil_or_concat seen with rfl | ⟨before,chunk,rfl⟩
    · exact caught_up_nil
    · rw [List.concat_eq_append] at front going ⊢
      have read := (read_caught_up (drive_going going) chunk).mpr (free before chunk front (drive_going going))
      rw [← drive_snoc] at read
      exact read going

/-- A notification behind one byte that starts no message is left in the buffer. -/
theorem notification_held_up :
    ¬ ∀ reads : List (List UInt8), (∀ chunk ∈ reads, 0 < chunk.length ∧ chunk.length ≤ READ_BUF_SIZE) →
      ∀ seen, seen <+: reads → (drive seen).closed = false → CaughtUp (drive seen).incoming := by
  intro always
  have caught := always [0 :: cease 0] (by decide +kernel) [0 :: cease 0] List.prefix_rfl (by decide +kernel)
  have left : (drive [0 :: cease 0]).incoming = cease 0 := by decide +kernel
  rw [left] at caught
  exact caught.no_message 0 (fun i below => absurd below (Nat.not_lt_zero i)) (by decide +kernel)

end Lb.Resync
