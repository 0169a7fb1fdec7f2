import Mathlib.Data.List.Basic

/-!
# Messages out of a stream

A reader collects what it is given piece by piece, and cuts messages off the
front of what it has. Where the cutting knows the end of a message by the
message alone, the messages come out the same however the stream is split.
-/
namespace Lb.Framing
variable {B : Type*}

/-- Cuts a message off the front of a buffer, or none yet, and leaves the rest. -/
abbrev Cutter (B : Type*) := List B → Option (List B) × List B

/-- What is left to cut, the messages so far, and whether the reader has stopped. -/
structure Reader (B : Type*) where
  incoming : List B
  messages : List (List B)
  closed : Bool
deriving DecidableEq

def Reader.new : Reader B := ⟨[],[],false⟩

section
variable (take : Cutter B) (stops : List B → Bool)

/-- The loop that cuts until there is no message to cut, or one that stops the
    reader; it goes round once for every element of the buffer at most. -/
def Reader.cut : Nat → Reader B → Reader B
  | 0, r => r
  | fuel + 1, r =>
    match take r.incoming with
    | (none,incoming) => { r with incoming }
    | (some message,incoming) =>
      if stops message then ⟨incoming,r.messages ++ [message],true⟩
      else cut fuel ⟨incoming,r.messages ++ [message],r.closed⟩

def Reader.read (r : Reader B) (chunk : List B) : Reader B :=
  if r.closed then r
  else
    let r := { r with incoming := r.incoming ++ chunk }
    r.cut take stops (r.incoming.length + 1)

def Reader.run (r : Reader B) (chunks : List (List B)) : Reader B := chunks.foldl (Reader.read take stops) r

/-- The messages up to the first that stops the reader. -/
def upto : List (List B) → List (List B)
  | [] => []
  | message :: messages => if stops message then [message] else message :: upto messages

end

/-- The cutter takes a message off whatever follows it, and waits for the end of
    one that it has the beginning of. -/
structure Cuts (take : Cutter B) (Message : List B → Prop) : Prop where
  nonempty : ∀ message, Message message → message ≠ []
  empty : take [] = (none,[])
  whole : ∀ message rest, Message message → take (message ++ rest) = (some message,rest)
  part : ∀ message front, Message message → front <+: message → front ≠ message → take front = (none,front)

/-- A message is cut off the front, and nothing is left that was not there. -/
structure Splits (take : Cutter B) : Prop where
  cut : ∀ buf message rest, take buf = (some message,rest) → buf = message ++ rest
  left : ∀ buf rest, take buf = (none,rest) → rest <:+ buf

/-- What is left is no whole message, but the beginning of the first of those to come. -/
def Begun (rest : List B) (todo : List (List B)) : Prop :=
  (rest = [] ∧ todo = []) ∨ ∃ message messages, todo = message :: messages ∧ rest <+: message ∧ rest ≠ message

/-- The reader has the messages that have ended. -/
structure Reader.Caught (stops : List B → Bool) (r : Reader B) (consumed : List B) (messages : List (List B)) : Prop where
  going : r.closed = false → ∃ todo, messages = r.messages ++ todo ∧ (∀ message ∈ r.messages, stops message = false) ∧
    consumed = r.messages.flatten ++ r.incoming ∧ Begun r.incoming todo
  stopped : r.closed = true → r.messages = upto stops messages ∧ ∃ message ∈ messages, stops message = true

section
variable {take : Cutter B} {stops : List B → Bool} {Message : List B → Prop} {messages taken : List (List B)}
  {r : Reader B}

theorem upto_append (going : ∀ message ∈ taken, stops message = false) :
    upto stops (taken ++ messages) = taken ++ upto stops messages := by
  induction taken with
  | nil => rfl
  | cons message taken ih =>
    rw [List.cons_append,upto,going message List.mem_cons_self,
      ih fun message listed => going message (List.mem_cons_of_mem _ listed)]
    rfl

theorem upto_eq_self (going : ∀ message ∈ messages, stops message = false) : upto stops messages = messages := by
  have appended : upto stops (messages ++ []) = messages ++ upto stops [] := upto_append going
  simpa [upto] using appended

/-- Cutting the front of a stream leaves the beginning of a message. -/
theorem Reader.cut_caught (cuts : Cuts take Message) {todo : List (List B)} (formed : ∀ message ∈ todo, Message message)
    (started : r.closed = false) (going : ∀ message ∈ r.messages, stops message = false)
    (front : r.incoming <+: todo.flatten) {fuel : Nat} (enough : r.incoming.length < fuel) :
    (r.cut take stops fuel).Caught stops (r.messages.flatten ++ r.incoming) (r.messages ++ todo) := by
  induction fuel generalizing r todo with
  | zero => omega
  | succ fuel ih =>
    cases todo with
    | nil =>
      have none_left : r.incoming = [] := List.prefix_nil.mp front
      rw [Reader.cut,none_left,cuts.empty]
      exact ⟨fun _ => ⟨[],rfl,going,rfl,.inl ⟨rfl,rfl⟩⟩,fun closed => by simp [started] at closed⟩
    | cons message todo =>
      obtain ⟨formed_first,formed⟩ := List.forall_mem_cons.mp formed
      rw [List.flatten_cons] at front
      by_cases ended : message <+: r.incoming
      · obtain ⟨rest,split⟩ := ended
        have next : rest <+: todo.flatten := by rwa [← split,List.prefix_append_right_inj] at front
        have shorter : rest.length < fuel := by
          have positive := List.length_pos_iff.mpr (cuts.nonempty message formed_first)
          rw [← split,List.length_append] at enough
          omega
        rw [Reader.cut,← split,cuts.whole message rest formed_first]
        dsimp only
        by_cases last : stops message = true
        · rw [if_pos last]
          refine ⟨fun closed => by simp at closed,fun _ => ⟨?_,message,by simp,last⟩⟩
          rw [upto_append going,upto,if_pos last]
        · rw [if_neg last]
          have caught := ih (r := ⟨rest,r.messages ++ [message],r.closed⟩) formed started (by
            intro m listed
            rcases List.mem_append.mp listed with before | added
            · exact going m before
            · simpa [List.mem_singleton.mp added] using last) next shorter
          simpa using caught
      · have begun : r.incoming <+: message := by
          rcases List.prefix_or_prefix_of_prefix front (List.prefix_append message todo.flatten) with less | more
          · exact less
          · exact absurd more ended
        have proper : r.incoming ≠ message := by
          intro same
          exact ended (same ▸ List.prefix_rfl)
        rw [Reader.cut,cuts.part message r.incoming formed_first begun proper]
        exact ⟨fun _ => ⟨message :: todo,rfl,going,rfl,.inr ⟨message,todo,rfl,begun,proper⟩⟩,
          fun closed => by simp [started] at closed⟩

/-- Reading a piece of a stream keeps up with it. -/
theorem Reader.read_caught (cuts : Cuts take Message) (formed : ∀ message ∈ messages, Message message)
    {consumed : List B} (caught : r.Caught stops consumed messages) {chunk : List B}
    (front : consumed ++ chunk <+: messages.flatten) :
    (r.read take stops chunk).Caught stops (consumed ++ chunk) messages := by
  by_cases closed : r.closed = true
  · rw [Reader.read,if_pos closed]
    exact ⟨fun going => by simp [closed] at going,caught.stopped⟩
  · have started : r.closed = false := by simpa using closed
    obtain ⟨todo,rfl,going,rfl,_⟩ := caught.going started
    rw [Reader.read,if_neg closed,List.append_assoc]
    refine Reader.cut_caught (r := { r with incoming := r.incoming ++ chunk }) cuts (fun message listed => ?_) started
      going ?_ (Nat.lt_succ_self _)
    · exact formed message (List.mem_append_right _ listed)
    · rwa [List.flatten_append,List.append_assoc,List.prefix_append_right_inj] at front

theorem Reader.run_caught (cuts : Cuts take Message) (formed : ∀ message ∈ messages, Message message)
    {consumed : List B} (caught : r.Caught stops consumed messages) {chunks : List (List B)}
    (front : consumed ++ chunks.flatten <+: messages.flatten) :
    (r.run take stops chunks).Caught stops (consumed ++ chunks.flatten) messages := by
  induction chunks generalizing r consumed with
  | nil => simpa [Reader.run] using caught
  | cons chunk chunks ih =>
    rw [List.flatten_cons,← List.append_assoc] at front ⊢
    exact ih (Reader.read_caught cuts formed caught ((List.prefix_append _ _).trans front)) front

theorem Reader.new_caught (cuts : Cuts take Message) (formed : ∀ message ∈ messages, Message message) :
    (Reader.new : Reader B).Caught stops [] messages := by
  refine ⟨fun _ => ⟨messages,rfl,by simp [Reader.new],rfl,?_⟩,fun closed => by simp [Reader.new] at closed⟩
  cases messages with
  | nil => exact .inl ⟨rfl,rfl⟩
  | cons message messages =>
    exact .inr ⟨message,messages,rfl,List.nil_prefix,(cuts.nonempty message (formed message List.mem_cons_self)).symm⟩

/-- A reader that has kept up to the end of the stream has all messages, or those
    up to the one that stopped it. -/
theorem Reader.Caught.all (caught : r.Caught stops messages.flatten messages) :
    r.messages = upto stops messages ∧ (r.closed = false → r.incoming = []) := by
  by_cases closed : r.closed = true
  · exact ⟨(caught.stopped closed).1,fun going => by simp [closed] at going⟩
  · obtain ⟨todo,same,going,consumed,begun⟩ := caught.going (by simpa using closed)
    rw [same,List.flatten_append,List.append_cancel_left_eq] at consumed
    rcases begun with ⟨none_left,done⟩ | ⟨message,later,rfl,front,proper⟩
    · subst done
      rw [List.append_nil] at same
      exact ⟨by rw [same,upto_eq_self going],fun _ => none_left⟩
    · have whole : message <+: r.incoming := by
        rw [← consumed,List.flatten_cons]
        exact List.prefix_append _ _
      exact absurd (front.eq_of_length_le whole.length_le) proper

theorem stream_caught (cuts : Cuts take Message) (stops : List B → Bool) (formed : ∀ message ∈ messages, Message message)
    {chunks : List (List B)} (stream : chunks.flatten = messages.flatten) :
    (Reader.new.run take stops chunks).Caught stops messages.flatten messages := by
  rw [← stream,← List.nil_append chunks.flatten]
  have front : [] ++ chunks.flatten <+: messages.flatten := by simp [stream]
  exact Reader.run_caught cuts formed (Reader.new_caught cuts formed) front

/-- However the stream is split, its messages come out, in order. -/
theorem run_stream (cuts : Cuts take Message) (stops : List B → Bool) (formed : ∀ message ∈ messages, Message message)
    {chunks : List (List B)} (stream : chunks.flatten = messages.flatten) :
    (Reader.new.run take stops chunks).messages = upto stops messages ∧
      ((Reader.new.run take stops chunks).closed = false → (Reader.new.run take stops chunks).incoming = []) :=
  (stream_caught cuts stops formed stream).all

theorem run_going (cuts : Cuts take Message) (formed : ∀ message ∈ messages, Message message)
    (never : ∀ message ∈ messages, stops message = false) {chunks : List (List B)}
    (stream : chunks.flatten = messages.flatten) : (Reader.new.run take stops chunks).closed = false := by
  by_contra closed
  obtain ⟨_,message,listed,stop⟩ := (stream_caught cuts stops formed stream).stopped (by simpa using closed)
  simp [never message listed] at stop

/-! ### What comes out -/

/-- How much a reader has. -/
def Reader.size (r : Reader B) : Nat := r.messages.flatten.length + r.incoming.length

theorem Reader.cut_size (splits : Splits take) (r : Reader B) (fuel : Nat) : (r.cut take stops fuel).size ≤ r.size := by
  induction fuel generalizing r with
  | zero => exact Nat.le_refl _
  | succ fuel ih =>
    rw [Reader.cut]
    rcases took : take r.incoming with ⟨_ | message,rest⟩
    · have fewer := (splits.left r.incoming rest took).length_le
      simp only [Reader.size]
      omega
    · have same := congrArg List.length (splits.cut r.incoming message rest took)
      rw [List.length_append] at same
      have moved : Reader.size ⟨rest,r.messages ++ [message],r.closed⟩ = r.size := by
        simp only [Reader.size,List.flatten_append,List.length_append,List.flatten_cons,List.flatten_nil,
          List.append_nil]
        omega
      dsimp only
      by_cases last : stops message = true
      · rw [if_pos last]
        exact Nat.le_of_eq moved
      · rw [if_neg last]
        exact Nat.le_trans (ih _) (Nat.le_of_eq moved)

/-- No more comes out than goes in. -/
theorem Reader.run_size (splits : Splits take) (r : Reader B) (chunks : List (List B)) :
    (r.run take stops chunks).size ≤ r.size + chunks.flatten.length := by
  induction chunks generalizing r with
  | nil => exact Nat.le_refl _
  | cons chunk chunks ih =>
    have read : (r.read take stops chunk).size ≤ r.size + chunk.length := by
      rw [Reader.read]
      by_cases closed : r.closed = true
      · rw [if_pos closed]
        omega
      · rw [if_neg closed]
        refine Nat.le_trans (Reader.cut_size splits _ _) ?_
        simp only [Reader.size,List.length_append]
        omega
    have rest := ih (r.read take stops chunk)
    rw [List.flatten_cons,List.length_append]
    exact Nat.le_trans rest (by omega)

theorem Reader.cut_messages (r : Reader B) (fuel : Nat) : r.messages <+: (r.cut take stops fuel).messages := by
  induction fuel generalizing r with
  | zero => exact List.prefix_rfl
  | succ fuel ih =>
    rw [Reader.cut]
    rcases take r.incoming with ⟨_ | message,rest⟩
    · exact List.prefix_rfl
    · dsimp only
      by_cases last : stops message = true
      · rw [if_pos last]
        exact List.prefix_append _ _
      · rw [if_neg last]
        exact (List.prefix_append _ [message]).trans (ih ⟨rest,r.messages ++ [message],r.closed⟩)

/-- The first message of a piece is the first that is cut off it. -/
theorem Reader.read_first {chunk message : List B} {later : List (List B)}
    (read : (Reader.new.read take stops chunk).messages = message :: later) : (take chunk).1 = some message := by
  have start : Reader.new.read take stops chunk = Reader.cut take stops (chunk.length + 1) ⟨chunk,[],false⟩ := rfl
  rw [start,Reader.cut] at read
  dsimp only at read
  rcases took : take chunk with ⟨_ | message',rest⟩
  · rw [took] at read
    cases read
  · rw [took] at read
    dsimp only at read
    by_cases last : stops message' = true
    · rw [if_pos last] at read
      rw [List.nil_append,List.cons.injEq] at read
      rw [read.1]
    · rw [if_neg last] at read
      have first : [message'] <+: (Reader.cut take stops chunk.length ⟨rest,[message'],false⟩).messages :=
        Reader.cut_messages ⟨rest,[message'],false⟩ chunk.length
      rw [List.nil_append] at read
      rw [read,List.cons_prefix_cons] at first
      rw [first.1]

theorem upto_singleton (message : List B) : upto stops [message] = [message] := by
  rw [upto]
  split_ifs <;> rfl

end

end Lb.Framing
