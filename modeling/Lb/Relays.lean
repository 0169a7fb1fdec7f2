import Lb.Batches
import Lb.DataPath
import Lb.Icmp
import Lb.Transfers

/-!
# Packets from one side to the other

A thread of its own for a packet I/O receives packets, has the rewriter process them and
sends what comes out, round after round. The other side of the packet I/O puts packets in
and takes packets out at any time.
-/
namespace Lb.Relays
open Lb.Addr Lb.Types Lb.Packet Lb.Buffer Lb.Maglev Lb.Applier Lb.Vips Lb.Rewriter Lb.Xsk

/-- A packet I/O, with what its other side may do. `waiting` is what has come in and has
    not been received, `queued` what has been sent and has not gone out; `accepts` is what
    a call to `send_batch` puts there, and `refuses` what it does not. -/
structure PacketIo where
  Io : Type
  Other : Type
  recv_batch : Io → List PacketBuf → Io × List PacketBuf × Nat
  send_batch : Io → List PacketBuf → Io × Nat
  other : Io → Other → Io
  waiting : Io → List (List UInt8)
  queued : Io → List (List UInt8)
  arriving : Io → Other → List (List UInt8)
  leaving : Io → Other → List (List UInt8)
  accepts : Io → List PacketBuf → List (List UInt8)
  refuses : Io → List PacketBuf → List (List UInt8)
  Sound : Io → Prop
  May : Other → Prop
  recv_sound : ∀ io buf, Sound io → Sound (recv_batch io buf).1
  send_sound : ∀ io buf, Sound io → Sound (send_batch io buf).1
  other_sound : ∀ io o, Sound io → May o → Sound (other io o)
  recv_waiting : ∀ io buf, Sound io → waiting io =
    ((recv_batch io buf).2.1.take (recv_batch io buf).2.2).map PacketBuf.as_slice ++ waiting (recv_batch io buf).1
  send_waiting : ∀ io buf, Sound io → waiting (send_batch io buf).1 = waiting io
  other_waiting : ∀ io o, Sound io → May o → waiting io ++ arriving io o = waiting (other io o)
  recv_queued : ∀ io buf, Sound io → queued (recv_batch io buf).1 = queued io
  send_queued : ∀ io buf, Sound io → queued (send_batch io buf).1 = queued io ++ accepts io buf
  other_queued : ∀ io o, Sound io → May o → queued io = leaving io o ++ queued (other io o)
  accepts_some : ∀ io buf, Sound io → List.Sublist (accepts io buf) (buf.map PacketBuf.as_slice)
  refuses_others : ∀ io buf, Sound io → (accepts io buf ++ refuses io buf).Perm (buf.map PacketBuf.as_slice)

/-- Where a thread is in its round, and how many packets are at the front of its buffers. -/
inductive Phase
  | receiving
  | processing (n : Nat)
  | sending (n : Nat)

variable {T : PacketIo}

/-- A round begins with the buffers of the one before, or with new ones. -/
structure Worker (T : PacketIo) where
  io : T.Io
  rewriter : RewriterThread
  buf : List PacketBuf
  fresh : Bool
  phase : Phase

/-- A part of a round, or what the other side does. The matcher and the tables are loaded,
    and the clock is read, once in a round; the health is read for each packet. -/
inductive Event (T : PacketIo)
  | recv
  | process (vip_matcher : VipMatcher) (lookup_tables : LookupTables) (now : Nat) (health : Nat → Health)
  | send
  | other (o : T.Other)

namespace Worker

def buffers (w : Worker T) : List PacketBuf := if w.fresh then List.replicate w.buf.length .new else w.buf

def step (x : Xxh3) (w : Worker T) : Event T → Worker T
  | .recv =>
    match w.phase with
    | .receiving =>
      let (io,buf,n) := T.recv_batch w.io w.buffers
      { w with io, buf, phase := if n = 0 then .receiving else .processing n }
    | _ => w
  | .process vip_matcher lookup_tables now health =>
    match w.phase with
    | .processing n =>
      let (rewriter,outputs) :=
        w.rewriter.process_batch x vip_matcher lookup_tables now (paired health 0 (w.buf.take n))
      { w with
        rewriter
        buf := outputs ++ w.buf.drop outputs.length
        phase := if 0 < outputs.length then .sending outputs.length else .receiving }
    | _ => w
  | .send =>
    match w.phase with
    | .sending n => { w with io := (T.send_batch w.io (w.buf.take n)).1, phase := .receiving }
    | _ => w
  | .other o => { w with io := T.other w.io o }

/-- The packets that the rewriter gets. -/
def arrivals (w : Worker T) : Event T → List Arrival
  | .process vip_matcher lookup_tables now health =>
    match w.phase with
    | .processing n =>
      (paired health 0 (w.buf.take n)).map (RewriterThread.arrival vip_matcher lookup_tables now)
    | _ => []
  | _ => []
/-- The packets that come out of the rewriter. -/
def outputs (x : Xxh3) (w : Worker T) : Event T → List (List UInt8)
  | .process vip_matcher lookup_tables now health =>
    match w.phase with
    | .processing n =>
      (w.rewriter.process_batch x vip_matcher lookup_tables now (paired health 0 (w.buf.take n))).2.map
        PacketBuf.as_slice
    | _ => []
  | _ => []
def arriving (w : Worker T) : Event T → List (List UInt8)
  | .other o => T.arriving w.io o
  | _ => []
def leaving (w : Worker T) : Event T → List (List UInt8)
  | .other o => T.leaving w.io o
  | _ => []

/-- The packets that are given up, for the buffers are written over in the next round. -/
def lost (w : Worker T) : Event T → List (List UInt8)
  | .send =>
    match w.phase with
    | .sending n => T.refuses w.io (w.buf.take n)
    | _ => []
  | _ => []

/-- What has been received and not processed. -/
def unprocessed (w : Worker T) : List (List UInt8) :=
  match w.phase with
  | .processing n => (w.buf.take n).map PacketBuf.as_slice
  | _ => []
/-- What has been processed and not sent. -/
def unsent (w : Worker T) : List (List UInt8) :=
  match w.phase with
  | .sending n => (w.buf.take n).map PacketBuf.as_slice
  | _ => []

end Worker

/-- The other side does what it may. -/
def Event.May : Event T → Prop
  | .other o => T.May o
  | _ => True

variable {x : Xxh3} {w : Worker T} {e : Event T}

theorem step_sound (sound : T.Sound w.io) (may : e.May) : T.Sound (w.step x e).io := by
  unfold Worker.step
  cases e with
  | recv =>
    cases w.phase with
    | receiving => exact T.recv_sound _ _ sound
    | processing n => exact sound
    | sending n => exact sound
  | process vip_matcher lookup_tables now health => cases w.phase <;> exact sound
  | send =>
    cases w.phase with
    | receiving => exact sound
    | processing n => exact sound
    | sending n => exact T.send_sound _ _ sound
  | other o => exact T.other_sound _ _ sound may

theorem paired_fst (health : Nat → Health) (i : Nat) (packets : List PacketBuf) :
    (paired health i packets).map Prod.fst = packets := by
  induction packets generalizing i with
  | nil => rfl
  | cons packet packets ih =>
    rw [paired,List.zipIdx_cons,List.map_cons,List.map_cons]
    exact congrArg (packet :: ·) (ih (i + 1))

/-! ### One step -/

/-- What comes in is processed in order. -/
theorem step_in (sound : T.Sound w.io) (may : e.May) :
    (w.unprocessed ++ T.waiting w.io) ++ w.arriving e =
      (w.arrivals e).map (·.input.as_slice) ++ ((w.step x e).unprocessed ++ T.waiting (w.step x e).io) := by
  cases e with
  | recv =>
    simp only [Worker.arriving,Worker.arrivals,Worker.step,Worker.unprocessed]
    cases phase : w.phase with
    | receiving =>
      have received := T.recv_waiting w.io w.buffers sound
      rw [received,List.append_nil,List.nil_append,List.map_nil,List.nil_append]
      by_cases none_came : (T.recv_batch w.io w.buffers).2.2 = 0
      · rw [none_came]
        rfl
      · rw [if_neg none_came]
    | processing n => simp [phase]
    | sending n => simp [phase]
  | process vip_matcher lookup_tables now health =>
    simp only [Worker.arriving,Worker.arrivals,Worker.step,Worker.unprocessed]
    cases phase : w.phase with
    | receiving => simp [phase]
    | processing n =>
      have inputs : ((paired health 0 (w.buf.take n)).map
          (RewriterThread.arrival vip_matcher lookup_tables now)).map (·.input.as_slice) =
          (w.buf.take n).map PacketBuf.as_slice := by
        conv_rhs => rw [← paired_fst health 0 (w.buf.take n)]
        rw [List.map_map,List.map_map]
        rfl
      dsimp only
      rw [inputs,List.append_nil]
      split_ifs <;> rfl
    | sending n => simp [phase]
  | send =>
    simp only [Worker.arriving,Worker.arrivals,Worker.step,Worker.unprocessed]
    cases phase : w.phase with
    | receiving => simp [phase]
    | processing n => simp [phase]
    | sending n => simp [T.send_waiting w.io (w.buf.take n) sound]
  | other o =>
    show w.unprocessed ++ T.waiting w.io ++ T.arriving w.io o = [] ++ (w.unprocessed ++ T.waiting (T.other w.io o))
    rw [List.append_assoc,T.other_waiting w.io o sound may,List.nil_append]

/-- All that came out of the rewriter goes out in order, but for what is refused. -/
theorem step_out (sound : T.Sound w.io) (may : e.May) : (∃ n, e = .send ∧ w.phase = .sending n) ∨
    w.leaving e ++ (T.queued (w.step x e).io ++ (w.step x e).unsent) = (T.queued w.io ++ w.unsent) ++ w.outputs x e ∧
      w.lost e = [] := by
  cases e with
  | recv =>
    refine .inr ⟨?_,rfl⟩
    simp only [Worker.leaving,Worker.outputs,Worker.step,Worker.unsent]
    cases phase : w.phase with
    | receiving =>
      dsimp only
      rw [T.recv_queued w.io w.buffers sound]
      by_cases none_came : (T.recv_batch w.io w.buffers).2.2 = 0
      · simp [none_came]
      · simp [none_came]
    | processing n => simp [phase]
    | sending n => simp [phase]
  | process vip_matcher lookup_tables now health =>
    refine .inr ⟨?_,rfl⟩
    simp only [Worker.leaving,Worker.outputs,Worker.step,Worker.unsent]
    cases phase : w.phase with
    | receiving => simp [phase]
    | processing n =>
      dsimp only
      generalize (w.rewriter.process_batch x vip_matcher lookup_tables now (paired health 0 (w.buf.take n))).2 = outputs
      by_cases some_output : 0 < outputs.length
      · rw [if_pos some_output]
        dsimp only
        rw [List.take_left' rfl]
        simp
      · rw [if_neg some_output]
        simp [List.eq_nil_of_length_eq_zero (Nat.eq_zero_of_not_pos some_output)]
    | sending n => simp [phase]
  | send =>
    cases phase : w.phase with
    | sending n => exact .inl ⟨n,rfl,rfl⟩
    | receiving =>
      refine .inr ⟨?_,by rw [Worker.lost,phase]⟩
      simp [Worker.leaving,Worker.outputs,Worker.step,Worker.unsent,phase]
    | processing n =>
      refine .inr ⟨?_,by rw [Worker.lost,phase]⟩
      simp [Worker.leaving,Worker.outputs,Worker.step,Worker.unsent,phase]
  | other o =>
    refine .inr ⟨?_,rfl⟩
    show T.leaving w.io o ++ (T.queued (T.other w.io o) ++ w.unsent) = T.queued w.io ++ w.unsent ++ []
    rw [List.append_nil,T.other_queued w.io o sound may,List.append_assoc]

/-- What goes out is of what came out of the rewriter, in order. -/
theorem step_out_some (sound : T.Sound w.io) (may : e.May) :
    List.Sublist (w.leaving e ++ (T.queued (w.step x e).io ++ (w.step x e).unsent))
      ((T.queued w.io ++ w.unsent) ++ w.outputs x e) := by
  rcases @step_out T x w e sound may with ⟨n,rfl,phase⟩ | ⟨same,_⟩
  · simp only [Worker.leaving,Worker.outputs,Worker.step,Worker.unsent,phase]
    rw [T.send_queued w.io (w.buf.take n) sound,List.nil_append,List.append_nil,List.append_nil]
    exact (T.accepts_some w.io (w.buf.take n) sound).append_left _
  · rw [same]

/-- What goes out and what is refused are what came out of the rewriter. -/
theorem step_out_lost (sound : T.Sound w.io) (may : e.May) :
    ((w.leaving e ++ w.lost e) ++ (T.queued (w.step x e).io ++ (w.step x e).unsent)).Perm
      ((T.queued w.io ++ w.unsent) ++ w.outputs x e) := by
  rcases @step_out T x w e sound may with ⟨n,rfl,phase⟩ | ⟨same,nothing⟩
  · simp only [Worker.leaving,Worker.lost,Worker.outputs,Worker.step,Worker.unsent,phase]
    rw [T.send_queued w.io (w.buf.take n) sound,List.nil_append,List.append_nil,List.append_nil]
    have others := T.refuses_others w.io (w.buf.take n) sound
    refine List.perm_append_comm.trans ?_
    rw [List.append_assoc]
    exact others.append_left _
  · rw [nothing,List.append_nil,same]

/-- The rewriter does with the packets what `process_one` does, the metrics apart. -/
theorem step_rewriter {r : RewriterThread} {metrics : ForwarderMetrics} (same : w.rewriter = { r with metrics })
    (x : Xxh3) (e : Event T) :
    (∃ after, (w.step x e).rewriter = { (w.arrivals e).foldl (RewriterThread.step x) r with metrics := after }) ∧
      w.outputs x e = ((Runs.effects (RewriterThread.answer x) r (w.arrivals e)).filterMap
        ProcessResult.output).map PacketBuf.as_slice := by
  cases e with
  | process vip_matcher lookup_tables now health =>
    simp only [Worker.step,Worker.arrivals,Worker.outputs]
    cases w.phase with
    | receiving => exact ⟨⟨metrics,same⟩,rfl⟩
    | processing n =>
      obtain ⟨after,run⟩ := RewriterThread.process_packets_eq (x := x) vip_matcher lookup_tables now
        (paired health 0 (w.buf.take n)) r metrics
      dsimp only
      rw [same,RewriterThread.process_batch,run]
      exact ⟨⟨_,rfl⟩,rfl⟩
    | sending n => exact ⟨⟨metrics,same⟩,rfl⟩
  | recv =>
    simp only [Worker.step,Worker.arrivals,Worker.outputs]
    cases w.phase <;> exact ⟨⟨metrics,same⟩,rfl⟩
  | send =>
    simp only [Worker.step,Worker.arrivals,Worker.outputs]
    cases w.phase <;> exact ⟨⟨metrics,same⟩,rfl⟩
  | other o => exact ⟨⟨metrics,same⟩,rfl⟩

/-! ### Runs -/

/-- What happens in a run, in order: what `part` finds in each step. -/
def history {A : Type*} (x : Xxh3) (part : Worker T → Event T → List A) (w : Worker T) (events : List (Event T)) :
    List A :=
  Runs.effects (fun w e => (w.step x e,part w e)) w events

theorem run_rewriter {r : RewriterThread} {metrics : ForwarderMetrics} (same : w.rewriter = { r with metrics })
    (x : Xxh3) (events : List (Event T)) :
    (∃ after, (events.foldl (Worker.step x) w).rewriter =
      { (history x Worker.arrivals w events).foldl (RewriterThread.step x) r with metrics := after }) ∧
      history x (Worker.outputs x) w events = ((Runs.effects (RewriterThread.answer x) r
        (history x Worker.arrivals w events)).filterMap ProcessResult.output).map PacketBuf.as_slice := by
  induction events generalizing w r metrics with
  | nil => exact ⟨⟨metrics,same⟩,rfl⟩
  | cons e events ih =>
    obtain ⟨⟨after,stepped⟩,outputs⟩ := step_rewriter same x e
    obtain ⟨rest,rest_outputs⟩ := ih stepped
    have arrived : history x Worker.arrivals w (e :: events) =
        w.arrivals e ++ history x Worker.arrivals (w.step x e) events := rfl
    rw [arrived,List.foldl_append,Runs.effects_append,List.filterMap_append,List.map_append,← outputs]
    exact ⟨rest,congrArg (w.outputs x e ++ ·) rest_outputs⟩

theorem history_map {A B : Type*} (part : Worker T → Event T → List A) (f : A → B) (w : Worker T)
    (events : List (Event T)) :
    history x (fun w e => (part w e).map f) w events = (history x part w events).map f := by
  induction events generalizing w with
  | nil => rfl
  | cons e events ih =>
    show (part w e).map f ++ history x (fun w e => (part w e).map f) (w.step x e) events =
      (part w e ++ history x part (w.step x e) events).map f
    rw [List.map_append,ih]

theorem history_whole {A : Type*} {P : A → Prop} (part other : Worker T → Event T → List A)
    (excluded : ∀ w e, ∀ a ∈ other w e, ¬ P a) (w : Worker T) (events : List (Event T))
    (all : ∀ a ∈ history x (fun w e => part w e ++ other w e) w events, P a) :
    history x (fun w e => part w e ++ other w e) w events = history x part w events := by
  induction events generalizing w with
  | nil => rfl
  | cons e events ih =>
    change ∀ a ∈ (part w e ++ other w e) ++ history x (fun w e => part w e ++ other w e) (w.step x e) events, P a at all
    have nothing : other w e = [] := by
      refine List.eq_nil_iff_forall_not_mem.mpr fun a among => excluded w e a among (all a ?_)
      exact List.mem_append_left _ (List.mem_append_right _ among)
    have rest := ih (w.step x e) fun a among => all a (List.mem_append_right _ among)
    show (part w e ++ other w e) ++ history x (fun w e => part w e ++ other w e) (w.step x e) events =
      part w e ++ history x part (w.step x e) events
    rw [nothing,List.append_nil,rest]

/-- From the start of a round on, packets are processed in the order in which they come in,
    and what comes out of the rewriter goes out in order, but for what is refused. -/
theorem relays (sound : T.Sound w.io) (at_start : w.phase = .receiving) {events : List (Event T)}
    (may : ∀ e ∈ events, e.May) (x : Xxh3) :
    let w' := events.foldl (Worker.step x) w
    let processed := history x Worker.arrivals w events
    let outputs := ((Runs.effects (RewriterThread.answer x) w.rewriter processed).filterMap ProcessResult.output).map
      PacketBuf.as_slice
    T.waiting w.io ++ history x Worker.arriving w events =
        processed.map (·.input.as_slice) ++ (w'.unprocessed ++ T.waiting w'.io) ∧
      List.Sublist (history x Worker.leaving w events ++ (T.queued w'.io ++ w'.unsent)) (T.queued w.io ++ outputs) ∧
      (history x (fun w e => w.leaving e ++ w.lost e) w events ++ (T.queued w'.io ++ w'.unsent)).Perm
        (T.queued w.io ++ outputs) ∧
      ∃ metrics, w'.rewriter = { processed.foldl (RewriterThread.step x) w.rewriter with metrics } := by
  intro w' processed outputs
  have along := (Runs.along_of_forall (fun _ _ => trivial) w events :
    Runs.Along (Worker.step x) (fun _ _ => True) w events).with_mem may
  have keeps : ∀ w (e : Event T), T.Sound (Worker.io w) → True ∧ e.May → T.Sound (w.step x e).io :=
    fun _ _ sound may => step_sound sound may.2
  obtain ⟨rewriter,made⟩ := @run_rewriter T w w.rewriter w.rewriter.metrics rfl x events
  have came : w.unprocessed ++ T.waiting w.io ++ history x Worker.arriving w events =
      history x (fun w e => (w.arrivals e).map (·.input.as_slice)) w events ++ (w'.unprocessed ++ T.waiting w'.io) :=
    along.fifo (fun w => w.unprocessed ++ T.waiting w.io) _ _ keeps (fun w e sound may => step_in sound may.2) sound
  have went : List.Sublist (history x Worker.leaving w events ++ (T.queued w'.io ++ w'.unsent))
      (T.queued w.io ++ w.unsent ++ history x (Worker.outputs x) w events) :=
    along.lossy_fifo (fun w => T.queued w.io ++ w.unsent) _ _ keeps
      (fun w e sound may => step_out_some sound may.2) sound
  have lost : (history x (fun w e => w.leaving e ++ w.lost e) w events ++ (T.queued w'.io ++ w'.unsent)).Perm
      (T.queued w.io ++ w.unsent ++ history x (Worker.outputs x) w events) :=
    along.conserved (fun w => T.queued w.io ++ w.unsent) _ _ keeps
      (fun w e sound may => step_out_lost sound may.2) sound
  have first : w.unprocessed = [] ∧ w.unsent = [] := by
    rw [Worker.unprocessed,Worker.unsent,at_start]
    exact ⟨rfl,rfl⟩
  rw [first.1,List.nil_append,history_map] at came
  rw [first.2,List.append_nil,made] at went lost
  exact ⟨came,went,lost,rewriter⟩

/-- A round of the loop, where nothing happens between its parts. -/
def round (x : Xxh3) (vip_matcher : VipMatcher) (lookup_tables : LookupTables) (now : Nat) (health : Nat → Health)
    (w : Worker T) : Worker T :=
  let (io,buf,n) := T.recv_batch w.io w.buffers
  if n = 0 then { w with io, buf }
  else
    let (rewriter,outputs) :=
      w.rewriter.process_batch x vip_matcher lookup_tables now (paired health 0 (buf.take n))
    let buf := outputs ++ buf.drop outputs.length
    if 0 < outputs.length then
      { w with io := (T.send_batch io (buf.take outputs.length)).1, rewriter, buf }
    else { w with io, rewriter, buf }

theorem round_steps (vip_matcher : VipMatcher) (lookup_tables : LookupTables) (now : Nat) (health : Nat → Health)
    (at_start : w.phase = .receiving) :
    [Event.recv,.process vip_matcher lookup_tables now health,.send].foldl (Worker.step x) w =
      round x vip_matcher lookup_tables now health w := by
  obtain ⟨io,rewriter,buf,fresh,phase⟩ := w
  cases at_start
  rw [round,List.foldl_cons,List.foldl_cons,List.foldl_cons,List.foldl_nil]
  cases received : T.recv_batch io (Worker.buffers ⟨io,rewriter,buf,fresh,.receiving⟩) with
  | mk io' rest =>
    obtain ⟨buf',n⟩ := rest
    have first : Worker.step x ⟨io,rewriter,buf,fresh,.receiving⟩ .recv =
        ⟨io',rewriter,buf',fresh,if n = 0 then .receiving else .processing n⟩ :=
      congrArg (fun received : T.Io × List PacketBuf × Nat =>
        (⟨received.1,rewriter,received.2.1,fresh,if received.2.2 = 0 then .receiving else .processing received.2.2⟩ :
          Worker T)) received
    rw [first]
    by_cases idle : n = 0
    · rw [if_pos idle]
      exact (if_pos idle).symm
    · rw [if_neg idle]
      refine Eq.trans ?_ (if_neg idle).symm
      generalize ran : rewriter.process_batch x vip_matcher lookup_tables now (paired health 0 (buf'.take n)) = batch
      have second : Worker.step x ⟨io',rewriter,buf',fresh,.processing n⟩
          (.process vip_matcher lookup_tables now health) = ⟨io',batch.1,batch.2 ++ buf'.drop batch.2.length,fresh,
            if 0 < batch.2.length then .sending batch.2.length else .receiving⟩ := ran ▸ rfl
      rw [second]
      by_cases some_output : 0 < batch.2.length
      · rw [if_pos some_output]
        exact (if_pos some_output).symm
      · rw [if_neg some_output]
        exact (if_neg some_output).symm

/-! ### Over a socket -/

/-- The other side of a socket is the kernel. -/
inductive Kernel
  | transmit
  | complete (i : Nat)
  | deliver (headroom : Nat) (frame : List UInt8)

def Kernel.event : Kernel → Xsk.Event
  | .transmit => .transmit
  | .complete i => .complete i
  | .deliver headroom frame => .deliver headroom frame

def af_xdp (config : AfXdpConfig) : PacketIo where
  Io := AfXdpIo
  Other := Kernel
  recv_batch := AfXdpIo.recv_batch
  send_batch := AfXdpIo.send_batch
  other io kernel := io.step kernel.event
  waiting := AfXdpIo.received_next
  queued := AfXdpIo.transmitted_next
  arriving io kernel := (io.delivered kernel.event).map (List.take PACKET_BUF_SIZE)
  leaving io kernel := io.transmitted kernel.event
  accepts io buf := io.sent (.send_batch buf)
  refuses io buf := (buf.drop (io.send_batch buf).2).map PacketBuf.as_slice
  Sound io := AfXdpIo.Layout config io ∧ PACKET_BUF_SIZE ≤ config.frame_size
  May kernel := Inside config kernel.event
  recv_sound io buf sound := ⟨@AfXdpIo.Layout.step _ _ sound.1 sound.2 (.recv_batch buf) trivial,sound.2⟩
  send_sound io buf sound := ⟨@AfXdpIo.Layout.step _ _ sound.1 sound.2 (.send_batch buf) trivial,sound.2⟩
  other_sound io kernel sound may := ⟨sound.1.step sound.2 may,sound.2⟩
  recv_waiting io buf sound :=
    (List.append_nil _).symm.trans (@AfXdpIo.Layout.rx_passes _ _ sound.1 sound.2 (.recv_batch buf) trivial)
  send_waiting io buf sound :=
    ((List.append_nil _).symm.trans (@AfXdpIo.Layout.rx_passes _ _ sound.1 sound.2 (.send_batch buf) trivial)).symm
  other_waiting io kernel sound may := by
    have passes := sound.1.rx_passes sound.2 may
    cases kernel <;> exact passes
  recv_queued io buf sound :=
    ((List.append_nil _).symm.trans (@AfXdpIo.Layout.tx_passes _ _ sound.1 sound.2 (.recv_batch buf) trivial)).symm
  send_queued io buf sound := (@AfXdpIo.Layout.tx_passes _ _ sound.1 sound.2 (.send_batch buf) trivial).symm
  other_queued io kernel sound may := by
    have passes := sound.1.tx_passes sound.2 may
    cases kernel <;> exact (List.append_nil _).symm.trans passes
  accepts_some io buf sound := (List.take_sublist _ _).map _
  refuses_others io buf sound := by
    rw [AfXdpIo.sent,← List.map_append,List.take_append_drop]

theorem paired_eq_zip {health : Nat → Health} {packets : List PacketBuf} {n : Nat} (enough : packets.length ≤ n) :
    packets.zip ((List.range n).map health) = paired health 0 packets := by
  refine List.ext_getElem ?_ fun i inside inside' => ?_
  · rw [List.length_zip,List.length_map,List.length_range,paired,List.length_map,List.length_zipIdx]
    omega
  · simp [paired]

/-- A round over a socket is what `run_per_queue` does. -/
theorem round_run_per_queue {config : AfXdpConfig} (vip_matcher : VipMatcher) (lookup_tables : LookupTables) (now : Nat)
    (health : Nat → Health) (io : AfXdpIo) (rewriter : RewriterThread) (buf : List PacketBuf) :
    let w : Worker (af_xdp config) := ⟨io,rewriter,buf,false,.receiving⟩
    let w' := round x vip_matcher lookup_tables now health w
    w'.phase = .receiving ∧ (w'.io,w'.rewriter,w'.buf) = DataPath.run_per_queue x vip_matcher lookup_tables now io
      rewriter buf ((List.range buf.length).map health) := by
  intro w w'
  have few : (io.recv_batch buf).2.2 ≤ buf.length := List.length_take_le _ _
  rw [DataPath.run_per_queue]
  unfold w' round
  cases received : io.recv_batch buf with
  | mk io' rest =>
    obtain ⟨buf',n⟩ := rest
    rw [show (af_xdp config).recv_batch w.io w.buffers = (io',buf',n) from received]
    rw [received] at few
    dsimp only at few ⊢
    by_cases idle : n = 0
    · rw [if_pos idle,if_pos idle]
      exact ⟨rfl,rfl⟩
    · rw [if_neg idle,if_neg idle,paired_eq_zip ((List.length_take_le _ _).trans few)]
      generalize rewriter.process_batch x vip_matcher lookup_tables now (paired health 0 (buf'.take n)) = batch
      by_cases some_output : 0 < batch.2.length
      · rw [if_pos some_output,if_pos some_output]
        exact ⟨rfl,rfl⟩
      · rw [if_neg some_output,if_neg some_output]
        exact ⟨rfl,rfl⟩

/-- In every run of a thread on its own socket, with the steps of the kernel anywhere
    between those of the thread, the packets that the kernel delivers are processed in
    order; what is transmitted is what `process_one` makes of them one by one, in order; and
    nothing of it goes missing but what `send_batch` refuses. -/
theorem socket_relays_in_order (x : Xxh3) (config : AfXdpConfig) (umem : Nat → UInt8) (more : Nat) (io : AfXdpIo)
    (accepted : AfXdpIo.new config umem more = .ok io) (r : RewriterThread) (batch_size : Nat)
    (events : List (Event (af_xdp config))) (inside : ∀ e ∈ events, e.May) :
    let w : Worker (af_xdp config) := ⟨io,r,List.replicate batch_size .new,false,.receiving⟩
    let w' := events.foldl (Worker.step x) w
    let processed := history x Worker.arrivals w events
    let outputs := ((Runs.effects (RewriterThread.answer x) r processed).filterMap ProcessResult.output).map
      PacketBuf.as_slice
    history x Worker.arriving w events =
        processed.map (·.input.as_slice) ++ (w'.unprocessed ++ AfXdpIo.received_next w'.io) ∧
      List.Sublist (history x Worker.leaving w events ++ (AfXdpIo.transmitted_next w'.io ++ w'.unsent)) outputs ∧
      (history x (fun w e => w.leaving e ++ w.lost e) w events ++
        (AfXdpIo.transmitted_next w'.io ++ w'.unsent)).Perm outputs ∧
      ∃ metrics, w'.rewriter = { processed.foldl (RewriterThread.step x) r with metrics } := by
  intro w w' processed outputs
  obtain ⟨layout,size,rx,tx⟩ := AfXdpIo.new_layout accepted
  have none_waits : (af_xdp config).waiting io = [] := by
    show AfXdpIo.received_next io = []
    rw [AfXdpIo.received_next,rx,List.map_nil]
  have none_queued : (af_xdp config).queued io = [] := by
    show AfXdpIo.transmitted_next io = []
    rw [AfXdpIo.transmitted_next,tx,List.map_nil]
  obtain ⟨came,went,lost,rewriter⟩ := @relays (af_xdp config) w ⟨layout,size⟩ rfl events inside x
  rw [show w.io = io from rfl] at came went lost
  rw [none_waits,List.nil_append] at came
  rw [none_queued,List.nil_append] at went lost
  exact ⟨came,went,lost,rewriter⟩

private theorem socket_words : 4 < 2 ^ 32 ∧ 4096 < 2 ^ 32 ∧ 2 < 2 ^ 32 := by decide
private def socket_config : AfXdpConfig := ⟨4,4096,2,socket_words⟩
private def first_packet : List (Event (af_xdp socket_config)) :=
  [.other (.deliver 256 opening.input.as_slice),.recv,
    .process opening.shared.vip_matcher opening.shared.lookup_tables opening.now fun _ => opening.shared.health_status,
    .send]

/-- A packet that the kernel has delivered is received and processed, and what is made of
    it is on the TX ring. -/
theorem socket_relays_packet : ∃ io, AfXdpIo.new socket_config (fun _ => 0) 0 = .ok io ∧
    let w : Worker (af_xdp socket_config) := ⟨io,idle,List.replicate 1 .new,false,.receiving⟩
    let w' := first_packet.foldl (Worker.step hashedPair) w
    let processed := history hashedPair Worker.arrivals w first_packet
    let outputs := ((Runs.effects (RewriterThread.answer hashedPair) idle processed).filterMap ProcessResult.output).map
      PacketBuf.as_slice
    history hashedPair Worker.arriving w first_packet =
        processed.map (·.input.as_slice) ++ (w'.unprocessed ++ AfXdpIo.received_next w'.io) ∧
      List.Sublist (history hashedPair Worker.leaving w first_packet ++
        (AfXdpIo.transmitted_next w'.io ++ w'.unsent)) outputs ∧
      processed.length = 1 ∧ (AfXdpIo.transmitted_next w'.io).length = 1 := by
  have inside : ∀ e ∈ first_packet, e.May := by
    simp only [first_packet,List.forall_mem_cons]
    refine ⟨?_,trivial,trivial,trivial,by simp⟩
    show Inside socket_config (.deliver 256 opening.input.as_slice)
    exact ⟨by decide,by decide⟩
  obtain ⟨came,went,_⟩ :=
    socket_relays_in_order hashedPair socket_config (fun _ => 0) 0 _ rfl idle 1 first_packet inside
  exact ⟨_,rfl,came,went,by decide +kernel,by decide +kernel⟩

/-! ### Over the mock -/

/-- The queues that the mock shares with its handle. -/
structure MockIo where
  rx : List (List UInt8)
  tx : List (List UInt8)

inductive MockIoHandle
  | inject_packet (data : List UInt8)
  | read_transmitted

namespace MockIo
variable (io : MockIo)

def recv_batch (buf : List PacketBuf) : MockIo × List PacketBuf × Nat :=
  let received := io.rx.take buf.length
  ({ io with rx := io.rx.drop buf.length },received.map .from_slice ++ buf.drop received.length,received.length)

/-- Empty packets are passed over. -/
def send_batch (buf : List PacketBuf) : MockIo × Nat :=
  let sent := buf.filter (0 < ·.len)
  ({ io with tx := io.tx ++ sent.map PacketBuf.as_slice },sent.length)

def handle : MockIoHandle → MockIo
  | .inject_packet data => { io with rx := io.rx ++ [data] }
  | .read_transmitted => { io with tx := io.tx.drop 1 }

end MockIo

def mock : PacketIo where
  Io := MockIo
  Other := MockIoHandle
  recv_batch := MockIo.recv_batch
  send_batch := MockIo.send_batch
  other := MockIo.handle
  waiting io := io.rx.map (List.take PACKET_BUF_SIZE)
  queued io := io.tx
  arriving _ call :=
    match call with
    | .inject_packet data => [data.take PACKET_BUF_SIZE]
    | .read_transmitted => []
  leaving io call :=
    match call with
    | .inject_packet _ => []
    | .read_transmitted => io.tx.take 1
  accepts _ buf := (buf.filter (0 < ·.len)).map PacketBuf.as_slice
  refuses _ buf := (buf.filter fun pkt => ! decide (0 < pkt.len)).map PacketBuf.as_slice
  Sound _ := True
  May _ := True
  recv_sound _ _ _ := trivial
  send_sound _ _ _ := trivial
  other_sound _ _ _ _ := trivial
  recv_waiting io buf _ := by
    have front : ((io.recv_batch buf).2.1.take (io.recv_batch buf).2.2) = (io.rx.take buf.length).map .from_slice :=
      List.take_left' (List.length_map _)
    rw [front,List.map_map]
    conv_lhs => rw [← List.take_append_drop buf.length io.rx,List.map_append]
    congr 1
    exact List.map_congr_left fun data _ => (PacketBuf.from_slice_as_slice data).symm
  send_waiting _ _ _ := rfl
  other_waiting io call _ _ := by
    cases call with
    | inject_packet data =>
      show io.rx.map _ ++ [data.take PACKET_BUF_SIZE] = (io.rx ++ [data]).map _
      rw [List.map_append]
      rfl
    | read_transmitted => exact List.append_nil _
  recv_queued _ _ _ := rfl
  send_queued _ _ _ := rfl
  other_queued io call _ _ := by
    cases call with
    | inject_packet data => rfl
    | read_transmitted => exact (List.take_append_drop 1 io.tx).symm
  accepts_some _ buf _ := List.filter_sublist.map _
  refuses_others _ buf _ := by
    rw [← List.map_append]
    exact (List.filter_append_perm _ buf).map _

/-- The single-threaded engine, which takes new buffers for each round. -/
structure ForwarderEngine (T : PacketIo) where
  io : T.Io
  rewriter : RewriterThread
  batch_size : Nat

/-- How many packets were processed is the second part of the result. -/
def ForwarderEngine.run_once (x : Xxh3) (vip_matcher : VipMatcher) (lookup_tables : LookupTables) (now : Nat)
    (health : Nat → Health) (engine : ForwarderEngine T) : ForwarderEngine T × Nat :=
  let (io,rx_buf,received) := T.recv_batch engine.io (List.replicate engine.batch_size .new)
  if received = 0 then ({ engine with io },0)
  else
    let (rewriter,outputs) :=
      engine.rewriter.process_batch x vip_matcher lookup_tables now (paired health 0 (rx_buf.take received))
    if 0 < outputs.length then ({ engine with io := (T.send_batch io outputs).1, rewriter },outputs.length)
    else ({ engine with io, rewriter },outputs.length)

/-- A round with new buffers is what `run_once` does. -/
theorem round_run_once (vip_matcher : VipMatcher) (lookup_tables : LookupTables) (now : Nat) (health : Nat → Health)
    (io : T.Io) (rewriter : RewriterThread) (buf : List PacketBuf) :
    let w' := round x vip_matcher lookup_tables now health ⟨io,rewriter,buf,true,.receiving⟩
    let ran := ForwarderEngine.run_once x vip_matcher lookup_tables now health ⟨io,rewriter,buf.length⟩
    w'.phase = .receiving ∧ (w'.io,w'.rewriter) = (ran.1.io,ran.1.rewriter) := by
  intro w' ran
  unfold w' ran round ForwarderEngine.run_once
  cases received : T.recv_batch io (List.replicate buf.length .new) with
  | mk io' rest =>
    obtain ⟨buf',n⟩ := rest
    rw [show T.recv_batch (Worker.mk io rewriter buf true .receiving).io
      (Worker.mk io rewriter buf true .receiving).buffers = (io',buf',n) from received]
    dsimp only
    by_cases idle : n = 0
    · rw [if_pos idle,if_pos idle]
      exact ⟨rfl,rfl⟩
    · rw [if_neg idle,if_neg idle]
      generalize rewriter.process_batch x vip_matcher lookup_tables now (paired health 0 (buf'.take n)) = batch
      by_cases some_output : 0 < batch.2.length
      · rw [if_pos some_output,if_pos some_output,List.take_left' rfl]
        exact ⟨rfl,rfl⟩
      · rw [if_neg some_output,if_neg some_output]
        exact ⟨rfl,rfl⟩

/-- No packet that comes out of the rewriter is empty. -/
theorem output_some {r : RewriterThread} {a : Arrival} {pkt : PacketBuf}
    (out : (r.process_one x a.shared a.input a.now).2.output = some pkt) : pkt.as_slice ≠ [] := by
  intro empty
  cases result : (r.process_one x a.shared a.input a.now).2 with
  | Forwarded forwarded =>
    rw [result] at out
    cases out
    obtain ⟨_,_,_,sent⟩ := (DataPath.process_one_tunnelled x r a pkt).mp result
    obtain ⟨_,_,_,_,encapsulated⟩ := RewriterThread.gre_encap_to_forwarded.mp sent
    obtain ⟨_,_,_,slice⟩ := Gre.encapsulate_ipv4_eq_some encapsulated
    rw [slice] at empty
    cases empty
  | Icmp error =>
    rw [result] at out
    cases out
    obtain ⟨_,rfl⟩ := Icmp.due_eq_some (Icmp.due_of_icmp result)
    have tos := congrArg (byte · 1) empty
    rw [Mtu.generate_icmp_tos] at tos
    cases tos
  | OversizedRateLimited =>
    rw [result] at out
    cases out
  | Dropped =>
    rw [result] at out
    cases out

theorem outputs_some (r : RewriterThread) (arrivals : List Arrival) :
    ∀ data ∈ ((Runs.effects (RewriterThread.answer x) r arrivals).filterMap ProcessResult.output).map
      PacketBuf.as_slice, data ≠ [] := by
  intro data listed
  obtain ⟨pkt,among,rfl⟩ := List.mem_map.mp listed
  obtain ⟨result,given,out⟩ := List.mem_filterMap.mp among
  have each : ∀ (r : RewriterThread) (a : Arrival), ∀ result ∈ (RewriterThread.answer x r a).2,
      ∀ pkt, result.output = some pkt → pkt.as_slice ≠ [] := by
    intro r a result one pkt out
    cases List.mem_singleton.mp one
    exact output_some out
  exact Runs.forall_effects _ each r arrivals result given pkt out

/-- What the mock refuses is empty. -/
theorem mock_refuses {w : Worker mock} {e : Event mock} : ∀ data ∈ w.lost e, data = [] := by
  intro data lost
  cases e with
  | send =>
    rw [Worker.lost] at lost
    cases phase : w.phase with
    | sending n =>
      rw [phase] at lost
      obtain ⟨pkt,refused,rfl⟩ := List.mem_map.mp lost
      have empty := (List.mem_filter.mp refused).2
      refine List.eq_nil_of_length_eq_zero ?_
      rw [PacketBuf.as_slice_length]
      simpa using empty
    | receiving =>
      rw [phase] at lost
      cases lost
    | processing n =>
      rw [phase] at lost
      cases lost
  | recv => cases lost
  | process _ _ _ _ => cases lost
  | other _ => cases lost

/-- In every run of a thread on a mock, with the calls of the handle anywhere between the
    steps of the thread, what is injected is processed in order, and exactly what
    `process_one` makes of it one by one is transmitted, in order. -/
theorem mock_relays_all (x : Xxh3) (r : RewriterThread) (buf : List PacketBuf) (fresh : Bool)
    (events : List (Event mock)) :
    let w : Worker mock := ⟨⟨[],[]⟩,r,buf,fresh,.receiving⟩
    let w' := events.foldl (Worker.step x) w
    let processed := history x Worker.arrivals w events
    history x Worker.arriving w events =
        processed.map (·.input.as_slice) ++ (w'.unprocessed ++ (MockIo.rx w'.io).map (List.take PACKET_BUF_SIZE)) ∧
      history x Worker.leaving w events ++ (MockIo.tx w'.io ++ w'.unsent) =
        ((Runs.effects (RewriterThread.answer x) r processed).filterMap ProcessResult.output).map PacketBuf.as_slice ∧
      ∃ metrics, w'.rewriter = { processed.foldl (RewriterThread.step x) r with metrics } := by
  intro w w' processed
  obtain ⟨came,went,lost,rewriter⟩ := @relays mock w trivial rfl events (fun e _ => by cases e <;> trivial) x
  refine ⟨came,?_,rewriter⟩
  have whole : history x (fun w e => w.leaving e ++ w.lost e) w events = history x Worker.leaving w events := by
    refine @history_whole mock x _ (· ≠ []) Worker.leaving Worker.lost ?_ w events ?_
    · exact fun w e data lost some_data => some_data (mock_refuses data lost)
    · intro data among
      exact outputs_some r processed data (lost.subset (List.mem_append_left _ among))
  rw [whole] at lost
  exact went.eq_of_length lost.length_eq

end Lb.Relays
