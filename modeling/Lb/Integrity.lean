import Lb.Steering

/-!
# What the pipeline sends

The packets that go out are encapsulations of packets that came in, none of them
twice, and those of one flow in the order in which they came. A packet keeps its
place in the line of its queue from the steering thread to the muxer.
-/
namespace Lb.Threading
open Lb.Addr Lb.Types Lb.Packet Lb.Buffer Lb.Maglev Lb.Applier Lb.Vips Lb.Connections Lb.Fragments Lb.Gre Lb.Rewriter
  Lb.Census

/-- The packet that goes out is the packet that came in, in a tunnel from the
    address. -/
def Encapsulates (src_ipv4 : Ipv4Addr) (inner outer : List UInt8) : Prop :=
  ∃ pkt out backend, encapsulate_ipv4 pkt src_ipv4 backend = some out ∧ pkt.as_slice = inner ∧ out.as_slice = outer

theorem Encapsulates.ne_nil {src_ipv4 : Ipv4Addr} {inner outer : List UInt8}
    (encapsulates : Encapsulates src_ipv4 inner outer) : outer ≠ [] := by
  obtain ⟨pkt,out,backend,encapsulated,_,rfl⟩ := encapsulates
  obtain ⟨_,_,_,slice⟩ := encapsulate_ipv4_eq_some encapsulated
  rw [slice]
  exact List.cons_ne_nil _ _

/-- The 5-tuple of a packet that is not fragmented. -/
def flow_of (pkt : PacketBuf) : Option PacketMeta :=
  if is_fragment pkt.as_slice then none
  else (PacketMeta.from_ip_bytes pkt.as_slice).map fun pkt_meta => { pkt_meta with tcp_flags := none }

/-- What is sent comes from what was received: each packet from the one at its
    origin, no origin comes twice, and those of a flow come in order. -/
structure InOrder (src_ipv4 : Ipv4Addr) (received : List PacketBuf) (transmitted : List (List UInt8))
    (origins : List Nat) : Prop where
  genuine : List.Forall₂ (fun o out => ∃ pkt, received[o]? = some pkt ∧ Encapsulates src_ipv4 pkt.as_slice out) origins
    transmitted
  once : origins.Nodup
  ordered : ∀ flow, (origins.filter fun o => received[o]?.bind flow_of = some flow).Pairwise (· < ·)

theorem InOrder.encapsulates {src_ipv4 : Ipv4Addr} {received : List PacketBuf} {transmitted : List (List UInt8)}
    {origins : List Nat} {out : List UInt8} (in_order : InOrder src_ipv4 received transmitted origins)
    (sent : out ∈ transmitted) : ∃ pkt ∈ received, Encapsulates src_ipv4 pkt.as_slice out := by
  obtain ⟨i,inside,rfl⟩ := List.getElem_of_mem sent
  have same := in_order.genuine.length_eq
  obtain ⟨pkt,at_origin,encapsulated⟩ := in_order.genuine.get (i := i) (by omega) inside
  exact ⟨pkt,List.mem_of_getElem? at_origin,encapsulated⟩

namespace Worker
variable {x : Xxh3} {src_ipv4 : Ipv4Addr} {w : Worker} {shared : Shared} {frame out : Frame} {now : Nat}

/-- What a worker puts out is the frame in the tunnel. -/
theorem rewrite_frame_encapsulates (output : (w.rewrite_frame x src_ipv4 shared frame now).2 = some out) :
    Encapsulates src_ipv4 frame.as_slice out.as_slice := by
  have tunnels : ∀ backend_ip, tunnelled src_ipv4 frame backend_ip = some out →
      Encapsulates src_ipv4 frame.as_slice out.as_slice := by
    intro backend_ip sent
    cases backend_ip with
    | V6 => cases sent
    | V4 backend => exact ⟨frame,out,backend,sent,rfl,rfl⟩
  cases resolved : resolve shared frame with
  | some found =>
    obtain ⟨_,sent⟩ := rewrite_frame_resolved x src_ipv4 w now resolved
    rw [sent] at output
    exact tunnels _ output
  | none =>
    cases later : is_non_first_fragment frame.as_slice with
    | false =>
      obtain ⟨_,dropped⟩ := rewrite_frame_unresolved x src_ipv4 w now later resolved
      rw [dropped] at output
      cases output
    | true =>
      obtain ⟨_,sent⟩ := rewrite_fragment_eq x src_ipv4 (w.inc .packets_received) frame now
      rw [rewrite_frame_fragment later,sent] at output
      obtain ⟨backend_ip,_,sent⟩ := Option.bind_eq_some_iff.mp output
      exact tunnels backend_ip sent

end Worker

/-- Packets of one flow are put on one queue. -/
theorem flow_of_queue (x : Xxh3) (n : Nat) [NeZero n] {pkt : PacketBuf} {flow : PacketMeta}
    (of_flow : flow_of pkt = some flow) :
    queue_of x n pkt.as_slice = ⟨assign_queue x flow n,Nat.mod_lt _ (NeZero.pos n)⟩ := by
  unfold flow_of at of_flow
  split_ifs at of_flow
  obtain ⟨pkt_meta,parsed,rfl⟩ := Option.map_eq_some_iff.mp of_flow
  rw [queue_of,parsed]
  rfl

namespace Lane
variable {x : Xxh3} {src_ipv4 : Ipv4Addr} {lane lane' : Lane} {pool pool' : PacketPool} {shared : Shared} {now : Nat}

/-- A rewriter takes its frames in order from the one queue to the other, and may
    drop some. -/
theorem Turn.passes (turn : lane.Turn x src_ipv4 pool shared now lane' pool') :
    (lane'.tx_q ++ lane'.waiting).Sublist (lane.tx_q ++ lane.waiting) := by
  cases turn with
  | free | other => exact List.Sublist.refl _
  | take idx rx_q queued => simp [waiting,queued]
  | send batch idx indices frame next taken kept output room => simp [waiting,taken]
  | drop batch idx indices next taken kept output => simp [waiting,taken]
  | refuse batch idx indices frame next taken kept output => simp [waiting,taken]

/-- What a step puts on the queue to the muxer has waited, and is in the tunnel
    now. -/
theorem Turn.puts (turn : lane.Turn x src_ipv4 pool shared now lane' pool') {idx : FrameIndex}
    (queued : idx ∈ lane'.tx_q) : idx ∈ lane.tx_q ∨ idx ∈ lane.waiting ∧
      Encapsulates src_ipv4 (pool.frames idx).as_slice (pool'.frames idx).as_slice := by
  cases turn with
  | free | take | other | drop | refuse => exact .inl queued
  | send batch idx' indices frame next taken kept output room =>
    rcases List.mem_append.mp queued with before | added
    · exact .inl before
    · obtain rfl := List.mem_singleton.mp added
      refine .inr ⟨by simp [waiting,taken],?_⟩
      show Encapsulates src_ipv4 _ (Function.update pool.frames idx frame idx).as_slice
      rw [Function.update_self]
      exact Worker.rewrite_frame_encapsulates output

end Lane

/-! ### Lines -/

/-- What is known of the packets in the pipeline: those that the steering thread
    is done with, which of them each frame holds, and those that have been sent. -/
structure Ledger where
  gone : List PacketBuf
  tag : FrameIndex → Nat
  origins : List Nat

namespace Ledger
variable (x : Xxh3) (n : Nat) [NeZero n]

def packet (g : Ledger) (o : Nat) : PacketBuf := g.gone.getD o .new
def queue (g : Ledger) (o : Nat) : Fin n := queue_of x n (g.packet o).as_slice

end Ledger

namespace Pipeline
variable {n : Nat} [NeZero n]

/-- The packets of a queue, from those that have been sent to the one that was
    steered last. -/
def line (x : Xxh3) (p : Pipeline n) (g : Ledger) (i : Fin n) : List Nat :=
  (g.origins ++ p.muxer.send_indices.map g.tag).filter (fun o => g.queue x n o = i) ++
    ((p.lanes i).tx_q ++ (p.lanes i).waiting).map g.tag

/-- The frame holds what has been made of its packet. -/
structure Carries (made : List UInt8 → List UInt8 → Prop) (p : Pipeline n) (g : Ledger) (idx : FrameIndex) : Prop where
  gone : g.tag idx < g.gone.length
  content : made (g.packet (g.tag idx)).as_slice (p.pool.frames idx).as_slice

structure Tracked (x : Xxh3) (src_ipv4 : Ipv4Addr) (p : Pipeline n) (g : Ledger) (received : List PacketBuf)
    (transmitted : List (List UInt8)) : Prop where
  arrivals : received = g.gone ++ p.steering.rx_buf
  waits : ∀ i, ∀ idx ∈ (p.lanes i).waiting, p.Carries Eq g idx
  queued : ∀ i, ∀ idx ∈ (p.lanes i).tx_q, p.Carries (Encapsulates src_ipv4) g idx
  lanes : ∀ i, ∀ idx ∈ (p.lanes i).tx_q ++ (p.lanes i).waiting, g.queue x n (g.tag idx) = i
  taken : ∀ idx ∈ p.muxer.send_indices, p.Carries (Encapsulates src_ipv4) g idx
  sent : List.Forall₂ (fun o out => o < g.gone.length ∧ Encapsulates src_ipv4 (g.packet o).as_slice out) g.origins
    transmitted
  ordered : ∀ i, (p.line x g i).Pairwise (· < ·)

variable {x : Xxh3} {src_ipv4 : Ipv4Addr} {p p' : Pipeline n} {g g' : Ledger} {received : List PacketBuf}
  {transmitted : List (List UInt8)} {made : List UInt8 → List UInt8 → Prop} {idx : FrameIndex} {o : Nat}

theorem packet_grown (grown : g.gone <+: g'.gone) (inside : o < g.gone.length) : g'.packet o = g.packet o := by
  obtain ⟨more,grown⟩ := grown
  simp only [Ledger.packet,← grown,List.getD_eq_getElem?_getD,List.getElem?_append_left inside]

theorem queue_grown (grown : g.gone <+: g'.gone) (inside : o < g.gone.length) : g'.queue x n o = g.queue x n o := by
  rw [Ledger.queue,Ledger.queue,packet_grown grown inside]

omit [NeZero n] in
theorem Carries.stays (carries : p.Carries made g idx) (grown : g.gone <+: g'.gone) (tag : g'.tag idx = g.tag idx)
    (frame : p'.pool.frames idx = p.pool.frames idx) : p'.Carries made g' idx := by
  refine ⟨?_,?_⟩
  · rw [tag]
    exact carries.gone.trans_le grown.length_le
  · rw [tag,frame,packet_grown grown carries.gone]
    exact carries.content

/-- The frame holds a packet that has not been sent. -/
def InFlight (p : Pipeline n) (idx : FrameIndex) : Prop :=
  (∃ i, idx ∈ (p.lanes i).tx_q ++ (p.lanes i).waiting) ∨ idx ∈ p.muxer.send_indices

omit [NeZero n] in
theorem InFlight.place (flying : p.InFlight idx) :
    ∃ place, idx ∈ p.holds place ∧ place ≠ .free_list ∧ place ≠ .steering := by
  rcases flying with ⟨i,listed⟩ | taken
  · rcases List.mem_append.mp listed with queued | waits
    · exact ⟨.tx_q i,queued,by simp,by simp⟩
    · rcases waiting_place waits with held | queued
      · exact ⟨.rewriter i,held,by simp,by simp⟩
      · exact ⟨.rx_q i,queued,by simp,by simp⟩
  · exact ⟨.muxer,List.mem_append_left _ taken,by simp,by simp⟩

theorem Tracked.flying (tracked : p.Tracked x src_ipv4 g received transmitted) (flying : p.InFlight idx) :
    g.tag idx < g.gone.length := by
  rcases flying with ⟨i,listed⟩ | taken
  · rcases List.mem_append.mp listed with queued | waits
    · exact (tracked.queued i idx queued).gone
    · exact (tracked.waits i idx waits).gone
  · exact (tracked.taken idx taken).gone

theorem Tracked.origin (tracked : p.Tracked x src_ipv4 g received transmitted) (sent : o ∈ g.origins) :
    o < g.gone.length := by
  obtain ⟨i,inside,rfl⟩ := List.getElem_of_mem sent
  have same := tracked.sent.length_eq
  exact (tracked.sent.get (i := i) inside (by omega)).1

/-- The packets of a line are gone. -/
theorem Tracked.line_lt (tracked : p.Tracked x src_ipv4 g received transmitted) {i : Fin n} (listed : o ∈ p.line x g i) :
    o < g.gone.length := by
  rw [line] at listed
  rcases List.mem_append.mp listed with out | inside
  · rcases List.mem_append.mp (List.mem_filter.mp out).1 with sent | taken
    · exact tracked.origin sent
    · obtain ⟨idx,collected,rfl⟩ := List.mem_map.mp taken
      exact tracked.flying (.inr collected)
  · obtain ⟨idx,in_lane,rfl⟩ := List.mem_map.mp inside
    exact tracked.flying (.inl ⟨i,in_lane⟩)

/-- The lines do not depend on packets that are in none of them. -/
theorem Tracked.line_grown (tracked : p.Tracked x src_ipv4 g received transmitted) (grown : g.gone <+: g'.gone)
    (tags : ∀ idx, p.InFlight idx → g'.tag idx = g.tag idx) (origins : g'.origins = g.origins) (i : Fin n) :
    p.line x g' i = p.line x g i := by
  have taken : p.muxer.send_indices.map g'.tag = p.muxer.send_indices.map g.tag :=
    List.map_congr_left fun idx taken => tags idx (.inr taken)
  have inside : ((p.lanes i).tx_q ++ (p.lanes i).waiting).map g'.tag =
      ((p.lanes i).tx_q ++ (p.lanes i).waiting).map g.tag :=
    List.map_congr_left fun idx listed => tags idx (.inl ⟨i,listed⟩)
  rw [line,line,taken,inside,origins]
  congr 1
  refine List.filter_congr fun o out => ?_
  have gone : o < g.gone.length := by
    rcases List.mem_append.mp out with sent | taken
    · exact tracked.origin sent
    · obtain ⟨idx,collected,rfl⟩ := List.mem_map.mp taken
      exact tracked.flying (.inr collected)
  rw [queue_grown grown gone]

/-- Nothing happens to a packet. -/
theorem Tracked.same (tracked : p.Tracked x src_ipv4 g received transmitted)
    (rx_buf : p'.steering.rx_buf = p.steering.rx_buf) (lanes : p'.lanes = p.lanes)
    (send_indices : p'.muxer.send_indices = p.muxer.send_indices)
    (frames : ∀ idx, p.InFlight idx → p'.pool.frames idx = p.pool.frames idx) :
    p'.Tracked x src_ipv4 g received transmitted where
  arrivals := by rw [tracked.arrivals,rx_buf]
  waits := by
    intro i idx waits
    rw [lanes] at waits
    exact (tracked.waits i idx waits).stays List.prefix_rfl rfl (frames idx (.inl ⟨i,List.mem_append_right _ waits⟩))
  queued := by
    intro i idx queued
    rw [lanes] at queued
    exact (tracked.queued i idx queued).stays List.prefix_rfl rfl (frames idx (.inl ⟨i,List.mem_append_left _ queued⟩))
  lanes := by
    intro i idx listed
    rw [lanes] at listed
    exact tracked.lanes i idx listed
  taken := by
    intro idx taken
    rw [send_indices] at taken
    exact (tracked.taken idx taken).stays List.prefix_rfl rfl (frames idx (.inr taken))
  sent := tracked.sent
  ordered := by
    intro i
    rw [line,lanes,send_indices]
    exact tracked.ordered i

/-- The steering thread gets done with a packet. -/
theorem Tracked.grow (tracked : p.Tracked x src_ipv4 g received transmitted) (grown : g.gone <+: g'.gone)
    (tags : ∀ idx, p.InFlight idx → g'.tag idx = g.tag idx) (origins : g'.origins = g.origins) {steering : Steering}
    {received' : List PacketBuf} (arrivals : received' = g'.gone ++ steering.rx_buf) :
    ({ p with steering } : Pipeline n).Tracked x src_ipv4 g' received' transmitted where
  arrivals := arrivals
  waits := fun i idx waits =>
    (tracked.waits i idx waits).stays grown (tags idx (.inl ⟨i,List.mem_append_right _ waits⟩)) rfl
  queued := fun i idx queued =>
    (tracked.queued i idx queued).stays grown (tags idx (.inl ⟨i,List.mem_append_left _ queued⟩)) rfl
  lanes := by
    intro i idx listed
    have flying : p.InFlight idx := .inl ⟨i,listed⟩
    rw [tags idx flying,queue_grown grown (tracked.flying flying)]
    exact tracked.lanes i idx listed
  taken := fun idx taken => (tracked.taken idx taken).stays grown (tags idx (.inr taken)) rfl
  sent := by
    rw [origins]
    refine tracked.sent.imp fun o out sent => ⟨sent.1.trans_le grown.length_le,?_⟩
    rw [packet_grown grown sent.1]
    exact sent.2
  ordered := by
    intro i
    have same := tracked.line_grown grown tags origins i
    have ordered := tracked.ordered i
    rw [← same] at ordered
    exact ordered

/-- A packet gets lost. -/
theorem Tracked.lost (tracked : p.Tracked x src_ipv4 g received transmitted) {pkt : PacketBuf} {rx_buf : List PacketBuf}
    (first : p.steering.rx_buf = pkt :: rx_buf) (steering : Steering) (rest : steering.rx_buf = rx_buf) :
    ({ p with steering } : Pipeline n).Tracked x src_ipv4 { g with gone := g.gone ++ [pkt] } received transmitted := by
  have grown : g.gone <+: ({ g with gone := g.gone ++ [pkt] } : Ledger).gone := List.prefix_append _ _
  refine tracked.grow grown (fun _ _ => rfl) rfl ?_
  rw [tracked.arrivals,first,rest,List.append_assoc,List.singleton_append]

/-- A packet is put at the end of a line, in a frame that was in none. -/
theorem Tracked.enqueue (tracked : p.Tracked x src_ipv4 g received transmitted) {pkt : PacketBuf}
    {rx_buf : List PacketBuf} (first : p.steering.rx_buf = pkt :: rx_buf) {frame : Frame}
    (copied : frame.as_slice = pkt.as_slice) {i : Fin n} (steered : i = queue_of x n pkt.as_slice)
    (grounded : ¬ p.InFlight idx) :
    ({ p.set i { p.lanes i with rx_q := (p.lanes i).rx_q ++ [idx] } with
        pool := p.pool.write idx frame
        steering := { rx_buf, stage := .alloc } } : Pipeline n).Tracked x src_ipv4
      { g with gone := g.gone ++ [pkt], tag := Function.update g.tag idx g.gone.length } received transmitted := by
  let g' : Ledger := { g with gone := g.gone ++ [pkt], tag := Function.update g.tag idx g.gone.length }
  let q : Pipeline n := { p with steering := { rx_buf, stage := .alloc } }
  have tags : ∀ idx', p.InFlight idx' → g'.tag idx' = g.tag idx' := by
    rintro idx' flying
    refine Function.update_of_ne ?_ ..
    rintro rfl
    exact grounded flying
  have grown : g.gone <+: g'.gone := List.prefix_append _ _
  have before : q.Tracked x src_ipv4 g' received transmitted :=
    tracked.grow grown tags rfl (by rw [tracked.arrivals,first]; simp [g'])
  have tag : g'.tag idx = g.gone.length := Function.update_self ..
  have packet : g'.packet g.gone.length = pkt := by simp [Ledger.packet,g']
  have others : ∀ idx', p.InFlight idx' → (p.pool.write idx frame).frames idx' = p.pool.frames idx' := by
    rintro idx' flying
    refine Function.update_of_ne ?_ ..
    rintro rfl
    exact grounded flying
  let lane : Lane := { p.lanes i with rx_q := (p.lanes i).rx_q ++ [idx] }
  have lanes : ∀ j, ((p.set i lane).lanes j).tx_q = (p.lanes j).tx_q ∧
      ((p.set i lane).lanes j).waiting = (p.lanes j).waiting ++ (if j = i then [idx] else []) := by
    intro j
    by_cases here : j = i
    · subst here
      rw [set_self,if_pos rfl]
      exact ⟨rfl,(List.append_assoc ..).symm⟩
    · rw [set_other p _ here,if_neg here,List.append_nil]
      exact ⟨rfl,rfl⟩
  have entry : ∀ j, idx ∈ (if j = i then [idx] else []) → j = i := by
    intro j listed
    by_contra other
    rw [if_neg other] at listed
    cases listed
  have only : ∀ j, ∀ idx' ∈ (if j = i then [idx] else []), idx' = idx := by
    intro j idx' listed
    split_ifs at listed
    · exact List.mem_singleton.mp listed
    · cases listed
  refine ⟨before.arrivals,fun j idx' waits => ?_,fun j idx' queued => ?_,fun j idx' listed => ?_,fun idx' taken => ?_,
    before.sent,fun j => ?_⟩
  · replace waits : idx' ∈ ((p.set i lane).lanes j).waiting := waits
    rw [(lanes j).2] at waits
    rcases List.mem_append.mp waits with waited | added
    · exact (before.waits j idx' waited).stays List.prefix_rfl rfl (others idx' (.inl ⟨j,List.mem_append_right _ waited⟩))
    · obtain rfl := only j idx' added
      refine ⟨?_,?_⟩
      · show g'.tag idx' < g'.gone.length
        rw [tag]
        simp [g']
      · show (g'.packet (g'.tag idx')).as_slice = (Function.update p.pool.frames idx' frame idx').as_slice
        rw [tag,packet,Function.update_self,copied]
  · replace queued : idx' ∈ ((p.set i lane).lanes j).tx_q := queued
    rw [(lanes j).1] at queued
    exact (before.queued j idx' queued).stays List.prefix_rfl rfl (others idx' (.inl ⟨j,List.mem_append_left _ queued⟩))
  · replace listed : idx' ∈ ((p.set i lane).lanes j).tx_q ++ ((p.set i lane).lanes j).waiting := listed
    rw [(lanes j).1,(lanes j).2,← List.append_assoc] at listed
    rcases List.mem_append.mp listed with before_it | added
    · exact before.lanes j idx' before_it
    · obtain rfl := only j idx' added
      rw [tag,Ledger.queue,packet,entry j added,steered]
  · exact (before.taken idx' taken).stays List.prefix_rfl rfl (others idx' (.inr taken))
  · have bounded : ∀ o ∈ q.line x g' j, o < g.gone.length := by
      intro o listed
      rw [show q.line x g' j = p.line x g' j from rfl,tracked.line_grown grown tags rfl j] at listed
      exact tracked.line_lt listed
    have longer : ((p.lanes j).tx_q ++ ((p.lanes j).waiting ++ (if j = i then [idx] else []))).map g'.tag =
        ((p.lanes j).tx_q ++ (p.lanes j).waiting).map g'.tag ++ (if j = i then [idx] else []).map g'.tag := by
      rw [← List.append_assoc,List.map_append]
    rw [line]
    show (_ ++ (((p.set i lane).lanes j).tx_q ++ ((p.set i lane).lanes j).waiting).map g'.tag).Pairwise _
    rw [(lanes j).1,(lanes j).2,longer,← List.append_assoc]
    refine List.pairwise_append.mpr ⟨before.ordered j,?_,fun o listed o' added => ?_⟩
    · split_ifs <;> simp
    · obtain ⟨idx',here,rfl⟩ := List.mem_map.mp added
      obtain rfl := only j idx' here
      rw [tag]
      exact bounded o listed

/-- A rewriter makes a step. -/
theorem Tracked.turn (tracked : p.Tracked x src_ipv4 g received transmitted) (nodup : (census p.holds).Nodup) {i : Fin n}
    {shared : Shared} {now : Nat} {lane : Lane} {pool : PacketPool}
    (turn : (p.lanes i).Turn x src_ipv4 p.pool shared now lane pool) :
    ({ p.set i lane with pool } : Pipeline n).Tracked x src_ipv4 g received transmitted := by
  have others : ∀ {idx' place}, idx' ∈ p.holds place → place ≠ .rewriter i → pool.frames idx' = p.pool.frames idx' :=
    fun there other => turn.frames fun here => other (place_unique nodup there (show _ ∈ p.holds (.rewriter i) from here))
  have waits : ∀ {idx'}, idx' ∈ lane.waiting → idx' ∈ (p.lanes i).waiting ∧ pool.frames idx' = p.pool.frames idx' := by
    refine turn.waits (place_nodup nodup (.rewriter i)) fun idx' queued held => ?_
    exact absurd (place_unique (a := .rx_q i) (b := .rewriter i) nodup queued held) (by simp)
  refine ⟨tracked.arrivals,fun j idx' waited => ?_,fun j idx' queued => ?_,fun j idx' listed => ?_,fun idx' taken => ?_,
    tracked.sent,fun j => ?_⟩
  · replace waited : idx' ∈ ((p.set i lane).lanes j).waiting := waited
    by_cases here : j = i
    · subst here
      rw [set_self] at waited
      exact (tracked.waits j idx' (waits waited).1).stays List.prefix_rfl rfl (waits waited).2
    · rw [set_other p _ here] at waited
      refine (tracked.waits j idx' waited).stays List.prefix_rfl rfl ?_
      rcases waiting_place waited with held | queued
      · exact others held (by simpa using here)
      · exact others queued (by simp)
  · replace queued : idx' ∈ ((p.set i lane).lanes j).tx_q := queued
    have stays : idx' ∈ (p.lanes j).tx_q →
        ({ p.set i lane with pool } : Pipeline n).Carries (Encapsulates src_ipv4) g idx' :=
      fun before => (tracked.queued j idx' before).stays List.prefix_rfl rfl
        (others (show idx' ∈ p.holds (.tx_q j) from before) (by simp))
    by_cases here : j = i
    · subst here
      rw [set_self] at queued
      rcases turn.puts queued with before | ⟨waited,made⟩
      · exact stays before
      · have carries := tracked.waits j idx' waited
        refine ⟨carries.gone,?_⟩
        rw [carries.content]
        exact made
    · rw [set_other p _ here] at queued
      exact stays queued
  · replace listed : idx' ∈ ((p.set i lane).lanes j).tx_q ++ ((p.set i lane).lanes j).waiting := listed
    by_cases here : j = i
    · subst here
      rw [set_self] at listed
      exact tracked.lanes j idx' (turn.passes.mem listed)
    · rw [set_other p _ here] at listed
      exact tracked.lanes j idx' listed
  · exact (tracked.taken idx' taken).stays List.prefix_rfl rfl
      (others (show idx' ∈ p.holds .muxer from List.mem_append_left _ taken) (by simp))
  · refine (tracked.ordered j).sublist ((List.Sublist.refl _).append (List.Sublist.map _ ?_))
    show (((p.set i lane).lanes j).tx_q ++ ((p.set i lane).lanes j).waiting).Sublist _
    by_cases here : j = i
    · subst here
      rw [set_self]
      exact turn.passes
    · rw [set_other p _ here]

/-- The muxer takes a frame from a queue. -/
theorem Tracked.collect (tracked : p.Tracked x src_ipv4 g received transmitted) {i : Fin n} {tx_q : List FrameIndex}
    (queued : (p.lanes i).tx_q = idx :: tx_q) :
    ({ p.set i { p.lanes i with tx_q } with muxer.send_indices := p.muxer.send_indices ++ [idx] } : Pipeline n).Tracked x
      src_ipv4 g received transmitted := by
  let lane : Lane := { p.lanes i with tx_q }
  have lanes : ∀ j, (p.lanes j).tx_q = (if j = i then [idx] else []) ++ ((p.set i lane).lanes j).tx_q ∧
      ((p.set i lane).lanes j).waiting = (p.lanes j).waiting := by
    intro j
    by_cases here : j = i
    · subst here
      rw [set_self,if_pos rfl]
      exact ⟨queued,rfl⟩
    · rw [set_other p _ here,if_neg here]
      exact ⟨rfl,rfl⟩
  have first : idx ∈ (p.lanes i).tx_q := by simp [queued]
  have queue : g.queue x n (g.tag idx) = i := tracked.lanes i idx (List.mem_append_left _ first)
  refine ⟨tracked.arrivals,fun j idx' waited => ?_,fun j idx' later => ?_,fun j idx' listed => ?_,fun idx' taken => ?_,
    tracked.sent,fun j => ?_⟩
  · replace waited : idx' ∈ ((p.set i lane).lanes j).waiting := waited
    rw [(lanes j).2] at waited
    exact (tracked.waits j idx' waited).stays List.prefix_rfl rfl rfl
  · have before : idx' ∈ (p.lanes j).tx_q := by
      rw [(lanes j).1]
      exact List.mem_append_right _ later
    exact (tracked.queued j idx' before).stays List.prefix_rfl rfl rfl
  · refine tracked.lanes j idx' ?_
    rw [(lanes j).1,← (lanes j).2,List.append_assoc]
    exact List.mem_append_right _ listed
  · rcases List.mem_append.mp taken with before | added
    · exact (tracked.taken idx' before).stays List.prefix_rfl rfl rfl
    · obtain rfl := List.mem_singleton.mp added
      exact (tracked.queued i idx' first).stays List.prefix_rfl rfl rfl
  · have same : (p.line x g j) = ((g.origins ++ (p.muxer.send_indices ++ [idx]).map g.tag).filter
        fun o => g.queue x n o = j) ++ (((p.set i lane).lanes j).tx_q ++ ((p.set i lane).lanes j).waiting).map g.tag := by
      rw [line,(lanes j).1,(lanes j).2]
      by_cases here : j = i
      · subst here
        simp [queue]
      · simp [queue,here,Ne.symm here]
    have ordered := tracked.ordered j
    rw [same] at ordered
    exact ordered

/-- The muxer sends what it has taken. -/
theorem Tracked.transmit (tracked : p.Tracked x src_ipv4 g received transmitted) (muxer : Muxer)
    (none_taken : muxer.send_indices = []) :
    ({ p with muxer } : Pipeline n).Tracked x src_ipv4
      { g with origins := g.origins ++ p.muxer.send_indices.map g.tag } received
      (transmitted ++ p.muxer.send_indices.map fun idx => (p.pool.frames idx).as_slice) where
  arrivals := tracked.arrivals
  waits := fun i idx waits => (tracked.waits i idx waits).stays List.prefix_rfl rfl rfl
  queued := fun i idx queued => (tracked.queued i idx queued).stays List.prefix_rfl rfl rfl
  lanes := tracked.lanes
  taken := by
    intro idx taken
    rw [none_taken] at taken
    cases taken
  sent := by
    refine List.rel_append tracked.sent ?_
    rw [List.forall₂_map_left_iff,List.forall₂_map_right_iff,List.forall₂_same]
    intro idx taken
    exact ⟨(tracked.taken idx taken).gone,(tracked.taken idx taken).content⟩
  ordered := by
    intro i
    have ordered := tracked.ordered i
    rw [line] at ordered ⊢
    rw [none_taken,List.map_nil,List.append_nil]
    exact ordered

/-- Every step keeps the packets in their lines. -/
theorem Moved.tracked {e : Event n} {receives : List PacketBuf} {transmits : List (List UInt8)}
    (moved : Moved x src_ipv4 p e p' receives transmits) (nodup : (census p.holds).Nodup)
    (tracked : p.Tracked x src_ipv4 g received transmitted) :
    ∃ g', p'.Tracked x src_ipv4 g' (received ++ receives) (transmitted ++ transmits) := by
  -- What the steering thread holds has not been put on a queue.
  have grounded : ∀ idx ∈ p.steering.stage.held, ¬ p.InFlight idx := by
    intro idx held flying
    obtain ⟨place,here,_,other⟩ := flying.place
    exact other (place_unique nodup here (show idx ∈ p.holds .steering from held))
  have written : ∀ {idx}, idx ∈ p.steering.stage.held → ∀ frame idx', p.InFlight idx' →
      (p.pool.write idx frame).frames idx' = p.pool.frames idx' := by
    rintro idx held frame idx' flying
    refine Function.update_of_ne ?_ ..
    rintro rfl
    exact grounded idx' held flying
  cases moved with
  | receive packets empty =>
    rw [List.append_nil]
    refine ⟨g,tracked.grow List.prefix_rfl (fun _ _ => rfl) rfl ?_⟩
    rw [tracked.arrivals,empty,List.append_nil]
  | exhausted pkt rx_buf first stage =>
    rw [List.append_nil,List.append_nil]
    exact ⟨_,tracked.lost first { p.steering with rx_buf } rfl⟩
  | alloc idx free_list busy stage head =>
    rw [List.append_nil,List.append_nil]
    exact ⟨g,tracked.same rfl rfl rfl fun _ _ => rfl⟩
  | enqueue pkt rx_buf idx frame i first stage copied steered =>
    rw [List.append_nil,List.append_nil]
    exact ⟨_,tracked.enqueue first copied steered (grounded idx (by simp [stage,Stage.held]))⟩
  | refuse idx frame busy stage =>
    rw [List.append_nil,List.append_nil]
    exact ⟨g,tracked.same rfl rfl rfl (written (by simp [stage,Stage.held]) frame)⟩
  | release pkt rx_buf idx first stage =>
    rw [List.append_nil,List.append_nil]
    exact ⟨_,(tracked.lost first { rx_buf, stage := .alloc } rfl).same rfl rfl rfl fun _ _ => rfl⟩
  | rewriter i shared lane pool action turn =>
    rw [List.append_nil,List.append_nil]
    exact ⟨g,tracked.turn nodup turn⟩
  | free idx sent rest =>
    rw [List.append_nil,List.append_nil]
    exact ⟨g,tracked.same rfl rfl rfl fun _ _ => rfl⟩
  | collect i idx tx_q none_sent queued =>
    rw [List.append_nil,List.append_nil]
    exact ⟨g,tracked.collect queued⟩
  | next =>
    rw [List.append_nil,List.append_nil]
    exact ⟨g,tracked.same rfl rfl rfl fun _ _ => rfl⟩
  | transmit none_sent =>
    rw [List.append_nil]
    exact ⟨_,tracked.transmit _ rfl⟩

/-! ### Runs -/

/-- The packets that a run receives. -/
def run_receives (x : Xxh3) (src_ipv4 : Ipv4Addr) : Pipeline n → List (Event n) → List PacketBuf :=
  Runs.effects fun p e => (p.step x src_ipv4 e,p.receives e)
/-- The packets that a run gives to be sent. -/
def run_transmits (x : Xxh3) (src_ipv4 : Ipv4Addr) : Pipeline n → List (Event n) → List (List UInt8) :=
  Runs.effects fun p e => (p.step x src_ipv4 e,p.transmits e)

theorem run_tracked (accounted : p.Accounted) (numbered : p.pool.capacity ≤ 2 ^ 32)
    (tracked : p.Tracked x src_ipv4 g received transmitted) (events : List (Event n)) :
    ∃ g', (events.foldl (step x src_ipv4) p).Tracked x src_ipv4 g' (received ++ p.run_receives x src_ipv4 events)
      (transmitted ++ p.run_transmits x src_ipv4 events) := by
  induction events generalizing p g received transmitted with
  | nil => exact ⟨g,by simpa [run_receives,run_transmits,Runs.effects] using tracked⟩
  | cons e events ih =>
    have moved := step_moved x src_ipv4 p e
    obtain ⟨g',after⟩ := moved.tracked (accounted.nodup numbered) tracked
    obtain ⟨g'',tracked⟩ := ih (moved.accounted accounted) (moved.capacity.trans_le numbered) after
    rw [List.append_assoc,List.append_assoc] at tracked
    exact ⟨g'',tracked⟩

theorem start_tracked (x : Xxh3) (src_ipv4 : Ipv4Addr) (n : Nat) [NeZero n] (capacity conn_bits : Nat)
    (conn_small : conn_bits < 64) (conn_ttls : ConnTtls) (fragment_bits : Nat) (fragment_small : fragment_bits < 64)
    (fragment_ttl batch_size now : Nat) :
    (start n capacity conn_bits conn_small conn_ttls fragment_bits fragment_small fragment_ttl batch_size now).Tracked x
      src_ipv4 ⟨[],fun _ => 0,[]⟩ [] [] where
  arrivals := rfl
  waits := fun _ _ waits => absurd waits List.not_mem_nil
  queued := fun _ _ queued => absurd queued List.not_mem_nil
  lanes := fun _ _ listed => absurd listed List.not_mem_nil
  taken := fun _ taken => absurd taken List.not_mem_nil
  sent := .nil
  ordered := fun _ => .nil

/-- Packets that are in line on every queue are in order. -/
theorem Tracked.inOrder (tracked : p.Tracked x src_ipv4 g received transmitted) :
    InOrder src_ipv4 received transmitted g.origins := by
  have packet : ∀ {o}, o < g.gone.length → received[o]? = some (g.packet o) := by
    intro o inside
    rw [tracked.arrivals,List.getElem?_append_left inside,Ledger.packet,List.getD_eq_getElem?_getD,
      List.getElem?_eq_getElem inside,Option.getD_some]
  have apart : ∀ {o o'}, [o,o'].Sublist g.origins → g.queue x n o = g.queue x n o' → o < o' := by
    intro o o' both same
    have ordered := (tracked.ordered (g.queue x n o')).sublist (List.sublist_append_left _ _)
    have listed := (both.trans (List.sublist_append_left _ (p.muxer.send_indices.map g.tag))).filter
      fun o => g.queue x n o = g.queue x n o'
    rw [List.filter_cons_of_pos (by simp [same]),List.filter_cons_of_pos (by simp)] at listed
    exact (List.pairwise_cons.mp (ordered.sublist listed)).1 o' (by simp)
  refine ⟨tracked.sent.imp fun o out sent => ⟨g.packet o,packet sent.1,sent.2⟩,?_,fun flow => ?_⟩
  · refine List.pairwise_iff_forall_sublist.mpr fun {o o'} both same => ?_
    have := apart both (congrArg (g.queue x n) same)
    omega
  · rw [List.pairwise_filter]
    refine List.pairwise_iff_forall_sublist.mpr fun {o o'} both first second => apart both ?_
    have steered : ∀ o ∈ g.origins, received[o]?.bind flow_of = some flow →
        g.queue x n o = ⟨assign_queue x flow n,Nat.mod_lt _ (NeZero.pos n)⟩ := by
      intro o sent of_flow
      rw [packet (tracked.origin sent),Option.bind_some] at of_flow
      exact flow_of_queue x n of_flow
    rw [steered o (both.mem (by simp)) (by simpa using first),steered o' (both.mem (by simp)) (by simpa using second)]

/-- The number of frames that the forwarder makes its pool of. -/
def pool_size (num_rewriters batch_size : Nat) : Nat := QUEUE_CAPACITY * num_rewriters * 2 + batch_size * 2

/-- For every number of rewriters and every run: what is sent comes from what was
    received, at most once and in the order of each flow, if the numbers of the
    frames fit in 32 bits. -/
theorem sent_in_order (x : Xxh3) (src_ipv4 : Ipv4Addr) (n : Nat) [NeZero n] (conn_bits : Nat)
    (conn_small : conn_bits < 64) (conn_ttls : ConnTtls) (fragment_bits : Nat) (fragment_small : fragment_bits < 64)
    (fragment_ttl batch_size now : Nat) (events : List (Event n)) (numbered : pool_size n batch_size ≤ 2 ^ 32) :
    let initial := start n (pool_size n batch_size) conn_bits conn_small conn_ttls fragment_bits fragment_small
      fragment_ttl batch_size now
    ∃ origins, InOrder src_ipv4 (initial.run_receives x src_ipv4 events) (initial.run_transmits x src_ipv4 events)
      origins := by
  intro initial
  have accounted := start_accounted (n := n) (pool_size n batch_size) conn_bits conn_small conn_ttls fragment_bits
    fragment_small fragment_ttl batch_size now
  have tracked := start_tracked x src_ipv4 n (pool_size n batch_size) conn_bits conn_small conn_ttls fragment_bits
    fragment_small fragment_ttl batch_size now
  obtain ⟨g,tracked⟩ := run_tracked accounted numbered tracked events
  exact ⟨g.origins,tracked.inOrder⟩

/-! ### One rewriter -/

private def rewrites : Event 1 := ⟨.run_rewriter 0 (sharing false ∅),from_secs 1⟩
private def sends : Event 1 := ⟨.run_muxer,from_secs 1⟩
private def comes (pkt : PacketBuf) : List (Event 1) :=
  [⟨.run_steering [pkt],from_secs 1⟩,⟨.run_steering [],from_secs 1⟩,⟨.run_steering [],from_secs 1⟩]
private def served : List (Event 1) :=
  comes (segment 40000 40 []) ++ [rewrites,rewrites,rewrites,rewrites,sends]
private def oneRewriter (batch_size : Nat) : Pipeline 1 :=
  start 1 (pool_size 1 batch_size) 2 two_bits minutes 2 two_bits (from_secs 10) batch_size 0

/-- A packet that comes in and goes out. -/
theorem sent_in_order_one :
    (∃ origins, InOrder ⟨172,16,0,1⟩ ((oneRewriter 64).run_receives hashedPair ⟨172,16,0,1⟩ (served ++ [sends,sends]))
      ((oneRewriter 64).run_transmits hashedPair ⟨172,16,0,1⟩ (served ++ [sends,sends])) origins) ∧
    ((oneRewriter 64).run_transmits hashedPair ⟨172,16,0,1⟩ (served ++ [sends,sends])).length = 1 :=
  ⟨sent_in_order hashedPair ⟨172,16,0,1⟩ 1 2 (by decide) minutes 2 (by decide) (from_secs 10) 64 0 _ (by decide),
    by decide +kernel⟩

private def rested : Worker := .new 2 two_bits minutes 2 two_bits (from_secs 10) 0

/-- The pipeline while no frame is on its way to the muxer. -/
private def resting (batch_size : Nat) (pool : PacketPool) (worker : Worker) (taken : List FrameIndex) : Pipeline 1 where
  pool := pool
  steering := { rx_buf := [], stage := .alloc }
  lanes := fun _ => { rx_q := [], tx_q := [], indices := [], freeing := none, batch := none, worker }
  muxer := { queue := 0, send_indices := taken, sent := [] }
  batch_size := batch_size

private theorem came (pkt : PacketBuf) (batch_size : Nat) (frames : FrameIndex → Frame) (idx : FrameIndex)
    (free_list : List FrameIndex) (capacity : Nat) (worker : Worker) (taken : List FrameIndex) :
    (comes pkt).foldl (step hashedPair ⟨172,16,0,1⟩)
      (resting (batch_size + 1) ⟨frames,idx :: free_list,capacity⟩ worker taken) =
    { resting (batch_size + 1)
        ⟨Function.update frames idx ((frames idx).write_from pkt.as_slice),free_list,capacity⟩ worker
        taken with
      lanes := fun _ => { rx_q := [idx], tx_q := [], indices := [], freeing := none, batch := none, worker } } := by
  simp [comes,resting,step,run_steering,push,QUEUE_CAPACITY,set,PacketPool.write,Function.update_eq_const_of_subsingleton]
  rfl

private theorem dropped (batch_size : Nat) (frames : FrameIndex → Frame) (idx : FrameIndex) (free_list : List FrameIndex)
    (capacity : Nat) (worker : Worker) (taken : List FrameIndex) (room : free_list.length < capacity)
    (empty : (frames idx).as_slice = []) : ∃ worker', [rewrites,rewrites,rewrites,rewrites,rewrites].foldl
      (step hashedPair ⟨172,16,0,1⟩)
      { resting (batch_size + 1) ⟨frames,free_list,capacity⟩ worker taken with
        lanes := fun _ => { rx_q := [idx], tx_q := [], indices := [], freeing := none, batch := none, worker } } =
    resting (batch_size + 1) ⟨frames,free_list ++ [idx],capacity⟩ worker' taken := by
  have unresolved : resolve (sharing false ∅) (frames idx) = none := by
    rw [resolve,empty]
    rfl
  obtain ⟨metrics,unread⟩ := Worker.rewrite_frame_unresolved hashedPair ⟨172,16,0,1⟩ worker (from_secs 1)
    (by rw [empty]; rfl) unresolved
  simp [resting,rewrites,step,Lane.run_rewriter,Lane.fill,BATCH_DRAIN_SIZE,set,Lane.finish,PacketPool.free,
    push,Function.update_eq_const_of_subsingleton,unread,room]
  exact ⟨_,rfl⟩

private def filler : List (Event 1) := comes .new ++ [rewrites,rewrites,rewrites,rewrites,rewrites]

/-- A packet that is dropped takes a frame from the front of the free list to its end. -/
private theorem filled (batch_size : Nat) (frames : FrameIndex → Frame) (idx : FrameIndex) (free_list : List FrameIndex)
    (capacity : Nat) (worker : Worker) (taken : List FrameIndex) (room : free_list.length < capacity) :
    ∃ frames' worker', filler.foldl (step hashedPair ⟨172,16,0,1⟩)
      (resting (batch_size + 1) ⟨frames,idx :: free_list,capacity⟩ worker taken) =
    resting (batch_size + 1) ⟨frames',free_list ++ [idx],capacity⟩ worker' taken := by
  rw [filler,List.foldl_append,came]
  obtain ⟨worker',rested⟩ := dropped batch_size
    (Function.update frames idx ((frames idx).write_from PacketBuf.new.as_slice)) idx free_list capacity worker taken room
    (by rw [Function.update_self,PacketBuf.write_from_as_slice]; rfl)
  exact ⟨_,worker',rested⟩

/-- Enough of them take all frames from the front to the end. -/
private theorem turned (batch_size capacity : Nat) (taken : List FrameIndex) (frames : FrameIndex → Frame)
    (front rest : List FrameIndex) (worker : Worker) (room : front.length + rest.length ≤ capacity) :
    ∃ frames' worker', (List.replicate front.length filler).flatten.foldl (step hashedPair ⟨172,16,0,1⟩)
      (resting (batch_size + 1) ⟨frames,front ++ rest,capacity⟩ worker taken) =
    resting (batch_size + 1) ⟨frames',rest ++ front,capacity⟩ worker' taken := by
  induction front generalizing frames rest worker with
  | nil => exact ⟨frames,worker,by simp⟩
  | cons idx front ih =>
    rw [List.length_cons] at room
    obtain ⟨frames',worker',first⟩ := filled batch_size frames idx (front ++ rest) capacity worker taken
      (by rw [List.length_append]; omega)
    obtain ⟨frames'',worker'',later⟩ := ih frames' (rest ++ [idx]) worker' (by simp; omega)
    rw [List.length_cons,List.replicate_succ,List.flatten_cons,List.foldl_append,List.cons_append,first,
      List.append_assoc,later]
    exact ⟨frames'',worker'',by simp⟩

private theorem waiting_for_muxer (batch_size : Nat) (idx : FrameIndex) (free_list : List FrameIndex) (capacity : Nat) :
    ∃ frames worker, served.foldl (step hashedPair ⟨172,16,0,1⟩)
      (resting (batch_size + 1) ⟨fun _ => .new,idx :: free_list,capacity⟩ rested []) =
    resting (batch_size + 1) ⟨frames,free_list,capacity⟩ worker [idx] := by
  rw [served,List.foldl_append,came]
  have output : (rested.rewrite_frame hashedPair ⟨172,16,0,1⟩ (sharing false ∅)
      (PacketBuf.new.write_from (segment 40000 40 []).as_slice) (from_secs 1)).2.isSome := by decide +kernel
  obtain ⟨out,output⟩ := Option.isSome_iff_exists.mp output
  simp [resting,rewrites,step,Lane.run_rewriter,Lane.fill,BATCH_DRAIN_SIZE,set,Lane.finish,run_muxer,
    push,Function.update_eq_const_of_subsingleton,output,QUEUE_CAPACITY,sends]
  exact ⟨⟨_,rfl⟩,_,rfl⟩

private def lap (frames : Nat) : List (Event 1) :=
  served ++ ((List.replicate frames filler).flatten ++ (comes .new ++ [sends]))

/-- When the free list comes to a number again, the frame that waits for the muxer
    is overwritten. -/
private theorem overwritten (batch_size capacity : Nat) (idx : FrameIndex) (front rest : List FrameIndex)
    (several : 2 ≤ batch_size) (room : front.length + (idx :: rest).length ≤ capacity) :
    [] ∈ (resting batch_size ⟨fun _ => .new,idx :: (front ++ idx :: rest),capacity⟩ rested []).run_transmits
      hashedPair ⟨172,16,0,1⟩ (lap front.length ++ [sends]) := by
  obtain ⟨batch_size,rfl⟩ : ∃ k, batch_size = k + 2 := ⟨batch_size - 2,by omega⟩
  obtain ⟨frames,worker,first⟩ := waiting_for_muxer (batch_size + 1) idx (front ++ idx :: rest) capacity
  obtain ⟨frames',worker',later⟩ := turned (batch_size + 1) capacity [idx] frames front (idx :: rest) worker room
  rw [run_transmits,Runs.effects_append]
  refine List.mem_append_right _ ?_
  show [] ∈ ((lap front.length).foldl (step hashedPair ⟨172,16,0,1⟩) _).transmits sends ++ []
  rw [List.append_nil,lap,List.foldl_append,first,List.foldl_append,later,List.cons_append,List.foldl_append,came]
  have nothing : PacketBuf.new.as_slice = [] := rfl
  simp [resting,step,sends,run_muxer,transmits,nothing]

/-- The free list of a pool with more frames than there are numbers. -/
private theorem numbered (k : Nat) : ∃ front rest, front.length = 2 ^ 32 - 1 ∧ rest.length = k ∧
    (PacketPool.new (2 ^ 32 + (k + 1))).free_list = 0 :: (front ++ 0 :: rest) := by
  have split : ∀ a, List.range' 0 (a + 1 + (k + 1)) = 0 :: (List.range' 1 a ++ (a + 1) :: List.range' (a + 2) k) := by
    intro a
    rw [← List.range'_append_1,List.range'_succ,List.range'_succ]
    simp
  refine ⟨(List.range' 1 (2 ^ 32 - 1)).map UInt32.ofNat,(List.range' (2 ^ 32 - 1 + 2) k).map UInt32.ofNat,
    by simp,by simp,?_⟩
  rw [PacketPool.new,show 2 ^ 32 + (k + 1) = 2 ^ 32 - 1 + 1 + (k + 1) from rfl,split,List.map_cons,List.map_append,
    List.map_cons]
  rfl

/-- In a pool with more frames than there are numbers, the frame of a packet that
    waits for the muxer is given to another packet, which goes out as it came. -/
theorem recycled_frame_sent :
    ¬ ∀ (x : Xxh3) (src_ipv4 : Ipv4Addr) (n : Nat) [NeZero n] (conn_bits : Nat) (conn_small : conn_bits < 64)
      (conn_ttls : ConnTtls) (fragment_bits : Nat) (fragment_small : fragment_bits < 64)
      (fragment_ttl batch_size now : Nat) (events : List (Event n)),
      let initial := start n (pool_size n batch_size) conn_bits conn_small conn_ttls fragment_bits fragment_small
        fragment_ttl batch_size now
      ∃ origins, InOrder src_ipv4 (initial.run_receives x src_ipv4 events) (initial.run_transmits x src_ipv4 events)
        origins := by
  intro in_order
  obtain ⟨front,rest,lap_length,rest_length,free_list⟩ := numbered 8191
  obtain ⟨origins,in_order⟩ := in_order hashedPair ⟨172,16,0,1⟩ 1 2 (by decide) minutes 2 (by decide) (from_secs 10)
    (2 ^ 31) 0 (lap front.length ++ [sends])
  have large : PacketPool.new (pool_size 1 (2 ^ 31)) = ⟨fun _ => .new,0 :: (front ++ 0 :: rest),pool_size 1 (2 ^ 31)⟩ := by
    rw [← free_list]
    rfl
  have initial : oneRewriter (2 ^ 31) = resting (2 ^ 31) (.new (pool_size 1 (2 ^ 31))) rested [] := rfl
  have room : front.length + (0 :: rest).length ≤ pool_size 1 (2 ^ 31) := by
    rw [List.length_cons,lap_length,rest_length]
    decide
  replace in_order : InOrder ⟨172,16,0,1⟩ _ ((oneRewriter (2 ^ 31)).run_transmits _ _ _) origins := in_order
  rw [initial,large] at in_order
  obtain ⟨_,_,encapsulated⟩ := in_order.encapsulates (overwritten _ _ 0 front rest (by decide) room)
  exact encapsulated.ne_nil rfl

end Pipeline

end Lb.Threading
