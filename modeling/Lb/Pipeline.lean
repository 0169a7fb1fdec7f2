import Lb.Threading

/-!
# The pipeline

The threads of the forwarder. The steering thread copies packets into frames and
spreads the frames over the queues of the rewriters by the hash of their 5-tuple,
each rewriter works its queue off in batches, and the muxer sends what the
rewriters put out and gives the frames back. A step of a thread ends with its
next operation on a queue.
-/
namespace Lb.Threading
open Lb.Addr Lb.Types Lb.Packet Lb.Buffer Lb.Maglev Lb.Applier Lb.Vips Lb.Connections Lb.Fragments Lb.Rewriter

abbrev FrameIndex := UInt32

/-! ### Queues and frames -/

/-- A full queue takes no more frames. -/
def push (capacity : Nat) (queue : List FrameIndex) (idx : FrameIndex) : Option (List FrameIndex) :=
  if queue.length < capacity then some (queue ++ [idx]) else none

theorem push_of_lt {capacity : Nat} {queue : List FrameIndex} {idx : FrameIndex} (room : queue.length < capacity) :
    push capacity queue idx = some (queue ++ [idx]) := if_pos room
theorem push_of_ge {capacity : Nat} {queue : List FrameIndex} {idx : FrameIndex} (full : ¬ queue.length < capacity) :
    push capacity queue idx = none := if_neg full

structure PacketPool where
  frames : FrameIndex → Frame
  free_list : List FrameIndex
  capacity : Nat

namespace PacketPool

/-- All frames start on the free list. Their numbers are cut to 32 bits. -/
def new (capacity : Nat) : PacketPool where
  frames := fun _ => .new
  free_list := (List.range' 0 capacity).map UInt32.ofNat
  capacity := capacity

/-- A frame that does not fit on the free list is lost. -/
def free (pool : PacketPool) (idx : FrameIndex) : PacketPool :=
  { pool with free_list := (push pool.capacity pool.free_list idx).getD pool.free_list }

def write (pool : PacketPool) (idx : FrameIndex) (frame : Frame) : PacketPool :=
  { pool with frames := Function.update pool.frames idx frame }

end PacketPool

/-! ### Steering -/

def assign_queue (x : Xxh3) (pkt_meta : PacketMeta) (num_queues : Nat) : Nat := (pkt_meta.flow_hash x).toNat % num_queues

/-- The queue that a packet is put on. -/
def queue_of (x : Xxh3) (n : Nat) [NeZero n] (data : List UInt8) : Fin n :=
  match PacketMeta.from_ip_bytes data with
  | some pkt_meta => ⟨assign_queue x pkt_meta n,Nat.mod_lt _ (NeZero.pos n)⟩
  | none => 0

/-- What the steering thread does next for the first of the packets that it has
    received: allocate a frame, put the packet on a queue in it, or free it. -/
inductive Stage
  | alloc
  | push (idx : FrameIndex)
  | free (idx : FrameIndex)
deriving DecidableEq

structure Steering where
  rx_buf : List PacketBuf
  stage : Stage

/-! ### Rewriters -/

/-- What a rewriter reads once for a batch. -/
structure Batch where
  vip_matcher : VipMatcher
  lookup_tables : LookupTables
  now : Nat

/-- A rewriter: its queues, the frames it has taken and not rewritten, a frame
    that it is about to free, and what it has read for the batch, unless it is
    still taking frames. -/
structure Lane where
  rx_q : List FrameIndex
  tx_q : List FrameIndex
  indices : List FrameIndex
  freeing : Option FrameIndex
  batch : Option Batch
  worker : Worker

namespace Lane

/-- The first part of the loop of `run_rewriter`: taking a frame, or reading what
    the batch needs. -/
def fill (lane : Lane) (shared : Shared) (now : Nat) : Lane :=
  let filled := { lane with batch := some ⟨shared.vip_matcher,shared.lookup_tables,now⟩ }
  if lane.indices.length < BATCH_DRAIN_SIZE then
    match lane.rx_q with
    | idx :: rx_q => { lane with rx_q, indices := lane.indices ++ [idx] }
    | [] => if lane.indices.isEmpty then lane else filled
  else filled

/-- The end of the loop: the gauges. -/
def finish (lane : Lane) : Lane :=
  let w := lane.worker
  let metrics := (w.metrics.set .conn_table_size w.conn_table.len).set .conn_table_fill_bp w.conn_table.fill_bp
  { lane with batch := none, worker := { w with metrics } }

/-- The next step of the loop of `run_rewriter`, for an IPv4 source. -/
def run_rewriter (x : Xxh3) (src_ipv4 : Ipv4Addr) (lane : Lane) (pool : PacketPool) (shared : Shared) (now : Nat) :
    Lane × PacketPool :=
  match lane.freeing with
  | some idx => ({ lane with freeing := none },pool.free idx)
  | none =>
    match lane.batch with
    | none => (lane.fill shared now,pool)
    | some batch =>
      match lane.indices with
      | [] => (lane.finish,pool)
      | idx :: indices =>
        let (worker,output) := lane.worker.rewrite_frame x src_ipv4
          ⟨batch.vip_matcher,batch.lookup_tables,shared.health_status⟩ (pool.frames idx) batch.now
        let lane := { lane with indices, worker }
        match output with
        | none => ({ lane with freeing := some idx },pool)
        | some frame =>
          match push QUEUE_CAPACITY lane.tx_q idx with
          | some tx_q => ({ lane with tx_q },pool.write idx frame)
          | none => ({ lane with freeing := some idx },pool.write idx frame)

end Lane

/-! ### The muxer -/

/-- The queue that is drained next, the frames that have been taken, and those
    that have been sent and are to be freed. -/
structure Muxer where
  queue : Nat
  send_indices : List FrameIndex
  sent : List FrameIndex

/-! ### All threads -/

structure Pipeline (n : Nat) where
  pool : PacketPool
  steering : Steering
  lanes : Fin n → Lane
  muxer : Muxer
  batch_size : Nat

/-- A thread that makes its next step, with what it receives or reads if the step
    receives or reads anything. -/
inductive Action (n : Nat)
  | run_steering (received : List PacketBuf)
  | run_rewriter (i : Fin n) (shared : Shared)
  | run_muxer

structure Event (n : Nat) where
  action : Action n
  now : Nat

namespace Pipeline
variable {n : Nat}

def start (n capacity conn_bits : Nat) (conn_small : conn_bits < 64) (conn_ttls : ConnTtls) (fragment_bits : Nat)
    (fragment_small : fragment_bits < 64) (fragment_ttl batch_size now : Nat) : Pipeline n where
  pool := .new capacity
  steering := { rx_buf := [], stage := .alloc }
  lanes := fun _ => {
    rx_q := []
    tx_q := []
    indices := []
    freeing := none
    batch := none
    worker := .new conn_bits conn_small conn_ttls fragment_bits fragment_small fragment_ttl now }
  muxer := { queue := 0, send_indices := [], sent := [] }
  batch_size := batch_size

def set (p : Pipeline n) (i : Fin n) (lane : Lane) : Pipeline n := { p with lanes := Function.update p.lanes i lane }

/-- The next step of the loop of `run_steering`. -/
def run_steering (x : Xxh3) [NeZero n] (p : Pipeline n) (received : List PacketBuf) : Pipeline n :=
  match p.steering.rx_buf with
  | [] => { p with steering.rx_buf := received.take p.batch_size }
  | pkt :: rx_buf =>
    match p.steering.stage with
    | .alloc =>
      match p.pool.free_list with
      | [] => { p with steering.rx_buf := rx_buf }
      | idx :: free_list => { p with pool.free_list := free_list, steering.stage := .push idx }
    | .push idx =>
      let frame := (p.pool.frames idx).write_from pkt.as_slice
      let queue_idx := queue_of x n frame.as_slice
      let p := { p with pool := p.pool.write idx frame }
      match push QUEUE_CAPACITY (p.lanes queue_idx).rx_q idx with
      | some rx_q => { p.set queue_idx { p.lanes queue_idx with rx_q } with steering := { rx_buf, stage := .alloc } }
      | none => { p with steering.stage := .free idx }
    | .free idx => { p with pool := p.pool.free idx, steering := { rx_buf, stage := .alloc } }

/-- The next step of the loop of `run_muxer`. -/
def run_muxer (p : Pipeline n) : Pipeline n :=
  match p.muxer.sent with
  | idx :: sent => { p with pool := p.pool.free idx, muxer.sent := sent }
  | [] =>
    if more : p.muxer.queue < n ∧ p.muxer.send_indices.length < p.batch_size then
      let q := p.lanes ⟨p.muxer.queue,more.1⟩
      match q.tx_q with
      | idx :: tx_q =>
        { p.set ⟨p.muxer.queue,more.1⟩ { q with tx_q } with muxer.send_indices := p.muxer.send_indices ++ [idx] }
      | [] => { p with muxer.queue := p.muxer.queue + 1 }
    else { p with muxer := { queue := 0, send_indices := [], sent := p.muxer.send_indices } }

def step (x : Xxh3) (src_ipv4 : Ipv4Addr) [NeZero n] (p : Pipeline n) (e : Event n) : Pipeline n :=
  match e.action with
  | .run_steering received => p.run_steering x received
  | .run_rewriter i shared =>
    let (lane,pool) := (p.lanes i).run_rewriter x src_ipv4 p.pool shared e.now
    { p.set i lane with pool }
  | .run_muxer => p.run_muxer

/-- The packets that a step receives. -/
def receives (p : Pipeline n) (e : Event n) : List PacketBuf :=
  match e.action with
  | .run_steering received => if p.steering.rx_buf = [] then received.take p.batch_size else []
  | .run_rewriter _ _ | .run_muxer => []

/-- The packets that a step gives to be sent. -/
def transmits (p : Pipeline n) (e : Event n) : List (List UInt8) :=
  match e.action with
  | .run_muxer =>
    if p.muxer.sent = [] ∧ ¬ (p.muxer.queue < n ∧ p.muxer.send_indices.length < p.batch_size) then
      p.muxer.send_indices.map fun idx => (p.pool.frames idx).as_slice
    else []
  | .run_steering _ | .run_rewriter _ _ => []

end Pipeline

/-! ### What a step does -/

namespace Lane

/-- The frame that is rewritten next, and its batch. -/
def current (lane : Lane) : Option (Batch × FrameIndex) :=
  match lane.freeing,lane.batch,lane.indices with
  | none,some batch,idx :: _ => some (batch,idx)
  | _,_,_ => none

theorem current_eq_some {lane : Lane} {batch : Batch} {idx : FrameIndex} (next : lane.current = some (batch,idx)) :
    lane.freeing = none ∧ lane.batch = some batch ∧ ∃ rest, lane.indices = idx :: rest := by
  unfold current at next
  split at next
  · rename_i kept batched taken
    cases next
    exact ⟨kept,batched,_,taken⟩
  · cases next

/-- The time that the rewriter goes by. -/
def clock (lane : Lane) (now : Nat) : Nat := lane.batch.elim now Batch.now

/-- What the worker makes of a frame. -/
def rewritten (x : Xxh3) (src_ipv4 : Ipv4Addr) (lane : Lane) (pool : PacketPool) (shared : Shared) (batch : Batch)
    (idx : FrameIndex) : Worker × Option Frame :=
  lane.worker.rewrite_frame x src_ipv4 ⟨batch.vip_matcher,batch.lookup_tables,shared.health_status⟩ (pool.frames idx)
    batch.now

/-- What the step of a rewriter comes to. -/
inductive Turn (x : Xxh3) (src_ipv4 : Ipv4Addr) (lane : Lane) (pool : PacketPool) (shared : Shared) (now : Nat) :
    Lane → PacketPool → Prop
  | free (idx : FrameIndex) (freeing : lane.freeing = some idx) :
    Turn x src_ipv4 lane pool shared now { lane with freeing := none } (pool.free idx)
  | take (idx : FrameIndex) (rx_q : List FrameIndex) (queued : lane.rx_q = idx :: rx_q) :
    Turn x src_ipv4 lane pool shared now { lane with rx_q, indices := lane.indices ++ [idx] } pool
  | other (batch : Option Batch) (metrics : ForwarderMetrics) (time : batch = lane.batch ∨ batch.elim now Batch.now = now) :
    Turn x src_ipv4 lane pool shared now { lane with batch, worker := { lane.worker with metrics } } pool
  | drop (batch : Batch) (idx : FrameIndex) (indices : List FrameIndex) (next : lane.current = some (batch,idx))
    (taken : lane.indices = idx :: indices) (kept : lane.freeing = none)
    (output : (lane.rewritten x src_ipv4 pool shared batch idx).2 = none) :
    Turn x src_ipv4 lane pool shared now
      { lane with indices, worker := (lane.rewritten x src_ipv4 pool shared batch idx).1, freeing := some idx } pool
  | send (batch : Batch) (idx : FrameIndex) (indices : List FrameIndex) (frame : Frame)
    (next : lane.current = some (batch,idx)) (taken : lane.indices = idx :: indices) (kept : lane.freeing = none)
    (output : (lane.rewritten x src_ipv4 pool shared batch idx).2 = some frame)
    (room : lane.tx_q.length < QUEUE_CAPACITY) :
    Turn x src_ipv4 lane pool shared now
      { lane with
        indices
        worker := (lane.rewritten x src_ipv4 pool shared batch idx).1
        tx_q := lane.tx_q ++ [idx] }
      (pool.write idx frame)
  | refuse (batch : Batch) (idx : FrameIndex) (indices : List FrameIndex) (frame : Frame)
    (next : lane.current = some (batch,idx)) (taken : lane.indices = idx :: indices) (kept : lane.freeing = none)
    (output : (lane.rewritten x src_ipv4 pool shared batch idx).2 = some frame) :
    Turn x src_ipv4 lane pool shared now
      { lane with indices, worker := (lane.rewritten x src_ipv4 pool shared batch idx).1, freeing := some idx }
      (pool.write idx frame)

theorem fill_turn (x : Xxh3) (src_ipv4 : Ipv4Addr) (lane : Lane) (pool : PacketPool) (shared : Shared) (now : Nat) :
    Turn x src_ipv4 lane pool shared now (lane.fill shared now) pool := by
  have filled : Turn x src_ipv4 lane pool shared now
      { lane with batch := some ⟨shared.vip_matcher,shared.lookup_tables,now⟩ } pool :=
    .other _ lane.worker.metrics (.inr rfl)
  unfold fill
  by_cases room : lane.indices.length < BATCH_DRAIN_SIZE
  · rw [if_pos room]
    cases queued : lane.rx_q with
    | cons idx rx_q => exact .take idx rx_q queued
    | nil =>
      by_cases empty : lane.indices.isEmpty
      · simp only [empty,if_true]
        exact .other lane.batch lane.worker.metrics (.inl rfl)
      · simp only [empty]
        rwa [queued] at filled
  · rw [if_neg room]
    exact filled

theorem run_rewriter_turn (x : Xxh3) (src_ipv4 : Ipv4Addr) (lane : Lane) (pool : PacketPool) (shared : Shared)
    (now : Nat) : Turn x src_ipv4 lane pool shared now (lane.run_rewriter x src_ipv4 pool shared now).1
      (lane.run_rewriter x src_ipv4 pool shared now).2 := by
  obtain ⟨rx_q,tx_q,indices,freeing,batch,worker⟩ := lane
  cases freeing with
  | some idx => exact .free idx rfl
  | none =>
    cases batch with
    | none => exact fill_turn x src_ipv4 ⟨rx_q,tx_q,indices,none,none,worker⟩ pool shared now
    | some batch =>
      cases indices with
      | nil => exact .other none _ (.inr rfl)
      | cons idx indices =>
        unfold run_rewriter
        dsimp only
        cases output : (worker.rewrite_frame x src_ipv4 ⟨batch.vip_matcher,batch.lookup_tables,shared.health_status⟩
          (pool.frames idx) batch.now).2 with
        | none => exact .drop batch idx indices rfl rfl rfl output
        | some frame =>
          dsimp only
          by_cases room : tx_q.length < QUEUE_CAPACITY
          · rw [push_of_lt room]
            exact .send batch idx indices frame rfl rfl rfl output room
          · rw [push_of_ge room]
            exact .refuse batch idx indices frame rfl rfl rfl output
/-- The step that rewrites a frame. -/
theorem run_rewriter_current (x : Xxh3) (src_ipv4 : Ipv4Addr) (pool : PacketPool) (shared : Shared) (now : Nat)
    {lane : Lane} {batch : Batch} {idx : FrameIndex} (next : lane.current = some (batch,idx)) :
    let rewritten := lane.rewritten x src_ipv4 pool shared batch idx
    (lane.run_rewriter x src_ipv4 pool shared now).1.tx_q =
        (if rewritten.2.isSome ∧ lane.tx_q.length < QUEUE_CAPACITY then lane.tx_q ++ [idx] else lane.tx_q) ∧
      (lane.run_rewriter x src_ipv4 pool shared now).2.frames idx = rewritten.2.getD (pool.frames idx) ∧
      (lane.run_rewriter x src_ipv4 pool shared now).1.worker = rewritten.1 ∧
      (lane.run_rewriter x src_ipv4 pool shared now).1.batch = lane.batch := by
  obtain ⟨rx_q,tx_q,indices,freeing,batch',worker⟩ := lane
  obtain ⟨rfl,rfl,rest,rfl⟩ := current_eq_some next
  unfold run_rewriter Lane.rewritten
  dsimp only
  cases (worker.rewrite_frame x src_ipv4 ⟨batch.vip_matcher,batch.lookup_tables,shared.health_status⟩ (pool.frames idx)
    batch.now).2 with
  | none => exact ⟨by simp,rfl,rfl,rfl⟩
  | some frame =>
    dsimp only
    by_cases room : tx_q.length < QUEUE_CAPACITY
    · rw [push_of_lt room]
      exact ⟨by simp [room],Function.update_self ..,rfl,rfl⟩
    · rw [push_of_ge room]
      exact ⟨by simp [room],Function.update_self ..,rfl,rfl⟩

end Lane

namespace Pipeline
variable {n : Nat} [NeZero n]

/-- What a step comes to, with the packets that it receives and transmits. -/
inductive Moved (x : Xxh3) (src_ipv4 : Ipv4Addr) (p : Pipeline n) (e : Event n) :
    Pipeline n → List PacketBuf → List (List UInt8) → Prop
  | receive (received : List PacketBuf) (empty : p.steering.rx_buf = []) :
    Moved x src_ipv4 p e { p with steering.rx_buf := received.take p.batch_size } (received.take p.batch_size) []
  | exhausted (pkt : PacketBuf) (rx_buf : List PacketBuf) (first : p.steering.rx_buf = pkt :: rx_buf)
    (stage : p.steering.stage = .alloc) : Moved x src_ipv4 p e { p with steering.rx_buf := rx_buf } [] []
  | alloc (idx : FrameIndex) (free_list : List FrameIndex) (busy : p.steering.rx_buf ≠ [])
    (stage : p.steering.stage = .alloc) (head : p.pool.free_list = idx :: free_list) :
    Moved x src_ipv4 p e { p with pool.free_list := free_list, steering.stage := .push idx } [] []
  | enqueue (pkt : PacketBuf) (rx_buf : List PacketBuf) (idx : FrameIndex) (frame : Frame) (i : Fin n)
    (first : p.steering.rx_buf = pkt :: rx_buf) (stage : p.steering.stage = .push idx)
    (copied : frame.as_slice = pkt.as_slice) (steered : i = queue_of x n pkt.as_slice) :
    Moved x src_ipv4 p e
      { p.set i { p.lanes i with rx_q := (p.lanes i).rx_q ++ [idx] } with
        pool := p.pool.write idx frame
        steering := { rx_buf, stage := .alloc } } [] []
  | refuse (idx : FrameIndex) (frame : Frame) (busy : p.steering.rx_buf ≠ []) (stage : p.steering.stage = .push idx) :
    Moved x src_ipv4 p e { p with pool := p.pool.write idx frame, steering.stage := .free idx } [] []
  | release (pkt : PacketBuf) (rx_buf : List PacketBuf) (idx : FrameIndex) (first : p.steering.rx_buf = pkt :: rx_buf)
    (stage : p.steering.stage = .free idx) :
    Moved x src_ipv4 p e { p with pool := p.pool.free idx, steering := { rx_buf, stage := .alloc } } [] []
  | rewriter (i : Fin n) (shared : Shared) (lane : Lane) (pool : PacketPool)
    (action : e.action = .run_rewriter i shared)
    (turn : (p.lanes i).Turn x src_ipv4 p.pool shared e.now lane pool) :
    Moved x src_ipv4 p e { p.set i lane with pool } [] []
  | free (idx : FrameIndex) (sent : List FrameIndex) (rest : p.muxer.sent = idx :: sent) :
    Moved x src_ipv4 p e { p with pool := p.pool.free idx, muxer.sent := sent } [] []
  | collect (i : Fin n) (idx : FrameIndex) (tx_q : List FrameIndex) (none_sent : p.muxer.sent = [])
    (queued : (p.lanes i).tx_q = idx :: tx_q) :
    Moved x src_ipv4 p e
      { p.set i { p.lanes i with tx_q } with muxer.send_indices := p.muxer.send_indices ++ [idx] } [] []
  | next : Moved x src_ipv4 p e { p with muxer.queue := p.muxer.queue + 1 } [] []
  | transmit (none_sent : p.muxer.sent = []) :
    Moved x src_ipv4 p e { p with muxer := { queue := 0, send_indices := [], sent := p.muxer.send_indices } } []
      (p.muxer.send_indices.map fun idx => (p.pool.frames idx).as_slice)

theorem run_steering_moved (x : Xxh3) (src_ipv4 : Ipv4Addr) (p : Pipeline n) (e : Event n) (received : List PacketBuf) :
    Moved x src_ipv4 p e (p.run_steering x received)
      (if p.steering.rx_buf = [] then received.take p.batch_size else []) [] := by
  obtain ⟨pool,⟨rx_buf,stage⟩,lanes,muxer,batch_size⟩ := p
  cases rx_buf with
  | nil => exact .receive received rfl
  | cons pkt rx_buf =>
    cases stage with
    | alloc =>
      obtain ⟨frames,free_list,capacity⟩ := pool
      cases free_list with
      | nil => exact .exhausted pkt rx_buf rfl rfl
      | cons idx free_list => exact .alloc idx free_list (List.cons_ne_nil _ _) rfl rfl
    | push idx =>
      have copied : ((pool.frames idx).write_from pkt.as_slice).as_slice = pkt.as_slice := by
        have fits := pkt.as_slice_length.trans_le pkt.fits
        rw [PacketBuf.write_from_as_slice,List.take_of_length_le fits]
      unfold run_steering
      dsimp only
      rw [copied]
      by_cases room : (lanes (queue_of x n pkt.as_slice)).rx_q.length < QUEUE_CAPACITY
      · rw [push_of_lt room]
        exact .enqueue pkt rx_buf idx _ _ rfl rfl copied rfl
      · rw [push_of_ge room]
        exact .refuse idx _ (List.cons_ne_nil _ _) rfl
    | free idx => exact .release pkt rx_buf idx rfl rfl

theorem run_muxer_moved (x : Xxh3) (src_ipv4 : Ipv4Addr) (p : Pipeline n) (e : Event n) :
    Moved x src_ipv4 p e p.run_muxer []
      (if p.muxer.sent = [] ∧ ¬ (p.muxer.queue < n ∧ p.muxer.send_indices.length < p.batch_size) then
        p.muxer.send_indices.map fun idx => (p.pool.frames idx).as_slice
      else []) := by
  obtain ⟨pool,steering,lanes,⟨queue,send_indices,sent⟩,batch_size⟩ := p
  cases sent with
  | cons idx sent => exact .free idx sent rfl
  | nil =>
    unfold run_muxer
    dsimp only
    by_cases more : queue < n ∧ send_indices.length < batch_size
    · rw [dif_pos more,if_neg (by simp [more])]
      cases queued : (lanes ⟨queue,more.1⟩).tx_q with
      | cons idx tx_q => exact .collect ⟨queue,more.1⟩ idx tx_q rfl queued
      | nil => exact .next
    · rw [dif_neg more,if_pos ⟨rfl,more⟩]
      exact .transmit rfl

theorem step_moved (x : Xxh3) (src_ipv4 : Ipv4Addr) (p : Pipeline n) (e : Event n) :
    Moved x src_ipv4 p e (p.step x src_ipv4 e) (p.receives e) (p.transmits e) := by
  unfold step receives transmits
  cases action : e.action with
  | run_steering received => exact run_steering_moved x src_ipv4 p e received
  | run_rewriter i shared =>
    exact .rewriter i shared _ _ action ((p.lanes i).run_rewriter_turn x src_ipv4 p.pool shared e.now)
  | run_muxer => exact run_muxer_moved x src_ipv4 p e

end Pipeline

end Lb.Threading
