import Lb.Batches
import Lb.Pipeline
import Lb.Runs

/-!
# The accounts of a rewriter

`run_rewriter` counts a frame as forwarded once it is encapsulated, and puts it on
the transmit queue after that. A frame that finds the queue full is freed, and
stays counted as forwarded.
-/
namespace Lb.Threading
open Lb.Addr Lb.Types Lb.Packet Lb.Buffer Lb.Maglev Lb.Applier Lb.Vips Lb.Connections Lb.Fragments Lb.Gre Lb.Rewriter

namespace Worker
section
variable (x : Xxh3)

/-- The backend of a frame, which was recorded before if it is a later fragment. -/
def backend_found (w : Worker) (shared : Shared) (frame : Frame) (now : Nat) : Option IpAddr :=
  if is_non_first_fragment frame.as_slice then
    (FragmentId.from_ipv4_bytes frame.as_slice).bind fun fid => w.fragment_table.get (fid.fragment_hash x) now
  else (resolve shared frame).map fun found => backend_of x w.conn_table shared.health_status found.2 found.1 now

/-- The frame has a backend with an IPv4 address, and room for the outer headers. -/
def Sendable (w : Worker) (shared : Shared) (frame : Frame) (now : Nat) : Prop :=
  (∃ dst_ipv4, w.backend_found x shared frame now = some (.V4 dst_ipv4)) ∧
    frame.len + ENCAP_OVERHEAD ≤ PACKET_BUF_SIZE

end

/-- A frame is forwarded or dropped. -/
structure Fate (m m' : ForwarderMetrics) (sent : Bool) : Prop where
  received : m' .packets_received = m .packets_received
  forwarded : m' .packets_forwarded = m .packets_forwarded + sent.toNat
  dropped : m' .packets_dropped = m .packets_dropped + (!sent).toNat

variable {x : Xxh3} {src_ipv4 : Ipv4Addr} {w : Worker} {shared : Shared} {frame : Frame} {now : Nat}
  {m m' m'' : ForwarderMetrics} {sent : Bool}

theorem output_eq (x : Xxh3) (src_ipv4 : Ipv4Addr) (w : Worker) (shared : Shared) (frame : Frame) (now : Nat) :
    (w.rewrite_frame x src_ipv4 shared frame now).2 =
      (w.backend_found x shared frame now).bind (tunnelled src_ipv4 frame) := by
  unfold backend_found
  by_cases later : is_non_first_fragment frame.as_slice = true
  · obtain ⟨_,rewritten⟩ := rewrite_fragment_eq x src_ipv4 (w.inc .packets_received) frame now
    rw [if_pos later,rewrite_frame_fragment later,rewritten,inc_fragment_table]
  · rw [if_neg later]
    cases resolved : resolve shared frame with
    | none =>
      obtain ⟨_,dropped⟩ := rewrite_frame_unresolved x src_ipv4 w now (Bool.eq_false_of_not_eq_true later) resolved
      rw [dropped]
      rfl
    | some found =>
      obtain ⟨_,rewritten⟩ := rewrite_frame_resolved x src_ipv4 w now resolved
      rw [rewritten]
      rfl

/-- What may be sent is what is put out. -/
theorem sendable_iff : w.Sendable x shared frame now ↔
    (w.rewrite_frame x src_ipv4 shared frame now).2.isSome = true := by
  rw [output_eq,Sendable]
  cases w.backend_found x shared frame now with
  | none => simp
  | some backend_ip =>
    rw [Option.bind_some,← Option.ne_none_iff_isSome,ne_eq,tunnelled_eq_none,Undeliverable]
    cases backend_ip with
    | V4 dst_ipv4 => simp
    | V6 v6 => simp

/-! ### The counters of a frame -/

theorem Fate.after (fate : Fate m' m'' sent) (before : Uncounted m m') : Fate m m'' sent where
  received := fate.received.trans (before _ (by decide))
  forwarded := by rw [fate.forwarded,before _ (by decide)]
  dropped := by rw [fate.dropped,before _ (by decide)]

theorem fate_forwarded (m : ForwarderMetrics) : Fate m (m.inc .packets_forwarded) true := by
  constructor <;> simp [inc_apply]

theorem fate_dropped (m : ForwarderMetrics) : Fate m (m.inc .packets_dropped) false := by
  constructor <;> simp [inc_apply]

theorem insert_tracked_uncounted (w : Worker) (hash : UInt64) (backend_ip : IpAddr) (proto : FlowProto)
    (tcp_state : TcpFlowState) (now : Nat) :
    Uncounted w.metrics (w.insert_tracked hash backend_ip proto tcp_state now).metrics := by
  unfold insert_tracked
  obtain ⟨conn_table,result⟩ := w.conn_table.insert hash backend_ip proto tcp_state now
  cases result with
  | Inserted => exact uncounted_inc _ .conn_table_inserts_total
  | Updated => exact uncounted_inc _ .conn_table_inserts_total
  | EvictedExpired => exact (uncounted_inc _ .conn_table_inserts_total).inc .eviction_expired_on_insert
  | DroppedFull => exact uncounted_inc _ .eviction_dropped_full

theorem apply_tcp_transitions_uncounted (w : Worker) (hash : UInt64) (flags : TcpFlags) (now : Nat) :
    Uncounted w.metrics (w.apply_tcp_transitions hash flags now).metrics := by
  unfold apply_tcp_transitions
  split_ifs
  · exact uncounted_inc w.metrics _
  · exact uncounted_inc w.metrics _
  · exact uncounted_inc w.metrics _
  · exact .refl w.metrics

theorem select_backend_uncounted (x : Xxh3) (w : Worker) (health : Health) (lookup_table : LookupTable)
    (pkt_meta : PacketMeta) (now : Nat) :
    Uncounted w.metrics (w.select_backend x health lookup_table pkt_meta now).1.metrics := by
  unfold select_backend
  dsimp only
  cases w.conn_table.get (pkt_meta.flow_hash x) now with
  | none => exact (uncounted_inc w.metrics _).trans (insert_tracked_uncounted _ _ _ _ _ _)
  | some cached_ip =>
    dsimp only
    split_ifs
    · exact uncounted_inc w.metrics _
    · exact (uncounted_inc w.metrics _).trans (insert_tracked_uncounted _ _ _ _ _ _)

theorem record_fragment_uncounted (x : Xxh3) (w : Worker) (frame : Frame) (backend_ip : IpAddr) (now : Nat) :
    Uncounted w.metrics (w.record_fragment x frame backend_ip now).metrics := by
  unfold record_fragment
  split_ifs
  · cases FragmentId.from_ipv4_bytes frame.as_slice with
    | none => exact .refl w.metrics
    | some fid => exact uncounted_inc w.metrics _
  · exact .refl w.metrics

theorem send_fate (src_ipv4 : Ipv4Addr) (w : Worker) (frame : Frame) (backend_ip : IpAddr) :
    Fate w.metrics (w.send src_ipv4 frame backend_ip).1.metrics (w.send src_ipv4 frame backend_ip).2.isSome := by
  cases backend_ip with
  | V6 v6 => exact fate_dropped w.metrics
  | V4 dst_ipv4 =>
    unfold send
    dsimp only
    cases encapsulate_ipv4 frame src_ipv4 dst_ipv4 with
    | none => exact fate_dropped w.metrics
    | some out => exact fate_forwarded w.metrics

theorem rewrite_fragment_fate (x : Xxh3) (src_ipv4 : Ipv4Addr) (w : Worker) (frame : Frame) (now : Nat) :
    Fate w.metrics (w.rewrite_fragment x src_ipv4 frame now).1.metrics
      (w.rewrite_fragment x src_ipv4 frame now).2.isSome := by
  unfold rewrite_fragment
  cases (FragmentId.from_ipv4_bytes frame.as_slice).bind fun fid => w.fragment_table.get (fid.fragment_hash x) now with
  | none => exact (fate_dropped _).after (uncounted_inc w.metrics .fragment_drop_no_mapping_total)
  | some backend_ip =>
    cases backend_ip with
    | V6 v6 => exact fate_dropped w.metrics
    | V4 dst_ipv4 =>
      dsimp only
      cases encapsulate_ipv4 frame src_ipv4 dst_ipv4 with
      | none => exact fate_dropped w.metrics
      | some out =>
        exact (fate_forwarded _).after
          (uncounted_inc w.metrics .fragment_subsequent_forwarded_total)

/-- A frame is counted as received, and then as forwarded if it is put out and as
    dropped if it is not. -/
theorem rewrite_frame_fate (x : Xxh3) (src_ipv4 : Ipv4Addr) (w : Worker) (shared : Shared) (frame : Frame)
    (now : Nat) :
    Fate (w.metrics.inc .packets_received) (w.rewrite_frame x src_ipv4 shared frame now).1.metrics
      (w.rewrite_frame x src_ipv4 shared frame now).2.isSome := by
  unfold rewrite_frame
  dsimp only
  split_ifs with later
  · exact rewrite_fragment_fate x src_ipv4 (w.inc .packets_received) frame now
  · cases PacketMeta.from_ipv4_bytes frame.as_slice with
    | none => exact fate_dropped _
    | some pkt_meta =>
      dsimp only
      cases shared.vip_matcher.match_packet pkt_meta.dst_ip pkt_meta.protocol pkt_meta.dst_port with
      | none => exact fate_dropped _
      | some pool_id =>
        dsimp only
        cases shared.lookup_tables.lookup pool_id with
        | none => exact fate_dropped _
        | some lookup_table =>
          dsimp only
          have selected := select_backend_uncounted x (w.inc .packets_received) shared.health_status lookup_table
            pkt_meta now
          refine (send_fate src_ipv4 _ frame _).after (.trans ?_ (record_fragment_uncounted x _ frame _ now))
          cases pkt_meta.tcp_flags with
          | none => exact selected
          | some flags => exact selected.trans (apply_tcp_transitions_uncounted _ _ flags now)

end Worker

/-! ### Runs of a rewriter -/

/-- What a rewriter finds for a step: its queues, the pool and what it shares with
    the controller, as the other threads left them. -/
structure Surroundings where
  rx_q : List FrameIndex
  tx_q : List FrameIndex
  pool : PacketPool
  shared : Shared
  now : Nat

namespace Lane

/-- A step of `run_rewriter`, and the frames that it puts on the transmit queue. -/
def work (x : Xxh3) (src_ipv4 : Ipv4Addr) (lane : Lane) (s : Surroundings) : Lane × List FrameIndex :=
  let lane' := ({ lane with rx_q := s.rx_q, tx_q := s.tx_q }.run_rewriter x src_ipv4 s.pool s.shared s.now).1
  (lane',lane'.tx_q.drop s.tx_q.length)

/-- A frame that may be sent finds the transmit queue full. -/
def Overflows (x : Xxh3) (lane : Lane) (s : Surroundings) : Prop :=
  ∃ batch idx, lane.current = some (batch,idx) ∧ lane.worker.Sendable x
    ⟨batch.vip_matcher,batch.lookup_tables,s.shared.health_status⟩ (s.pool.frames idx) batch.now ∧
    QUEUE_CAPACITY ≤ s.tx_q.length

/-- The counters of a rewriter agree with each other and with what it has put on
    its transmit queue. -/
structure Accounts (before after : ForwarderMetrics) (pushed : List FrameIndex) : Prop where
  received : delta before after .packets_received =
    delta before after .packets_forwarded + delta before after .packets_dropped
  forwarded : delta before after .packets_forwarded = pushed.length

section
variable {x : Xxh3} {src_ipv4 : Ipv4Addr} {lane : Lane} {s : Surroundings} {m m' m'' : ForwarderMetrics}

theorem fill_keeps (lane : Lane) (shared : Shared) (now : Nat) :
    (lane.fill shared now).worker = lane.worker ∧ (lane.fill shared now).tx_q = lane.tx_q := by
  unfold fill
  by_cases room : lane.indices.length < BATCH_DRAIN_SIZE
  · rw [if_pos room]
    cases queued : lane.rx_q with
    | cons idx rx_q => exact ⟨rfl,rfl⟩
    | nil => by_cases empty : lane.indices.isEmpty <;> simp [empty]
  · rw [if_neg room]
    exact ⟨rfl,rfl⟩

/-- A step that rewrites no frame counts nothing and sends nothing. -/
theorem work_idle (idle : lane.current = none) :
    Uncounted lane.worker.metrics (lane.work x src_ipv4 s).1.worker.metrics ∧ (lane.work x src_ipv4 s).2 = [] := by
  obtain ⟨rx_q,tx_q,indices,freeing,batch,worker⟩ := lane
  cases freeing with
  | some idx => exact ⟨.refl _,by simp [work,run_rewriter]⟩
  | none =>
    cases batch with
    | none =>
      obtain ⟨same,queue⟩ := fill_keeps ⟨s.rx_q,s.tx_q,indices,none,none,worker⟩ s.shared s.now
      unfold work run_rewriter
      dsimp only
      rw [same,queue,List.drop_length]
      exact ⟨.refl _,rfl⟩
    | some batch =>
      cases indices with
      | nil =>
        refine ⟨?_,by simp [work,run_rewriter,finish]⟩
        exact ((Uncounted.refl worker.metrics).set .conn_table_size _).set .conn_table_fill_bp _
      | cons idx indices => cases idle

/-- A step that rewrites a frame counts it, and sends it if there is room. -/
theorem work_frame {batch : Batch} {idx : FrameIndex} (next : lane.current = some (batch,idx)) :
    let output := (lane.rewritten x src_ipv4 s.pool s.shared batch idx).2
    Worker.Fate (lane.worker.metrics.inc .packets_received) (lane.work x src_ipv4 s).1.worker.metrics output.isSome ∧
      (lane.work x src_ipv4 s).2 = if output.isSome ∧ s.tx_q.length < QUEUE_CAPACITY then [idx] else [] := by
  obtain ⟨queue,_,working,_⟩ := @run_rewriter_current x src_ipv4 s.pool s.shared s.now
    { lane with rx_q := s.rx_q, tx_q := s.tx_q } batch idx next
  have fate := Worker.rewrite_frame_fate x src_ipv4 lane.worker
    ⟨batch.vip_matcher,batch.lookup_tables,s.shared.health_status⟩ (s.pool.frames idx) batch.now
  intro output
  constructor
  · rw [work,working]
    exact fate
  · rw [work,queue]
    show List.drop s.tx_q.length (if output.isSome ∧ s.tx_q.length < QUEUE_CAPACITY then s.tx_q ++ [idx] else s.tx_q) = _
    by_cases pushes : output.isSome ∧ s.tx_q.length < QUEUE_CAPACITY
    · rw [if_pos pushes,if_pos pushes,List.drop_left' rfl]
    · rw [if_neg pushes,if_neg pushes,List.drop_length]

/-- What is received is forwarded or dropped, and what is forwarded is pushed or lost. -/
structure Ledger (m m' : ForwarderMetrics) (pushed lost : Nat) : Prop where
  received : m' .packets_received + m .packets_forwarded + m .packets_dropped =
    m .packets_received + m' .packets_forwarded + m' .packets_dropped
  forwarded : m' .packets_forwarded = m .packets_forwarded + pushed + lost

theorem Ledger.of_uncounted (same : Uncounted m m') : Ledger m m' 0 0 := by
  constructor
  · rw [same _ (by decide),same _ (by decide),same _ (by decide)]
  · exact same _ (by decide)

theorem Ledger.of_fate {sent : Bool} {pushed lost : Nat} (fate : Worker.Fate (m.inc .packets_received) m' sent)
    (split : pushed + lost = sent.toNat) : Ledger m m' pushed lost := by
  obtain ⟨received,forwarded,dropped⟩ := fate
  simp only [inc_apply] at received forwarded dropped
  constructor
  · cases sent
    · simp at received forwarded dropped
      omega
    · simp at received forwarded dropped
      omega
  · simp at forwarded
    omega

theorem Ledger.trans {pushed lost pushed' lost' : Nat} (first : Ledger m m' pushed lost)
    (second : Ledger m' m'' pushed' lost') : Ledger m m'' (pushed + pushed') (lost + lost') := by
  obtain ⟨received,forwarded⟩ := first
  obtain ⟨received',forwarded'⟩ := second
  constructor
  · omega
  · omega

/-- A step loses a frame if and only if the frame finds the queue full. -/
theorem work_ledger (x : Xxh3) (src_ipv4 : Ipv4Addr) (lane : Lane) (s : Surroundings) :
    ∃ lost, Ledger lane.worker.metrics (lane.work x src_ipv4 s).1.worker.metrics
      (lane.work x src_ipv4 s).2.length lost ∧ (lost = 0 ↔ ¬ lane.Overflows x s) := by
  cases next : lane.current with
  | none =>
    obtain ⟨same,nothing⟩ := @work_idle x src_ipv4 lane s next
    rw [nothing]
    refine ⟨0,.of_uncounted same,iff_of_true rfl ?_⟩
    rintro ⟨batch,idx,current,_⟩
    rw [next] at current
    cases current
  | some found =>
    obtain ⟨batch,idx⟩ := found
    obtain ⟨fate,pushed⟩ := @work_frame x src_ipv4 lane s batch idx next
    have overflows : lane.Overflows x s ↔
        (lane.rewritten x src_ipv4 s.pool s.shared batch idx).2.isSome = true ∧ QUEUE_CAPACITY ≤ s.tx_q.length := by
      unfold Overflows rewritten
      rw [← Worker.sendable_iff]
      constructor
      · rintro ⟨batch',idx',current,overflow⟩
        rw [next] at current
        cases current
        exact overflow
      · exact fun overflow => ⟨batch,idx,next,overflow⟩
    rw [overflows,pushed]
    cases output : (lane.rewritten x src_ipv4 s.pool s.shared batch idx).2.isSome with
    | false =>
      rw [output] at fate
      exact ⟨0,.of_fate fate (by simp),by simp⟩
    | true =>
      rw [output] at fate
      by_cases room : s.tx_q.length < QUEUE_CAPACITY
      · exact ⟨0,.of_fate fate (by simp [room]),by simpa using room⟩
      · exact ⟨1,.of_fate fate (by simp [room]),by simpa using room⟩

/-- The losses of a run add up. -/
theorem run_ledger (x : Xxh3) (src_ipv4 : Ipv4Addr) (lane : Lane) (steps : List Surroundings) :
    ∃ lost, Ledger lane.worker.metrics (Runs.after (work x src_ipv4) lane steps).worker.metrics
      (Runs.effects (work x src_ipv4) lane steps).length lost ∧
      (lost = 0 ↔ Runs.Along (fun lane s => (lane.work x src_ipv4 s).1) (fun lane s => ¬ lane.Overflows x s) lane
        steps) := by
  induction steps generalizing lane with
  | nil => exact ⟨0,.of_uncounted (.refl _),iff_of_true rfl trivial⟩
  | cons s steps ih =>
    obtain ⟨lost,ledger,lossless⟩ := work_ledger x src_ipv4 lane s
    obtain ⟨lost',ledger',lossless'⟩ := ih (lane.work x src_ipv4 s).1
    refine ⟨lost + lost',?_,?_⟩
    · rw [Runs.effects,List.length_append]
      exact ledger.trans ledger'
    · rw [Runs.Along,← lossless,← lossless']
      exact Nat.add_eq_zero_iff

end

/-- The counters of a run agree with what was put on the transmit queue if and only
    if no frame that may be sent finds the queue full. -/
theorem run_accounts_iff (x : Xxh3) (src_ipv4 : Ipv4Addr) (lane : Lane) (steps : List Surroundings) :
    Accounts lane.worker.metrics (Runs.after (work x src_ipv4) lane steps).worker.metrics
        (Runs.effects (work x src_ipv4) lane steps) ↔
      Runs.Along (fun lane s => (lane.work x src_ipv4 s).1) (fun lane s => ¬ lane.Overflows x s) lane steps := by
  obtain ⟨lost,⟨received,forwarded⟩,lossless⟩ := run_ledger x src_ipv4 lane steps
  rw [← lossless]
  constructor
  · intro accounts
    have same := accounts.forwarded
    rw [delta] at same
    omega
  · intro none_lost
    refine ⟨?_,?_⟩
    · simp only [delta]
      omega
    · rw [delta]
      omega

/-- A rewriter that has just started. -/
private def fresh : Lane := (Pipeline.start 1 8 2 two_bits minutes 2 two_bits (from_secs 10) 1 0).lanes
  ⟨0,Nat.one_pos⟩

/-- A transmit queue that nobody drains, and one packet that is received. -/
private def crowded (rx_q : List FrameIndex) : Surroundings where
  rx_q := rx_q
  tx_q := List.replicate QUEUE_CAPACITY 0
  pool := { PacketPool.new 8 with frames := fun _ => opening.input }
  shared := opening.shared
  now := opening.now

/-- A packet that finds the transmit queue full is counted as forwarded. -/
theorem full_queue_counted :
    ¬ ∀ (x : Xxh3) (src_ipv4 : Ipv4Addr) (lane : Lane) (steps : List Surroundings),
      Accounts lane.worker.metrics (Runs.after (work x src_ipv4) lane steps).worker.metrics
        (Runs.effects (work x src_ipv4) lane steps) := by
  intro accounts
  have booked := accounts hashedPair ⟨172,16,0,1⟩ fresh [crowded [1],crowded [],crowded []]
  obtain ⟨lost,ledger,lossless⟩ := run_ledger hashedPair ⟨172,16,0,1⟩ fresh [crowded [1],crowded [],crowded []]
  have none_lost : lost = 0 := by
    have forwarded := ledger.forwarded
    have said := booked.forwarded
    rw [delta] at said
    omega
  have last := (lossless.mp none_lost).2.2.1
  refine last ⟨⟨opening.shared.vip_matcher,opening.shared.lookup_tables,opening.now⟩,1,rfl,⟨⟨⟨10,0,0,1⟩,?_⟩,?_⟩,?_⟩
  · decide +kernel
  · decide +kernel
  · simp [crowded]

end Lane

end Lb.Threading
