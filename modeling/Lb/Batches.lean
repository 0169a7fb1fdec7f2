import Lb.Compaction
import Lb.Rewriter

/-!
# Batches

`process_batch` writes its output to the front of the slice that it still reads
from, and counts what becomes of each packet.
-/
namespace Lb.Rewriter
open Lb.Addr Lb.Types Lb.Packet Lb.Buffer Lb.Maglev Lb.Applier Lb.Vips Lb.Connections Lb.Fragments Lb.Mtu Lb.Compaction

namespace RewriterThread

/-- The body of the loop. The health is what the packet with this number finds. -/
def process_packet (x : Xxh3) (vip_matcher : VipMatcher) (lookup_tables : LookupTables) (now : Nat)
    (health : Nat → Health) (read_idx : Nat) (r : RewriterThread) (input : PacketBuf) :
    RewriterThread × Option PacketBuf :=
  let (r,result) := (r.inc .packets_received).process_one x ⟨vip_matcher,lookup_tables,health read_idx⟩ input now
  r.count_result result

/-- `process_batch` on the slice itself: the thread, the slice and `write_idx`. -/
def process_slice (x : Xxh3) (r : RewriterThread) (vip_matcher : VipMatcher) (lookup_tables : LookupTables) (now : Nat)
    (health : Nat → Health) (packets : List PacketBuf) : Option (RewriterThread × List PacketBuf × Nat) :=
  (compact (process_packet x vip_matcher lookup_tables now health) r packets).map fun scan =>
    let r := scan.state
    ({ r with
       metrics := (r.metrics.set .conn_table_size r.conn_table.len).set .conn_table_fill_bp r.conn_table.fill_bp },
      scan.cells,scan.write_idx)

end RewriterThread

/-- The packets from some number on, with the health that each finds. -/
def paired (health : Nat → Health) (i : Nat) (packets : List PacketBuf) : List (PacketBuf × Health) :=
  (packets.zipIdx i).map fun packet => (packet.1,health packet.2)

/-- How much a counter has gone up. -/
def delta (before after : ForwarderMetrics) (metric : Metric) : Int := after metric - before metric

/-- The counters that a batch counts its packets with. -/
def batch_counters : List Metric :=
  [.packets_received,.packets_forwarded,.packets_dropped,.icmp_frag_needed_sent_total,
    .icmp_frag_needed_ratelimited_total,.packets_oversized_dropped_total]

/-- What a result is counted as. -/
def ProcessResult.counted : ProcessResult → List Metric
  | .Forwarded _ => [.packets_forwarded]
  | .Icmp _ => [.icmp_frag_needed_sent_total,.packets_oversized_dropped_total]
  | .OversizedRateLimited =>
    [.icmp_frag_needed_ratelimited_total,.packets_oversized_dropped_total,.packets_dropped]
  | .Dropped => [.packets_dropped]

/-- How often results are counted in a counter. -/
def tally (results : List ProcessResult) (metric : Metric) : Nat :=
  (results.flatMap ProcessResult.counted).count metric + if metric = .packets_received then results.length else 0

section
variable {x : Xxh3} {m m' m'' : ForwarderMetrics} {now : Nat} {metric : Metric}

/-! ### The slice -/

theorem fold_eq (vip_matcher : VipMatcher) (lookup_tables : LookupTables) (health : Nat → Health) (i : Nat)
    (r : RewriterThread) (packets : List PacketBuf) :
    fold (RewriterThread.process_packet x vip_matcher lookup_tables now health) i r packets =
      RewriterThread.process_packets x vip_matcher lookup_tables now r (paired health i packets) := by
  induction packets generalizing i r with
  | nil => rfl
  | cons packet packets ih =>
    rw [fold,paired,List.zipIdx_cons,List.map_cons,RewriterThread.process_packets]
    dsimp only
    rw [ih]
    rfl

/-- The output of a batch stands at the front of the slice. -/
theorem process_slice_eq (x : Xxh3) (r : RewriterThread) (vip_matcher : VipMatcher) (lookup_tables : LookupTables)
    (now : Nat) (health : Nat → Health) (packets : List PacketBuf) :
    let batch := r.process_batch x vip_matcher lookup_tables now (paired health 0 packets)
    ∃ rest, r.process_slice x vip_matcher lookup_tables now health packets =
        some (batch.1,batch.2 ++ rest,batch.2.length) ∧ packets.length = batch.2.length + rest.length := by
  obtain ⟨rest,run,length⟩ :=
    compact_eq (RewriterThread.process_packet x vip_matcher lookup_tables now health) r packets
  rw [fold_eq] at run length
  refine ⟨rest,?_,length⟩
  rw [RewriterThread.process_slice,run]
  rfl

/-! ### The counters -/

/-- The counters of the batch are as they were. -/
def Uncounted (m m' : ForwarderMetrics) : Prop := ∀ metric ∈ batch_counters, m' metric = m metric

theorem Uncounted.refl (m : ForwarderMetrics) : Uncounted m m := fun _ _ => rfl

theorem Uncounted.trans (first : Uncounted m m') (second : Uncounted m' m'') : Uncounted m m'' :=
  fun metric counts => (second metric counts).trans (first metric counts)

theorem inc_apply (m : ForwarderMetrics) (counted metric : Metric) :
    m.inc counted metric = m metric + if metric = counted then 1 else 0 := by
  simp only [ForwarderMetrics.inc,ForwarderMetrics.set,Function.update_apply]
  by_cases same : metric = counted
  · rw [if_pos same,if_pos same,same]
  · rw [if_neg same,if_neg same,Nat.add_zero]

theorem Uncounted.set (before : Uncounted m m') (metric : Metric) (value : Nat)
    (other : metric ∉ batch_counters := by decide) : Uncounted m (m'.set metric value) := by
  intro counter counts
  have differs : counter ≠ metric := fun same => other (same ▸ counts)
  rw [ForwarderMetrics.set,Function.update_of_ne differs]
  exact before counter counts

theorem Uncounted.inc (before : Uncounted m m') (metric : Metric) (other : metric ∉ batch_counters := by decide) :
    Uncounted m (m'.inc metric) := before.set metric _ other

theorem uncounted_inc (m : ForwarderMetrics) (metric : Metric) (other : metric ∉ batch_counters := by decide) :
    Uncounted m (m.inc metric) := (Uncounted.refl m).inc metric other

theorem insert_tracked_uncounted (r : RewriterThread) (hash : UInt64) (backend_ip : IpAddr) (proto : FlowProto)
    (tcp_state : TcpFlowState) (now : Nat) :
    Uncounted r.metrics (r.insert_tracked hash backend_ip proto tcp_state now).metrics := by
  unfold RewriterThread.insert_tracked
  obtain ⟨conn_table,result⟩ := r.conn_table.insert hash backend_ip proto tcp_state now
  cases result with
  | Inserted => exact uncounted_inc _ .conn_table_inserts_total
  | Updated => exact uncounted_inc _ .conn_table_inserts_total
  | EvictedExpired => exact (uncounted_inc _ .conn_table_inserts_total).inc .eviction_expired_on_insert
  | DroppedFull => exact uncounted_inc _ .eviction_dropped_full

theorem apply_tcp_transitions_uncounted (r : RewriterThread) (hash : UInt64) (flags : TcpFlags) (now : Nat) :
    Uncounted r.metrics (r.apply_tcp_transitions hash flags now).metrics := by
  unfold RewriterThread.apply_tcp_transitions
  split_ifs
  · exact uncounted_inc r.metrics _
  · exact uncounted_inc r.metrics _
  · exact uncounted_inc r.metrics _
  · exact .refl r.metrics

theorem count_clamp_uncounted (r : RewriterThread) (result : ClampResult) :
    Uncounted r.metrics (r.count_clamp result).metrics := by
  cases result with
  | Clamped => exact uncounted_inc r.metrics _
  | Noop => exact uncounted_inc r.metrics _
  | MssMissing => exact uncounted_inc r.metrics _
  | NotTcp => exact .refl r.metrics
  | NotSyn => exact .refl r.metrics

theorem process_fragment_uncounted (x : Xxh3) (r : RewriterThread) (input : PacketBuf) (now : Nat) :
    Uncounted r.metrics (r.process_fragment x input now).1.metrics := by
  unfold RewriterThread.process_fragment
  cases FragmentId.from_ipv4_bytes input.as_slice with
  | none => exact .refl r.metrics
  | some fid =>
    dsimp only
    cases r.fragment_table.get (fid.fragment_hash x) now with
    | none => exact uncounted_inc r.metrics _
    | some backend_ip => exact uncounted_inc r.metrics _

theorem select_backend_uncounted (x : Xxh3) (r : RewriterThread) (health : Health) (lookup_table : LookupTable)
    (pkt_meta : PacketMeta) (now : Nat) :
    Uncounted r.metrics (r.select_backend x health lookup_table pkt_meta now).1.metrics := by
  unfold RewriterThread.select_backend
  dsimp only
  cases r.conn_table.get (pkt_meta.flow_hash x) now with
  | none =>
    exact (uncounted_inc r.metrics _).trans (insert_tracked_uncounted _ _ _ _ _ _)
  | some cached_ip =>
    dsimp only
    split_ifs
    · exact uncounted_inc r.metrics _
    · exact (uncounted_inc r.metrics _).trans (insert_tracked_uncounted _ _ _ _ _ _)

theorem record_fragment_uncounted (x : Xxh3) (r : RewriterThread) (input : PacketBuf) (backend_ip : IpAddr)
    (now : Nat) : Uncounted r.metrics (r.record_fragment x input backend_ip now).metrics := by
  unfold RewriterThread.record_fragment
  split_ifs
  · cases FragmentId.from_ipv4_bytes input.as_slice with
    | none => exact .refl r.metrics
    | some fid => exact uncounted_inc r.metrics _
  · exact .refl r.metrics

theorem send_uncounted (r : RewriterThread) (output : PacketBuf) (dst_ip backend_ip : IpAddr) (now : Nat) :
    Uncounted r.metrics (r.send output dst_ip backend_ip now).1.metrics := by
  obtain ⟨icmp_rate_limiter,sent⟩ := RewriterThread.send_eq r output dst_ip backend_ip now
  rw [sent]
  exact .refl r.metrics

theorem process_one_uncounted (x : Xxh3) (r : RewriterThread) (shared : Shared) (input : PacketBuf) (now : Nat) :
    Uncounted r.metrics (r.process_one x shared input now).1.metrics := by
  unfold RewriterThread.process_one
  split_ifs with later
  · exact process_fragment_uncounted x r input now
  · cases PacketMeta.from_ipv4_bytes input.as_slice with
    | none => exact .refl r.metrics
    | some pkt_meta =>
      dsimp only
      cases shared.vip_matcher.match_packet pkt_meta.dst_ip pkt_meta.protocol pkt_meta.dst_port with
      | none => exact .refl r.metrics
      | some pool_id =>
        dsimp only
        cases shared.lookup_tables.lookup pool_id with
        | none => exact count_clamp_uncounted r _
        | some lookup_table =>
          dsimp only
          have selected := (count_clamp_uncounted r (clamp_mss input.as_slice r.mtu_config.tcp_mss_clamp).2).trans
            (select_backend_uncounted x _ shared.health_status lookup_table pkt_meta now)
          refine .trans (.trans ?_ (record_fragment_uncounted x _ input _ now)) (send_uncounted _ _ _ _ now)
          cases pkt_meta.tcp_flags with
          | none => exact selected
          | some flags => exact selected.trans (apply_tcp_transitions_uncounted _ _ flags now)

theorem count_result_metrics (r : RewriterThread) (result : ProcessResult) (metric : Metric) :
    (r.count_result result).1.metrics metric = r.metrics metric + result.counted.count metric := by
  have order : ∀ counted : Metric, (counted = metric) = (metric = counted) := fun counted => propext eq_comm
  cases result with
  | Forwarded pkt =>
    simp only [RewriterThread.count_result,ProcessResult.counted,RewriterThread.inc,inc_apply,List.count_singleton,
      beq_iff_eq,order]
  | Icmp pkt =>
    simp only [RewriterThread.count_result,ProcessResult.counted,RewriterThread.inc,inc_apply,List.count_cons,
      List.count_nil,beq_iff_eq,order]
    omega
  | OversizedRateLimited =>
    simp only [RewriterThread.count_result,ProcessResult.counted,RewriterThread.inc,inc_apply,List.count_cons,
      List.count_nil,beq_iff_eq,order]
    omega
  | Dropped =>
    simp only [RewriterThread.count_result,ProcessResult.counted,RewriterThread.inc,inc_apply,List.count_singleton,
      beq_iff_eq,order]

theorem tally_cons (result : ProcessResult) (rest : List ProcessResult) (metric : Metric) :
    tally (result :: rest) metric =
      (if metric = .packets_received then 1 else 0) + result.counted.count metric + tally rest metric := by
  simp only [tally,List.flatMap_cons,List.count_append,List.length_cons]
  split_ifs <;> omega

/-- Each packet is counted as what became of it. -/
theorem process_packets_counts (vip_matcher : VipMatcher) (lookup_tables : LookupTables) (now : Nat)
    (packets : List (PacketBuf × Health)) (r : RewriterThread) (metrics : ForwarderMetrics)
    (counts : metric ∈ batch_counters) :
    (RewriterThread.process_packets x vip_matcher lookup_tables now { r with metrics } packets).1.metrics metric =
      metrics metric + tally (RewriterThread.results x vip_matcher lookup_tables now r packets) metric := by
  induction packets generalizing r metrics with
  | nil => simp [RewriterThread.process_packets,RewriterThread.results,Runs.effects,tally]
  | cons packet packets ih =>
    obtain ⟨one_metrics,one⟩ := RewriterThread.process_one_metrics x r (metrics.inc .packets_received)
      ⟨vip_matcher,lookup_tables,packet.2⟩ packet.1 now
    obtain ⟨count_metrics,counted⟩ := RewriterThread.count_result_eq
      { r.step x (RewriterThread.arrival vip_matcher lookup_tables now packet) with metrics := one_metrics }
      (r.process_one x ⟨vip_matcher,lookup_tables,packet.2⟩ packet.1 now).2
    have received : one_metrics metric = metrics metric + if metric = .packets_received then 1 else 0 := by
      have same := process_one_uncounted x { r with metrics := metrics.inc .packets_received }
        ⟨vip_matcher,lookup_tables,packet.2⟩ packet.1 now metric counts
      rw [one] at same
      exact same.trans (inc_apply metrics .packets_received metric)
    have made : count_metrics metric = one_metrics metric +
        (r.process_one x ⟨vip_matcher,lookup_tables,packet.2⟩ packet.1 now).2.counted.count metric := by
      have same := count_result_metrics
        { r.step x (RewriterThread.arrival vip_matcher lookup_tables now packet) with metrics := one_metrics }
        (r.process_one x ⟨vip_matcher,lookup_tables,packet.2⟩ packet.1 now).2 metric
      rwa [counted] at same
    have rest : RewriterThread.results x vip_matcher lookup_tables now r (packet :: packets) =
        (r.process_one x ⟨vip_matcher,lookup_tables,packet.2⟩ packet.1 now).2 ::
          RewriterThread.results x vip_matcher lookup_tables now
            (r.step x (RewriterThread.arrival vip_matcher lookup_tables now packet)) packets := rfl
    have run := ih (r.step x (RewriterThread.arrival vip_matcher lookup_tables now packet)) count_metrics
    rw [@RewriterThread.process_packets_cons x { r with metrics } _ _ _ _ _ _ _ one counted packets,rest,tally_cons]
    dsimp only at run ⊢
    rw [run]
    omega

/-- Every packet has one result. -/
theorem tally_balances (results : List ProcessResult) :
    tally results .packets_received = tally results .packets_forwarded +
      tally results .icmp_frag_needed_sent_total + tally results .packets_dropped ∧
    tally results .packets_oversized_dropped_total =
      tally results .icmp_frag_needed_sent_total + tally results .icmp_frag_needed_ratelimited_total ∧
    tally results .packets_forwarded + tally results .icmp_frag_needed_sent_total =
      (results.filterMap ProcessResult.output).length := by
  induction results with
  | nil => simp [tally]
  | cons result results ih =>
    obtain ⟨received,oversized,sent⟩ := ih
    simp only [tally_cons,RewriterThread.outputs_cons,List.length_append]
    cases result with
    | Forwarded pkt =>
      simp [ProcessResult.counted,ProcessResult.output]
      omega
    | Icmp pkt =>
      simp [ProcessResult.counted,ProcessResult.output]
      omega
    | OversizedRateLimited =>
      simp [ProcessResult.counted,ProcessResult.output]
      omega
    | Dropped =>
      simp [ProcessResult.counted,ProcessResult.output]
      omega

/-- The gauges are no counters of the batch. -/
theorem process_batch_counts (x : Xxh3) (r : RewriterThread) (vip_matcher : VipMatcher) (lookup_tables : LookupTables)
    (now : Nat) (packets : List (PacketBuf × Health)) (counts : metric ∈ batch_counters) :
    delta r.metrics (r.process_batch x vip_matcher lookup_tables now packets).1.metrics metric =
      tally (RewriterThread.results x vip_matcher lookup_tables now r packets) metric := by
  have run : (RewriterThread.process_packets x vip_matcher lookup_tables now r packets).1.metrics metric =
      r.metrics metric + tally (RewriterThread.results x vip_matcher lookup_tables now r packets) metric :=
    process_packets_counts vip_matcher lookup_tables now packets r r.metrics counts
  have gauges : (r.process_batch x vip_matcher lookup_tables now packets).1.metrics metric =
      (RewriterThread.process_packets x vip_matcher lookup_tables now r packets).1.metrics metric :=
    (((Uncounted.refl _).set .conn_table_size _).set .conn_table_fill_bp _) metric counts
  rw [delta,gauges]
  omega

end

/-- A batch leaves what it forwards and the errors that it sends, in the order of
    their packets, at the front of the slice, and counts every packet once. -/
theorem batch_compacts_and_accounts (x : Xxh3) (r : RewriterThread) (vip_matcher : VipMatcher)
    (lookup_tables : LookupTables) (now : Nat) (health : Nat → Health) (packets : List PacketBuf) :
    ∃ after slice k, r.process_slice x vip_matcher lookup_tables now health packets = some (after,slice,k) ∧
      slice.length = packets.length ∧ k ≤ slice.length ∧
      slice.take k = (RewriterThread.results x vip_matcher lookup_tables now r (paired health 0 packets)).filterMap
        ProcessResult.output ∧
      delta r.metrics after.metrics .packets_received = delta r.metrics after.metrics .packets_forwarded +
        delta r.metrics after.metrics .icmp_frag_needed_sent_total + delta r.metrics after.metrics .packets_dropped ∧
      delta r.metrics after.metrics .packets_oversized_dropped_total =
        delta r.metrics after.metrics .icmp_frag_needed_sent_total + delta r.metrics after.metrics .icmp_frag_needed_ratelimited_total ∧
      delta r.metrics after.metrics .packets_forwarded + delta r.metrics after.metrics .icmp_frag_needed_sent_total = k := by
  obtain ⟨rest,run,length⟩ := process_slice_eq x r vip_matcher lookup_tables now health packets
  obtain ⟨metrics,batch⟩ := @RewriterThread.process_batch_eq x r vip_matcher lookup_tables now (paired health 0 packets)
  have output := congrArg Prod.snd batch
  dsimp only at output
  have counted : ∀ metric ∈ batch_counters,
      delta r.metrics (r.process_batch x vip_matcher lookup_tables now (paired health 0 packets)).1.metrics metric =
        tally (RewriterThread.results x vip_matcher lookup_tables now r (paired health 0 packets)) metric :=
    fun metric counts => process_batch_counts x r vip_matcher lookup_tables now _ counts
  obtain ⟨received,oversized,sent⟩ := tally_balances
    (RewriterThread.results x vip_matcher lookup_tables now r (paired health 0 packets))
  refine ⟨_,_,_,run,by simp [length],by simp,?_,?_,?_,?_⟩
  · rw [List.take_left' rfl,output]
  · rw [counted _ (by decide),counted _ (by decide),counted _ (by decide),counted _ (by decide),received]
    simp
  · rw [counted _ (by decide),counted _ (by decide),counted _ (by decide),oversized]
    simp
  · rw [counted _ (by decide),counted _ (by decide),output,← sent]
    simp

end Lb.Rewriter
