import Lb.Threading

/-!
# Two rewriters

`run_rewriter` and `RewriterThread` do the same to a packet, except that only
the latter clamps the maximum segment size and answers oversized packets. Their
outputs are the same exactly on runs in which neither makes a difference.
-/
namespace Lb.Threading
open Lb.Addr Lb.Types Lb.Packet Lb.Buffer Lb.Maglev Lb.Applier Lb.Vips Lb.Connections Lb.Fragments Lb.Mtu Lb.Gre
  Lb.Rewriter

section
variable {src_ipv4 : Ipv4Addr} {frame frame' : Frame} {backend_ip : IpAddr}

/-- Different packets of one length come out different, or not at all. -/
theorem tunnelled_same (same_len : frame'.len = frame.len) (different : frame'.as_slice ≠ frame.as_slice) :
    (Worker.tunnelled src_ipv4 frame' backend_ip).map PacketBuf.as_slice =
      (Worker.tunnelled src_ipv4 frame backend_ip).map PacketBuf.as_slice ↔ Worker.Undeliverable frame backend_ip := by
  have both : Worker.Undeliverable frame' backend_ip ↔ Worker.Undeliverable frame backend_ip := by
    unfold Worker.Undeliverable
    rw [same_len]
  constructor
  · intro same
    cases sent : Worker.tunnelled src_ipv4 frame backend_ip with
    | none => exact Worker.tunnelled_eq_none.mp sent
    | some out =>
      rw [sent,Option.map_some,Option.map_eq_some_iff] at same
      obtain ⟨out',sent',same⟩ := same
      refine absurd ?_ different
      rw [← (Worker.tunnelled_eq_some sent').1,same,(Worker.tunnelled_eq_some sent).1]
  · intro undeliverable
    rw [Worker.tunnelled_eq_none.mpr undeliverable,Worker.tunnelled_eq_none.mpr (both.mpr undeliverable)]

theorem gre_encap_to_output {r : RewriterThread} (source : r.src_ip = .V4 src_ipv4) :
    (r.gre_encap_to frame backend_ip).output = Worker.tunnelled src_ipv4 frame backend_ip := by
  unfold RewriterThread.gre_encap_to Worker.tunnelled
  rw [source]
  cases backend_ip with
  | V6 => rfl
  | V4 dst_ipv4 =>
    dsimp only
    cases encapsulate_ipv4 frame src_ipv4 dst_ipv4 <;> rfl

end

section
variable (x : Xxh3)

/-- The thread's output for a packet, and the thread after it. -/
def process (r : RewriterThread) (a : Arrival) : RewriterThread × List (Option (List UInt8)) :=
  let (r',result) := r.process_one x a.shared a.input a.now
  (r',[result.output.map PacketBuf.as_slice])
/-- The worker's output for a packet, and the worker after it. -/
def rewrite (src_ipv4 : Ipv4Addr) (w : Worker) (a : Arrival) : Worker × List (Option (List UInt8)) :=
  let (w',frame) := w.rewrite_frame x src_ipv4 a.shared a.input a.now
  (w',[frame.map PacketBuf.as_slice])

/-- A packet for which the maximum segment size and the MTU make no difference. -/
def Alike (r : RewriterThread) (a : Arrival) : Prop :=
  ∀ pkt_meta lookup_table, resolve a.shared a.input = some (pkt_meta,lookup_table) →
    let oversized := should_generate_icmp a.input.as_slice r.mtu_config.network_mtu = true
    let backend_ip := backend_of x r.conn_table a.shared.health_status lookup_table pkt_meta a.now
    (Worker.Undeliverable a.input backend_ip ∧ (oversized → r.icmp_rate_limiter.Exhausted a.now)) ∨
      (¬ oversized ∧ (clamp_mss a.input.as_slice r.mtu_config.tcp_mss_clamp).2 ≠ .Clamped)

/-- A thread and a worker with the same tables, and the same source address. -/
structure Same (src_ipv4 : Ipv4Addr) (r : RewriterThread) (w : Worker) : Prop where
  source : r.src_ip = .V4 src_ipv4
  conn_table : r.conn_table = w.conn_table
  fragment_table : r.fragment_table = w.fragment_table

end

variable {x : Xxh3} {src_ipv4 : Ipv4Addr} {r : RewriterThread} {w : Worker} {a : Arrival}

/-- A packet that is not clamped is left as it is. -/
theorem clamp_same {input : PacketBuf} (other : (clamp_mss input.as_slice r.mtu_config.tcp_mss_clamp).2 ≠ .Clamped) :
    r.clamp input = input := by
  conv_rhs => rw [← input.with_slice_as_slice]
  unfold RewriterThread.clamp
  congr 1
  exact clamp_mss_same.mpr other

/-- What is sent is what is tunnelled exactly if neither the maximum segment size
    nor the MTU makes a difference. -/
theorem send_outputs (settled : RewriterThread) (source : settled.src_ip = .V4 src_ipv4) (input : PacketBuf)
    (dst_ip backend_ip : IpAddr) (now : Nat) :
    (settled.send (settled.clamp input) dst_ip backend_ip now).2.output.map PacketBuf.as_slice =
        (Worker.tunnelled src_ipv4 input backend_ip).map PacketBuf.as_slice ↔
      (Worker.Undeliverable input backend_ip ∧ (should_generate_icmp input.as_slice settled.mtu_config.network_mtu = true →
        settled.icmp_rate_limiter.Exhausted now)) ∨
      (¬ should_generate_icmp input.as_slice settled.mtu_config.network_mtu = true ∧
        (clamp_mss input.as_slice settled.mtu_config.tcp_mss_clamp).2 ≠ .Clamped) := by
  unfold RewriterThread.send
  rw [RewriterThread.clamp_as_slice,should_generate_icmp_clamped]
  by_cases oversized : should_generate_icmp input.as_slice settled.mtu_config.network_mtu = true
  · simp only [oversized,if_true,true_implies,not_true_eq_false,false_and,or_false]
    rw [← IcmpRateLimiter.not_allowed]
    cases allowed : (settled.icmp_rate_limiter.allow now).2 with
    | true =>
      simp only [if_true,Bool.true_eq_false,and_false,iff_false]
      intro same
      rw [ProcessResult.output,Option.map_some,eq_comm,Option.map_eq_some_iff] at same
      obtain ⟨out,sent,same⟩ := same
      have tos := (Worker.tunnelled_eq_some sent).2.1
      rw [same,generate_icmp_tos] at tos
      exact absurd tos (by decide)
    | false =>
      simp only [Bool.false_eq_true,if_false,and_true]
      rw [ProcessResult.output,Option.map_none,eq_comm,Option.map_eq_none_iff]
      exact Worker.tunnelled_eq_none
  · simp only [oversized,if_false,Bool.false_eq_true,false_implies,and_true,not_false_eq_true,true_and]
    rw [gre_encap_to_output source]
    by_cases clamped : (clamp_mss input.as_slice settled.mtu_config.tcp_mss_clamp).2 = .Clamped
    · simp only [clamped,ne_eq,not_true_eq_false,or_false]
      refine tunnelled_same (RewriterThread.clamp_len _ _) ?_
      rw [RewriterThread.clamp_as_slice]
      exact fun same => clamp_mss_same.mp same clamped
    · rw [clamp_same clamped]
      simp [clamped]

/-- Both leave the tables the same. -/
theorem Same.keeps (same : Same src_ipv4 r w) (a : Arrival) :
    Same src_ipv4 (process x r a).1 (rewrite x src_ipv4 w a).1 := by
  obtain ⟨source,conn,fragments⟩ := same
  obtain ⟨conn_after,fragments_after,source_after,_⟩ := RewriterThread.process_one_tables x r a.shared a.input a.now
  have tables := Worker.rewrite_frame_tables x src_ipv4 w a.shared a.input a.now
  refine ⟨source_after.trans source,conn_after.trans ?_,fragments_after.trans ?_⟩
  · rw [conn]
    exact tables.1.symm
  · rw [conn,fragments]
    exact tables.2.symm

/-- The outputs for a packet are the same exactly if it makes no difference. -/
theorem Same.outputs (same : Same src_ipv4 r w) (a : Arrival) :
    (process x r a).2 = (rewrite x src_ipv4 w a).2 ↔ Alike x r a := by
  obtain ⟨source,conn,fragments⟩ := same
  show [(r.process_one x a.shared a.input a.now).2.output.map PacketBuf.as_slice] =
    [(w.rewrite_frame x src_ipv4 a.shared a.input a.now).2.map PacketBuf.as_slice] ↔ _
  rw [List.singleton_inj]
  cases resolved : resolve a.shared a.input with
  | none =>
    have alike : Alike x r a := by
      intro pkt_meta lookup_table found
      rw [resolved] at found
      cases found
    simp only [alike,iff_true]
    cases first : is_non_first_fragment a.input.as_slice with
    | true =>
      obtain ⟨_,processed⟩ := RewriterThread.process_fragment_eq x r a.input a.now
      obtain ⟨_,rewritten⟩ := Worker.rewrite_fragment_eq x src_ipv4 (w.inc .packets_received) a.input a.now
      rw [RewriterThread.process_one_fragment first,Worker.rewrite_frame_fragment first,processed,rewritten]
      dsimp only [Worker.inc_fragment_table]
      rw [fragments]
      cases (FragmentId.from_ipv4_bytes a.input.as_slice).bind
          fun fid => w.fragment_table.get (fid.fragment_hash x) a.now with
      | none => rfl
      | some backend_ip =>
        dsimp only
        rw [gre_encap_to_output source,Option.bind_some]
    | false =>
      obtain ⟨_,processed⟩ := RewriterThread.process_one_unresolved x r a.now first resolved
      obtain ⟨_,rewritten⟩ := Worker.rewrite_frame_unresolved x src_ipv4 w a.now first resolved
      rw [processed,rewritten]
      rfl
  | some found =>
    obtain ⟨pkt_meta,lookup_table⟩ := found
    obtain ⟨_,processed⟩ := RewriterThread.process_one_resolved x r a.now resolved
    obtain ⟨_,rewritten⟩ := Worker.rewrite_frame_resolved x src_ipv4 w a.now resolved
    rw [processed,rewritten]
    dsimp only
    rw [← conn]
    have one : Alike x r a ↔ _ := ⟨fun alike => alike pkt_meta lookup_table resolved,fun alike m t found => by
      rw [resolved] at found
      cases found
      exact alike⟩
    rw [one]
    exact send_outputs (settled x r a.shared.health_status a.input lookup_table pkt_meta a.now) source a.input
      pkt_meta.dst_ip _ a.now

/-- For every run: what both put out is the same and their tables are equal
    exactly if neither the maximum segment size nor the MTU makes a difference to
    any packet. -/
theorem rewriters_agree (x : Xxh3) (src_ipv4 : Ipv4Addr) (conn_bits : Nat) (conn_small : conn_bits < 64)
    (conn_ttls : ConnTtls) (fragment_bits : Nat) (fragment_small : fragment_bits < 64) (fragment_ttl : Nat)
    (mtu_config : MtuConfig) (icmp_rate_limit start : Nat) (arrivals : List Arrival) :
    let r := RewriterThread.new (.V4 src_ipv4) conn_bits conn_small conn_ttls fragment_bits fragment_small fragment_ttl
      mtu_config icmp_rate_limit start
    let w := Worker.new conn_bits conn_small conn_ttls fragment_bits fragment_small fragment_ttl start
    (Runs.effects (process x) r arrivals = Runs.effects (rewrite x src_ipv4) w arrivals ∧
      (Runs.after (process x) r arrivals).conn_table = (Runs.after (rewrite x src_ipv4) w arrivals).conn_table ∧
      (Runs.after (process x) r arrivals).fragment_table =
        (Runs.after (rewrite x src_ipv4) w arrivals).fragment_table) ↔
      Runs.Along (RewriterThread.step x) (Alike x) r arrivals := by
  intro r w
  have initially : Same src_ipv4 r w := ⟨rfl,rfl,rfl⟩
  have keeps : ∀ r w a, Same src_ipv4 r w → Same src_ipv4 (process x r a).1 (rewrite x src_ipv4 w a).1 :=
    fun _ _ a same => same.keeps a
  have tables := Runs.lockstep keeps initially arrivals
  have outputs := Runs.effects_eq_iff keeps (fun _ _ _ => rfl) (fun _ _ a same => same.outputs a) initially arrivals
  exact ⟨fun agree => outputs.mp agree.1,fun along => ⟨outputs.mpr along,tables.conn_table,tables.fragment_table⟩⟩

/-- The first segment of a connection, with the maximum segment size of 1460. -/
private def syn : PacketBuf :=
  .from_slice ([0x45,0,0,44,0,0,0x40,0,64,6,0,0,10,1,0,1,188,184,100,10] ++ to_be_bytes 40000 ++ to_be_bytes 443 ++
    [0,0,0,1,0,0,0,0,0x60,0x02,1,0,0,0,0,0,2,4,0x05,0xb4])
/-- Both put out the same for two small packets. -/
theorem rewriters_agree_small :
    Runs.effects (process hashedPair) idle [opening,opening] =
      Runs.effects (rewrite hashedPair ⟨172,16,0,1⟩) (.new 2 (by decide) minutes 2 (by decide) (from_secs 10) 0)
        [opening,opening] := by
  have small : ∀ r, r.mtu_config = mtu1500 → Alike hashedPair r opening := by
    intro r config _ _ _
    rw [config]
    exact .inr (by decide)
  exact ((rewriters_agree hashedPair ⟨172,16,0,1⟩ 2 (by decide) minutes 2 (by decide) (from_secs 10) mtu1500 100 0
    [opening,opening]).mpr ⟨small _ rfl,small _ (RewriterThread.process_one_tables hashedPair idle _ _ _).2.2.2,
      trivial⟩).1

/-- The maximum segment size is clamped by one of the rewriters only. -/
theorem rewriters_disagree_on_syn :
    ¬ ∀ (x : Xxh3) (src_ipv4 : Ipv4Addr) (conn_bits : Nat) (conn_small : conn_bits < 64) (conn_ttls : ConnTtls)
      (fragment_bits : Nat) (fragment_small : fragment_bits < 64) (fragment_ttl : Nat) (mtu_config : MtuConfig)
      (icmp_rate_limit start : Nat) (arrivals : List Arrival),
      let r := RewriterThread.new (.V4 src_ipv4) conn_bits conn_small conn_ttls fragment_bits fragment_small
        fragment_ttl mtu_config icmp_rate_limit start
      let w := Worker.new conn_bits conn_small conn_ttls fragment_bits fragment_small fragment_ttl start
      Runs.effects (process x) r arrivals = Runs.effects (rewrite x src_ipv4) w arrivals ∧
        (Runs.after (process x) r arrivals).conn_table = (Runs.after (rewrite x src_ipv4) w arrivals).conn_table ∧
        (Runs.after (process x) r arrivals).fragment_table =
          (Runs.after (rewrite x src_ipv4) w arrivals).fragment_table := by
  intro agree
  have same := (agree hashedPair ⟨172,16,0,1⟩ 2 (by decide) minutes 2 (by decide) (from_secs 10) mtu1500 100 0
    [⟨sharing false ∅,syn,from_secs 1⟩]).1
  revert same
  decide +kernel

end Lb.Threading
