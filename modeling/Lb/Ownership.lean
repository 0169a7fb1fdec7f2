import Lb.Census
import Lb.Pipeline
import Lb.Runs
import Mathlib.Tactic.DeriveFintype

/-!
# Frame ownership

Every frame is at all times on one queue, or held by one thread, whatever the
threads do.
-/
namespace Lb.Threading
open Lb.Addr Lb.Types Lb.Packet Lb.Buffer Lb.Rewriter Lb.Census

/-- Where a frame can be: on a queue, or held by a thread. -/
inductive Place (n : Nat)
  | free_list
  | rx_q (i : Fin n)
  | tx_q (i : Fin n)
  | steering
  | rewriter (i : Fin n)
  | muxer
deriving DecidableEq, Fintype

def Stage.held : Stage → List FrameIndex
  | .alloc => []
  | .push idx | .free idx => [idx]
def Lane.held (lane : Lane) : List FrameIndex := lane.freeing.toList ++ lane.indices
def Muxer.held (muxer : Muxer) : List FrameIndex := muxer.send_indices ++ muxer.sent

namespace Pipeline
variable {n : Nat} {p : Pipeline n}

/-- The frames in a place. -/
def holds (p : Pipeline n) : Place n → List FrameIndex
  | .free_list => p.pool.free_list
  | .rx_q i => (p.lanes i).rx_q
  | .tx_q i => (p.lanes i).tx_q
  | .steering => p.steering.stage.held
  | .rewriter i => (p.lanes i).held
  | .muxer => p.muxer.held

/-- All frames are somewhere, and nothing else is. -/
def Accounted (p : Pipeline n) : Prop :=
  census p.holds = ((List.range' 0 p.pool.capacity).map UInt32.ofNat : Multiset FrameIndex)

/-- What a thread holds has room on the free list. -/
theorem Accounted.room (accounted : p.Accounted) {place : Place n} {idx : FrameIndex}
    (held : idx ∈ p.holds place) (elsewhere : place ≠ .free_list) : p.pool.free_list.length < p.pool.capacity := by
  have all : (census p.holds).card = p.pool.capacity := by
    rw [accounted]
    simp
  have some_held := List.length_pos_of_mem held
  have both : (p.holds place).length + p.pool.free_list.length ≤ (census p.holds).card := length_add_le elsewhere
  rw [all] at both
  omega

theorem free_eq {pool : PacketPool} (room : pool.free_list.length < pool.capacity) (idx : FrameIndex) :
    pool.free idx = { pool with free_list := pool.free_list ++ [idx] } := by
  rw [PacketPool.free,push_of_lt room,Option.getD_some]

theorem holds_pool (p : Pipeline n) (pool : PacketPool) (place : Place n)
    (list : place = .free_list → pool.free_list = p.pool.free_list) :
    ({ p with pool } : Pipeline n).holds place = p.holds place := by
  cases place with
  | free_list => exact list rfl
  | rx_q | tx_q | steering | rewriter | muxer => rfl
theorem holds_steering (p : Pipeline n) (steering : Steering) (place : Place n)
    (held : place = .steering → steering.stage.held = p.steering.stage.held) :
    ({ p with steering } : Pipeline n).holds place = p.holds place := by
  cases place with
  | steering => exact held rfl
  | free_list | rx_q | tx_q | rewriter | muxer => rfl
theorem holds_muxer (p : Pipeline n) (muxer : Muxer) (place : Place n)
    (held : place = .muxer → muxer.held = p.muxer.held) :
    ({ p with muxer } : Pipeline n).holds place = p.holds place := by
  cases place with
  | muxer => exact held rfl
  | free_list | rx_q | tx_q | steering | rewriter => rfl

theorem set_self (p : Pipeline n) (i : Fin n) (lane : Lane) : (p.set i lane).lanes i = lane := Function.update_self ..
theorem set_other (p : Pipeline n) {i j : Fin n} (lane : Lane) (other : j ≠ i) : (p.set i lane).lanes j = p.lanes j :=
  Function.update_of_ne other ..

/-- What holds of a lane holds of it after another lane has changed. -/
theorem set_keeps (p : Pipeline n) (P : Lane → Prop) {i k : Fin n} {lane : Lane} (keeps : P (p.lanes i))
    (own : i = k → P lane) : P ((p.set k lane).lanes i) := by
  by_cases here : i = k
  · subst here
    rw [set_self]
    exact own rfl
  · rw [set_other p lane here]
    exact keeps

/-- A rewriter that changes leaves the places of the others alone, and those of
    its own that it does not touch. -/
theorem holds_set (p : Pipeline n) (i : Fin n) (lane : Lane) (place : Place n)
    (rx : place = .rx_q i → lane.rx_q = (p.lanes i).rx_q) (tx : place = .tx_q i → lane.tx_q = (p.lanes i).tx_q)
    (held : place = .rewriter i → lane.held = (p.lanes i).held) : (p.set i lane).holds place = p.holds place := by
  have others : ∀ j, j ≠ i → (p.set i lane).lanes j = p.lanes j := fun j other => p.set_other lane other
  cases place with
  | free_list | steering | muxer => rfl
  | rx_q j =>
    by_cases here : j = i
    · subst here
      exact (congrArg Lane.rx_q (p.set_self j lane)).trans (rx rfl)
    · exact congrArg Lane.rx_q (others j here)
  | tx_q j =>
    by_cases here : j = i
    · subst here
      exact (congrArg Lane.tx_q (p.set_self j lane)).trans (tx rfl)
    · exact congrArg Lane.tx_q (others j here)
  | rewriter j =>
    by_cases here : j = i
    · subst here
      exact (congrArg Lane.held (p.set_self j lane)).trans (held rfl)
    · exact congrArg Lane.held (others j here)

/-- A step of a rewriter moves a frame at most. -/
theorem Accounted.turn {x : Xxh3} {src_ipv4 : Ipv4Addr} {i : Fin n} {shared : Shared} {now : Nat} {lane : Lane}
    {pool : PacketPool} (accounted : p.Accounted)
    (turn : (p.lanes i).Turn x src_ipv4 p.pool shared now lane pool) :
    ({ p.set i lane with pool } : Pipeline n).Accounted := by
  have unmoved : ∀ lane pool, pool.free_list = p.pool.free_list → lane.rx_q = (p.lanes i).rx_q →
      lane.tx_q = (p.lanes i).tx_q → lane.held = (p.lanes i).held → pool.capacity = p.pool.capacity →
      ({ p.set i lane with pool } : Pipeline n).Accounted := by
    intro lane pool list rx tx held capacity
    unfold Accounted
    rw [capacity,← accounted]
    refine census_perm fun place => ?_
    rw [holds_pool (p.set i lane) pool place fun _ => list,holds_set p i lane place (fun _ => rx) (fun _ => tx)
      (fun _ => held)]
  cases turn with
  | free idx freeing =>
    have held : (p.lanes i).held = idx :: (p.lanes i).indices := by rw [Lane.held,freeing]; rfl
    have here : idx ∈ p.holds (.rewriter i) := by
      show idx ∈ (p.lanes i).held
      rw [held]
      exact List.mem_cons_self
    have room := accounted.room here (by simp)
    rw [free_eq room]
    refine (census_move (a := .rewriter i) (b := .free_list) (by simp) ?_ fun place apart apart' => ?_).trans accounted
    · show (((p.set i _).lanes i).held ++ (p.pool.free_list ++ [idx])).Perm ((p.lanes i).held ++ p.pool.free_list)
      rw [set_self,held,← List.append_assoc]
      exact List.perm_append_singleton idx _
    · rw [holds_pool _ _ _ fun same => absurd same apart']
      exact holds_set p i _ place (fun _ => rfl) (fun _ => rfl) (fun same => absurd same apart)
  | take idx rx_q queued =>
    refine (census_move (a := .rewriter i) (b := .rx_q i) (by simp) ?_ fun place apart apart' => ?_).trans accounted
    · show (((p.set i _).lanes i).held ++ ((p.set i _).lanes i).rx_q).Perm ((p.lanes i).held ++ (p.lanes i).rx_q)
      rw [set_self,queued]
      simp [Lane.held]
    · exact holds_set p i _ place (fun same => absurd same apart') (fun _ => rfl) (fun same => absurd same apart)
  | other batch metrics time => exact unmoved _ _ rfl rfl rfl rfl rfl
  | drop batch idx indices next taken kept output =>
    exact unmoved _ _ rfl rfl rfl (by simp [Lane.held,kept,taken]) rfl
  | send batch idx indices frame next taken kept output room =>
    refine (census_move (a := .rewriter i) (b := .tx_q i) (by simp) ?_ fun place apart apart' => ?_).trans accounted
    · show (((p.set i _).lanes i).held ++ ((p.set i _).lanes i).tx_q).Perm ((p.lanes i).held ++ (p.lanes i).tx_q)
      rw [set_self]
      simp only [Lane.held,kept,taken,Option.toList_none,List.nil_append]
      rw [← List.append_assoc]
      exact List.perm_append_singleton idx _
    · rw [holds_pool _ _ _ fun _ => rfl]
      exact holds_set p i _ place (fun _ => rfl) (fun same => absurd same apart') (fun same => absurd same apart)
  | refuse batch idx indices frame next taken kept output =>
    exact unmoved _ _ rfl rfl rfl (by simp [Lane.held,kept,taken]) rfl

theorem Moved.accounted [NeZero n] {x : Xxh3} {src_ipv4 : Ipv4Addr} {e : Event n} {p' : Pipeline n}
    {received : List PacketBuf} {transmitted : List (List UInt8)} (moved : Moved x src_ipv4 p e p' received transmitted)
    (accounted : p.Accounted) : p'.Accounted := by
  cases moved with
  | receive received empty => exact accounted
  | exhausted pkt rx_buf first stage => exact accounted
  | alloc idx free_list busy stage head =>
    refine (census_move (a := .free_list) (b := .steering) (by simp) ?_ fun place apart apart' => ?_).trans accounted
    · show (free_list ++ [idx]).Perm (p.pool.free_list ++ p.steering.stage.held)
      rw [head,stage]
      exact (List.perm_append_singleton idx free_list).trans (by simp [Stage.held])
    · exact (holds_steering _ _ place fun same => absurd same apart').trans
        (holds_pool p _ place fun same => absurd same apart)
  | enqueue pkt rx_buf idx frame i first stage copied steered =>
    refine (census_move (a := .steering) (b := .rx_q i) (by simp) ?_ fun place apart apart' => ?_).trans accounted
    · show ([] ++ ((p.set i _).lanes i).rx_q).Perm (p.steering.stage.held ++ (p.lanes i).rx_q)
      rw [set_self,stage]
      exact List.perm_append_singleton idx _
    · have queued := holds_set p i { p.lanes i with rx_q := (p.lanes i).rx_q ++ [idx] } place
        (fun same => absurd same apart') (fun _ => rfl) (fun _ => rfl)
      have written := holds_pool (p.set i { p.lanes i with rx_q := (p.lanes i).rx_q ++ [idx] })
        (p.pool.write idx frame) place fun _ => rfl
      exact (holds_steering _ _ place fun same => absurd same apart).trans (written.trans queued)
  | refuse idx frame busy stage =>
    refine (census_perm fun place => List.Perm.of_eq ?_).trans accounted
    have written := holds_pool p (p.pool.write idx frame) place fun _ => rfl
    have same : (Stage.free idx).held = p.steering.stage.held := by
      rw [stage]
      rfl
    exact (holds_steering { p with pool := p.pool.write idx frame } { p.steering with stage := .free idx } place
      fun _ => same).trans written
  | release pkt rx_buf idx first stage =>
    have room := accounted.room (by simp [holds,stage,Stage.held] : idx ∈ p.holds .steering) (by simp)
    rw [free_eq room]
    refine (census_move (a := .steering) (b := .free_list) (by simp) ?_ fun place apart apart' => ?_).trans accounted
    · show ([] ++ (p.pool.free_list ++ [idx])).Perm (p.steering.stage.held ++ p.pool.free_list)
      rw [stage]
      exact List.perm_append_singleton idx _
    · exact (holds_steering _ _ place fun same => absurd same apart).trans
        (holds_pool p _ place fun same => absurd same apart')
  | rewriter i shared lane pool action turn => exact accounted.turn turn
  | free idx sent rest =>
    have room := accounted.room (by simp [holds,Muxer.held,rest] : idx ∈ p.holds .muxer) (by simp)
    rw [free_eq room]
    refine (census_move (a := .muxer) (b := .free_list) (by simp) ?_ fun place apart apart' => ?_).trans accounted
    · show ((p.muxer.send_indices ++ sent) ++ (p.pool.free_list ++ [idx])).Perm (p.muxer.held ++ p.pool.free_list)
      rw [Muxer.held,rest,← List.append_assoc]
      exact (List.perm_append_singleton idx _).trans (by simpa using List.perm_middle.symm)
    · exact (holds_muxer _ _ place fun same => absurd same apart).trans
        (holds_pool p _ place fun same => absurd same apart')
  | collect i idx tx_q none_sent queued =>
    refine (census_move (a := .muxer) (b := .tx_q i) (by simp) ?_ fun place apart apart' => ?_).trans accounted
    · show ((p.muxer.send_indices ++ [idx] ++ p.muxer.sent) ++ ((p.set i _).lanes i).tx_q).Perm
        (p.muxer.held ++ (p.lanes i).tx_q)
      rw [set_self,Muxer.held,none_sent,queued]
      simp
    · exact (holds_muxer _ _ place fun same => absurd same apart).trans
        (holds_set p i _ place (fun _ => rfl) (fun same => absurd same apart') (fun _ => rfl))
  | next => exact (census_perm fun place => List.Perm.of_eq (holds_muxer p _ place fun _ => rfl)).trans accounted
  | transmit none_sent =>
    refine (census_perm fun place => List.Perm.of_eq (holds_muxer p _ place fun _ => ?_)).trans accounted
    simp [Muxer.held,none_sent]

theorem Moved.capacity [NeZero n] {x : Xxh3} {src_ipv4 : Ipv4Addr} {e : Event n} {p' : Pipeline n}
    {received : List PacketBuf} {transmitted : List (List UInt8)}
    (moved : Moved x src_ipv4 p e p' received transmitted) : p'.pool.capacity = p.pool.capacity := by
  cases moved with
  | rewriter i shared lane pool action turn => cases turn <;> rfl
  | receive | exhausted | alloc | enqueue | refuse | release | free | collect | next | transmit => rfl

theorem start_accounted (capacity conn_bits : Nat) (conn_small : conn_bits < 64) (conn_ttls : ConnTtls)
    (fragment_bits : Nat) (fragment_small : fragment_bits < 64) (fragment_ttl batch_size now : Nat) :
    (start n capacity conn_bits conn_small conn_ttls fragment_bits fragment_small fragment_ttl batch_size
      now).Accounted := by
  unfold Accounted census
  rw [Finset.sum_eq_single Place.free_list]
  · rfl
  · intro place _ elsewhere
    cases place with
    | free_list => exact absurd rfl elsewhere
    | rx_q | tx_q | steering | rewriter | muxer => rfl
  · exact fun absent => absurd (Finset.mem_univ _) absent

/-- Over every run all frames stay accounted for. -/
theorem run_accounted [NeZero n] (x : Xxh3) (src_ipv4 : Ipv4Addr) (accounted : p.Accounted) (events : List (Event n)) :
    (events.foldl (step x src_ipv4) p).Accounted ∧
      (events.foldl (step x src_ipv4) p).pool.capacity = p.pool.capacity :=
  Runs.invariant (fun p' => p'.Accounted ∧ p'.pool.capacity = p.pool.capacity)
    (fun p' e inv => ⟨(step_moved x src_ipv4 p' e).accounted inv.1,(step_moved x src_ipv4 p' e).capacity.trans inv.2⟩)
    ⟨accounted,rfl⟩ events

/-- Frames whose numbers fit in 32 bits are accounted for once. -/
theorem Accounted.nodup (accounted : p.Accounted) (small : p.pool.capacity ≤ 2 ^ 32) : (census p.holds).Nodup := by
  rw [accounted,Multiset.coe_nodup]
  refine List.Nodup.map_on ?_ List.nodup_range'
  intro k inside k' inside' same
  rw [List.mem_range'_1] at inside inside'
  have numbers := congrArg UInt32.toNat same
  rwa [UInt32.toNat_ofNat',UInt32.toNat_ofNat',Nat.mod_eq_of_lt (by omega),Nat.mod_eq_of_lt (by omega)] at numbers

/-! ### Threads and frames -/

/-- The place of the thread that makes the step. -/
def holder (e : Event n) : Place n :=
  match e.action with
  | .run_steering _ => .steering
  | .run_rewriter i _ => .rewriter i
  | .run_muxer => .muxer

/-- The frames that the step reads or writes. -/
def accesses (p : Pipeline n) (e : Event n) : List FrameIndex :=
  match e.action with
  | .run_steering _ =>
    match p.steering.stage with
    | .push idx => [idx]
    | .alloc | .free _ => []
  | .run_rewriter i _ => (p.lanes i).current.toList.map Prod.snd
  | .run_muxer =>
    if p.muxer.sent = [] ∧ ¬ (p.muxer.queue < n ∧ p.muxer.send_indices.length < p.batch_size) then p.muxer.send_indices
    else []

/-- The frame that the step frees. -/
def frees (p : Pipeline n) (e : Event n) : Option FrameIndex :=
  match e.action with
  | .run_steering _ =>
    match p.steering.stage with
    | .free idx => some idx
    | .alloc | .push _ => none
  | .run_rewriter i _ => (p.lanes i).freeing
  | .run_muxer => p.muxer.sent.head?

/-- A thread accesses only what it holds. -/
theorem accesses_held {e : Event n} {idx : FrameIndex} (accessed : idx ∈ p.accesses e) : idx ∈ p.holds (holder e) := by
  unfold accesses at accessed
  unfold holder
  cases action : e.action with
  | run_steering received =>
    rw [action] at accessed
    dsimp only at accessed
    cases stage : p.steering.stage with
    | alloc | free => rw [stage] at accessed; cases accessed
    | push idx' =>
      rw [stage] at accessed
      simpa [holds,stage,Stage.held] using accessed
  | run_rewriter i shared =>
    rw [action] at accessed
    simp only [List.mem_map,Option.mem_toList] at accessed
    obtain ⟨⟨batch,_⟩,next,rfl⟩ := accessed
    obtain ⟨_,_,_,taken⟩ := Lane.current_eq_some next
    simp [holds,Lane.held,taken]
  | run_muxer =>
    rw [action] at accessed
    dsimp only at accessed
    split_ifs at accessed
    · exact List.mem_append_left _ accessed
    · cases accessed

/-- A thread frees only what it holds. -/
theorem frees_held {e : Event n} {idx : FrameIndex} (freed : p.frees e = some idx) :
    idx ∈ p.holds (holder e) ∧ holder e ≠ .free_list := by
  unfold frees at freed
  unfold holder
  cases action : e.action with
  | run_steering received =>
    rw [action] at freed
    dsimp only at freed
    cases stage : p.steering.stage with
    | alloc | push => rw [stage] at freed; cases freed
    | free idx' =>
      rw [stage] at freed
      cases freed
      exact ⟨by simp [holds,stage,Stage.held],by simp⟩
  | run_rewriter i shared =>
    rw [action] at freed
    dsimp only at freed
    exact ⟨by simp [holds,Lane.held,freed],by simp⟩
  | run_muxer =>
    rw [action] at freed
    obtain ⟨sent,rest⟩ := List.head?_eq_some_iff.mp freed
    exact ⟨by simp [holds,Muxer.held,rest],by simp⟩

/-- Every frame is in one place and nowhere twice, what is freed finds room on
    the free list, and no two threads are about to access one frame. -/
structure Owned (capacity : Nat) (p : Pipeline n) : Prop where
  place : ∀ k < capacity, ∃! place, ∃ idx ∈ p.holds place, idx.toNat = k
  once : ∀ place, (p.holds place).Nodup
  freed : ∀ e idx, p.frees e = some idx → (p.pool.free idx).free_list = p.pool.free_list ++ [idx]
  apart : ∀ e e', holder e ≠ holder e' → (p.accesses e).Disjoint (p.accesses e')

theorem Accounted.owned (accounted : p.Accounted) (small : p.pool.capacity ≤ 2 ^ 32) : p.Owned p.pool.capacity where
  place := by
    intro k inside
    have present : UInt32.ofNat k ∈ census p.holds := by
      rw [accounted,Multiset.mem_coe]
      exact List.mem_map_of_mem (List.mem_range'_1.mpr (by omega))
    have number : ∀ idx : FrameIndex, idx.toNat = k ↔ idx = UInt32.ofNat k := by
      intro idx
      rw [← UInt32.toNat_inj,UInt32.toNat_ofNat',Nat.mod_eq_of_lt (by omega)]
    obtain ⟨place,here,only⟩ := place_existsUnique (accounted.nodup small) present
    refine ⟨place,⟨_,here,(number _).mpr rfl⟩,?_⟩
    rintro place' ⟨idx,there,same⟩
    rw [(number idx).mp same] at there
    exact only place' there
  once := place_nodup (accounted.nodup small)
  freed := by
    intro e idx freed
    obtain ⟨held,elsewhere⟩ := frees_held freed
    rw [free_eq (accounted.room held elsewhere)]
  apart := fun _ _ other _ accessed accessed' =>
    other (place_unique (accounted.nodup small) (accesses_held accessed) (accesses_held accessed'))

/-- For every number of rewriters and every run: every frame is in one place, all
    frees succeed and no frame is accessed by two threads at once, exactly if the
    numbers of the frames fit in 32 bits. -/
theorem frames_owned (x : Xxh3) (src_ipv4 : Ipv4Addr) (n : Nat) [NeZero n] (capacity conn_bits : Nat)
    (conn_small : conn_bits < 64) (conn_ttls : ConnTtls) (fragment_bits : Nat) (fragment_small : fragment_bits < 64)
    (fragment_ttl batch_size now : Nat) :
    (∀ events : List (Event n), (events.foldl (step x src_ipv4) (start n capacity conn_bits conn_small conn_ttls
      fragment_bits fragment_small fragment_ttl batch_size now)).Owned capacity) ↔ capacity ≤ 2 ^ 32 := by
  constructor
  · intro owned
    by_contra large
    obtain ⟨_,⟨idx,_,number⟩,_⟩ := (owned []).place (2 ^ 32) (by omega)
    have := idx.toNat_lt
    omega
  · intro small events
    obtain ⟨accounted,same⟩ := run_accounted x src_ipv4 (start_accounted (n := n) capacity conn_bits conn_small
      conn_ttls fragment_bits fragment_small fragment_ttl batch_size now) events
    have owned := accounted.owned (same ▸ small)
    rwa [same] at owned

private def received : PacketBuf := segment 40000 40 []
/-- A packet in one of four frames. -/
theorem frames_owned_four :
    (([⟨.run_steering [received],0⟩,⟨.run_steering [],0⟩,⟨.run_steering [],0⟩] : List (Event 2)).foldl
      (step hashedPair ⟨172,16,0,1⟩) (start 2 4 2 (by decide) minutes 2 (by decide) (from_secs 10) 64 0)).Owned 4 :=
  (frames_owned hashedPair ⟨172,16,0,1⟩ 2 4 2 (by decide) minutes 2 (by decide) (from_secs 10) 64 0).mpr (by decide) _

/-- With one frame more than there are numbers, the last frame is nowhere. -/
theorem large_pool_loses_frame :
    ¬ ∀ (x : Xxh3) (src_ipv4 : Ipv4Addr) (n : Nat) [NeZero n] (capacity conn_bits : Nat) (conn_small : conn_bits < 64)
      (conn_ttls : ConnTtls) (fragment_bits : Nat) (fragment_small : fragment_bits < 64)
      (fragment_ttl batch_size now : Nat) (events : List (Event n)),
      (events.foldl (step x src_ipv4) (start n capacity conn_bits conn_small conn_ttls fragment_bits fragment_small
        fragment_ttl batch_size now)).Owned capacity := by
  intro owned
  obtain ⟨_,⟨idx,_,number⟩,_⟩ := (owned hashedPair ⟨172,16,0,1⟩ 1 (2 ^ 32 + 1) 2 (by decide) minutes 2 (by decide)
    (from_secs 10) 64 0 []).place (2 ^ 32) (by decide)
  have := idx.toNat_lt
  omega

end Pipeline

end Lb.Threading
