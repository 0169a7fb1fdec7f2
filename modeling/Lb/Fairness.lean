import Lb.Ownership
import Lb.Runs

/-!
# The turns of the transmit queues

`run_muxer` drains the transmit queues in their order until the batch is full, and
the next pass begins with the first of them again.
-/
namespace Lb.Threading
open Lb.Addr Lb.Types Lb.Rewriter Lb.Runs

namespace Pipeline
section
variable {n : Nat}

/-- The muxer is about to begin a pass. -/
structure PassStarts (p : Pipeline n) : Prop where
  queue : p.muxer.queue = 0
  send_indices : p.muxer.send_indices = []
  sent : p.muxer.sent = []

/-- The muxer is about to take from a queue, or to leave it where it is empty. -/
def Draining (p : Pipeline n) : Prop :=
  p.muxer.sent = [] ∧ p.muxer.queue < n ∧ p.muxer.send_indices.length < p.batch_size

/-- The muxer is about to send the batch. -/
def PassEnds (p : Pipeline n) : Prop := p.muxer.sent = [] ∧ ¬ p.Draining

/-- What a step of the muxer comes to. -/
inductive Drains (p : Pipeline n) : Pipeline n → Prop
  | free (pool : PacketPool) (sent : List FrameIndex) (busy : p.muxer.sent ≠ []) :
    Drains p { p with pool, muxer.sent := sent }
  | take (i : Fin n) (idx : FrameIndex) (tx_q : List FrameIndex) (draining : p.Draining) (here : i.1 = p.muxer.queue)
    (queued : (p.lanes i).tx_q = idx :: tx_q) :
    Drains p { p.set i { p.lanes i with tx_q } with muxer.send_indices := p.muxer.send_indices ++ [idx] }
  | leave (draining : p.Draining) (empty : ∀ i : Fin n, i.1 = p.muxer.queue → (p.lanes i).tx_q = []) :
    Drains p { p with muxer.queue := p.muxer.queue + 1 }
  | send (ends : p.PassEnds) :
    Drains p { p with muxer := { queue := 0, send_indices := [], sent := p.muxer.send_indices } }

theorem run_muxer_drains (p : Pipeline n) : p.Drains p.run_muxer := by
  unfold run_muxer
  cases sent : p.muxer.sent with
  | cons idx rest =>
    refine .free _ rest ?_
    rw [sent]
    exact List.cons_ne_nil idx rest
  | nil =>
    by_cases more : p.muxer.queue < n ∧ p.muxer.send_indices.length < p.batch_size
    · simp only [more,and_self,↓reduceDIte]
      have draining : p.Draining := ⟨sent,more⟩
      cases queued : (p.lanes ⟨p.muxer.queue,more.1⟩).tx_q with
      | cons idx tx_q => exact .take ⟨p.muxer.queue,more.1⟩ idx tx_q draining rfl queued
      | nil =>
        refine .leave draining fun i here => ?_
        have same : i = ⟨p.muxer.queue,more.1⟩ := Fin.ext here
        rw [same,queued]
    · simp only [more,↓reduceDIte]
      exact .send ⟨sent,fun draining => more draining.2⟩

/-- The other threads leave the muxer alone, and only add to the transmit queues. -/
structure Adds (p p' : Pipeline n) : Prop where
  muxer : p'.muxer = p.muxer
  batch_size : p'.batch_size = p.batch_size
  tx_q : ∀ i, (p.lanes i).tx_q <+: (p'.lanes i).tx_q

theorem Adds.set {p : Pipeline n} {i : Fin n} (lane : Lane) (added : (p.lanes i).tx_q <+: lane.tx_q)
    (pool : PacketPool) (steering : Steering) : p.Adds { p.set i lane with pool, steering } := by
  refine ⟨rfl,rfl,fun j => ?_⟩
  by_cases here : j = i
  · subst here
    show _ <+: ((p.set j lane).lanes j).tx_q
    rwa [set_self]
  · show _ <+: ((p.set i lane).lanes j).tx_q
    rw [set_other p lane here]

/-- What a pass has come to, where `waiting` is what was on the queues at its start and
    `taken` what has been taken from them since. -/
structure Served (waiting taken : Fin n → List FrameIndex) (p : Pipeline n) : Prop where
  sent : p.muxer.sent = []
  batch : ∀ i, (taken i).Sublist p.muxer.send_indices
  kept : ∀ i, waiting i <+: taken i ++ (p.lanes i).tx_q
  passed : ∀ i, i.1 < p.muxer.queue → waiting i <+: taken i
  ahead : ∀ i, p.muxer.queue < i.1 → taken i = []

variable {waiting taken : Fin n → List FrameIndex} {p : Pipeline n}

theorem Served.adds {p' : Pipeline n} (served : p.Served waiting taken) (adds : p.Adds p') : p'.Served waiting taken := by
  obtain ⟨sent,batch,kept,passed,ahead⟩ := served
  rw [← adds.muxer] at sent batch passed ahead
  refine ⟨sent,batch,fun i => ?_,passed,ahead⟩
  exact (kept i).trans ((List.prefix_append_right_inj (taken i)).mpr (adds.tx_q i))

theorem Served.take (served : p.Served waiting taken) {i : Fin n} {idx : FrameIndex} {tx_q : List FrameIndex}
    (here : i.1 = p.muxer.queue) (queued : (p.lanes i).tx_q = idx :: tx_q) :
    Served waiting (Function.update taken i (taken i ++ [idx]))
      { p.set i { p.lanes i with tx_q } with muxer.send_indices := p.muxer.send_indices ++ [idx] } := by
  have others : ∀ {j : Fin n}, j.1 ≠ p.muxer.queue → j ≠ i := by
    rintro j apart rfl
    exact apart here
  refine ⟨served.sent,fun j => ?_,fun j => ?_,fun j before => ?_,fun j after => ?_⟩
  · by_cases same : j = i
    · subst same
      rw [Function.update_self]
      exact (served.batch j).append_right [idx]
    · rw [Function.update_of_ne same]
      exact (served.batch j).trans (List.sublist_append_left _ _)
  · have kept := served.kept j
    by_cases same : j = i
    · subst same
      rw [queued] at kept
      show _ <+: _ ++ ((p.set j _).lanes j).tx_q
      rw [Function.update_self,set_self,List.append_assoc]
      exact kept
    · show _ <+: _ ++ ((p.set i _).lanes j).tx_q
      rwa [Function.update_of_ne same,set_other p _ same]
  · rw [Function.update_of_ne (others (Nat.ne_of_lt before))]
    exact served.passed j before
  · rw [Function.update_of_ne (others (Nat.ne_of_gt after))]
    exact served.ahead j after

theorem Served.leave (served : p.Served waiting taken)
    (empty : ∀ i : Fin n, i.1 = p.muxer.queue → (p.lanes i).tx_q = []) :
    Served waiting taken { p with muxer.queue := p.muxer.queue + 1 } := by
  refine ⟨served.sent,served.batch,served.kept,fun i before => ?_,fun i after => ?_⟩
  · rcases Nat.lt_succ_iff_lt_or_eq.mp before with before | here
    · exact served.passed i before
    · have kept := served.kept i
      rwa [empty i here,List.append_nil] at kept
  · exact served.ahead i (Nat.lt_of_succ_lt after)

variable {x : Xxh3} {src_ipv4 : Ipv4Addr} [NeZero n]

theorem turn_adds {lane lane' : Lane} {pool pool' : PacketPool} {shared : Shared} {now : Nat}
    (turn : lane.Turn x src_ipv4 pool shared now lane' pool') : lane.tx_q <+: lane'.tx_q := by
  cases turn with
  | send => exact List.prefix_append lane.tx_q _
  | free | take | other | drop | refuse => exact List.prefix_refl lane.tx_q

theorem others_add {e : Event n} (other : e.action ≠ .run_muxer) : p.Adds (p.step x src_ipv4 e) := by
  unfold step
  cases action : e.action with
  | run_muxer => exact absurd action other
  | run_rewriter i shared => exact .set _ (turn_adds ((p.lanes i).run_rewriter_turn x src_ipv4 p.pool shared e.now)) _ _
  | run_steering received =>
    have same (pool : PacketPool) (steering : Steering) : p.Adds { p with pool, steering } :=
      ⟨rfl,rfl,fun i => List.prefix_refl _⟩
    dsimp only
    unfold run_steering
    cases p.steering.rx_buf with
    | nil => exact same _ _
    | cons pkt rx_buf =>
      cases p.steering.stage with
      | alloc =>
        cases p.pool.free_list with
        | nil => exact same _ _
        | cons idx free_list => exact same _ _
      | free idx => exact same _ _
      | push idx =>
        dsimp only
        generalize queue_of x n ((p.pool.frames idx).write_from pkt.as_slice).as_slice = queue_idx
        by_cases room : (p.lanes queue_idx).rx_q.length < QUEUE_CAPACITY
        · rw [push_of_lt room]
          exact .set { p.lanes queue_idx with rx_q := (p.lanes queue_idx).rx_q ++ [idx] } (List.prefix_refl _) _ _
        · rw [push_of_ge room]
          exact same _ _

theorem step_drains {e : Event n} (muxer : e.action = .run_muxer) : p.Drains (p.step x src_ipv4 e) := by
  unfold step
  rw [muxer]
  exact p.run_muxer_drains

theorem Served.step {e : Event n} (served : ∃ taken, p.Served waiting taken)
    (within : e.action = .run_muxer → ¬ p.PassEnds) : ∃ taken, (p.step x src_ipv4 e).Served waiting taken := by
  obtain ⟨taken,served⟩ := served
  by_cases muxer : e.action = .run_muxer
  · have drains : p.Drains (p.step x src_ipv4 e) := step_drains muxer
    generalize p.step x src_ipv4 e = p' at drains ⊢
    cases drains with
    | free pool sent busy => exact absurd served.sent busy
    | take i idx tx_q draining here queued => exact ⟨_,served.take here queued⟩
    | leave draining empty => exact ⟨taken,served.leave empty⟩
    | send ends => exact absurd ends (within muxer)
  · exact ⟨taken,served.adds (others_add muxer)⟩

/-- The frames on the queues that the muxer has left are in the batch, in their order,
    and those on the queues that it has not come to still wait. A batch that is sent has
    all frames that waited at the start of the pass, or is full. -/
theorem pass_serves_in_order (x : Xxh3) (src_ipv4 : Ipv4Addr) {p : Pipeline n} (starts : p.PassStarts)
    {events : List (Event n)}
    (within : Along (step x src_ipv4) (fun p e => e.action = .run_muxer → ¬ p.PassEnds) p events) :
    let p' := events.foldl (step x src_ipv4) p
    (∀ i, i.1 < p'.muxer.queue → (p.lanes i).tx_q.Sublist p'.muxer.send_indices) ∧
      (∀ i, p'.muxer.queue < i.1 → (p.lanes i).tx_q <+: (p'.lanes i).tx_q) ∧
      (p'.PassEnds → (∀ i, (p.lanes i).tx_q.Sublist p'.muxer.send_indices) ∨
        p'.batch_size ≤ p'.muxer.send_indices.length) := by
  intro p'
  have at_start : p.Served (fun i => (p.lanes i).tx_q) fun _ => [] := by
    refine ⟨starts.sent,fun _ => List.nil_sublist _,fun _ => List.prefix_refl _,fun i before => ?_,fun _ _ => rfl⟩
    rw [starts.queue] at before
    exact absurd before (Nat.not_lt_zero i.1)
  obtain ⟨taken,served⟩ : ∃ taken, p'.Served (fun i => (p.lanes i).tx_q) taken :=
    within.invariant (fun p' : Pipeline n => ∃ taken, p'.Served (fun i => (p.lanes i).tx_q) taken)
      (fun _ _ served within => Served.step served within) ⟨_,at_start⟩
  have passed : ∀ i, i.1 < p'.muxer.queue → (p.lanes i).tx_q.Sublist p'.muxer.send_indices :=
    fun i before => (served.passed i before).sublist.trans (served.batch i)
  refine ⟨passed,fun i after => ?_,fun ends => ?_⟩
  · have kept := served.kept i
    rwa [served.ahead i after,List.nil_append] at kept
  · by_cases full : p'.batch_size ≤ p'.muxer.send_indices.length
    · exact .inr full
    · refine .inl fun i => passed i ?_
      by_contra unreached
      have queues_left : p'.muxer.queue < n := (Nat.le_of_not_lt unreached).trans_lt i.2
      exact ends.2 ⟨ends.1,queues_left,Nat.lt_of_not_le full⟩

private def front : Fin 2 := ⟨0,Nat.two_pos⟩
private def back : Fin 2 := ⟨1,Nat.one_lt_two⟩
private def muxing : Event 2 := ⟨.run_muxer,0⟩
private def backlog : Pipeline 2 :=
  let idle := start 2 4 2 two_bits minutes 2 two_bits (from_secs 10) 1 0
  { idle with lanes := fun i => { idle.lanes i with tx_q := if i = front then [0,2] else [1] } }
private def same_hash : Xxh3 := ⟨fun _ => 0,fun _ _ => 0⟩

/-- With one frame a batch, the second queue waits. -/
theorem pass_serves_in_order_backlog :
    (backlog.lanes back).tx_q <+: ((backlog.step same_hash ⟨172,16,0,1⟩ muxing).lanes back).tx_q := by
  have within : Along (step same_hash ⟨172,16,0,1⟩) (fun p e => e.action = .run_muxer → ¬ p.PassEnds) backlog
      [muxing] := ⟨fun _ ends => ends.2 ⟨rfl,Nat.two_pos,Nat.one_pos⟩,trivial⟩
  exact (pass_serves_in_order same_hash ⟨172,16,0,1⟩ ⟨rfl,rfl,rfl⟩ within).2.1 back Nat.one_pos

/-! ### Starvation -/

/-- A step in which the muxer does not find a queue empty keeps it from going past that
    queue, and from all queues after it. -/
theorem starving_step {e : Event n} {busy : Fin n} (not_past : p.muxer.queue ≤ busy.1)
    (found : e.action = .run_muxer → p.Draining → p.muxer.queue = busy.1 → (p.lanes busy).tx_q ≠ []) :
    (p.step x src_ipv4 e).muxer.queue ≤ busy.1 ∧
      ∀ i, busy < i → (p.lanes i).tx_q <+: ((p.step x src_ipv4 e).lanes i).tx_q := by
  by_cases muxer : e.action = .run_muxer
  · have drains : p.Drains (p.step x src_ipv4 e) := step_drains muxer
    generalize p.step x src_ipv4 e = p' at drains ⊢
    cases drains with
    | free pool sent at_work => exact ⟨not_past,fun i _ => List.prefix_refl _⟩
    | take j idx tx_q draining here queued =>
      refine ⟨not_past,fun i behind => ?_⟩
      have apart : i ≠ j := by
        rintro rfl
        have past : busy.1 < i.1 := behind
        omega
      show _ <+: ((p.set j _).lanes i).tx_q
      rw [set_other p _ apart]
    | leave draining empty =>
      refine ⟨Nat.lt_of_le_of_ne not_past fun here => ?_,fun i _ => List.prefix_refl _⟩
      exact found muxer draining here (empty busy here.symm)
    | send ends => exact ⟨Nat.zero_le _,fun i _ => List.prefix_refl _⟩
  · have adds : p.Adds (p.step x src_ipv4 e) := others_add muxer
    rw [adds.muxer]
    exact ⟨not_past,fun i _ => adds.tx_q i⟩

/-- A queue that is never found empty keeps the muxer from going past it, and from all
    queues after it: between any two moments of a run nothing is taken from these. -/
theorem busy_queue_starves_later (x : Xxh3) (src_ipv4 : Ipv4Addr) {p : Pipeline n} {busy : Fin n}
    (not_past : p.muxer.queue ≤ busy.1) {earlier later : List (Event n)}
    (never_empty : Along (step x src_ipv4) (fun p e => e.action = .run_muxer → p.Draining →
      p.muxer.queue = busy.1 → (p.lanes busy).tx_q ≠ []) p (earlier ++ later)) :
    let p₁ := earlier.foldl (step x src_ipv4) p
    let p₂ := later.foldl (step x src_ipv4) p₁
    p₂.muxer.queue ≤ busy.1 ∧ ∀ i, busy < i → (p₁.lanes i).tx_q <+: (p₂.lanes i).tx_q := by
  intro p₁ p₂
  obtain ⟨before,after⟩ := (along_append p earlier later).mp never_empty
  have not_past₁ : p₁.muxer.queue ≤ busy.1 :=
    before.invariant (fun p => p.muxer.queue ≤ busy.1)
      (fun _ _ not_past found => (starving_step not_past found).1) not_past
  refine after.invariant
    (fun p => p.muxer.queue ≤ busy.1 ∧ ∀ i, busy < i → (p₁.lanes i).tx_q <+: (p.lanes i).tx_q)
    (fun p e inv found => ?_) ⟨not_past₁,fun i _ => List.prefix_refl _⟩
  obtain ⟨not_past,waits⟩ := inv
  obtain ⟨not_past',kept⟩ : (p.step x src_ipv4 e).muxer.queue ≤ busy.1 ∧ _ := starving_step not_past found
  exact ⟨not_past',fun i behind => (waits i behind).trans (kept i behind)⟩

/-- The first queue has frames for two passes, and the second waits through both. -/
theorem busy_queue_starves_later_backlog :
    let p₁ := [muxing].foldl (step same_hash ⟨172,16,0,1⟩) backlog
    let p₂ := [muxing,muxing,muxing].foldl (step same_hash ⟨172,16,0,1⟩) p₁
    p₁.muxer.send_indices = [0] ∧ p₂.muxer.send_indices = [2] ∧ (p₁.lanes back).tx_q <+: (p₂.lanes back).tx_q := by
  have not_past : backlog.muxer.queue ≤ front.1 := Nat.le_refl 0
  have never_empty : Along (step same_hash ⟨172,16,0,1⟩) (fun p e => e.action = .run_muxer → p.Draining →
      p.muxer.queue = front.1 → (p.lanes front).tx_q ≠ []) backlog ([muxing] ++ [muxing,muxing,muxing]) :=
    ⟨fun _ _ _ => List.cons_ne_nil _ _,fun _ _ _ => List.cons_ne_nil _ _,fun _ _ _ => List.cons_ne_nil _ _,
      fun _ _ _ => List.cons_ne_nil _ _,trivial⟩
  have later : front < back := Nat.one_pos
  exact ⟨rfl,rfl,(busy_queue_starves_later same_hash ⟨172,16,0,1⟩ not_past never_empty).2 back later⟩

end
end Pipeline
end Lb.Threading
