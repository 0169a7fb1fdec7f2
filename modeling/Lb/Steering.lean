import Lb.Ownership

/-!
# Steering

The steering thread puts a packet on the queue that the hash of its 5-tuple falls
to, and each rewriter has a fragment table of its own. The later fragments of a
datagram find their mapping if they are put on the queue of the first one.
-/
namespace Lb.Threading
open Lb.Addr Lb.Types Lb.Packet Lb.Buffer Lb.Maglev Lb.Applier Lb.Vips Lb.Connections Lb.Fragments Lb.Gre Lb.Rewriter
  Lb.Census

/-- A mapping that is recorded for the later fragments of a datagram. -/
structure Recording where
  hash : UInt64
  backend_ip : IpAddr
  now : Nat

/-- The mapping that a frame makes a worker record. -/
def Worker.recording (x : Xxh3) (w : Worker) (shared : Shared) (frame : Frame) (now : Nat) : Option Recording :=
  (resolve shared frame).bind fun found =>
    if is_fragment frame.as_slice then
      (FragmentId.from_ipv4_bytes frame.as_slice).map fun fid =>
        ⟨fid.fragment_hash x,backend_of x w.conn_table shared.health_status found.2 found.1 now,now⟩
    else none

theorem Worker.rewrite_frame_recording (x : Xxh3) (src_ipv4 : Ipv4Addr) (w : Worker) (shared : Shared) (frame : Frame)
    (now : Nat) : (w.rewrite_frame x src_ipv4 shared frame now).1.fragment_table =
      (w.recording x shared frame now).elim w.fragment_table
        fun r => w.fragment_table.insert r.hash r.backend_ip r.now := by
  rw [(w.rewrite_frame_tables x src_ipv4 shared frame now).2,recording]
  cases resolve shared frame with
  | none => rfl
  | some found =>
    rw [Option.bind_some]
    unfold recorded
    dsimp only
    split_ifs
    · cases FragmentId.from_ipv4_bytes frame.as_slice <;> rfl
    · rfl

theorem Worker.recording_now {x : Xxh3} {w : Worker} {shared : Shared} {frame : Frame} {now : Nat} {r : Recording}
    (recorded : w.recording x shared frame now = some r) : r.now = now := by
  simp only [recording,Option.bind_eq_some_iff] at recorded
  obtain ⟨_,_,made⟩ := recorded
  split_ifs at made
  obtain ⟨_,_,rfl⟩ := Option.map_eq_some_iff.mp made
  rfl

/-- A later fragment goes to the backend that its mapping names. -/
theorem Worker.rewrite_frame_later {x : Xxh3} {src_ipv4 : Ipv4Addr} {w : Worker} {shared : Shared} {frame : Frame}
    {now : Nat} {fid : FragmentId} {backend : Ipv4Addr} (later : is_non_first_fragment frame.as_slice = true)
    (datagram : FragmentId.from_ipv4_bytes frame.as_slice = some fid)
    (mapped : w.fragment_table.get (fid.fragment_hash x) now = some (.V4 backend))
    (room : frame.len + ENCAP_OVERHEAD ≤ PACKET_BUF_SIZE) :
    ∃ out, (w.rewrite_frame x src_ipv4 shared frame now).2 = some out ∧ destination out = backend ∧
      out.as_slice.drop ENCAP_OVERHEAD = frame.as_slice := by
  obtain ⟨_,rewritten⟩ := rewrite_fragment_eq x src_ipv4 (w.inc .packets_received) frame now
  rw [rewrite_frame_fragment later,rewritten,datagram,Option.bind_some,inc_fragment_table,mapped,Option.bind_some]
  cases sent : tunnelled src_ipv4 frame (.V4 backend) with
  | none =>
    rcases tunnelled_eq_none.mp sent with ⟨_,other⟩ | short
    · cases other
    · omega
  | some out =>
    obtain ⟨inner,_,address⟩ := tunnelled_eq_some sent
    exact ⟨out,rfl,(IpAddr.V4.inj address).symm,inner⟩

namespace Lane
variable {lane : Lane} {pool : PacketPool}

/-- The frames that have not been rewritten. -/
def waiting (lane : Lane) : List FrameIndex := lane.indices ++ lane.rx_q

/-- A rewriter writes only to frames that it holds. -/
theorem Turn.frames {x : Xxh3} {src_ipv4 : Ipv4Addr} {shared : Shared} {now : Nat} {lane' : Lane} {pool' : PacketPool}
    (turn : lane.Turn x src_ipv4 pool shared now lane' pool') {idx : FrameIndex} (other : idx ∉ lane.held) :
    pool'.frames idx = pool.frames idx := by
  have unwritten : ∀ idx' indices frame, lane.indices = idx' :: indices →
      (pool.write idx' frame).frames idx = pool.frames idx := by
    intro idx' indices frame taken
    refine Function.update_of_ne ?_ ..
    rintro rfl
    exact other (by simp [held,taken])
  cases turn with
  | free | take | other | drop => rfl
  | send batch idx' indices frame next taken kept output room => exact unwritten idx' indices frame taken
  | refuse batch idx' indices frame next taken kept output => exact unwritten idx' indices frame taken

/-- What waits after a step of the rewriter waited before, as it is. -/
theorem Turn.waits {x : Xxh3} {src_ipv4 : Ipv4Addr} {shared : Shared} {now : Nat} {lane' : Lane} {pool' : PacketPool}
    (turn : lane.Turn x src_ipv4 pool shared now lane' pool') (nodup : lane.held.Nodup)
    (apart : ∀ idx ∈ lane.rx_q, idx ∉ lane.held) {idx : FrameIndex} (waits : idx ∈ lane'.waiting) :
    idx ∈ lane.waiting ∧ pool'.frames idx = pool.frames idx := by
  have behind : ∀ idx' indices, lane.indices = idx' :: indices → lane.freeing = none →
      idx ∈ indices ++ lane.rx_q → idx ∈ lane.waiting ∧ idx ≠ idx' := by
    intro idx' indices taken kept waits
    have held : lane.held = idx' :: indices := by simp [Lane.held,taken,kept]
    rw [held] at nodup apart
    rcases List.mem_append.mp waits with later | queued
    · refine ⟨by simp [waiting,taken,later],?_⟩
      rintro rfl
      exact (List.nodup_cons.mp nodup).1 later
    · refine ⟨List.mem_append_right _ queued,?_⟩
      rintro rfl
      exact apart idx queued List.mem_cons_self
  cases turn with
  | free idx' freeing => exact ⟨waits,rfl⟩
  | take idx' rx_q queued => exact ⟨by simpa [waiting,queued] using waits,rfl⟩
  | other batch metrics time => exact ⟨waits,rfl⟩
  | drop batch idx' indices next taken kept output => exact ⟨(behind idx' indices taken kept waits).1,rfl⟩
  | send batch idx' indices frame next taken kept output room =>
    obtain ⟨waited,other⟩ := behind idx' indices taken kept waits
    exact ⟨waited,Function.update_of_ne other ..⟩
  | refuse batch idx' indices frame next taken kept output =>
    obtain ⟨waited,other⟩ := behind idx' indices taken kept waits
    exact ⟨waited,Function.update_of_ne other ..⟩

/-- The mapping that the next step records. -/
def recording (x : Xxh3) (lane : Lane) (pool : PacketPool) (shared : Shared) : Option Recording :=
  lane.current.bind fun (batch,idx) =>
    lane.worker.recording x ⟨batch.vip_matcher,batch.lookup_tables,shared.health_status⟩ (pool.frames idx) batch.now

/-- A property of the fragment table holds at the time that the rewriter goes by. -/
def Keeps (P : FragmentTable → Nat → Prop) (lane : Lane) (now : Nat) : Prop :=
  lane.clock now ≤ now ∧ P lane.worker.fragment_table (lane.clock now)

variable {P : FragmentTable → Nat → Prop} {now : Nat}

theorem Keeps.later {now' : Nat} (keeps : lane.Keeps P now) (weaker : ∀ t now now', now ≤ now' → P t now → P t now')
    (later : now ≤ now') : lane.Keeps P now' := by
  unfold Keeps clock at keeps ⊢
  cases batched : lane.batch with
  | none =>
    rw [batched] at keeps
    exact ⟨Nat.le_refl now',weaker _ _ _ later keeps.2⟩
  | some batch =>
    rw [batched] at keeps
    exact ⟨Nat.le_trans keeps.1 later,keeps.2⟩

/-- What the recording of a mapping keeps, rewriting a frame keeps. -/
theorem Keeps.rewritten {x : Xxh3} {shared : Shared} {batch : Batch} {idx : FrameIndex} (keeps : lane.Keeps P now)
    (next : lane.current = some (batch,idx))
    (records : ∀ r ∈ lane.recording x pool shared, P lane.worker.fragment_table r.now →
      P (lane.worker.fragment_table.insert r.hash r.backend_ip r.now) r.now) (src_ipv4 : Ipv4Addr) :
    P (lane.rewritten x src_ipv4 pool shared batch idx).1.fragment_table (lane.clock now) := by
  obtain ⟨_,batched,_⟩ := current_eq_some next
  have time : lane.clock now = batch.now := by rw [clock,batched]; rfl
  have before := keeps.2
  rw [recording,next,Option.bind_some] at records
  rw [Lane.rewritten,Worker.rewrite_frame_recording]
  cases recorded : lane.worker.recording x ⟨batch.vip_matcher,batch.lookup_tables,shared.health_status⟩
      (pool.frames idx) batch.now with
  | none => exact before
  | some r =>
    rw [time,← Worker.recording_now recorded] at before ⊢
    exact records r recorded before

/-- What the recording of a mapping keeps, every step keeps. -/
theorem Keeps.turn {x : Xxh3} {src_ipv4 : Ipv4Addr} {shared : Shared} {lane' : Lane} {pool' : PacketPool}
    (turn : lane.Turn x src_ipv4 pool shared now lane' pool') (keeps : lane.Keeps P now)
    (weaker : ∀ t now now', now ≤ now' → P t now → P t now')
    (records : ∀ r ∈ lane.recording x pool shared, P lane.worker.fragment_table r.now →
      P (lane.worker.fragment_table.insert r.hash r.backend_ip r.now) r.now) : lane'.Keeps P now := by
  cases turn with
  | free idx freeing => exact keeps
  | take idx rx_q queued => exact keeps
  | other batch metrics time =>
    rcases time with rfl | jump
    · exact keeps
    · unfold Keeps clock
      dsimp only
      rw [jump]
      exact ⟨Nat.le_refl now,weaker _ _ _ keeps.1 keeps.2⟩
  | drop batch idx indices next taken kept output => exact ⟨keeps.1,keeps.rewritten next records src_ipv4⟩
  | send batch idx indices frame next taken kept output room => exact ⟨keeps.1,keeps.rewritten next records src_ipv4⟩
  | refuse batch idx indices frame next taken kept output => exact ⟨keeps.1,keeps.rewritten next records src_ipv4⟩

end Lane

namespace Pipeline
variable {x : Xxh3} {src_ipv4 : Ipv4Addr} {n : Nat} {p : Pipeline n} {e : Event n} {i : Fin n}

/-- The mapping that a step of a rewriter records. -/
def recording (x : Xxh3) (p : Pipeline n) (i : Fin n) (e : Event n) : Option Recording :=
  match e.action with
  | .run_rewriter k shared => if k = i then (p.lanes i).recording x p.pool shared else none
  | .run_steering _ | .run_muxer => none

/-- The rewriter, the batch and the frame of a step that rewrites a frame. -/
def rewriting (p : Pipeline n) (e : Event n) : Option (Fin n × Batch × FrameIndex) :=
  match e.action with
  | .run_rewriter i _ => (p.lanes i).current.map fun (batch,idx) => (i,batch,idx)
  | .run_steering _ | .run_muxer => none

theorem rewriting_eq_some {batch : Batch} {idx : FrameIndex} (rewrites : p.rewriting e = some (i,batch,idx)) :
    ∃ shared, e.action = .run_rewriter i shared ∧ (p.lanes i).current = some (batch,idx) := by
  unfold rewriting at rewrites
  cases action : e.action with
  | run_steering | run_muxer =>
    rw [action] at rewrites
    cases rewrites
  | run_rewriter k shared =>
    rw [action] at rewrites
    obtain ⟨_,next,same⟩ := Option.map_eq_some_iff.mp rewrites
    cases same
    exact ⟨shared,rfl,next⟩

theorem current_waits {batch : Batch} {idx : FrameIndex} (next : (p.lanes i).current = some (batch,idx)) :
    idx ∈ (p.lanes i).waiting := by
  obtain ⟨_,_,rest,taken⟩ := Lane.current_eq_some next
  simp [Lane.waiting,taken]

theorem waiting_place {idx : FrameIndex} (waits : idx ∈ (p.lanes i).waiting) :
    idx ∈ p.holds (.rewriter i) ∨ idx ∈ p.holds (.rx_q i) := by
  rcases List.mem_append.mp waits with taken | queued
  · exact .inl (List.mem_append_right _ taken)
  · exact .inr queued

variable [NeZero n]

theorem Moved.keeps {P : FragmentTable → Nat → Prop} {p' : Pipeline n} {received : List PacketBuf}
    {transmitted : List (List UInt8)} (moved : Moved x src_ipv4 p e p' received transmitted)
    (keeps : (p.lanes i).Keeps P e.now) (weaker : ∀ t now now', now ≤ now' → P t now → P t now')
    (records : ∀ r ∈ p.recording x i e, P (p.lanes i).worker.fragment_table r.now →
      P ((p.lanes i).worker.fragment_table.insert r.hash r.backend_ip r.now) r.now) :
    (p'.lanes i).Keeps P e.now := by
  cases moved with
  | receive | exhausted | alloc | refuse | release | free | next | transmit => exact keeps
  | enqueue pkt rx_buf idx frame k first stage copied steered =>
    refine set_keeps p (fun lane => lane.Keeps P e.now) keeps ?_
    rintro rfl
    exact keeps
  | collect k idx tx_q none_sent queued =>
    refine set_keeps p (fun lane => lane.Keeps P e.now) keeps ?_
    rintro rfl
    exact keeps
  | rewriter k shared lane pool action turn =>
    refine set_keeps p (fun lane => lane.Keeps P e.now) keeps ?_
    rintro rfl
    rw [recording,action] at records
    simp only [if_true] at records
    exact keeps.turn turn weaker records

/-- What waits after a step waited before, as it is, or is the packet that the
    steering thread has put on the queue. -/
theorem Moved.waits {p' : Pipeline n} {received : List PacketBuf} {transmitted : List (List UInt8)}
    (moved : Moved x src_ipv4 p e p' received transmitted) (nodup : (census p.holds).Nodup) {idx : FrameIndex}
    (waits : idx ∈ (p'.lanes i).waiting) :
    (idx ∈ (p.lanes i).waiting ∧ p'.pool.frames idx = p.pool.frames idx) ∨
      ∃ pkt rx_buf, p.steering.rx_buf = pkt :: rx_buf ∧ (p'.pool.frames idx).as_slice = pkt.as_slice ∧
        queue_of x n pkt.as_slice = i := by
  -- A frame that another place holds does not wait here.
  have elsewhere : ∀ {idx' place}, idx' ∈ p.holds place → place ≠ .rewriter i → place ≠ .rx_q i →
      idx ∈ (p.lanes i).waiting → idx ≠ idx' := by
    rintro idx' place held taken queued waits rfl
    rcases waiting_place waits with here | here
    · exact taken (place_unique nodup held here)
    · exact queued (place_unique nodup held here)
  cases moved with
  | receive | exhausted | alloc | release | free | next | transmit => exact .inl ⟨waits,rfl⟩
  | enqueue pkt rx_buf idx' frame k first stage copied steered =>
    have held : idx' ∈ p.holds .steering := by simp [holds,stage,Stage.held]
    replace waits : idx ∈ ((p.set k _).lanes i).waiting := waits
    by_cases same : idx = idx'
    · subst same
      refine .inr ⟨pkt,rx_buf,first,?_,?_⟩
      · show (Function.update p.pool.frames idx frame idx).as_slice = _
        rw [Function.update_self,copied]
      · rw [← steered]
        by_contra other
        rw [set_other p _ (Ne.symm other)] at waits
        exact elsewhere held (by simp) (by simp) waits rfl
    · refine .inl ⟨?_,Function.update_of_ne same ..⟩
      by_cases here : i = k
      · subst here
        rw [set_self] at waits
        simpa [Lane.waiting,same] using waits
      · rwa [set_other p _ here] at waits
  | refuse idx' frame busy stage =>
    have held : idx' ∈ p.holds .steering := by simp [holds,stage,Stage.held]
    exact .inl ⟨waits,Function.update_of_ne (elsewhere held (by simp) (by simp) waits) ..⟩
  | collect k idx' tx_q none_sent queued =>
    refine .inl ⟨?_,rfl⟩
    replace waits : idx ∈ ((p.set k _).lanes i).waiting := waits
    by_cases here : i = k
    · subst here
      rwa [set_self] at waits
    · rwa [set_other p _ here] at waits
  | rewriter k shared lane pool action turn =>
    refine .inl ?_
    replace waits : idx ∈ ((p.set k lane).lanes i).waiting := waits
    by_cases here : i = k
    · subst here
      rw [set_self] at waits
      refine turn.waits (place_nodup nodup (.rewriter i)) (fun idx' queued held => ?_) waits
      exact absurd (place_unique (a := .rx_q i) (b := .rewriter i) nodup queued held) (by simp)
    · rw [set_other p _ here] at waits
      exact ⟨waits,turn.frames fun held =>
        elsewhere (show idx ∈ p.holds (.rewriter k) from held) (by simpa using Ne.symm here) (by simp) waits rfl⟩

/-- Every frame waits for the rewriter that its packet was steered to. -/
def Steered (x : Xxh3) (p : Pipeline n) : Prop :=
  ∀ i, ∀ idx ∈ (p.lanes i).waiting, queue_of x n (p.pool.frames idx).as_slice = i

theorem Moved.steered {p' : Pipeline n} {received : List PacketBuf} {transmitted : List (List UInt8)}
    (moved : Moved x src_ipv4 p e p' received transmitted) (nodup : (census p.holds).Nodup) (steered : p.Steered x) :
    p'.Steered x := by
  intro i idx waits
  rcases moved.waits nodup waits with ⟨waited,same⟩ | ⟨pkt,rx_buf,_,copied,here⟩
  · rw [same]
    exact steered i idx waited
  · rw [copied]
    exact here

theorem run_steered (x : Xxh3) (src_ipv4 : Ipv4Addr) (accounted : p.Accounted) (numbered : p.pool.capacity ≤ 2 ^ 32)
    (steered : p.Steered x) (events : List (Event n)) : (events.foldl (step x src_ipv4) p).Steered x :=
  (Runs.invariant (fun p : Pipeline n => p.Accounted ∧ p.pool.capacity ≤ 2 ^ 32 ∧ p.Steered x)
    (fun p' e inv => by
      have moved := step_moved x src_ipv4 p' e
      exact ⟨moved.accounted inv.1,moved.capacity.trans_le inv.2.1,moved.steered (inv.1.nodup inv.2.1) inv.2.2⟩)
    ⟨accounted,numbered,steered⟩ events).2.2

/-! ### Later fragments -/

section
variable (x : Xxh3) (src_ipv4 : Ipv4Addr)

/-- In this step the rewriter puts the frame out, for the backend. -/
def Forwards (p : Pipeline n) (e : Event n) (i : Fin n) (idx : FrameIndex) (backend : Ipv4Addr) : Prop :=
  ((p.step x src_ipv4 e).lanes i).tx_q = (p.lanes i).tx_q ++ [idx] ∧
    destination ((p.step x src_ipv4 e).pool.frames idx) = backend ∧
    ((p.step x src_ipv4 e).pool.frames idx).as_slice.drop ENCAP_OVERHEAD = (p.pool.frames idx).as_slice

/-- If the rewriter records a mapping, then not in the slot of an expired one in
    front of a live one that would be hidden by it. -/
def Clean (i : Fin n) (p : Pipeline n) (e : Event n) : Prop :=
  ∀ r ∈ p.recording x i e, (p.lanes i).worker.fragment_table.ReclaimSafe r.hash r.now
/-- If the rewriter records a mapping, then in a table that is not full, and not
    of the hash for another backend. -/
def Undisturbed (i : Fin n) (hash : UInt64) (backend : Ipv4Addr) (p : Pipeline n) (e : Event n) : Prop :=
  ∀ r ∈ p.recording x i e, ¬ (p.lanes i).worker.fragment_table.Full r.now ∧ (r.hash = hash → r.backend_ip = .V4 backend)

instance (p : Pipeline n) (e : Event n) (i : Fin n) (idx : FrameIndex) (backend : Ipv4Addr) :
    Decidable (p.Forwards x src_ipv4 e i idx backend) := by
  unfold Forwards
  infer_instance
instance (i : Fin n) (p : Pipeline n) (e : Event n) : Decidable (Clean x i p e) :=
  inferInstanceAs (Decidable (∀ r ∈ p.recording x i e, (p.lanes i).worker.fragment_table.ReclaimSafe r.hash r.now))
instance (i : Fin n) (hash : UInt64) (backend : Ipv4Addr) (p : Pipeline n) (e : Event n) :
    Decidable (Undisturbed x i hash backend p e) :=
  inferInstanceAs (Decidable (∀ r ∈ p.recording x i e,
    ¬ (p.lanes i).worker.fragment_table.Full r.now ∧ (r.hash = hash → r.backend_ip = .V4 backend)))

end

/-- The step that rewrites a frame puts it out if the worker does and there is
    room. -/
theorem forwards_iff {shared : Shared} {batch : Batch} {idx : FrameIndex} {backend : Ipv4Addr}
    (action : e.action = .run_rewriter i shared) (next : (p.lanes i).current = some (batch,idx)) :
    p.Forwards x src_ipv4 e i idx backend ↔
      ∃ frame, ((p.lanes i).rewritten x src_ipv4 p.pool shared batch idx).2 = some frame ∧
        (p.lanes i).tx_q.length < QUEUE_CAPACITY ∧ destination frame = backend ∧
        frame.as_slice.drop ENCAP_OVERHEAD = (p.pool.frames idx).as_slice := by
  obtain ⟨queued,written,_⟩ := Lane.run_rewriter_current x src_ipv4 p.pool shared e.now next
  have lane_after : (p.step x src_ipv4 e).lanes i =
      ((p.lanes i).run_rewriter x src_ipv4 p.pool shared e.now).1 := by
    rw [step,action]
    exact p.set_self i _
  have frame_after : (p.step x src_ipv4 e).pool.frames idx =
      ((p.lanes i).run_rewriter x src_ipv4 p.pool shared e.now).2.frames idx := by rw [step,action]
  unfold Forwards
  rw [lane_after,frame_after,queued,written]
  cases ((p.lanes i).rewritten x src_ipv4 p.pool shared batch idx).2 with
  | none => simp
  | some frame => by_cases room : (p.lanes i).tx_q.length < QUEUE_CAPACITY <;> simp [room]

/-- A first fragment that is put out has its mapping recorded. -/
theorem Forwards.records {batch : Batch} {idx : FrameIndex} {backend : Ipv4Addr} {fid : FragmentId}
    (rewrites : p.rewriting e = some (i,batch,idx)) (forwards : p.Forwards x src_ipv4 e i idx backend)
    (fragment : is_fragment (p.pool.frames idx).as_slice = true)
    (first : is_non_first_fragment (p.pool.frames idx).as_slice = false)
    (datagram : FragmentId.from_ipv4_bytes (p.pool.frames idx).as_slice = some fid) :
    p.recording x i e = some ⟨fid.fragment_hash x,.V4 backend,batch.now⟩ := by
  obtain ⟨shared,action,next⟩ := rewriting_eq_some rewrites
  obtain ⟨frame,output,_,rfl,_⟩ := (forwards_iff action next).mp forwards
  rw [recording,action]
  simp only [if_true]
  rw [Lane.recording,next,Option.bind_some]
  dsimp only
  rw [Lane.rewritten] at output
  cases resolved : resolve ⟨batch.vip_matcher,batch.lookup_tables,shared.health_status⟩ (p.pool.frames idx) with
  | none =>
    obtain ⟨_,dropped⟩ := Worker.rewrite_frame_unresolved x src_ipv4 (p.lanes i).worker batch.now first resolved
    rw [dropped] at output
    cases output
  | some found =>
    obtain ⟨_,sent⟩ := Worker.rewrite_frame_resolved x src_ipv4 (p.lanes i).worker batch.now resolved
    rw [sent] at output
    rw [Worker.recording,resolved,Option.bind_some,if_pos fragment,datagram,Option.map_some]
    dsimp only
    rw [(Worker.tunnelled_eq_some output).2.2]

/-- The table is sound, with the time to live. -/
def SoundFor (ttl : Nat) (t : FragmentTable) (now : Nat) : Prop := t.ttl = ttl ∧ t.Sound now
/-- The table remembers a mapping, with the time to live. -/
def MappedFor (ttl : Nat) (hash : UInt64) (backend : Ipv4Addr) (seen : Nat) (t : FragmentTable) (now : Nat) : Prop :=
  t.ttl = ttl ∧ seen ≤ now ∧ t.Remembers hash (.V4 backend) seen now

theorem SoundFor.later {ttl : Nat} (t : FragmentTable) (now now' : Nat) (later : now ≤ now') (sound : SoundFor ttl t now) :
    SoundFor ttl t now' := ⟨sound.1,sound.2.later later⟩
theorem SoundFor.insert {ttl : Nat} {t : FragmentTable} {now : Nat} {hash : UInt64} (sound : SoundFor ttl t now)
    (safe : t.ReclaimSafe hash now) (backend_ip : IpAddr) : SoundFor ttl (t.insert hash backend_ip now) now :=
  ⟨sound.1,FragmentTable.insert_sound sound.2 safe backend_ip⟩

theorem MappedFor.later {ttl : Nat} {hash : UInt64} {backend : Ipv4Addr} {seen : Nat} (t : FragmentTable)
    (now now' : Nat) (later : now ≤ now') (mapped : MappedFor ttl hash backend seen t now) :
    MappedFor ttl hash backend seen t now' := ⟨mapped.1,Nat.le_trans mapped.2.1 later,mapped.2.2.later later⟩
theorem MappedFor.insert {ttl : Nat} {hash hash' : UInt64} {backend : Ipv4Addr} {backend_ip : IpAddr} {seen now : Nat}
    {t : FragmentTable} (mapped : MappedFor ttl hash backend seen t now) (safe : t.ReclaimSafe hash' now)
    (room : ¬ t.Full now) (same : hash' = hash → backend_ip = .V4 backend) :
    MappedFor ttl hash backend seen (t.insert hash' backend_ip now) now :=
  ⟨mapped.1,mapped.2.1,mapped.2.2.insert mapped.2.1 safe room same⟩

/-- The mapping is there after the step that records it. -/
theorem mapped_first (src_ipv4 : Ipv4Addr) {shared : Shared} {batch : Batch} {idx : FrameIndex} {hash : UInt64}
    {backend : Ipv4Addr}
    {ttl : Nat} (action : e.action = .run_rewriter i shared) (next : (p.lanes i).current = some (batch,idx))
    (recorded : p.recording x i e = some ⟨hash,.V4 backend,batch.now⟩)
    (safe : (p.lanes i).worker.fragment_table.ReclaimSafe hash batch.now)
    (room : ¬ (p.lanes i).worker.fragment_table.Full batch.now) (sound : (p.lanes i).Keeps (SoundFor ttl) e.now) :
    ((p.step x src_ipv4 e).lanes i).Keeps (MappedFor ttl hash backend batch.now) e.now := by
  obtain ⟨_,_,working,batched⟩ := Lane.run_rewriter_current x src_ipv4 p.pool shared e.now next
  obtain ⟨_,batch_read,_⟩ := Lane.current_eq_some next
  have time : (p.lanes i).clock e.now = batch.now := by rw [Lane.clock,batch_read]; rfl
  have lane_after : (p.step x src_ipv4 e).lanes i =
      ((p.lanes i).run_rewriter x src_ipv4 p.pool shared e.now).1 := by
    rw [step,action]
    exact p.set_self i _
  rw [recording,action] at recorded
  simp only [if_true] at recorded
  rw [Lane.recording,next,Option.bind_some] at recorded
  dsimp only at recorded
  rw [Lane.Keeps,time] at sound
  rw [lane_after,Lane.Keeps,Lane.clock,batched,working,Lane.rewritten,Worker.rewrite_frame_recording,recorded,batch_read]
  exact ⟨sound.1,sound.2.1,Nat.le_refl _,FragmentTable.remembers_insert sound.2.2 safe room⟩

/-- Later fragments follow the first one, to the backend that it was forwarded to,
    if they are put on the queue of the first one. -/
theorem fragments_follow (x : Xxh3) (src_ipv4 : Ipv4Addr) (n : Nat) [NeZero n] (capacity conn_bits : Nat)
    (conn_small : conn_bits < 64) (conn_ttls : ConnTtls) (fragment_bits : Nat) (fragment_small : fragment_bits < 64)
    (fragment_ttl batch_size start_time : Nat) (before between : List (Event n)) (e e' : Event n) (i j : Fin n)
    (batch batch' : Batch) (idx idx' : FrameIndex) (fid : FragmentId) (backend : Ipv4Addr)
    (numbered : capacity ≤ 2 ^ 32)
    (clocked : Runs.Clocked Event.now start_time (before ++ e :: (between ++ [e']))) :
    let initial := start n capacity conn_bits conn_small conn_ttls fragment_bits fragment_small fragment_ttl batch_size
      start_time
    let p := before.foldl (step x src_ipv4) initial
    let p' := between.foldl (step x src_ipv4) (p.step x src_ipv4 e)
    let first := (p.pool.frames idx).as_slice
    let later := (p'.pool.frames idx').as_slice
    -- The first fragment is forwarded.
    p.rewriting e = some (i,batch,idx) → is_fragment first = true → is_non_first_fragment first = false →
    FragmentId.from_ipv4_bytes first = some fid → p.Forwards x src_ipv4 e i idx backend →
    -- Its mapping stays.
    Runs.Along (step x src_ipv4) (Clean x i) initial (before ++ e :: between) →
    Runs.Along (step x src_ipv4) (Undisturbed x i (fid.fragment_hash x) backend) p (e :: between) →
    batch'.now ≤ batch.now + fragment_ttl →
    -- A later fragment comes to a rewriter, with room for the headers and on the queue.
    p'.rewriting e' = some (j,batch',idx') → is_non_first_fragment later = true →
    FragmentId.from_ipv4_bytes later = some fid → (p'.lanes j).tx_q.length < QUEUE_CAPACITY →
    later.length + ENCAP_OVERHEAD ≤ PACKET_BUF_SIZE →
    queue_of x n later = queue_of x n first → p'.Forwards x src_ipv4 e' j idx' backend := by
  intro initial p p' first later rewrites fragment is_first datagram forwards clean undisturbed unexpired rewrites'
    is_later datagram' queue_room frame_room same_queue
  have accounted := start_accounted (n := n) capacity conn_bits conn_small conn_ttls fragment_bits fragment_small
    fragment_ttl batch_size start_time
  have run_to : p' = (before ++ e :: between).foldl (step x src_ipv4) initial := by
    rw [List.foldl_append]
    rfl
  have empty : initial.Steered x := fun _ _ waits => absurd waits List.not_mem_nil
  obtain ⟨shared,action,next⟩ := rewriting_eq_some rewrites
  obtain ⟨shared',action',next'⟩ := rewriting_eq_some rewrites'
  -- Both fragments come to one rewriter.
  have at_i : queue_of x n first = i := run_steered x src_ipv4 accounted numbered empty before i idx (current_waits next)
  have at_j : queue_of x n later = j := by
    have steered := run_steered x src_ipv4 accounted numbered empty (before ++ e :: between)
    rw [← run_to] at steered
    exact steered j idx' (current_waits next')
  obtain rfl : i = j := by rw [← at_i,← at_j,same_queue]
  rw [Runs.clocked_append] at clocked
  obtain ⟨clocked_before,at_e,clocked_after⟩ := clocked
  rw [Runs.clocked_append] at clocked_after
  obtain ⟨clocked_between,at_e',_⟩ := clocked_after
  rw [Runs.along_append] at clean
  -- The fragment table is sound when the first fragment comes, and has its mapping afterwards.
  have sound : (p.lanes i).Keeps (SoundFor fragment_ttl) e.now := by
    have run := clocked_before.invariant (fun now (p : Pipeline n) => (p.lanes i).Keeps (SoundFor fragment_ttl) now)
      (fun _ _ _ later keeps => keeps.later SoundFor.later later)
      (fun p e keeps clean => (step_moved x src_ipv4 p e).keeps keeps SoundFor.later
        fun r recorded kept => kept.insert (clean r recorded) r.backend_ip)
      clean.1 ⟨Nat.le_refl start_time,rfl,FragmentTable.new_sound fragment_bits fragment_small _ _⟩
    exact run.later SoundFor.later at_e
  have recorded := forwards.records rewrites fragment is_first datagram
  have mapped := mapped_first src_ipv4 action next recorded (clean.2.1 _ recorded) (undisturbed.1 _ recorded).1 sound
  -- It stays while other frames pass.
  have kept := clocked_between.invariant (fun now (p : Pipeline n) =>
      (p.lanes i).Keeps (MappedFor fragment_ttl (fid.fragment_hash x) backend batch.now) now)
    (fun _ _ _ later keeps => keeps.later MappedFor.later later)
    (fun p e keeps both => (step_moved x src_ipv4 p e).keeps keeps MappedFor.later
      fun r recorded kept => kept.insert (both.1 r recorded) (both.2 r recorded).1 (both.2 r recorded).2)
    (clean.2.2.and undisturbed.2) mapped
  obtain ⟨_,batched,_⟩ := Lane.current_eq_some next'
  obtain ⟨_,ttl,_,remembers⟩ := kept.later MappedFor.later at_e'
  rw [Lane.clock,batched] at remembers
  have found := remembers.get (by rw [ttl]; exact unexpired)
  have length : later.length = (p'.pool.frames idx').len := PacketBuf.as_slice_length _
  obtain ⟨out,sent,to_backend,inner⟩ := Worker.rewrite_frame_later is_later datagram' found (length ▸ frame_room)
  exact (forwards_iff action' next').mpr ⟨out,sent,queue_room,to_backend,inner⟩

/-! ### Two fragments -/

/-- The bytes of a later fragment after its header, and the hash that steering takes of them. -/
private def fragment (flags_and_offset : UInt16) (payload : List UInt8) : PacketBuf :=
  .from_slice ([0x45,0] ++ to_be_bytes (UInt16.ofNat (20 + payload.length)) ++ to_be_bytes 7 ++
    to_be_bytes flags_and_offset ++ [64,6,0,0,10,1,0,1,188,184,100,10] ++ payload)
private def firstFragment : PacketBuf :=
  fragment 0x2000 (to_be_bytes 40000 ++ to_be_bytes 443 ++ [0,0,0,1,0,0,0,1,0x50,0x10,1,0,0,0,0,0,0,0,0,0])
private def datagram : FragmentId := ⟨.V4 ⟨10,1,0,1⟩,.V4 ⟨188,184,100,10⟩,7⟩
private def portsFrom (src_port : UInt16) : PacketMeta := { flowFrom src_port with dst_port := 772 }
private def hashedFragments : Xxh3 where
  xxh3_64 := fun bytes =>
    if bytes = datagram.hash_buf then 6454245185253168362
    else if bytes = (portsFrom 258).hash_buf then 9064542604546902554
    else if bytes = (portsFrom 514).hash_buf then 12026777771692654129
    else hashedPair.xxh3_64 bytes
  xxh3_64_with_seed := hashedPair.xxh3_64_with_seed

private def steers (seconds : Nat) (pkt : PacketBuf) : List (Event 2) :=
  [⟨.run_steering [pkt],from_secs seconds⟩,⟨.run_steering [],from_secs seconds⟩,⟨.run_steering [],from_secs seconds⟩]
private def turns (seconds : Nat) (i : Fin 2) : Event 2 := ⟨.run_rewriter i (sharing false ∅),from_secs seconds⟩
private def arrives : List (Event 2) := steers 1 firstFragment ++ [turns 1 1,turns 1 1]
private def follows (i : Fin 2) (byte : UInt8) : List (Event 2) :=
  turns 1 1 :: (steers 2 (fragment 0x0003 [byte,2,3,4,5,6,7,8]) ++ [turns 2 i,turns 2 i])
private def twoRewriters : Pipeline 2 := start 2 4 2 two_bits minutes 2 two_bits (from_secs 10) 64 0

private def afterFirst : Pipeline 2 := arrives.foldl (step hashedFragments ⟨172,16,0,1⟩) twoRewriters
private def afterLater (i : Fin 2) (byte : UInt8) : Pipeline 2 :=
  (follows i byte).foldl (step hashedFragments ⟨172,16,0,1⟩) (afterFirst.step hashedFragments ⟨172,16,0,1⟩ (turns 1 1))

/-- A batch is known by its time in what follows. -/
private theorem rewriting_batch {n now : Nat} {p : Pipeline n} {e : Event n} {i : Fin n} {idx : FrameIndex}
    (next : (p.rewriting e).map (fun f => (f.1,f.2.1.now,f.2.2)) = some (i,now,idx)) :
    ∃ batch : Batch, p.rewriting e = some (i,batch,idx) ∧ batch.now = now := by
  obtain ⟨⟨_,batch,_⟩,rewrites,same⟩ := Option.map_eq_some_iff.mp next
  simp only [Prod.mk.injEq] at same
  obtain ⟨rfl,time,rfl⟩ := same
  exact ⟨batch,rewrites,time⟩

/-- The first fragment is the next that the second rewriter gets to. -/
private theorem first_fragment :
    (afterFirst.rewriting (turns 1 1)).map (fun f => (f.1,f.2.1.now,f.2.2)) = some (1,from_secs 1,0) ∧
      is_fragment (afterFirst.pool.frames 0).as_slice = true ∧
      is_non_first_fragment (afterFirst.pool.frames 0).as_slice = false ∧
      FragmentId.from_ipv4_bytes (afterFirst.pool.frames 0).as_slice = some datagram ∧
      afterFirst.Forwards hashedFragments ⟨172,16,0,1⟩ (turns 1 1) 1 0 ⟨10,0,0,1⟩ := by decide +kernel

/-- A fragment whose bytes fall to the queue of the first one follows it. -/
theorem fragments_follow_one_queue :
    (afterLater 1 2).Forwards hashedFragments ⟨172,16,0,1⟩ (turns 2 1) 1 1 ⟨10,0,0,1⟩ := by
  obtain ⟨first_next,first,has_header,own,forwards⟩ := first_fragment
  obtain ⟨later_next,later,own',queue_room,frame_room⟩ : ((afterLater 1 2).rewriting (turns 2 1)).map
        (fun f => (f.1,f.2.1.now,f.2.2)) = some (1,from_secs 2,1) ∧
      is_non_first_fragment ((afterLater 1 2).pool.frames 1).as_slice = true ∧
      FragmentId.from_ipv4_bytes ((afterLater 1 2).pool.frames 1).as_slice = some datagram ∧
      ((afterLater 1 2).lanes 1).tx_q.length < QUEUE_CAPACITY ∧
      ((afterLater 1 2).pool.frames 1).as_slice.length + ENCAP_OVERHEAD ≤ PACKET_BUF_SIZE := by decide +kernel
  obtain ⟨batch,rewrites,time⟩ := rewriting_batch first_next
  obtain ⟨batch',rewrites',time'⟩ := rewriting_batch later_next
  exact fragments_follow hashedFragments ⟨172,16,0,1⟩ 2 4 2 (by decide) minutes 2 (by decide) (from_secs 10) 64 0
    arrives (follows 1 2) (turns 1 1) (turns 2 1) 1 1 batch batch' 0 1 datagram ⟨10,0,0,1⟩ (by decide)
    (by decide) rewrites first has_header own forwards (by decide +kernel) (by decide +kernel)
    (by rw [time,time']; decide) rewrites' later own' queue_room frame_room (by decide +kernel)

/-- One whose bytes fall to the other queue finds no mapping there. -/
theorem fragments_parted :
    ¬ ∀ (x : Xxh3) (src_ipv4 : Ipv4Addr) (n : Nat) [NeZero n] (capacity conn_bits : Nat) (conn_small : conn_bits < 64)
      (conn_ttls : ConnTtls) (fragment_bits : Nat) (fragment_small : fragment_bits < 64)
      (fragment_ttl batch_size start_time : Nat) (before between : List (Event n)) (e e' : Event n) (i j : Fin n)
      (batch batch' : Batch) (idx idx' : FrameIndex) (fid : FragmentId) (backend : Ipv4Addr),
      capacity ≤ 2 ^ 32 → Runs.Clocked Event.now start_time (before ++ e :: (between ++ [e'])) →
      let initial := start n capacity conn_bits conn_small conn_ttls fragment_bits fragment_small fragment_ttl
        batch_size start_time
      let p := before.foldl (step x src_ipv4) initial
      let p' := between.foldl (step x src_ipv4) (p.step x src_ipv4 e)
      let first := (p.pool.frames idx).as_slice
      let later := (p'.pool.frames idx').as_slice
      p.rewriting e = some (i,batch,idx) → is_fragment first = true → is_non_first_fragment first = false →
      FragmentId.from_ipv4_bytes first = some fid → p.Forwards x src_ipv4 e i idx backend →
      Runs.Along (step x src_ipv4) (Clean x i) initial (before ++ e :: between) →
      Runs.Along (step x src_ipv4) (Undisturbed x i (fid.fragment_hash x) backend) p (e :: between) →
      batch'.now ≤ batch.now + fragment_ttl →
      p'.rewriting e' = some (j,batch',idx') → is_non_first_fragment later = true →
      FragmentId.from_ipv4_bytes later = some fid → (p'.lanes j).tx_q.length < QUEUE_CAPACITY →
      later.length + ENCAP_OVERHEAD ≤ PACKET_BUF_SIZE → p'.Forwards x src_ipv4 e' j idx' backend := by
  intro follow
  obtain ⟨first_next,first,has_header,own,forwards⟩ := first_fragment
  obtain ⟨later_next,later,own',queue_room,frame_room,dropped⟩ : ((afterLater 0 1).rewriting (turns 2 0)).map
        (fun f => (f.1,f.2.1.now,f.2.2)) = some (0,from_secs 2,1) ∧
      is_non_first_fragment ((afterLater 0 1).pool.frames 1).as_slice = true ∧
      FragmentId.from_ipv4_bytes ((afterLater 0 1).pool.frames 1).as_slice = some datagram ∧
      ((afterLater 0 1).lanes 0).tx_q.length < QUEUE_CAPACITY ∧
      ((afterLater 0 1).pool.frames 1).as_slice.length + ENCAP_OVERHEAD ≤ PACKET_BUF_SIZE ∧
      ¬ (afterLater 0 1).Forwards hashedFragments ⟨172,16,0,1⟩ (turns 2 0) 0 1 ⟨10,0,0,1⟩ := by decide +kernel
  obtain ⟨batch,rewrites,time⟩ := rewriting_batch first_next
  obtain ⟨batch',rewrites',time'⟩ := rewriting_batch later_next
  refine dropped (follow hashedFragments ⟨172,16,0,1⟩ 2 4 2 (by decide) minutes 2 (by decide) (from_secs 10) 64 0
    arrives (follows 0 1) (turns 1 1) (turns 2 0) 1 0 batch batch' 0 1 datagram ⟨10,0,0,1⟩ (by decide)
    (by decide) rewrites first has_header own forwards (by decide +kernel) (by decide +kernel)
    (by rw [time,time']; decide) rewrites' later own' queue_room frame_room)

end Pipeline

end Lb.Threading
