import Lb.Speaker
import Lb.Drain

/-!
# Graceful shutdown

On a signal the controller withdraws what it announces, and a while later every session
is told to end. A session ends after the commands that were sent before, so that its
peer has been told of the withdrawals.
-/
namespace Lb.Speaker
open Lb.Addr Lb.Types Lb.Applier Lb.Maglev Lb.Orchestrator

variable {n : Nat} {x : Xxh3} {announced known : Finset Ipv4Addr} {events : List BgpEvent} {p p' : Peer}

/-- The updates that commands make. -/
def updates (cmds : List SessionCmd) : List BgpCall := cmds.filterMap SessionCmd.update

/-- The task has ended, or will end after some commands; a peer that is told of these is
    told of no more than is known, whether it is connected already or joins late. -/
def Peer.Leaving (known : Finset Ipv4Addr) (p : Peer) : Prop :=
  p.task = .finished ∨ ∃ before after, p.tx = before ++ .Shutdown :: after ∧ .Shutdown ∉ before ∧
    (p.task ≠ .discarding → ∀ us, us <:+ updates before → Feed.replay ∅ us ⊆ known) ∧
    (p.task = .driving → Feed.replay p.sent (updates before) ⊆ known)

/-- Commands that come after the shutdown make no difference. -/
theorem Peer.Leaving.grow (leaving : p.Leaving known) (cmds : List SessionCmd) :
    ({ p with tx := p.tx ++ cmds } : Peer).Leaving known := by
  rcases leaving with ended | ⟨before,after,queued,first,late,part⟩
  · exact .inl ended
  · exact .inr ⟨before,after ++ cmds,by simp [queued],first,late,part⟩

theorem send_grows (p : Peer) (cmd : SessionCmd) : ∃ cmds, p.send cmd = { p with tx := p.tx ++ cmds } := by
  unfold Peer.send
  split_ifs
  · exact ⟨[],by rw [List.append_nil]⟩
  · exact ⟨[cmd],rfl⟩

theorem call_grows (p : Peer) (call : BgpCall) : ∃ cmds, p.call call = { p with tx := p.tx ++ cmds } := by
  have same : ∃ cmds, p = { p with tx := p.tx ++ cmds } := ⟨[],by rw [List.append_nil]⟩
  cases call with
  | announce vips =>
    rw [Peer.call,Peer.announce]
    split_ifs
    · exact same
    · exact same
    · exact send_grows p _
  | withdraw vips =>
    rw [Peer.call,Peer.withdraw]
    split_ifs
    · exact same
    · exact same
    · exact send_grows p _

theorem Peer.Leaving.calls (leaving : p.Leaving known) (calls : List BgpCall) :
    (calls.foldl Peer.call p).Leaving known := by
  induction calls generalizing p with
  | nil => exact leaving
  | cons call calls ih =>
    obtain ⟨cmds,grown⟩ := call_grows p call
    rw [List.foldl_cons,grown]
    exact ih (leaving.grow cmds)

/-- The first command of a task that is leaving is its shutdown, or comes before it. -/
theorem leaving_cons {before after rest : List SessionCmd} {cmd : SessionCmd}
    (queued : before ++ .Shutdown :: after = cmd :: rest) (other : cmd ≠ .Shutdown) :
    ∃ before', before = cmd :: before' ∧ rest = before' ++ .Shutdown :: after := by
  cases before with
  | nil =>
    cases queued
    exact absurd rfl other
  | cons first before =>
    cases queued
    exact ⟨before,rfl,rfl⟩

theorem updates_suffix (cmd : SessionCmd) (rest : List SessionCmd) : updates rest <:+ updates (cmd :: rest) := by
  rw [updates,updates,List.filterMap_cons]
  cases cmd.update with
  | none => exact List.suffix_refl _
  | some call => exact List.suffix_cons call _

/-- A command that is dropped, by a task without a session. -/
theorem Peer.Leaving.lose {cmd : SessionCmd} {rest : List SessionCmd} (leaving : p.Leaving known)
    (queued : p.tx = cmd :: rest) (alive : p.task ≠ .finished) (other : cmd ≠ .Shutdown) (tx : p'.tx = rest)
    (kind : p'.task ≠ .discarding → p.task ≠ .discarding) (down : p'.task ≠ .driving) : p'.Leaving known := by
  rcases leaving with ended | ⟨before,after,split,first,late,part⟩
  · exact absurd ended alive
  · obtain ⟨before',rfl,rfl⟩ := leaving_cons (split.symm.trans queued) other
    refine .inr ⟨before',after,tx,fun listed => first (List.mem_cons_of_mem _ listed),fun live us suffix => ?_,
      fun up => absurd up down⟩
    exact late (kind live) us (suffix.trans (updates_suffix cmd before'))

/-- A step that touches neither the channel nor, but for its end, the session. -/
theorem Peer.Leaving.rest (leaving : p.Leaving known) (alive : p.task ≠ .finished) (tx : p'.tx = p.tx)
    (kind : p'.task ≠ .discarding → p.task ≠ .discarding) (down : p'.task ≠ .driving) : p'.Leaving known := by
  rcases leaving with ended | ⟨before,after,split,first,late,part⟩
  · exact absurd ended alive
  · exact .inr ⟨before,after,tx.trans split,first,fun live => late (kind live),fun up => absurd up down⟩

theorem Peer.Leaving.session (leaving : p.Leaving known) (moves : Session p p' events) : p'.Leaving known := by
  cases moves with
  | drop at_top queued other =>
    exact leaving.lose queued (by simp [at_top]) other rfl (by simp [at_top]) (by simp [at_top])
  | stop_draining at_top queued => exact .inl rfl
  | attempt at_top drained => exact leaving.rest (by simp [at_top]) rfl (by simp [at_top]) (by simp)
  | established trying =>
    rcases leaving with ended | ⟨before,after,split,first,late,part⟩
    · rw [trying] at ended
      cases ended
    · have late := late (by simp [trying])
      exact .inr ⟨before,after,split,first,fun _ => late,fun _ => late _ (List.suffix_refl _)⟩
  | connect_fails trying => exact leaving.rest (by simp [trying]) rfl (by simp [trying]) (by simp)
  | @deliver cmd rest up queued other =>
    rcases leaving with ended | ⟨before,after,split,first,late,part⟩
    · rw [up] at ended
      cases ended
    · obtain ⟨before',rfl,rfl⟩ := leaving_cons (split.symm.trans queued) other
      refine .inr ⟨before',after,rfl,fun listed => first (List.mem_cons_of_mem _ listed),fun live us suffix => ?_,
        fun _ => ?_⟩
      · exact late live us (suffix.trans (updates_suffix cmd before'))
      · have whole := part up
        rw [updates,List.filterMap_cons] at whole
        dsimp only
        rw [Peer.write]
        cases update : cmd.update with
        | none =>
          rw [update] at whole
          exact whole
        | some call =>
          rw [update] at whole
          exact whole
  | write_fails up queued other => exact leaving.lose queued (by simp [up]) other rfl (by simp [up]) (by simp)
  | shut_down up queued => exact .inl rfl
  | disconnect up => exact leaving.rest (by simp [up]) rfl (by simp [up]) (by simp)
  | notification up => exact leaving.rest (by simp [up]) rfl (by simp [up]) (by simp)
  | backoff_elapses waits => exact leaving.rest (by simp [waits]) rfl (by simp [waits]) (by simp)
  | swallow waits queued other =>
    exact leaving.lose queued (by simp [waits]) other rfl (by simp [waits]) (by simp)
  | stop_waiting waits queued => exact .inl rfl
  | @discard cmd rest disabled queued =>
    by_cases stops : cmd = .Shutdown
    · exact .inl (by simp [stops])
    · refine leaving.lose queued (by simp [disabled]) stops rfl ?_ ?_
      · simp [stops]
      · simp [stops]

/-- A peer that has been told of what is announced is told of no more once it is shut
    down. -/
theorem Peer.Told.leaving (told : p.Told announced events) (fresh : .Shutdown ∉ p.tx) :
    (p.send .Shutdown).Leaving announced := by
  unfold Peer.send
  split_ifs with ended
  · exact .inl ended
  · refine .inr ⟨p.tx,[],rfl,fresh,fun live us suffix => ?_,fun up => told.part up⟩
    exact told.late ⟨told.enabled live ended,ended⟩ us suffix

variable {s s' : System n}

theorem leaving_step (leaving : ∀ i, (s.peers i).Leaving known) (steps : Step x s s') (i : Fin n) :
    (s'.peers i).Leaving known := by
  cases steps with
  | operate op => exact (leaving i).calls _
  | @session j p events moves =>
    dsimp only
    by_cases same : i = j
    · subst same
      rw [Function.update_self]
      exact (leaving i).session moves
    · rw [Function.update_of_ne same]
      exact leaving i
  | pump_connected next => exact (leaving i).calls _
  | pump_other next other => exact leaving i
  | shutdown =>
    obtain ⟨cmds,grown⟩ := send_grows (s.peers i) .Shutdown
    dsimp only
    rw [grown]
    exact (leaving i).grow cmds

/-! ### The signal handler -/

/-- The steps between the withdrawal and the shutdown, but for a reload of the
    configuration or a change of the health that finds an address to announce. -/
inductive Calm (x : Xxh3) : System n → System n → Prop
  | operate {s : System n} (op : Op) (finds_none : s.controller.FindsNone op) :
      Calm x s (s.calls (s.controller.perform x op).1 (s.controller.perform x op).2)
  | other {s s' : System n} (steps : Step x s s') (same : s'.controller = s.controller) : Calm x s s'

theorem Calm.steps (calm : Calm x s s') : Step x s s' := by
  cases calm with
  | operate op finds_none => exact .operate op
  | other steps same => exact steps

/-- Once everything is withdrawn, nothing is announced in calm steps. -/
theorem Calm.drained (calm : Calm x s s') (drained : s.controller.Drained) : s'.controller.Drained := by
  cases calm with
  | operate op finds_none => exact drained.perform finds_none
  | other steps same => exact same ▸ drained

/-- After the signal, every session task ends or has its end before it, whatever else
    happens; and a session that ends on command has told its peer of the withdrawal of
    every address. -/
theorem shutdown_withdraws_everything {n : Nat} (x : Xxh3) (tables : LookupTables) (health : Health) (m : TableSize)
    (config : Fin n → IpAddr × Bool) {s withdrawn stopping stopped : System n}
    (reached : Relation.ReflTransGen (Step x) (.start tables health m config) s)
    (withdraws : withdrawn = s.calls (s.controller.perform x .withdraw_all).1
      (s.controller.perform x .withdraw_all).2)
    (calm : Relation.ReflTransGen (Calm x) withdrawn stopping) (first : ∀ i, .Shutdown ∉ (stopping.peers i).tx)
    (rest : Relation.ReflTransGen (Step x) { stopping with peers := fun i => (stopping.peers i).send .Shutdown }
      stopped) (i : Fin n) :
    ((stopped.peers i).task = .finished ∨ .Shutdown ∈ (stopped.peers i).tx) ∧
    ∀ p events, Session (stopped.peers i) p events → (stopped.peers i).task = .driving → p.task = .finished →
      p.sent = ∅ := by
  have drained : withdrawn.controller.Drained := by
    rw [withdraws]
    exact Controller.withdraw_all_drained (reachable_told reached).attached
  have silent := Runs.reachable_invariant (fun s : System n => s.controller.Drained)
    (fun _ _ drained calm => calm.drained drained) calm drained
  have told : stopping.Told := by
    have first_step : Step x s withdrawn := by
      rw [withdraws]
      exact .operate .withdraw_all
    exact reachable_told ((reached.tail first_step).trans (calm.lift id fun _ _ calm => calm.steps))
  have leaving := Runs.reachable_invariant (fun s : System n => ∀ i, (s.peers i).Leaving ∅)
    (fun _ _ leaving steps => leaving_step leaving steps) rest (fun i => by
      have told := told.peers i
      rw [silent.nothing] at told
      exact told.leaving (first i)) i
  refine ⟨?_,fun p events moves up ends => ?_⟩
  · rcases leaving with ended | ⟨before,after,queued,_⟩
    · exact .inl ended
    · exact .inr (by simp [queued])
  · rcases leaving with ended | ⟨before,after,queued,absent,_,part⟩
    · rw [up] at ended
      cases ended
    · have part := part up
      cases moves with
      | @shut_down rest _ stops =>
        cases before with
        | nil => exact Finset.subset_empty.mp part
        | cons cmd before =>
          rw [queued] at stops
          cases stops
          exact absurd List.mem_cons_self absent
      | deliver _ _ _ =>
        rw [up] at ends
        cases ends
      | write_fails _ _ _ => cases ends
      | disconnect _ => cases ends
      | notification _ => cases ends
      | drop at_top _ _ => simp [up] at at_top
      | stop_draining at_top _ => simp [up] at at_top
      | attempt at_top _ => simp [up] at at_top
      | established trying => simp [up] at trying
      | connect_fails trying => simp [up] at trying
      | backoff_elapses waits => simp [up] at waits
      | swallow waits _ _ => simp [up] at waits
      | stop_waiting waits _ => simp [up] at waits
      | discard disabled _ => simp [up] at disabled

/-- A step of one session, whose peer is known. -/
theorem session_step {i : Fin n} (here : s.peers i = p) (moves : Session p p' events) :
    ∃ s', Step x s s' ∧ s'.peers i = p' ∧ s'.controller = s.controller := by
  subst here
  exact ⟨_,.session moves,Function.update_self ..,rfl⟩

private def announcedPeer : Peer := { oneVipPeer with tx := [], sent := {⟨188,184,100,10⟩} }
private def stoppingPeer : Peer := { announcedPeer with tx := [.Withdraw [⟨188,184,100,10⟩],.Shutdown] }

/-- A session that has announced an address is up when the signal comes. The debounce
    timer ticks before the sessions are told to end, and the withdrawal is still in the
    channel then. -/
theorem shutdown_withdraws_router : ∃ (s stopped : System 1) (p : Peer),
    Relation.ReflTransGen (Step zeroHash) s stopped ∧ (s.peers 0).sent = {⟨188,184,100,10⟩} ∧
      s.controller.vips_announced = {⟨188,184,100,10⟩} ∧
      Session (stopped.peers 0) p [.PeerDisconnected (.V4 ⟨10,0,0,254⟩) "shutdown"] ∧ p.sent = ∅ := by
  obtain ⟨connected,reached,fed,known,_⟩ := oneVip_connected
  have announce : Session oneVipPeer announcedPeer [] :=
    @Session.deliver oneVipPeer (.Announce [⟨188,184,100,10⟩]) [] rfl rfl (by decide)
  obtain ⟨s,announces,told,same⟩ := session_step (x := zeroHash) fed announce
  have up := reached.tail announces
  have attached : connected.controller.bgp = true := (reachable_told reached).attached
  have calls : (s.controller.perform zeroHash .withdraw_all).2 = [.withdraw [⟨188,184,100,10⟩]] := by
    simp [Controller.perform,Controller.withdraw_all,attached,same,known,Feed.withdrawAll]
  -- The signal handler withdraws the address, the timer ticks, and the sessions are told to end.
  let withdrawn := s.calls (s.controller.perform zeroHash .withdraw_all).1 (s.controller.perform zeroHash .withdraw_all).2
  let stopping := withdrawn.calls (withdrawn.controller.perform zeroHash (.tick 0)).1 []
  have waits : stopping.peers 0 = { announcedPeer with tx := [.Withdraw [⟨188,184,100,10⟩]] } := by
    show (s.controller.perform zeroHash .withdraw_all).2.foldl Peer.call (s.peers 0) = _
    rw [calls,told]
    rfl
  have ticks : Calm zeroHash withdrawn stopping := .operate (.tick 0) trivial
  have fresh : ∀ i, .Shutdown ∉ (stopping.peers i).tx := by
    intro i
    rw [Subsingleton.elim i 0,waits]
    simp
  let ending : System 1 := { stopping with peers := fun i => (stopping.peers i).send .Shutdown }
  have ends : ending.peers 0 = stoppingPeer := by
    show (stopping.peers 0).send .Shutdown = _
    rw [waits]
    rfl
  have withdraw : Session stoppingPeer { stoppingPeer with tx := [.Shutdown], sent := ∅ } [] :=
    @Session.deliver stoppingPeer (.Withdraw [⟨188,184,100,10⟩]) [.Shutdown] rfl rfl (by decide)
  obtain ⟨stopped,withdraws,last,_⟩ := session_step (x := zeroHash) ends withdraw
  have shut_down := @Session.shut_down (stopped.peers 0) [] (by rw [last]; rfl) (by rw [last])
  rw [show (stopped.peers 0).peer_ip = .V4 ⟨10,0,0,254⟩ by rw [last]; rfl] at shut_down
  have run : Relation.ReflTransGen (Step zeroHash) s stopped :=
    (((Relation.ReflTransGen.single (.operate .withdraw_all)).tail ticks.steps).tail .shutdown).tail withdraws
  refine ⟨s,stopped,_,run,by rw [told]; rfl,by rw [same,known],shut_down,?_⟩
  exact (shutdown_withdraws_everything zeroHash ∅ ∅ ⟨2,Nat.prime_two⟩ _ up rfl (.single ticks) fresh (.single withdraws)
    0).2 _ _ shut_down (by rw [last]; rfl) rfl

end Lb.Speaker
