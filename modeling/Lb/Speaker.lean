import Lb.Orchestrator
import Mathlib.Logic.Function.Basic

/-!
# The BGP speaker

Each peer has a session task of its own, which the controller feeds through a
channel. The task throws away what it finds in the channel while it is not
connected, and reports a connection through an event; the event pump answers
with an announcement of everything.
-/
namespace Lb.Speaker
open Lb.Addr Lb.Types Lb.Applier Lb.Maglev Lb.Orchestrator

inductive PeerState
  | Idle
  | Connecting
  | Established
  | Backoff
  | Disabled
deriving DecidableEq

inductive SessionCmd
  | Announce (vips : List Ipv4Addr)
  | Withdraw (vips : List Ipv4Addr)
  | Shutdown
deriving DecidableEq

inductive BgpEvent
  | PeerConnected (peer_ip : IpAddr)
  | PeerDisconnected (peer_ip : IpAddr) (reason : String)
  | AnnounceFailed (peer_ip : IpAddr)
  | WithdrawFailed (peer_ip : IpAddr)
  | PeerNotification (peer_ip : IpAddr) (error_code error_subcode : UInt8)
deriving DecidableEq

def RECONNECT_BACKOFF_MIN : Nat := from_secs 1
def RECONNECT_BACKOFF_MAX : Nat := from_secs 60

/-- Where the task of a peer is: at the top of its loop, in `connect`, in
    `drive`, or waiting to try again. The task of a disabled peer only empties
    its channel. -/
inductive Task
  | draining
  | connecting
  | driving
  | waiting
  | discarding
  | finished
deriving DecidableEq

/-- `sent` is the set that the UPDATEs of the current session add up to. -/
structure Peer where
  peer_ip : IpAddr
  enabled : Bool
  state : PeerState
  task : Task
  backoff : Nat
  tx : List SessionCmd
  sent : Finset Ipv4Addr

def Peer.spawn (peer_ip : IpAddr) (enabled : Bool) : Peer where
  peer_ip := peer_ip
  enabled := enabled
  state := if enabled then .Idle else .Disabled
  task := if enabled then .draining else .discarding
  backoff := RECONNECT_BACKOFF_MIN
  tx := []
  sent := ∅

/-- Commands are lost once the task has exited. -/
def Peer.send (p : Peer) (cmd : SessionCmd) : Peer :=
  if p.task = .finished then p else { p with tx := p.tx ++ [cmd] }
def Peer.announce (p : Peer) (vips : List Ipv4Addr) : Peer :=
  if vips.isEmpty then p else if !p.enabled then p else p.send (.Announce vips)
def Peer.withdraw (p : Peer) (vips : List Ipv4Addr) : Peer :=
  if vips.isEmpty then p else if !p.enabled then p else p.send (.Withdraw vips)
def Peer.call (p : Peer) : BgpCall → Peer
  | .announce vips => p.announce vips
  | .withdraw vips => p.withdraw vips

/-- The update that a command makes. -/
def SessionCmd.update : SessionCmd → Option BgpCall
  | .Announce vips => some (.announce vips)
  | .Withdraw vips => some (.withdraw vips)
  | .Shutdown => none

/-- The event that reports that a command could not be sent. -/
def SessionCmd.failure (peer_ip : IpAddr) : SessionCmd → BgpEvent
  | .Announce _ => .AnnounceFailed peer_ip
  | _ => .WithdrawFailed peer_ip
/-- The command with the first `n` addresses only. -/
def SessionCmd.take (n : Nat) : SessionCmd → SessionCmd
  | .Announce vips => .Announce (vips.take n)
  | .Withdraw vips => .Withdraw (vips.take n)
  | .Shutdown => .Shutdown

/-- The set sent once an announcement or a withdrawal is written to the stream. -/
def Peer.write (p : Peer) (cmd : SessionCmd) : Finset Ipv4Addr :=
  (cmd.update.map (Feed.Update.apply p.sent)).getD p.sent

/-- One step of a session task, with the events that it sends. -/
inductive Session : Peer → Peer → List BgpEvent → Prop
  /-- `run` drops what is queued before a connection attempt, -/
  | drop {p : Peer} {cmd : SessionCmd} {rest : List SessionCmd} (at_top : p.task = .draining)
      (queued : p.tx = cmd :: rest) (other : cmd ≠ .Shutdown) : Session p { p with tx := rest } []
  /-- unless it is the shutdown. -/
  | stop_draining {p : Peer} {rest : List SessionCmd} (at_top : p.task = .draining)
      (queued : p.tx = .Shutdown :: rest) :
      Session p { p with tx := rest, state := .Idle, task := .finished } []
  | attempt {p : Peer} (at_top : p.task = .draining) (drained : p.tx = []) :
      Session p { p with state := .Connecting, task := .connecting } []
  /-- A new TCP session starts with nothing announced to the peer. -/
  | established {p : Peer} (trying : p.task = .connecting) :
      Session p { p with state := .Established, task := .driving, backoff := RECONNECT_BACKOFF_MIN, sent := ∅ }
        [.PeerConnected p.peer_ip]
  | connect_fails {p : Peer} (trying : p.task = .connecting) :
      Session p { p with state := .Backoff, task := .waiting } []
  /-- `drive` writes the addresses of a command to the stream, one UPDATE each, -/
  | deliver {p : Peer} {cmd : SessionCmd} {rest : List SessionCmd} (up : p.task = .driving)
      (queued : p.tx = cmd :: rest) (other : cmd ≠ .Shutdown) :
      Session p { p with tx := rest, sent := p.write cmd } []
  /-- or fails after some of them, -/
  | write_fails {p : Peer} {cmd : SessionCmd} {rest : List SessionCmd} {written : Nat} {reason : String}
      (up : p.task = .driving) (queued : p.tx = cmd :: rest) (other : cmd ≠ .Shutdown) :
      Session p { p with tx := rest, sent := p.write (cmd.take written), state := .Backoff, task := .waiting }
        [cmd.failure p.peer_ip,.PeerDisconnected p.peer_ip reason]
  | shut_down {p : Peer} {rest : List SessionCmd} (up : p.task = .driving) (queued : p.tx = .Shutdown :: rest) :
      Session p { p with tx := rest, state := .Idle, task := .finished }
        [.PeerDisconnected p.peer_ip "shutdown"]
  /-- or loses the connection on its own: the peer closes it or is silent for
      too long, a keepalive cannot be written, -/
  | disconnect {p : Peer} {reason : String} (up : p.task = .driving) :
      Session p { p with state := .Backoff, task := .waiting } [.PeerDisconnected p.peer_ip reason]
  /-- or the peer sends a notification. -/
  | notification {p : Peer} {code subcode : UInt8} {reason : String} (up : p.task = .driving) :
      Session p { p with state := .Backoff, task := .waiting }
        [.PeerNotification p.peer_ip code subcode,.PeerDisconnected p.peer_ip reason]
  | backoff_elapses {p : Peer} (waits : p.task = .waiting) :
      Session p { p with task := .draining, backoff := min (p.backoff * 2) RECONNECT_BACKOFF_MAX } []
  /-- A command ends the wait, and is lost. -/
  | swallow {p : Peer} {cmd : SessionCmd} {rest : List SessionCmd} (waits : p.task = .waiting)
      (queued : p.tx = cmd :: rest) (other : cmd ≠ .Shutdown) :
      Session p { p with tx := rest, task := .draining, backoff := min (p.backoff * 2) RECONNECT_BACKOFF_MAX } []
  | stop_waiting {p : Peer} {rest : List SessionCmd} (waits : p.task = .waiting)
      (queued : p.tx = .Shutdown :: rest) :
      Session p { p with tx := rest, state := .Idle, task := .finished } []
  | discard {p : Peer} {cmd : SessionCmd} {rest : List SessionCmd} (disabled : p.task = .discarding)
      (queued : p.tx = cmd :: rest) :
      Session p { p with tx := rest, task := if cmd = .Shutdown then .finished else .discarding } []

/-- The controller, its peers, and the events that the pump has not handled. -/
structure System (n : Nat) where
  controller : Controller
  peers : Fin n → Peer
  event_rx : List BgpEvent

variable {n : Nat}

/-- Every peer gets the calls of the controller. -/
def System.calls (s : System n) (controller : Controller) (calls : List BgpCall) : System n :=
  { s with controller := controller, peers := fun i => calls.foldl Peer.call (s.peers i) }

inductive Step (x : Xxh3) : System n → System n → Prop
  /-- The controller's mutex makes its operations atomic. -/
  | operate {s : System n} (op : Op) :
      Step x s (s.calls (s.controller.perform x op).1 (s.controller.perform x op).2)
  | session {s : System n} {i : Fin n} {p : Peer} {events : List BgpEvent} (moves : Session (s.peers i) p events) :
      Step x s { s with peers := Function.update s.peers i p, event_rx := s.event_rx ++ events }
  /-- The pump answers a connection by announcing everything again, -/
  | pump_connected {s : System n} {peer_ip : IpAddr} {rest : List BgpEvent}
      (next : s.event_rx = .PeerConnected peer_ip :: rest) :
      Step x s { s.calls s.controller s.controller.reannounce_all with event_rx := rest }
  /-- and only counts the other events. -/
  | pump_other {s : System n} {event : BgpEvent} {rest : List BgpEvent} (next : s.event_rx = event :: rest)
      (other : ∀ peer_ip, event ≠ .PeerConnected peer_ip) : Step x s { s with event_rx := rest }
  | shutdown {s : System n} : Step x s { s with peers := fun i => (s.peers i).send .Shutdown }

/-- A node that has just started, with the addresses of its peers and whether
    they are enabled. -/
def System.start (tables : LookupTables) (health : Health) (m : TableSize) (config : Fin n → IpAddr × Bool) :
    System n where
  controller := (Controller.new tables health m).with_bgp
  peers := fun i => .spawn (config i).1 (config i).2
  event_rx := []

/-! ### What a peer will have been told -/

/-- The updates that wait in the channel. -/
def Peer.queued (p : Peer) : List BgpCall := p.tx.filterMap SessionCmd.update

/-- A peer that may be fed. -/
def Peer.Fed (p : Peer) : Prop := p.enabled = true ∧ p.task ≠ .finished

/-- What the invariant says of a peer, with `announced` the addresses announced
    and `events` the events that wait. Joining late, at any point of its channel,
    the peer is told of no address that is not announced; what it has been told
    on an established session and what waits for it give a part of the announced
    addresses, and all of them once its connection has been handled. -/
structure Peer.Told (announced : Finset Ipv4Addr) (events : List BgpEvent) (p : Peer) : Prop where
  established : p.state = .Established ↔ p.task = .driving
  enabled : p.task ≠ .discarding → p.task ≠ .finished → p.enabled = true
  late : p.Fed → ∀ us, us <:+ p.queued → Feed.replay ∅ us ⊆ announced
  part : p.task = .driving → Feed.replay p.sent p.queued ⊆ announced
  whole : p.task = .driving → .PeerConnected p.peer_ip ∉ events → Feed.replay p.sent p.queued = announced

variable {announced announced' : Finset Ipv4Addr} {events : List BgpEvent} {p p' : Peer}

theorem spawn_told (peer_ip : IpAddr) (enabled : Bool) : (Peer.spawn peer_ip enabled).Told ∅ [] := by
  cases enabled <;>
    refine ⟨by simp [Peer.spawn],by simp [Peer.spawn],fun _ us suffix => ?_,by simp [Peer.spawn],by simp [Peer.spawn]⟩ <;>
    simp [List.suffix_nil.mp suffix]

/-! ### Calls to the announcer -/

theorem Peer.send_fed {cmd : SessionCmd} (fed : p.Fed) : p.send cmd = { p with tx := p.tx ++ [cmd] } := by
  simp [Peer.send,fed.2]

/-- A call that names addresses ends up in the channel of a peer that is fed. -/
theorem Peer.call_fed (fed : p.Fed) {call : BgpCall} (named : call.items ≠ []) :
    ∃ cmd, cmd.update = some call ∧ p.call call = { p with tx := p.tx ++ [cmd] } := by
  cases call with
  | announce vips =>
    refine ⟨.Announce vips,rfl,?_⟩
    simp only [Feed.Update.items,ne_eq] at named
    simp [Peer.call,Peer.announce,named,fed.1,Peer.send_fed fed]
  | withdraw vips =>
    refine ⟨.Withdraw vips,rfl,?_⟩
    simp only [Feed.Update.items,ne_eq] at named
    simp [Peer.call,Peer.withdraw,named,fed.1,Peer.send_fed fed]

theorem Peer.calls_fed {calls : List BgpCall} (named : ∀ call ∈ calls, call.items ≠ []) :
    ∀ {p : Peer}, p.Fed →
    ∃ cmds : List SessionCmd, cmds.filterMap SessionCmd.update = calls ∧
      calls.foldl Peer.call p = { p with tx := p.tx ++ cmds } := by
  induction calls with
  | nil => intro p _; exact ⟨[],rfl,by simp⟩
  | cons call calls ih =>
    intro p fed
    obtain ⟨cmd,update,state⟩ := Peer.call_fed fed (named call List.mem_cons_self)
    obtain ⟨cmds,updates,states⟩ := ih (fun c listed => named c (List.mem_cons_of_mem _ listed))
      (p := { p with tx := p.tx ++ [cmd] }) fed
    exact ⟨cmd :: cmds,by simp [update,updates],by simp [state,states]⟩

/-- The other peers are not fed. -/
theorem Peer.call_not_fed (not_fed : ¬ p.Fed) (call : BgpCall) : p.call call = p := by
  unfold Peer.Fed at not_fed
  cases call <;> simp only [Peer.call,Peer.announce,Peer.withdraw,Peer.send] <;> split_ifs <;> simp_all
theorem Peer.calls_not_fed (not_fed : ¬ p.Fed) (calls : List BgpCall) : calls.foldl Peer.call p = p := by
  induction calls with
  | nil => rfl
  | cons call calls ih => rw [List.foldl_cons,Peer.call_not_fed not_fed,ih]

/-- Calls that lead to other announced addresses lead every peer along. -/
theorem Peer.Told.calls (told : p.Told announced events) {calls : List BgpCall}
    (leads : Feed.Leads announced calls announced') (named : ∀ call ∈ calls, call.items ≠ []) :
    (calls.foldl Peer.call p).Told announced' events := by
  by_cases fed : p.Fed
  · obtain ⟨cmds,updates,state⟩ := Peer.calls_fed named fed
    have queued : ({ p with tx := p.tx ++ cmds } : Peer).queued = p.queued ++ calls := by
      simp [Peer.queued,updates]
    rw [state]
    refine ⟨told.established,told.enabled,fun _ us suffix => ?_,fun up => ?_,fun up handled => ?_⟩
    · rw [queued] at suffix
      rcases Feed.suffix_append_cases suffix with ⟨front,rfl,inFront⟩ | inCalls
      · rw [Feed.replay_append]
        exact leads.part _ (told.late fed front inFront)
      · exact leads.late us inCalls
    · rw [queued,Feed.replay_append]
      exact leads.part _ (told.part up)
    · rw [queued,Feed.replay_append,told.whole up handled]
      exact leads.whole
  · rw [Peer.calls_not_fed fed]
    have down : p.task ≠ .driving := fun up => fed ⟨told.enabled (by simp [up]) (by simp [up]),by simp [up]⟩
    exact ⟨told.established,told.enabled,fun fed' => absurd fed' fed,fun up => absurd up down,
      fun up => absurd up down⟩

/-- To announce everything again tells every peer everything. -/
theorem Peer.Told.reannounce (told : p.Told announced events) :
    ((Feed.announceAll announced).foldl Peer.call p).Told announced [] := by
  have again := told.calls (Feed.leads_announceAll announced) (Feed.announceAll_nonempty announced)
  refine ⟨again.established,again.enabled,again.late,again.part,fun up _ => ?_⟩
  by_cases fed : p.Fed
  · obtain ⟨cmds,updates,state⟩ := Peer.calls_fed (Feed.announceAll_nonempty announced) fed
    rw [state] at up ⊢
    have queued : ({ p with tx := p.tx ++ cmds } : Peer).queued = p.queued ++ Feed.announceAll announced := by
      simp [Peer.queued,updates]
    rw [queued,Feed.replay_append]
    exact Feed.replay_announceAll_of_subset (told.part up)
  · rw [Peer.calls_not_fed fed] at up
    exact absurd ⟨told.enabled (by simp [up]) (by simp [up]),by simp [up]⟩ fed

theorem Peer.Told.shutdown (told : p.Told announced events) : (p.send .Shutdown).Told announced events := by
  unfold Peer.send
  split_ifs with ended
  · exact told
  · have queued : ({ p with tx := p.tx ++ [.Shutdown] } : Peer).queued = p.queued := by
      simp [Peer.queued,SessionCmd.update]
    exact ⟨told.established,told.enabled,fun fed us suffix => told.late fed us (queued ▸ suffix),
      fun up => by rw [queued]; exact told.part up,fun up handled => by rw [queued]; exact told.whole up handled⟩

/-- Fewer events are left to wait for. -/
theorem Peer.Told.more_events {events' : List BgpEvent} (told : p.Told announced events) :
    p.Told announced (events ++ events') :=
  { told with whole := fun up handled => told.whole up (fun waits => handled (List.mem_append_left _ waits)) }

/-! ### Steps of a session -/

theorem queued_cons {cmd : SessionCmd} {rest : List SessionCmd} (queued : p.tx = cmd :: rest) :
    p.queued = cmd.update.toList ++ rest.filterMap SessionCmd.update := by
  rw [Peer.queued,queued,List.filterMap_cons]
  cases cmd.update <;> rfl
theorem queued_rest {cmd : SessionCmd} {rest : List SessionCmd} (queued : p.tx = cmd :: rest) :
    rest.filterMap SessionCmd.update <:+ p.queued := by
  rw [queued_cons queued]
  exact List.suffix_append _ _

/-- A step that leaves the peer without a session, with the channel or a rest of it. -/
theorem Peer.Told.down (told : p.Told announced events) (alive : p.task ≠ .finished) (enabled : p'.enabled = p.enabled)
    (rest : p'.queued <:+ p.queued) (no_session : p'.task ≠ .driving) (state : p'.state ≠ .Established)
    (kind : p.task = .discarding → p'.task = .discarding ∨ p'.task = .finished) : p'.Told announced events where
  established := ⟨fun up => absurd up state,fun up => absurd up no_session⟩
  enabled := fun live running => enabled.trans (told.enabled
    (fun discards => (kind discards).elim live running) alive)
  late := fun fed us suffix => told.late ⟨enabled ▸ fed.1,alive⟩ us (suffix.trans rest)
  part := fun up => absurd up no_session
  whole := fun up => absurd up no_session

/-- A peer without a session is not established. -/
theorem Peer.Told.not_established (told : p.Told announced events) (no_session : p.task ≠ .driving) :
    p.state ≠ .Established := fun up => no_session (told.established.mp up)

theorem Peer.Told.session (told : p.Told announced events) {sent : List BgpEvent} (moves : Session p p' sent) :
    p'.Told announced (events ++ sent) := by
  cases moves with
  | drop at_top queued _ =>
    have idle := told.not_established (by simp [at_top])
    exact .more_events (told.down (by simp [at_top]) rfl (queued_rest queued) (by simp [at_top]) idle
      (by simp [at_top]))
  | stop_draining at_top queued =>
    exact .more_events (told.down (by simp [at_top]) rfl (queued_rest queued) (by simp) (by simp) (by simp))
  | attempt at_top drained =>
    exact .more_events (told.down (by simp [at_top]) rfl (List.suffix_refl _) (by simp) (by simp) (by simp [at_top]))
  | established trying =>
    have fed : p.Fed := ⟨told.enabled (by simp [trying]) (by simp [trying]),by simp [trying]⟩
    exact ⟨by simp,fun _ _ => fed.1,fun _ => told.late fed,fun _ => told.late fed _ (List.suffix_refl _),
      fun _ handled => absurd (List.mem_append_right _ List.mem_cons_self) handled⟩
  | connect_fails trying =>
    exact .more_events (told.down (by simp [trying]) rfl (List.suffix_refl _) (by simp) (by simp) (by simp [trying]))
  | @deliver cmd rest up queued _ =>
    have replayed : Feed.replay (p.write cmd) (rest.filterMap SessionCmd.update) = Feed.replay p.sent p.queued := by
      rw [queued_cons queued,Peer.write]
      cases cmd.update <;> rfl
    refine ⟨told.established,told.enabled,fun fed us suffix => told.late fed us (suffix.trans (queued_rest queued)),
      fun _ => ?_,fun _ handled => ?_⟩
    · exact (le_of_eq replayed).trans (told.part up)
    · exact replayed.trans (told.whole up (by simpa using handled))
  | write_fails up queued _ =>
    exact .more_events (told.down (by simp [up]) rfl (queued_rest queued) (by simp) (by simp) (by simp [up]))
  | shut_down up queued =>
    exact .more_events (told.down (by simp [up]) rfl (queued_rest queued) (by simp) (by simp) (by simp))
  | disconnect up =>
    exact .more_events (told.down (by simp [up]) rfl (List.suffix_refl _) (by simp) (by simp) (by simp [up]))
  | notification up =>
    exact .more_events (told.down (by simp [up]) rfl (List.suffix_refl _) (by simp) (by simp) (by simp [up]))
  | backoff_elapses waits =>
    have idle := told.not_established (by simp [waits])
    exact .more_events (told.down (by simp [waits]) rfl (List.suffix_refl _) (by simp) idle (by simp [waits]))
  | swallow waits queued _ =>
    have idle := told.not_established (by simp [waits])
    exact .more_events (told.down (by simp [waits]) rfl (queued_rest queued) (by simp) idle (by simp [waits]))
  | stop_waiting waits queued =>
    exact .more_events (told.down (by simp [waits]) rfl (queued_rest queued) (by simp) (by simp) (by simp))
  | @discard cmd rest disabled queued =>
    have idle := told.not_established (by simp [disabled])
    refine .more_events (told.down (by simp [disabled]) rfl (queued_rest queued) ?_ idle fun _ => ?_)
    · dsimp only
      split_ifs <;> simp
    · dsimp only
      split_ifs <;> simp

/-! ### Runs -/

/-- Every peer is told of what the controller announces. -/
structure System.Told (s : System n) : Prop where
  attached : s.controller.bgp = true
  peers : ∀ i, (s.peers i).Told s.controller.vips_announced s.event_rx

variable {x : Xxh3} {s s' : System n}

theorem System.Told.step (told : s.Told) (steps : Step x s s') : s'.Told := by
  cases steps with
  | operate op =>
    have announces := Controller.perform_announces (x := x) told.attached op
    exact ⟨announces.attached,fun i => (told.peers i).calls announces.leads
      (Controller.perform_nonempty told.attached op)⟩
  | @session i p events moves =>
    refine ⟨told.attached,fun j => ?_⟩
    dsimp only
    by_cases same : j = i
    · subst same
      rw [Function.update_self]
      exact (told.peers j).session moves
    · rw [Function.update_of_ne same]
      exact (told.peers j).more_events
  | pump_connected next =>
    refine ⟨told.attached,fun i => ?_⟩
    have again := (told.peers i).reannounce
    rw [show s.controller.reannounce_all = Feed.announceAll s.controller.vips_announced by
      simp [Controller.reannounce_all,told.attached]]
    exact again.more_events
  | @pump_other event rest next other =>
    refine ⟨told.attached,fun i => { told.peers i with whole := fun up handled => ?_ }⟩
    refine (told.peers i).whole up fun waits => ?_
    rw [next] at waits
    rcases List.mem_cons.mp waits with same | later
    · exact other _ same.symm
    · exact handled later
  | shutdown => exact ⟨told.attached,fun i => (told.peers i).shutdown⟩

theorem reachable_told {tables : LookupTables} {health : Health} {m : TableSize} {config : Fin n → IpAddr × Bool}
    (reached : Relation.ReflTransGen (Step x) (System.start tables health m config) s) : s.Told :=
  Runs.reachable_invariant System.Told (fun _ _ told steps => told.step steps) reached
    ⟨rfl,fun _ => spawn_told _ _⟩

/-- An established peer whose channel is empty, and whose connection has been
    handled, has been told exactly the announced addresses. -/
theorem peers_converge (tables : LookupTables) (health : Health) (m : TableSize) (config : Fin n → IpAddr × Bool)
    (reached : Relation.ReflTransGen (Step x) (System.start tables health m config) s) (i : Fin n)
    (up : (s.peers i).state = .Established) (delivered : (s.peers i).tx = [])
    (handled : .PeerConnected (s.peers i).peer_ip ∉ s.event_rx) :
    (s.peers i).sent = s.controller.vips_announced := by
  have told := (reachable_told reached).peers i
  have whole := told.whole (told.established.mp up) handled
  rwa [show (s.peers i).queued = [] by simp [Peer.queued,delivered]] at whole

def oneVip : LbConfig where
  vips := [⟨⟨"web"⟩,.V4 ⟨188,184,100,10⟩,[⟨.Tcp,443,"pool"⟩]⟩]
  pools := [⟨⟨"pool"⟩,[⟨.V4 ⟨10,0,0,1⟩,443,1,false⟩]⟩]

def zeroHash : Xxh3 := ⟨fun _ => 0,fun _ _ => 0⟩
def oneVipStart : Controller := (Controller.new ∅ ∅ ⟨2,Nat.prime_two⟩).with_bgp

theorem oneVip_announced :
    (oneVipStart.perform zeroHash (.apply_config oneVip)).2 = [.announce [⟨188,184,100,10⟩]] ∧
      (oneVipStart.perform zeroHash (.apply_config oneVip)).1.vips_announced = {⟨188,184,100,10⟩} := by
  have desired : (oneVipStart.install zeroHash oneVip).desired_announced_vips = {⟨188,184,100,10⟩} := by decide
  rw [Controller.perform,Controller.apply_config_eq rfl,desired]
  exact ⟨by simp [oneVipStart,Controller.new,Controller.with_bgp,Feed.diff,Feed.announceAll,Feed.withdrawAll],rfl⟩

def oneVipPeer : Peer :=
  { Peer.spawn (.V4 ⟨10,0,0,254⟩) true with
    state := .Established, task := .driving, tx := [.Announce [⟨188,184,100,10⟩]] }

/-- A peer connects, and then the address is announced. -/
theorem oneVip_connected : ∃ s : System 1,
    Relation.ReflTransGen (Step zeroHash) (.start ∅ ∅ ⟨2,Nat.prime_two⟩ fun _ => (.V4 ⟨10,0,0,254⟩,true)) s ∧
      s.peers 0 = oneVipPeer ∧ s.controller.vips_announced = {⟨188,184,100,10⟩} ∧ s.event_rx = [] := by
  obtain ⟨calls,announced⟩ := oneVip_announced
  let start : System 1 := .start ∅ ∅ ⟨2,Nat.prime_two⟩ (fun _ => (.V4 ⟨10,0,0,254⟩,true))
  have attempt : Step zeroHash start _ := .session (i := 0) (.attempt rfl rfl)
  have connect := Relation.ReflTransGen.tail (.single attempt) (.session (i := 0) (.established rfl))
  have handle := connect.tail (.pump_connected rfl)
  refine ⟨_,handle.tail (.operate (.apply_config oneVip)),?_,announced,rfl⟩
  show (oneVipStart.perform zeroHash (.apply_config oneVip)).2.foldl Peer.call _ = _
  rw [calls]
  rfl

theorem peers_converge_on_one_vip : ∃ s : System 1, (s.peers 0).state = .Established ∧
    (s.peers 0).sent = s.controller.vips_announced ∧ s.controller.vips_announced = {⟨188,184,100,10⟩} := by
  obtain ⟨s,reached,fed,known,quiet⟩ := oneVip_connected
  have deliver : Session (s.peers 0)
      { s.peers 0 with tx := [], sent := (s.peers 0).write (.Announce [⟨188,184,100,10⟩]) } [] :=
    .deliver (by rw [fed]; rfl) (by rw [fed]; rfl) (by decide)
  have converged := peers_converge ∅ ∅ ⟨2,Nat.prime_two⟩ _ (reached.tail (.session (i := 0) deliver)) 0
    (by simp [fed,oneVipPeer]) (by simp) (by simp [quiet])
  exact ⟨_,by simp [fed,oneVipPeer],converged,known⟩

end Lb.Speaker
