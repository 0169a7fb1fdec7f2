import Lb.Speaker
import Lb.AddrText

/-!
# The metrics of the BGP peers

The event pump counts what the sessions report, under the text of a peer's address.
However the sessions and the pump take turns, the gauge of a peer is the difference of
its connects and disconnects.
-/
namespace Lb.Monitoring
open Lb.Addr Lb.Types Lb.Applier Lb.Maglev Lb.Orchestrator Lb.Speaker

abbrev PeerLabels := List Char
abbrev PeerNotificationLabels := PeerLabels × UInt8 × UInt8

/-- A counter has each label as often as it has been counted. -/
structure BgpMetrics where
  peer_state : PeerLabels → Nat
  peer_connects : Multiset PeerLabels
  peer_disconnects : Multiset PeerLabels
  announce_failures : Multiset PeerLabels
  withdraw_failures : Multiset PeerLabels
  peer_notifications : Multiset PeerNotificationLabels

def BgpMetrics.new : BgpMetrics := ⟨fun _ => 0,0,0,0,0,0⟩

/-- What the pump does to the metrics. -/
def BgpMetrics.record (m : BgpMetrics) : BgpEvent → BgpMetrics
  | .PeerConnected peer_ip =>
    { m with
      peer_state := Function.update m.peer_state peer_ip.fmt 1
      peer_connects := peer_ip.fmt ::ₘ m.peer_connects }
  | .PeerDisconnected peer_ip _ =>
    { m with
      peer_state := Function.update m.peer_state peer_ip.fmt 0
      peer_disconnects := peer_ip.fmt ::ₘ m.peer_disconnects }
  | .AnnounceFailed peer_ip => { m with announce_failures := peer_ip.fmt ::ₘ m.announce_failures }
  | .WithdrawFailed peer_ip => { m with withdraw_failures := peer_ip.fmt ::ₘ m.withdraw_failures }
  | .PeerNotification peer_ip error_code error_subcode =>
    { m with peer_notifications := (peer_ip.fmt,error_code,error_subcode) ::ₘ m.peer_notifications }

/-- What has been counted of a peer. -/
structure Counts where
  gauge : Nat
  connects : Nat
  disconnects : Nat
  failures : Nat

def BgpMetrics.counts (m : BgpMetrics) (label : PeerLabels) : Counts where
  gauge := m.peer_state label
  connects := m.peer_connects.count label
  disconnects := m.peer_disconnects.count label
  failures := m.announce_failures.count label + m.withdraw_failures.count label +
    (m.peer_notifications.map Prod.fst).count label

variable {n : Nat}

/-- What the pump does to the peers. -/
def pump (s : System n) : BgpEvent → System n
  | .PeerConnected _ => s.calls s.controller s.controller.reannounce_all
  | _ => s

/-- The steps of the speaker, with the metrics. -/
inductive Metered (x : Xxh3) : System n × BgpMetrics → System n × BgpMetrics → Prop
  | operate {s : System n} {m : BgpMetrics} (op : Op) :
      Metered x (s,m) (s.calls (s.controller.perform x op).1 (s.controller.perform x op).2,m)
  | session {s : System n} {m : BgpMetrics} {i : Fin n} {p : Peer} {events : List BgpEvent}
      (moves : Session (s.peers i) p events) :
      Metered x (s,m) ({ s with peers := Function.update s.peers i p, event_rx := s.event_rx ++ events },m)
  | pump {s : System n} {m : BgpMetrics} {event : BgpEvent} {rest : List BgpEvent}
      (next : s.event_rx = event :: rest) : Metered x (s,m) ({ pump s event with event_rx := rest },m.record event)
  | shutdown {s : System n} {m : BgpMetrics} :
      Metered x (s,m) ({ s with peers := fun i => (s.peers i).send .Shutdown },m)

/-- The metrics only watch. -/
theorem Metered.steps {x : Xxh3} {s s' : System n} {m m' : BgpMetrics} (metered : Metered x (s,m) (s',m')) :
    Step x s s' := by
  cases metered with
  | operate op => exact .operate op
  | session moves => exact .session moves
  | shutdown => exact .shutdown
  | @pump _ _ event rest next =>
    cases event with
    | PeerConnected peer_ip => exact .pump_connected next
    | PeerDisconnected peer_ip reason => exact .pump_other next (by simp)
    | AnnounceFailed peer_ip => exact .pump_other next (by simp)
    | WithdrawFailed peer_ip => exact .pump_other next (by simp)
    | PeerNotification peer_ip code subcode => exact .pump_other next (by simp)

/-! ### The events of one peer -/

def peer_of : BgpEvent → IpAddr
  | .PeerConnected peer_ip | .PeerDisconnected peer_ip _ | .AnnounceFailed peer_ip | .WithdrawFailed peer_ip
  | .PeerNotification peer_ip _ _ => peer_ip

/-- Where a session is as its events tell it: it has failed once a failure is reported,
    and is down once that is. -/
inductive Link
  | down
  | up
  | failing

/-- A session reports in this order only. -/
def Link.next : Link → BgpEvent → Option Link
  | .down, .PeerConnected _ => some .up
  | .up, .AnnounceFailed _ | .up, .WithdrawFailed _ | .up, .PeerNotification .. => some .failing
  | .up, .PeerDisconnected .. | .failing, .PeerDisconnected .. => some .down
  | _, _ => none

def Link.of (p : Peer) : Link := if p.task = .driving then .up else .down

/-- The events lead from one place to the other. -/
def Link.Leads : Link → List BgpEvent → Link → Prop
  | link, [], link' => link = link'
  | link, event :: events, link' => ∃ mid, link.next event = some mid ∧ mid.Leads events link'

def Link.gauge : Link → Nat
  | .down => 0
  | .up | .failing => 1
/-- The failures that no disconnect has followed. -/
def Link.open_failures : Link → Nat
  | .down | .up => 0
  | .failing => 1

/-- What has been counted once a session is at a place. -/
structure Link.Counted (link : Link) (counts : Counts) : Prop where
  gauge : counts.gauge = link.gauge
  connects : counts.connects = counts.disconnects + link.gauge
  failures : counts.failures ≤ counts.disconnects + link.open_failures

def Counts.record (counts : Counts) : BgpEvent → Counts
  | .PeerConnected _ => { counts with gauge := 1, connects := counts.connects + 1 }
  | .PeerDisconnected .. => { counts with gauge := 0, disconnects := counts.disconnects + 1 }
  | _ => { counts with failures := counts.failures + 1 }

section
variable {link link' link'' : Link} {event : BgpEvent} {events events' : List BgpEvent} {m : BgpMetrics} {p p' : Peer}

theorem Link.Leads.append (first : link.Leads events link') (second : link'.Leads events' link'') :
    link.Leads (events ++ events') link'' := by
  induction events generalizing link with
  | nil =>
    cases first
    exact second
  | cons event events ih =>
    obtain ⟨mid,next,rest⟩ := first
    exact ⟨mid,next,ih rest⟩

theorem counts_own : (m.record event).counts (peer_of event).fmt = (m.counts (peer_of event).fmt).record event := by
  cases event <;>
    simp only [BgpMetrics.counts,BgpMetrics.record,Counts.record,peer_of,Function.update_self,Multiset.count_cons_self,
      Multiset.map_cons,Counts.mk.injEq,true_and] <;>
    omega

/-- The pump counts an event of a session as the place it leads to demands. -/
theorem Link.Counted.record {counts : Counts} (counted : link.Counted counts) (next : link.next event = some link') :
    link'.Counted (counts.record event) := by
  obtain ⟨gauge,connects,failures⟩ := counted
  cases event <;> cases link <;> cases next <;> simp only [Link.gauge,Link.open_failures,Nat.add_zero] at *
  · exact ⟨rfl,by simp [Counts.record,Link.gauge,connects],by simpa [Counts.record,Link.open_failures] using failures⟩
  · exact ⟨rfl,by simp [Counts.record,Link.gauge,connects],by simp [Counts.record,Link.open_failures]; omega⟩
  · exact ⟨rfl,by simp [Counts.record,Link.gauge,connects],by simp [Counts.record,Link.open_failures]; omega⟩
  · exact ⟨gauge,connects,by simp [Counts.record,Link.open_failures]; omega⟩
  · exact ⟨gauge,connects,by simp [Counts.record,Link.open_failures]; omega⟩
  · exact ⟨gauge,connects,by simp [Counts.record,Link.open_failures]; omega⟩

/-- The events of other peers are not counted. -/
theorem counts_other {peer_ip : IpAddr} (other : peer_of event ≠ peer_ip) :
    (m.record event).counts peer_ip.fmt = m.counts peer_ip.fmt := by
  have apart : peer_ip.fmt ≠ (peer_of event).fmt := by
    intro same
    have read := from_str_fmt peer_ip
    rw [same,from_str_fmt] at read
    exact other (Option.some.inj read)
  cases event <;>
    simp only [BgpMetrics.counts,BgpMetrics.record,peer_of,Multiset.map_cons] at * <;>
    simp [Function.update_of_ne apart,Multiset.count_cons_of_ne apart]

/-- A session task reports what becomes of its session, and only under its own address. -/
theorem session_events (moves : Session p p' events) : (Link.of p).Leads events (Link.of p') ∧
    p'.peer_ip = p.peer_ip ∧ ∀ event ∈ events, peer_of event = p.peer_ip := by
  cases moves with
  | drop at_top queued other => exact ⟨rfl,rfl,by simp⟩
  | stop_draining at_top queued => exact ⟨by simp [Link.of,at_top,Link.Leads],rfl,by simp⟩
  | attempt at_top drained => exact ⟨by simp [Link.of,at_top,Link.Leads],rfl,by simp⟩
  | established trying => exact ⟨by simp [Link.of,trying,Link.Leads,Link.next],rfl,by simp [peer_of]⟩
  | connect_fails trying => exact ⟨by simp [Link.of,trying,Link.Leads],rfl,by simp⟩
  | deliver up queued other => exact ⟨rfl,rfl,by simp⟩
  | @write_fails cmd rest written reason up queued other =>
    refine ⟨?_,rfl,?_⟩
    · cases cmd <;> simp [Link.of,up,Link.Leads,Link.next,SessionCmd.failure]
    · cases cmd <;> simp [SessionCmd.failure,peer_of]
  | shut_down up queued => exact ⟨by simp [Link.of,up,Link.Leads,Link.next],rfl,by simp [peer_of]⟩
  | disconnect up => exact ⟨by simp [Link.of,up,Link.Leads,Link.next],rfl,by simp [peer_of]⟩
  | notification up => exact ⟨by simp [Link.of,up,Link.Leads,Link.next],rfl,by simp [peer_of]⟩
  | backoff_elapses waits => exact ⟨by simp [Link.of,waits,Link.Leads],rfl,by simp⟩
  | swallow waits queued other => exact ⟨by simp [Link.of,waits,Link.Leads],rfl,by simp⟩
  | stop_waiting waits queued => exact ⟨by simp [Link.of,waits,Link.Leads],rfl,by simp⟩
  | @discard cmd rest disabled queued =>
    refine ⟨?_,rfl,by simp⟩
    by_cases stops : cmd = .Shutdown <;> simp [Link.of,disabled,stops,Link.Leads]

/-- Commands to a session change neither its place nor its address. -/
theorem send_same (cmd : SessionCmd) : Link.of (p.send cmd) = Link.of p ∧ (p.send cmd).peer_ip = p.peer_ip := by
  unfold Peer.send
  split_ifs <;> exact ⟨rfl,rfl⟩

theorem call_same (call : BgpCall) : Link.of (p.call call) = Link.of p ∧ (p.call call).peer_ip = p.peer_ip := by
  cases call with
  | announce vips =>
    rw [Peer.call,Peer.announce]
    split_ifs
    · exact ⟨rfl,rfl⟩
    · exact ⟨rfl,rfl⟩
    · exact send_same (.Announce vips)
  | withdraw vips =>
    rw [Peer.call,Peer.withdraw]
    split_ifs
    · exact ⟨rfl,rfl⟩
    · exact ⟨rfl,rfl⟩
    · exact send_same (.Withdraw vips)

theorem calls_same (calls : List BgpCall) :
    Link.of (calls.foldl Peer.call p) = Link.of p ∧ (calls.foldl Peer.call p).peer_ip = p.peer_ip := by
  induction calls generalizing p with
  | nil => exact ⟨rfl,rfl⟩
  | cons call calls ih =>
    obtain ⟨place,addr⟩ := call_same (p := p) call
    obtain ⟨places,addrs⟩ := ih (p := p.call call)
    exact ⟨places.trans place,addrs.trans addr⟩

/-! ### Runs -/

/-- What has been counted of a peer and the events that wait lead to where its session
    is. -/
structure Watched (peer_ip : IpAddr) (s : System n) (m : BgpMetrics) (p : Peer) : Prop where
  own : p.peer_ip = peer_ip
  followed : ∃ link : Link, link.Counted (m.counts peer_ip.fmt) ∧
    link.Leads (s.event_rx.filter fun event => peer_of event = peer_ip) (Link.of p)

variable {s s' : System n} {peer_ip : IpAddr}

theorem Watched.other (watched : Watched peer_ip s m p) (events : s'.event_rx = s.event_rx)
    (place : Link.of p' = Link.of p) (addr : p'.peer_ip = p.peer_ip) : Watched peer_ip s' m p' :=
  ⟨addr.trans watched.own,by rw [events,place]; exact watched.followed⟩

theorem watched_step {x : Xxh3} {config : Fin n → IpAddr × Bool} (distinct : Function.Injective fun i => (config i).1)
    {sm sm' : System n × BgpMetrics} (watched : ∀ i, Watched (config i).1 sm.1 sm.2 (sm.1.peers i))
    (steps : Metered x sm sm') (i : Fin n) : Watched (config i).1 sm'.1 sm'.2 (sm'.1.peers i) := by
  cases steps with
  | operate op => exact (watched i).other rfl (calls_same _).1 (calls_same _).2
  | shutdown => exact (watched i).other rfl (send_same _).1 (send_same _).2
  | @session s m j p events moves =>
    obtain ⟨leads,addr,events_own⟩ := session_events moves
    have own : ∀ event ∈ events, peer_of event = (config j).1 := fun event listed =>
      (events_own event listed).trans (watched j).own
    obtain ⟨addr_i,link,counted,follows⟩ := watched i
    dsimp only
    by_cases same : i = j
    · subst same
      have all : (events.filter fun event => peer_of event = (config i).1) = events :=
        List.filter_eq_self.mpr fun event listed => by simpa using own event listed
      rw [Function.update_self]
      refine ⟨addr.trans addr_i,link,counted,?_⟩
      rw [List.filter_append,all]
      exact follows.append leads
    · have none_own : (events.filter fun event => peer_of event = (config i).1) = [] := by
        refine List.filter_eq_nil_iff.mpr fun event listed => ?_
        rw [own event listed]
        simpa using fun same_addr => same (distinct same_addr).symm
      rw [Function.update_of_ne same]
      refine ⟨addr_i,link,counted,?_⟩
      rw [List.filter_append,none_own,List.append_nil]
      exact follows
  | @pump s m event rest next =>
    obtain ⟨addr,link,counted,follows⟩ := watched i
    have place : Link.of ((pump s event).peers i) = Link.of (s.peers i) ∧
        ((pump s event).peers i).peer_ip = (s.peers i).peer_ip := by
      cases event with
      | PeerConnected peer_ip => exact calls_same _
      | PeerDisconnected peer_ip reason => exact ⟨rfl,rfl⟩
      | AnnounceFailed peer_ip => exact ⟨rfl,rfl⟩
      | WithdrawFailed peer_ip => exact ⟨rfl,rfl⟩
      | PeerNotification peer_ip code subcode => exact ⟨rfl,rfl⟩
    refine ⟨place.2.trans addr,?_⟩
    rw [place.1]
    rw [next] at follows
    by_cases own : peer_of event = (config i).1
    · rw [List.filter_cons_of_pos (by simpa using own)] at follows
      obtain ⟨mid,leads,rest_follows⟩ := follows
      refine ⟨mid,?_,rest_follows⟩
      rw [← own] at counted ⊢
      rw [counts_own]
      exact counted.record leads
    · rw [List.filter_cons_of_neg (by simpa using own)] at follows
      exact ⟨link,by rw [counts_other own]; exact counted,follows⟩

theorem start_watched {tables : LookupTables} {health : Health} {size : TableSize} {config : Fin n → IpAddr × Bool}
    (i : Fin n) : Watched (config i).1 (System.start tables health size config) .new
      ((System.start tables health size config).peers i) := by
  refine ⟨rfl,.down,⟨rfl,rfl,Nat.le_refl 0⟩,?_⟩
  show Link.down = Link.of (Peer.spawn (config i).1 (config i).2)
  cases enabled : (config i).2 <;> rfl

end

/-- Where peers have addresses of their own, the gauge of each is the difference of its
    connects and its disconnects, at most one, and it has failed at most once for each
    connect. Once none of its events waits, the gauge is one exactly if the peer is
    established, and a disconnect has followed every failure. -/
theorem metrics_follow_sessions {n : Nat} (x : Xxh3) (tables : LookupTables) (health : Health) (size : TableSize)
    (config : Fin n → IpAddr × Bool) (distinct : Function.Injective fun i => (config i).1) {s : System n}
    {metrics : BgpMetrics}
    (reached : Relation.ReflTransGen (Metered x) (.start tables health size config,.new) (s,metrics)) (i : Fin n) :
    let counts := metrics.counts (config i).1.fmt
    counts.gauge ≤ 1 ∧ counts.connects = counts.disconnects + counts.gauge ∧ counts.failures ≤ counts.connects ∧
    ((∀ event ∈ s.event_rx, peer_of event ≠ (config i).1) →
      (counts.gauge = 1 ↔ (s.peers i).state = .Established) ∧ counts.failures ≤ counts.disconnects) := by
  intro counts
  have watched := Runs.reachable_invariant
    (fun sm : System n × BgpMetrics => ∀ i, Watched (config i).1 sm.1 sm.2 (sm.1.peers i))
    (fun _ _ watched steps => watched_step distinct watched steps) reached fun i => start_watched i
  have steps : Relation.ReflTransGen (Step x) (.start tables health size config) s :=
    reached.lift Prod.fst fun _ _ metered => metered.steps
  have told := (reachable_told steps).peers i
  obtain ⟨_,link,⟨gauge,connects,failures⟩,follows⟩ := watched i
  dsimp only at follows
  change counts.gauge = _ at gauge
  change counts.connects = counts.disconnects + _ at connects
  change counts.failures ≤ counts.disconnects + _ at failures
  have few : link.gauge ≤ 1 ∧ link.open_failures ≤ link.gauge := by
    cases link <;> simp [Link.gauge,Link.open_failures]
  refine ⟨by omega,by omega,by omega,fun handled => ?_⟩
  have none_waits : (s.event_rx.filter fun event => peer_of event = (config i).1) = [] :=
    List.filter_eq_nil_iff.mpr fun event listed => by simpa using handled event listed
  rw [none_waits] at follows
  change link = Link.of (s.peers i) at follows
  rw [told.established]
  by_cases driving : (s.peers i).task = .driving
  · rw [Link.of,if_pos driving] at follows
    subst follows
    exact ⟨⟨fun _ => driving,fun _ => gauge⟩,failures⟩
  · rw [Link.of,if_neg driving] at follows
    subst follows
    refine ⟨⟨fun one => ?_,fun up => absurd up driving⟩,failures⟩
    rw [gauge] at one
    cases one

private def twoPeers : Fin 2 → IpAddr × Bool := fun i => (.V4 ⟨10,0,0,UInt8.ofNat i.1⟩,true)
private def plainHash : Xxh3 := ⟨fun _ => 0,fun _ _ => 0⟩
private def broken : Fin 2 := ⟨0,Nat.two_pos⟩
private def failing : List BgpEvent :=
  [.PeerConnected (twoPeers broken).1,.PeerNotification (twoPeers broken).1 6 2,
    .PeerDisconnected (twoPeers broken).1 "notification"]

/-- The first of two peers connects and sends a notification, of which the pump has
    handled all but the disconnect. -/
theorem metrics_follow_failure : ∃ (s : System 2) (metrics : BgpMetrics), s.event_rx = failing.drop 2 ∧
    (metrics.counts (twoPeers 0).1.fmt).connects =
      (metrics.counts (twoPeers 0).1.fmt).disconnects + (metrics.counts (twoPeers 0).1.fmt).gauge := by
  have distinct : Function.Injective fun i => (twoPeers i).1 := by decide
  obtain ⟨s,metrics,reached,waits⟩ : ∃ (s : System 2) (metrics : BgpMetrics),
      Relation.ReflTransGen (Metered plainHash) (.start ∅ ∅ ⟨2,Nat.prime_two⟩ twoPeers,.new) (s,metrics) ∧
        s.event_rx = failing.drop 2 := by
    have attempt : Metered plainHash (.start ∅ ∅ ⟨2,Nat.prime_two⟩ twoPeers,.new) _ :=
      .session (i := 0) (.attempt rfl rfl)
    have connect := Relation.ReflTransGen.tail (.single attempt) (.session (i := 0) (.established rfl))
    have fail := connect.tail (.session (i := 0) (@Session.notification _ 6 2 "notification" rfl))
    have connected := fail.tail (@Metered.pump _ _ _ _ (.PeerConnected (twoPeers 0).1) (failing.drop 1) rfl)
    exact ⟨_,_,connected.tail (@Metered.pump _ _ _ _ (.PeerNotification (twoPeers 0).1 6 2) (failing.drop 2) rfl),rfl⟩
  exact ⟨s,metrics,waits,(metrics_follow_sessions plainHash ∅ ∅ ⟨2,Nat.prime_two⟩ twoPeers distinct reached 0).2.1⟩

end Lb.Monitoring
