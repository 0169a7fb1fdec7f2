import Lb.Pinning
import Lb.Rewriter

/-!
# Flow affinity

The packets of a flow go to one backend, whatever happens to the lookup tables
in between, as long as its entry in the connection table lives and the backend
is not found unhealthy.
-/
namespace Lb.Rewriter
open Lb.Addr Lb.Types Lb.Packet Lb.Buffer Lb.Maglev Lb.Applier Lb.Vips Lb.Connections Lb.Mtu Lb.Gre

/-- A packet's fields without its flags. -/
def five_tuple (pkt_meta : PacketMeta) : PacketMeta := { pkt_meta with tcp_flags := none }
/-- The 5-tuple of a packet that is not a later fragment. -/
def flow_of (input : PacketBuf) : Option PacketMeta :=
  if is_non_first_fragment input.as_slice then none else (PacketMeta.from_ipv4_bytes input.as_slice).map five_tuple

section
variable (x : Xxh3) (f : PacketMeta) (backend_ip : IpAddr)

/-- The call with which the selection of a packet's backend changes the
    connection table. -/
def selection_call (r : RewriterThread) (a : Arrival) : Option TableCall :=
  (resolve a.shared a.input).map fun found =>
    ⟨a.now,selection x r.conn_table a.shared.health_status found.2 found.1 a.now⟩

/-- The packet does not take the slot of an expired entry in front of a live one
    that would be hidden by it. -/
def Clean (r : RewriterThread) (a : Arrival) : Prop := ∀ call ∈ selection_call x r a, r.conn_table.Safe call
/-- The packet's flow does not fail to get a slot. -/
def Tracked (r : RewriterThread) (a : Arrival) : Prop := ∀ call ∈ selection_call x r a, ¬ r.conn_table.Drops call

/-- The packet is of the flow, and gets as far as the backend selection. -/
def Selects (a : Arrival) : Prop := flow_of a.input = some f ∧ (resolve a.shared a.input).isSome

instance (r : RewriterThread) (a : Arrival) : Decidable (Clean x r a) :=
  inferInstanceAs (Decidable (∀ call ∈ selection_call x r a, r.conn_table.Safe call))
instance (r : RewriterThread) (a : Arrival) : Decidable (Tracked x r a) :=
  inferInstanceAs (Decidable (∀ call ∈ selection_call x r a, ¬ r.conn_table.Drops call))
instance (a : Arrival) : Decidable (Selects f a) :=
  inferInstanceAs (Decidable (flow_of a.input = some f ∧ (resolve a.shared a.input).isSome))

/-- A thread, when the last packet of a flow got to the backend selection, and
    the time to live that the entry of the flow had after it. -/
structure Watch where
  rewriter : RewriterThread
  last : Nat
  ttl : Nat

def Watch.step (w : Watch) (a : Arrival) : Watch where
  rewriter := w.rewriter.step x a
  last := if Selects f a then a.now else w.last
  ttl := if Selects f a then (w.rewriter.step x a).conn_table.entry_ttl (f.flow_hash x) else w.ttl

/-- A packet of the flow comes in time and finds the backend not unhealthy, and a
    packet of another flow gets a slot, without hiding a live entry. -/
def Undisturbed (w : Watch) (a : Arrival) : Prop :=
  if Selects f a then a.now ≤ w.last + w.ttl ∧ a.shared.health_status.lookup backend_ip ≠ some .Unhealthy
  else Clean x w.rewriter a ∧ Tracked x w.rewriter a

instance (w : Watch) (a : Arrival) : Decidable (Undisturbed x f backend_ip w a) := by
  unfold Undisturbed
  infer_instance

end

variable {x : Xxh3} {f : PacketMeta} {r : RewriterThread} {a : Arrival} {pkt_meta : PacketMeta}
  {lookup_table : LookupTable} {backend_ip : IpAddr}

theorem flow_of_resolved (resolved : resolve a.shared a.input = some (pkt_meta,lookup_table)) :
    flow_of a.input = some (five_tuple pkt_meta) := by
  obtain ⟨first,parsed,_⟩ := RewriterThread.resolve_eq_some resolved
  simp [flow_of,first,parsed]

/-- The hash does not depend on the flags. -/
theorem selects_hash (selects : Selects f a) (resolved : resolve a.shared a.input = some (pkt_meta,lookup_table)) :
    pkt_meta.flow_hash x = f.flow_hash x := by
  have same := selects.1
  rw [flow_of_resolved resolved,Option.some.injEq] at same
  rw [← same]
  rfl

section
variable (x : Xxh3) (conn_table : ConnTable) (health : Health) (lookup_table : LookupTable) (pkt_meta : PacketMeta)
  (now : Nat)

variable {x conn_table health pkt_meta now} in
theorem selection_hit {cached_ip : IpAddr} (hit : conn_table.get (pkt_meta.flow_hash x) now = some cached_ip)
    (healthy : usable health cached_ip = true) :
    selection x conn_table health lookup_table pkt_meta now = .touch (pkt_meta.flow_hash x) ∧
      backend_of x conn_table health lookup_table pkt_meta now = cached_ip := by
  simp only [selection,backend_of,hit,healthy,if_true,and_self]

/-- A selection refreshes the entry that it finds, or inserts one. -/
theorem selection_cases :
    (conn_table.get (pkt_meta.flow_hash x) now = some (backend_of x conn_table health lookup_table pkt_meta now) ∧
      selection x conn_table health lookup_table pkt_meta now = .touch (pkt_meta.flow_hash x)) ∨
    selection x conn_table health lookup_table pkt_meta now = .insert (pkt_meta.flow_hash x)
      (backend_of x conn_table health lookup_table pkt_meta now) (FlowProto.from pkt_meta.protocol)
      (initial_tcp_state pkt_meta.tcp_flags) := by
  unfold selection backend_of
  cases hit : conn_table.get (pkt_meta.flow_hash x) now with
  | none => exact .inr rfl
  | some cached_ip =>
    dsimp only
    split_ifs
    · exact .inl ⟨rfl,rfl⟩
    · exact .inr rfl

theorem selection_hash :
    (selection x conn_table health lookup_table pkt_meta now).hash = pkt_meta.flow_hash x := by
  rcases selection_cases x conn_table health lookup_table pkt_meta now with ⟨_,touched⟩ | inserted
  · rw [touched]
    rfl
  · rw [inserted]
    rfl

end

namespace RewriterThread

theorem step_conn_table (resolved : resolve a.shared a.input = some (pkt_meta,lookup_table)) :
    (r.step x a).conn_table =
      (table_calls x r.conn_table a.shared.health_status lookup_table pkt_meta a.now).foldl ConnTable.apply
        r.conn_table := by
  obtain ⟨tables,_⟩ := process_one_tables x r a.shared a.input a.now
  rw [step,tables,resolved]
theorem step_unresolved (unresolved : resolve a.shared a.input = none) :
    (r.step x a).conn_table = r.conn_table ∧ (r.step x a).fragment_table = r.fragment_table := by
  obtain ⟨conn,fragment,_⟩ := process_one_tables x r a.shared a.input a.now
  rw [step,conn,fragment,unresolved]
  exact ⟨rfl,rfl⟩

end RewriterThread

/-- The transition that the flags call for keeps the table sound, the other
    flows pinned and the packet's own entry fresh. -/
theorem transition_keeps (conn_table : ConnTable) (now : Nat) (Keeps : ConnTable → Prop)
    (closes : Keeps conn_table → Keeps (conn_table.mark_closing (pkt_meta.flow_hash x) now))
    (establishes : Keeps conn_table → Keeps (conn_table.mark_established (pkt_meta.flow_hash x) now))
    (kept : Keeps conn_table) :
    Keeps (((transition x pkt_meta).toList.map (TableCall.mk now)).foldl ConnTable.apply conn_table) := by
  unfold transition
  cases pkt_meta.tcp_flags with
  | none => exact kept
  | some flags =>
    dsimp only [Option.bind_some]
    split_ifs
    · exact closes kept
    · exact closes kept
    · exact establishes kept
    · exact kept

/-- The table stays sound as long as no packet hides a live entry. -/
theorem step_sound (sound : r.conn_table.Sound a.now) (clean : Clean x r a) :
    (r.step x a).conn_table.Sound a.now := by
  cases resolved : resolve a.shared a.input with
  | none => rwa [(RewriterThread.step_unresolved resolved).1]
  | some found =>
    rw [RewriterThread.step_conn_table resolved,table_calls,List.foldl_cons]
    refine transition_keeps _ _ (fun t => t.Sound a.now) ConnTable.mark_closing_sound ConnTable.mark_established_sound ?_
    exact ConnTable.apply_sound sound (clean _ (by simp [selection_call,resolved]))

/-- A packet of another flow leaves the flow pinned. -/
theorem step_pins_other {seen ttl : Nat} (pins : r.conn_table.Pins (f.flow_hash x) backend_ip seen ttl a.now)
    (clean : Clean x r a) (tracked : Tracked x r a)
    (other : ∀ g, flow_of a.input = some g → (resolve a.shared a.input).isSome → g.flow_hash x ≠ f.flow_hash x) :
    (r.step x a).conn_table.Pins (f.flow_hash x) backend_ip seen ttl a.now := by
  cases resolved : resolve a.shared a.input with
  | none => rwa [(RewriterThread.step_unresolved resolved).1]
  | some found =>
    obtain ⟨pkt_meta,lookup_table⟩ := found
    have elsewhere : pkt_meta.flow_hash x ≠ f.flow_hash x :=
      other (five_tuple pkt_meta) (flow_of_resolved resolved) (by simp [resolved])
    rw [RewriterThread.step_conn_table resolved,table_calls,List.foldl_cons]
    refine transition_keeps _ _ (fun t => t.Pins (f.flow_hash x) backend_ip seen ttl a.now)
      (fun pins => pins.apply ⟨a.now,.mark_closing _⟩ elsewhere trivial id)
      (fun pins => pins.apply ⟨a.now,.mark_established _⟩ elsewhere trivial id) ?_
    refine pins.apply _ ?_ (clean _ (by simp [selection_call,resolved])) (tracked _ (by simp [selection_call,resolved]))
    rw [selection_hash]
    exact elsewhere

/-- After the selection the flow's entry is fresh, unless it found no slot. -/
theorem step_fresh (sound : r.conn_table.Sound a.now) (clean : Clean x r a) (tracked : Tracked x r a)
    (resolved : resolve a.shared a.input = some (pkt_meta,lookup_table)) :
    (r.step x a).conn_table.Fresh (pkt_meta.flow_hash x)
      (backend_of x r.conn_table a.shared.health_status lookup_table pkt_meta a.now) a.now := by
  rw [RewriterThread.step_conn_table resolved,table_calls,List.foldl_cons]
  refine transition_keeps _ _ (fun t => t.Fresh (pkt_meta.flow_hash x)
    (backend_of x r.conn_table a.shared.health_status lookup_table pkt_meta a.now) a.now)
    ConnTable.Fresh.mark_closing ConnTable.Fresh.mark_established ?_
  have call : selection_call x r a =
      some ⟨a.now,selection x r.conn_table a.shared.health_status lookup_table pkt_meta a.now⟩ := by
    simp [selection_call,resolved]
  rcases selection_cases x r.conn_table a.shared.health_status lookup_table pkt_meta a.now with ⟨hit,touched⟩ | inserted
  · rw [touched]
    exact ConnTable.fresh_touch sound hit
  · have safe := clean _ call
    have room := tracked _ call
    rw [inserted] at safe room ⊢
    exact ConnTable.fresh_insert sound safe room

/-- A packet of a pinned flow that comes in time goes to the flow's backend, and
    pins it anew, if the backend is not found unhealthy. -/
theorem step_pins_own {seen ttl : Nat} (pins : r.conn_table.Pins (f.flow_hash x) backend_ip seen ttl a.now)
    (selects : Selects f a) (within : a.now ≤ seen + ttl)
    (healthy : a.shared.health_status.lookup backend_ip ≠ some .Unhealthy) :
    (∀ pkt_meta lookup_table, resolve a.shared a.input = some (pkt_meta,lookup_table) →
      backend_of x r.conn_table a.shared.health_status lookup_table pkt_meta a.now = backend_ip) ∧
    (r.step x a).conn_table.Pins (f.flow_hash x) backend_ip a.now
      ((r.step x a).conn_table.entry_ttl (f.flow_hash x)) a.now := by
  obtain ⟨⟨pkt_meta,lookup_table⟩,resolved⟩ := Option.isSome_iff_exists.mp selects.2
  have hash := selects_hash (x := x) selects resolved
  have hit := pins.get within
  rw [← hash] at hit ⊢
  obtain ⟨touched,backend⟩ := selection_hit lookup_table hit (usable_iff.mpr healthy)
  refine ⟨?_,?_⟩
  · intro m t resolved'
    rw [resolved] at resolved'
    cases resolved'
    exact backend
  · have fresh := step_fresh (x := x) pins.sound (a := a) ?_ ?_ resolved
    · rw [backend] at fresh
      exact fresh.pins
    · intro call called
      simp only [selection_call,resolved,Option.map_some,Option.mem_some_iff] at called
      rw [← called,touched]
      trivial
    · intro call called
      simp only [selection_call,resolved,Option.map_some,Option.mem_some_iff] at called
      rw [← called,touched]
      exact id

/-- The flow stays pinned while it is undisturbed. -/
theorem Watch.keeps {w : Watch} (undisturbed : Undisturbed x f backend_ip w a)
    (other : ∀ g, flow_of a.input = some g → g ≠ f → g.flow_hash x ≠ f.flow_hash x)
    (pins : w.rewriter.conn_table.Pins (f.flow_hash x) backend_ip w.last w.ttl a.now) :
    (w.step x f a).rewriter.conn_table.Pins (f.flow_hash x) backend_ip (w.step x f a).last (w.step x f a).ttl a.now := by
  unfold Undisturbed at undisturbed
  unfold Watch.step
  dsimp only
  by_cases selects : Selects f a
  · simp only [selects,if_true] at undisturbed ⊢
    exact (step_pins_own pins selects undisturbed.1 undisturbed.2).2
  · simp only [selects,if_false] at undisturbed ⊢
    refine step_pins_other pins undisturbed.1 undisturbed.2 fun g flow reaches => other g flow ?_
    rintro rfl
    exact selects ⟨flow,reaches⟩

theorem Watch.rewriter_foldl (w : Watch) (arrivals : List Arrival) :
    (arrivals.foldl (Watch.step x f) w).rewriter = arrivals.foldl (RewriterThread.step x) w.rewriter := by
  induction arrivals generalizing w with
  | nil => rfl
  | cons a arrivals ih => exact ih (w.step x f a)

theorem flow_of_first {input : PacketBuf} (flow : flow_of input = some f) :
    is_non_first_fragment input.as_slice = false := by
  unfold flow_of at flow
  split_ifs at flow with first
  simpa using first

/-- A packet of a flow goes to the backend that an earlier packet of the flow
    went to and was tracked for, if every packet of the flow that gets to the
    backend selection from there on comes within the time to live that the flow's
    entry had after the one before, and finds the backend not unhealthy, and if
    the packets of other flows in between get a slot in the connection table.
    Insertions do not take the slot of an expired entry in front of a live one
    that would be hidden by it. -/
theorem flow_affinity (x : Xxh3) (src_ip : IpAddr) (conn_bits : Nat) (conn_small : conn_bits < 64)
    (conn_ttls : ConnTtls) (fragment_bits : Nat) (fragment_small : fragment_bits < 64) (fragment_ttl : Nat)
    (mtu_config : MtuConfig) (icmp_rate_limit start : Nat) (before between : List Arrival) (p q : Arrival)
    (f : PacketMeta) (b b' : Ipv4Addr) (clocked : Runs.Clocked Arrival.now start (before ++ p :: (between ++ [q])))
    (distinct : ∀ a ∈ between, ∀ g, flow_of a.input = some g → g ≠ f → g.flow_hash x ≠ f.flow_hash x)
    (first : flow_of p.input = some f) (later : flow_of q.input = some f) :
    let r₀ := RewriterThread.new src_ip conn_bits conn_small conn_ttls fragment_bits fragment_small fragment_ttl
      mtu_config icmp_rate_limit start
    let r := before.foldl (RewriterThread.step x) r₀
    let pinned := r.step x p
    Runs.Along (RewriterThread.step x) (Clean x) r₀ (before ++ [p]) →
    (r.process_one x p.shared p.input p.now).2.forwarded_to = some b → Tracked x r p →
    Runs.Along (Watch.step x f) (Undisturbed x f (.V4 b))
      ⟨pinned,p.now,pinned.conn_table.entry_ttl (f.flow_hash x)⟩ (between ++ [q]) →
    ((between.foldl (RewriterThread.step x) pinned).process_one x q.shared q.input q.now).2.forwarded_to = some b' →
    b' = b := by
  intro r₀ r pinned clean forwarded tracked undisturbed forwarded'
  rw [Runs.clocked_append] at clocked
  obtain ⟨clocked_before,at_p,clocked_rest⟩ := clocked
  rw [Runs.clocked_append] at clocked_rest
  obtain ⟨clocked_between,at_q,_⟩ := clocked_rest
  rw [Runs.along_append] at clean undisturbed
  -- The table is sound when the first of the two packets comes.
  have sound : r.conn_table.Sound p.now := by
    have run := clocked_before.invariant (fun now r => r.conn_table.Sound now) (fun _ _ _ later sound => sound.later later)
      (fun _ _ sound clean => step_sound sound clean) clean.1 (ConnTable.new_sound conn_bits conn_small conn_ttls start)
    exact run.later at_p
  obtain ⟨pkt_meta,lookup_table,resolved,backend⟩ :=
    RewriterThread.forwarded_to_backend (flow_of_first first) forwarded
  have selects : Selects f p := ⟨first,by simp [resolved]⟩
  -- It pins the flow, and the packets in between leave it pinned.
  have pins : pinned.conn_table.Pins (f.flow_hash x) (.V4 b) p.now
      (pinned.conn_table.entry_ttl (f.flow_hash x)) p.now := by
    have fresh := step_fresh (x := x) sound clean.2.1 tracked resolved
    rw [backend,selects_hash selects resolved] at fresh
    exact fresh.pins
  have kept := clocked_between.invariant
    (fun now w => w.rewriter.conn_table.Pins (f.flow_hash x) (.V4 b) w.last w.ttl now)
    (fun _ _ _ later pins => pins.later later) (fun w a pins undisturbed => Watch.keeps undisturbed.1 undisturbed.2 pins)
    (undisturbed.1.with_mem distinct) pins
  obtain ⟨last,_⟩ := undisturbed.2
  obtain ⟨pkt_meta',lookup_table',resolved',backend'⟩ :=
    RewriterThread.forwarded_to_backend (flow_of_first later) forwarded'
  have selects' : Selects f q := ⟨later,by simp [resolved']⟩
  rw [Undisturbed,if_pos selects'] at last
  have same := (step_pins_own (x := x) (kept.later at_q) selects' last.1 last.2).1 pkt_meta' lookup_table' resolved'
  rw [Watch.rewriter_foldl,backend'] at same
  exact IpAddr.V4.inj same

private def elsewhere : Arrival := ⟨sharing true ∅,segment 40001 40 [],from_secs 2⟩
private def drained : Arrival := ⟨sharing true ∅,segment 40000 40 [],from_secs 60⟩
/-- 1500 bytes that find the first backend unhealthy. -/
private def oversized : Arrival :=
  ⟨sharing false (Finmap.singleton (.V4 ⟨10,0,0,1⟩) .Unhealthy),segment 40000 1500 (List.replicate 1460 0),from_secs 2⟩
private def recovered : Arrival :=
  ⟨sharing false (Finmap.singleton (.V4 ⟨10,0,0,1⟩) .Healthy),segment 40000 40 [],from_secs 3⟩
/-- A flow stays with a backend that is being drained. -/
theorem flow_affinity_drained :
    ((((idle.step hashedPair opening).step hashedPair elsewhere).process_one hashedPair drained.shared drained.input
      drained.now).2.forwarded_to = some ⟨10,0,0,1⟩) := by
  have some_backend : ((((idle.step hashedPair opening).step hashedPair elsewhere).process_one hashedPair drained.shared
      drained.input drained.now).2.forwarded_to.isSome) := by decide +kernel
  obtain ⟨b',forwarded⟩ := Option.isSome_iff_exists.mp some_backend
  rw [forwarded]
  refine congrArg some (flow_affinity hashedPair (.V4 ⟨172,16,0,1⟩) 2 (by decide) minutes 2 (by decide) (from_secs 10)
    mtu1500 100 0 [] [elsewhere] opening drained (flowFrom 40000) ⟨10,0,0,1⟩ b' ⟨by decide,by decide,by decide,trivial⟩
    ?_ (by decide) (by decide) ⟨by decide +kernel,trivial⟩ (by decide +kernel) (by decide +kernel)
    ⟨by decide +kernel,by decide +kernel,trivial⟩ forwarded)
  intro a member g flow _
  rw [List.mem_singleton.mp member,show flow_of elsewhere.input = some (flowFrom 40001) by decide] at flow
  rw [← Option.some.inj flow]
  decide

/-- A packet that is too large finds the first backend unhealthy, and moves the
    flow to the second one, where it stays when the first one recovers. -/
theorem oversized_packet_moves_flow :
    ¬ ∀ (x : Xxh3) (src_ip : IpAddr) (conn_bits : Nat) (conn_small : conn_bits < 64) (conn_ttls : ConnTtls)
      (fragment_bits : Nat) (fragment_small : fragment_bits < 64) (fragment_ttl : Nat) (mtu_config : MtuConfig)
      (icmp_rate_limit start : Nat) (before between : List Arrival) (p q : Arrival) (f : PacketMeta) (b b' : Ipv4Addr),
      Runs.Clocked Arrival.now start (before ++ p :: (between ++ [q])) →
      (∀ a ∈ before ++ p :: (between ++ [q]), ∀ g, flow_of a.input = some g → g ≠ f → g.flow_hash x ≠ f.flow_hash x) →
      flow_of p.input = some f → flow_of q.input = some f →
      let r := before.foldl (RewriterThread.step x) (RewriterThread.new src_ip conn_bits conn_small conn_ttls
        fragment_bits fragment_small fragment_ttl mtu_config icmp_rate_limit start)
      let r' := between.foldl (RewriterThread.step x) (r.step x p)
      (r.process_one x p.shared p.input p.now).2.forwarded_to = some b → Tracked x r p →
      (∀ pre a, pre ++ [a] <+: between → flow_of a.input = some f →
        ((pre.foldl (RewriterThread.step x) (r.step x p)).process_one x a.shared a.input a.now).2.forwarded_to = none) →
      q.now ≤ p.now + (r.step x p).conn_table.entry_ttl (f.flow_hash x) →
      q.now ≤ p.now + r'.conn_table.entry_ttl (f.flow_hash x) →
      q.shared.health_status.lookup (.V4 b) ≠ some .Unhealthy →
      (r'.process_one x q.shared q.input q.now).2.forwarded_to = some b' → b' = b := by
  intro affinity
  have moved := affinity hashedPair (.V4 ⟨172,16,0,1⟩) 2 (by decide) minutes 2 (by decide) (from_secs 10) mtu1500 100 0
    [] [oversized] opening recovered (flowFrom 40000) ⟨10,0,0,1⟩ ⟨10,0,0,2⟩ ⟨by decide,by decide,by decide,trivial⟩
    ?_ (by decide) (by decide) (by decide +kernel) (by decide +kernel) ?_ (by decide +kernel) (by decide +kernel)
    (by decide) (by decide +kernel)
  · exact absurd moved (by decide)
  · intro a member g flow other
    have one_flow : ∀ a ∈ [opening,oversized,recovered], flow_of a.input = some (flowFrom 40000) := by
      decide +kernel
    rw [one_flow a member] at flow
    exact absurd (Option.some.inj flow).symm other
  · intro pre a way _
    have short := way.length_le
    simp only [List.length_append,List.length_singleton] at short
    obtain rfl : pre = [] := List.eq_nil_of_length_eq_zero (by omega)
    obtain ⟨rfl,_⟩ := List.cons_prefix_cons.mp way
    decide +kernel

end Lb.Rewriter
