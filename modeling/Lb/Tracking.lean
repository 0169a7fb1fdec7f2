import Lb.Copies
import Lb.Pinning
import Mathlib.Data.List.Dedup

/-!
# One entry per flow

An insertion that takes the slot of an expired entry does not look for the
flow's own entry beyond it, and so a flow may come to have two. As long as no
insertion does so, a flow has one entry at most, a backend that has been
superseded does not come back, and the TCP state of a flow does not move down.
-/
namespace Lb.Connections
open Lb.Addr Lb.Types Lb.Packet Lb.Slots

namespace ConnTable
variable {t : ConnTable} {counts : ConnEntry → Prop} {hash hash' : UInt64} {now : Nat}

/-- An insertion of the hash comes to each of its entries that count, past live
    entries that are no closer to their homes. -/
def Uncut (t : ConnTable) (counts : ConnEntry → Prop) (hash : UInt64) (now : Nat) : Prop :=
  Probing.Uncut t.scheme (Live t.ttls now) counts (slots t.entries) hash
/-- No entry of the hash that counts is behind another entry of the hash. -/
def Fronted (t : ConnTable) (counts : ConnEntry → Prop) (hash : UInt64) : Prop :=
  Probing.Fronted t.scheme counts (slots t.entries) hash

instance (t : ConnTable) (counts : ConnEntry → Prop) [DecidablePred counts] (hash : UInt64) (now : Nat) :
    Decidable (t.Uncut counts hash now) :=
  inferInstanceAs (Decidable (Probing.Uncut t.scheme (Live t.ttls now) counts (slots t.entries) hash))

theorem new_fronted (bits : Nat) (small : bits < 64) (ttls : ConnTtls) (init_time : Nat) :
    (ConnTable.new bits small ttls init_time).Fronted counts hash := by
  unfold Fronted
  rw [show slots (ConnTable.new bits small ttls init_time).entries = fun _ => none from slots_replicate rfl]
  exact Probing.fronted_empty

/-- An update in place changes the slot that the lookup ends at. -/
theorem slots_with_matching_entry (t : ConnTable) (hash : UInt64) {f : ConnEntry → ConnEntry}
    (keeps : ∀ e, (f e).hash = e.hash ∧ (f e).occupied = e.occupied) :
    slots (t.with_matching_entry hash f).entries = slots t.entries ∨
      ∃ idx, t.probe hash = some idx ∧
        slots (t.with_matching_entry hash f).entries =
          Function.update (slots t.entries) idx (some (f (entry_at t.entries idx))) := by
  rw [with_matching_entry]
  cases found : t.probe hash with
  | none => exact .inl rfl
  | some idx =>
    obtain ⟨inside,_,_,occupied⟩ := probe_found t.sized found
    exact .inr ⟨idx,rfl,slots_set inside ((keeps _).2.trans occupied)⟩

theorem with_matching_entry_fronted {f : ConnEntry → ConnEntry}
    (keeps : ∀ e, (f e).hash = e.hash ∧ (f e).occupied = e.occupied) (fronted : t.Fronted counts hash) :
    (t.with_matching_entry hash' f).Fronted counts hash := by
  unfold Fronted
  rw [scheme_eq with_matching_entry_ttls.2]
  rcases slots_with_matching_entry t hash' keeps with same | ⟨idx,found,replaced⟩
  · rw [same]
    exact fronted
  · obtain ⟨_,at_idx,same,_⟩ := probe_found t.sized found
    rw [replaced]
    rw [probe,probe_eq t.sized] at found
    exact Probing.Fronted.refresh fronted found at_idx ((keeps _).1.trans same)

section
variable (backend_ip : IpAddr) (proto : FlowProto) (tcp_state : TcpFlowState)

theorem insert_fronted_other (fronted : t.Fronted counts hash) (other : hash' ≠ hash)
    (counted : ∀ e, Live t.ttls now e → counts e) :
    (t.insert hash' backend_ip proto tcp_state now).1.Fronted counts hash ∧
      ∀ i < t.entries.length, ∀ e, slots (t.insert hash' backend_ip proto tcp_state now).1.entries i = some e →
        e.hash = hash → ∃ j < t.entries.length, slots t.entries j = some e := by
  unfold Fronted
  rw [insert_scheme,(t.insert_eq hash' backend_ip proto tcp_state now).1]
  exact Probing.Fronted.insert_other fronted other (fun _ _ same => same) counted

theorem insert_fronted_own (fronted : t.Fronted counts hash) (counted : ∀ e, Live t.ttls now e → counts e)
    (uncut : t.Uncut counts hash now) :
    (t.insert hash backend_ip proto tcp_state now).1.Fronted counts hash ∧
      ∀ i < t.entries.length, ∀ e, slots (t.insert hash backend_ip proto tcp_state now).1.entries i = some e →
        e.hash = hash → counts e →
          e = new_entry hash backend_ip proto tcp_state now ∨ ∃ old, Live t.ttls now old ∧
            (∃ j < t.entries.length, slots t.entries j = some old) ∧ old.hash = hash ∧
            e = merge_entry old (new_entry hash backend_ip proto tcp_state now) := by
  unfold Fronted
  rw [insert_scheme,(t.insert_eq hash backend_ip proto tcp_state now).1]
  exact @Probing.Fronted.insert_own _ _ t.scheme (Live t.ttls now) counts (slots t.entries) _ _ merge_entry
    (new_entry hash backend_ip proto tcp_state now) fronted (fun _ _ same => same) counted uncut

end

/-- The call, where it is an insertion of the hash, comes to the entries of the
    hash that count. -/
def Reaches (counts : Nat → ConnEntry → Prop) (hash : UInt64) (t : ConnTable) (call : TableCall) : Prop :=
  match call.op with
  | .insert hash' _ _ _ => hash' = hash → t.Uncut (counts call.now) hash call.now
  | _ => True

instance (counts : Nat → ConnEntry → Prop) [∀ now, DecidablePred (counts now)] (hash : UInt64) (t : ConnTable)
    (call : TableCall) : Decidable (Reaches counts hash t call) :=
  match call with
  | ⟨now,.insert hash' _ _ _⟩ => inferInstanceAs (Decidable (hash' = hash → t.Uncut (counts now) hash now))
  | ⟨_,.touch _⟩ | ⟨_,.mark_established _⟩ | ⟨_,.mark_closing _⟩ => isTrue trivial

theorem apply_fronted {call : TableCall} (fronted : t.Fronted counts hash)
    (alive : ∀ e, Live t.ttls call.now e → counts e) (reaches : Reaches (fun _ => counts) hash t call) :
    (t.apply call).Fronted counts hash := by
  obtain ⟨now,op⟩ := call
  cases op with
  | insert hash' backend_ip proto tcp_state =>
    by_cases own : hash' = hash
    · subst own
      exact (insert_fronted_own _ _ _ fronted alive (reaches rfl)).1
    · exact (insert_fronted_other _ _ _ fronted own alive).1
  | touch hash' => exact with_matching_entry_fronted (fun _ => ⟨rfl,rfl⟩) fronted
  | mark_established hash' => exact with_matching_entry_fronted (fun e => by split_ifs <;> exact ⟨rfl,rfl⟩) fronted
  | mark_closing hash' => exact with_matching_entry_fronted (fun e => by split_ifs <;> exact ⟨rfl,rfl⟩) fronted

end ConnTable

/-! ### Superseded backends -/

/-- The backend that each hash was inserted with last. -/
def repin (pins : UInt64 → Option IpAddr) (call : TableCall) : UInt64 → Option IpAddr :=
  match call.op with
  | .insert hash backend_ip _ _ => Function.update pins hash (some backend_ip)
  | _ => pins

namespace ConnTable
variable {t : ConnTable} {pins : UInt64 → Option IpAddr} {now : Nat}

/-- The call, where it is an insertion, comes to every entry of its hash. -/
def Whole (t : ConnTable) (call : TableCall) : Prop :=
  match call.op with
  | .insert hash _ _ _ => t.Uncut (fun _ => True) hash call.now
  | _ => True

instance (t : ConnTable) (call : TableCall) : Decidable (t.Whole call) :=
  match call with
  | ⟨now,.insert hash _ _ _⟩ => inferInstanceAs (Decidable (t.Uncut (fun _ => True) hash now))
  | ⟨_,.touch _⟩ | ⟨_,.mark_established _⟩ | ⟨_,.mark_closing _⟩ => isTrue trivial

/-- No two entries have the same hash, and each is for the backend that its hash
    was inserted with last. -/
structure Current (t : ConnTable) (pins : UInt64 → Option IpAddr) : Prop where
  single : ∀ hash, t.Fronted (fun _ => True) hash
  pinned : ∀ i < t.entries.length, ∀ e, slots t.entries i = some e → pins e.hash = some e.backend_ip

theorem Current.unique (current : t.Current pins) {i j : Nat} {e e' : ConnEntry} (at_i : slots t.entries i = some e)
    (at_j : slots t.entries j = some e') (same : e.hash = e'.hash) : i = j :=
  Probing.Fronted.unique (current.single e'.hash) (slots_inside at_i) (slots_inside at_j) at_i at_j same rfl trivial
    trivial

theorem Current.with_matching_entry {hash : UInt64} {f : ConnEntry → ConnEntry} (current : t.Current pins)
    (keeps : ∀ e, (f e).hash = e.hash ∧ (f e).occupied = e.occupied) (backend : ∀ e, (f e).backend_ip = e.backend_ip) :
    (t.with_matching_entry hash f).Current pins := by
  refine ⟨fun hash' => with_matching_entry_fronted keeps (current.single hash'),?_⟩
  intro i inside e at_i
  rw [with_matching_entry_ttls.2] at inside
  rcases slots_with_matching_entry t hash keeps with same | ⟨idx,found,replaced⟩
  · rw [same] at at_i
    exact current.pinned i inside e at_i
  · rw [replaced] at at_i
    by_cases here : i = idx
    · subst here
      rw [Function.update_self] at at_i
      cases at_i
      obtain ⟨_,at_idx,_,_⟩ := probe_found t.sized found
      rw [(keeps _).1,backend]
      exact current.pinned i inside _ at_idx
    · rw [Function.update_of_ne here] at at_i
      exact current.pinned i inside e at_i

theorem Current.insert {hash : UInt64} {backend_ip : IpAddr} {proto : FlowProto} {tcp_state : TcpFlowState}
    (current : t.Current pins) (uncut : t.Uncut (fun _ => True) hash now) :
    (t.insert hash backend_ip proto tcp_state now).1.Current (Function.update pins hash (some backend_ip)) := by
  have own := insert_fronted_own backend_ip proto tcp_state (current.single hash) (fun _ _ => trivial) uncut
  have others : ∀ hash' ≠ hash, _ := fun hash' differs =>
    @insert_fronted_other t _ hash' hash now backend_ip proto tcp_state (current.single hash') (Ne.symm differs)
      fun _ _ => trivial
  constructor
  · intro hash'
    by_cases same : hash' = hash
    · exact same ▸ own.1
    · exact (others hash' same).1
  · intro i inside e at_i
    rw [insert_length] at inside
    by_cases same : e.hash = hash
    · rw [same,Function.update_self]
      rcases own.2 i inside e at_i same trivial with rfl | ⟨old,_,_,_,rfl⟩
      · rfl
      · rfl
    · rw [Function.update_of_ne same]
      obtain ⟨j,insideJ,at_j⟩ := (others e.hash same).2 i inside e at_i rfl
      exact current.pinned j insideJ e at_j

theorem Current.apply {call : TableCall} (current : t.Current pins) (whole : t.Whole call) :
    (t.apply call).Current (repin pins call) := by
  obtain ⟨now,op⟩ := call
  cases op with
  | insert hash backend_ip proto tcp_state => exact current.insert whole
  | touch hash =>
    show (t.touch hash now).Current pins
    exact Current.with_matching_entry current (fun _ => ⟨rfl,rfl⟩) fun _ => rfl
  | mark_established hash =>
    show (t.mark_established hash now).Current pins
    refine Current.with_matching_entry current (fun e => ?_) fun e => ?_
    · split_ifs <;> exact ⟨rfl,rfl⟩
    · split_ifs <;> rfl
  | mark_closing hash =>
    show (t.mark_closing hash now).Current pins
    refine Current.with_matching_entry current (fun e => ?_) fun e => ?_
    · split_ifs <;> exact ⟨rfl,rfl⟩
    · split_ifs <;> rfl

theorem Current.run {calls : List TableCall} (current : t.Current pins)
    (whole : Runs.Along ConnTable.apply Whole t calls) :
    (calls.foldl ConnTable.apply t).Current (calls.foldl repin pins) := by
  induction calls generalizing t pins with
  | nil => exact current
  | cons call calls ih => exact ih (current.apply whole.1) whole.2

theorem Current.get {hash : UInt64} {backend_ip : IpAddr} (current : t.Current pins)
    (found : t.get hash now = some backend_ip) : pins hash = some backend_ip := by
  obtain ⟨e,⟨_,i,inside,at_i⟩,rfl,rfl⟩ := get_held found
  exact current.pinned i inside e at_i

/-! ### The number of entries -/

/-- `len` counts the occupied slots. -/
def Counted (t : ConnTable) : Prop := t.size = t.entries.countP (·.occupied)

private theorem countP_set_occupied {entries : List ConnEntry} {idx : Nat} (cur : ConnEntry)
    (inside : idx < entries.length) (occupied : cur.occupied = true) : (entries.set idx cur).countP (·.occupied) =
      entries.countP (·.occupied) + if (entry_at entries idx).occupied then 0 else 1 := by
  have read : entries[idx] = entry_at entries idx := (List.getD_eq_getElem ..).symm
  have present : (entry_at entries idx).occupied = true → 0 < entries.countP (·.occupied) := fun taken =>
    List.countP_pos_iff.mpr ⟨entries[idx],List.getElem_mem inside,by rw [read]; exact taken⟩
  rw [List.countP_set inside,read,occupied]
  cases taken : (entry_at entries idx).occupied with
  | false => simp
  | true =>
    have := present taken
    simp only [if_true]
    omega

theorem insert_from_counted (ttls : ConnTtls) (now : Nat) {mask n : Nat} (sized : Sized n mask) :
    ∀ fuel entries size idx cur dist reclaimed, entries.length = n → idx < n → cur.occupied = true →
      size = entries.countP (·.occupied) →
      (insert_from mask ttls now fuel entries size idx cur dist reclaimed).2.1 =
        (insert_from mask ttls now fuel entries size idx cur dist reclaimed).1.countP (·.occupied) := by
  intro fuel
  induction fuel with
  | zero => intro _ _ _ _ _ _ _ _ _ counted; exact counted
  | succ fuel ih =>
    intro entries size idx cur dist reclaimed length inside occupied counted
    have next : (idx + 1) &&& mask < n := by
      rw [land_mask sized]
      exact Nat.mod_lt _ sized.pos
    have stored := countP_set_occupied cur (length ▸ inside) occupied
    rw [insert_from]
    dsimp only
    cases taken : (entry_at entries idx).occupied with
    | false =>
      rw [taken] at stored
      simp [stored,counted]
    | true =>
      have merged := countP_set_occupied (merge_entry (entry_at entries idx) cur) (length ▸ inside) taken
      rw [taken] at stored merged
      simp only [if_true,Nat.add_zero] at stored merged
      simp only [Bool.not_true,Bool.false_eq_true,if_false]
      split_ifs
      · rw [stored,counted]
      · rw [merged,counted]
      · exact ih _ _ _ _ _ _ (by rw [List.length_set,length]) next taken (by rw [stored,counted])
      · exact ih _ _ _ _ _ _ length next occupied counted

theorem new_counted (bits : Nat) (small : bits < 64) (ttls : ConnTtls) (init_time : Nat) :
    (ConnTable.new bits small ttls init_time).Counted := by
  simp [Counted,ConnTable.new,List.countP_replicate,empty_entry]

theorem Counted.with_matching_entry {hash : UInt64} {f : ConnEntry → ConnEntry} (counted : t.Counted)
    (keeps : ∀ e, (f e).occupied = e.occupied) : (t.with_matching_entry hash f).Counted := by
  rw [ConnTable.with_matching_entry]
  cases found : t.probe hash with
  | none => exact counted
  | some idx =>
    obtain ⟨inside,_,_,occupied⟩ := probe_found t.sized found
    have stored := countP_set_occupied (f (entry_at t.entries idx)) inside ((keeps _).trans occupied)
    rw [show (entry_at t.entries idx).occupied = true from occupied] at stored
    exact counted.trans stored.symm

theorem Counted.apply (counted : t.Counted) (call : TableCall) : (t.apply call).Counted := by
  obtain ⟨now,op⟩ := call
  cases op with
  | insert hash backend_ip proto tcp_state =>
    refine insert_from_counted t.ttls now t.sized t.capacity t.entries t.size _ _ 0 false rfl ?_ rfl counted
    rw [land_mask t.sized]
    exact Nat.mod_lt _ t.sized.pos
  | touch hash => exact counted.with_matching_entry fun _ => rfl
  | mark_established hash => exact counted.with_matching_entry fun e => by split_ifs <;> rfl
  | mark_closing hash => exact counted.with_matching_entry fun e => by split_ifs <;> rfl

/-- The hashes that the table holds entries of. -/
def hashes (t : ConnTable) : List UInt64 := (t.entries.filter (·.occupied)).map (·.hash)

theorem Current.hashes_nodup (current : t.Current pins) : t.hashes.Nodup := by
  unfold hashes List.Nodup
  rw [List.pairwise_map,List.pairwise_filter,List.pairwise_iff_getElem]
  intro i j insideI insideJ before taken taken' same
  have at_i : slots t.entries i = some t.entries[i] := by
    rw [slots,List.getElem?_eq_getElem insideI,Option.bind_some]
    exact if_pos taken
  have at_j : slots t.entries j = some t.entries[j] := by
    rw [slots,List.getElem?_eq_getElem insideJ,Option.bind_some]
    exact if_pos taken'
  have := current.unique at_i at_j same
  omega

theorem Counted.len_eq (counted : t.Counted) : t.len = t.hashes.length := by
  rw [len,counted,hashes,List.length_map,List.countP_eq_length_filter]

end ConnTable

/-- In every run in which each insertion comes to the entries of its hash, no two
    slots hold the same hash, `len` is the number of distinct hashes, and a lookup
    answers the backend that the hash was inserted with last, if any. -/
theorem one_slot_per_flow (bits : Nat) (small : bits < 64) (ttls : ConnTtls) (start : Nat) (calls : List TableCall)
    (whole : Runs.Along ConnTable.apply ConnTable.Whole (ConnTable.new bits small ttls start) calls) :
    let t := calls.foldl ConnTable.apply (ConnTable.new bits small ttls start)
    (∀ i < t.entries.length, ∀ j < t.entries.length, (entry_at t.entries i).occupied = true →
      (entry_at t.entries j).occupied = true → (entry_at t.entries i).hash = (entry_at t.entries j).hash → i = j) ∧
    t.len = t.hashes.dedup.length ∧
    ∀ hash now backend_ip, t.get hash now = some backend_ip →
      calls.foldl repin (fun _ => none) hash = some backend_ip := by
  intro t
  have current : t.Current (calls.foldl repin fun _ => none) := by
    refine ConnTable.Current.run ⟨fun hash => ConnTable.new_fronted bits small ttls start,?_⟩ whole
    intro i _ e at_i
    rw [ConnTable.new,slots_replicate rfl] at at_i
    cases at_i
  have counted : t.Counted :=
    Runs.invariant ConnTable.Counted (fun _ call counted => counted.apply call)
      (ConnTable.new_counted bits small ttls start) calls
  refine ⟨?_,?_,?_⟩
  · intro i insideI j insideJ taken taken' same
    exact current.unique (slots_occupied insideI taken) (slots_occupied insideJ taken') same
  · rw [current.hashes_nodup.dedup]
    exact counted.len_eq
  · intro hash now backend_ip found
    exact current.get found

private def short_ttls : ConnTtls := .with_established (from_secs 60)
private def insertion (secs : Nat) (hash : UInt64) (backend : UInt8) (tcp_state : TcpFlowState) : TableCall :=
  ⟨from_secs secs,.insert hash (.V4 ⟨10,0,0,backend⟩) .Tcp tcp_state⟩

private def repinned : List TableCall :=
  [insertion 0 0 1 .Handshake,insertion 1 4 1 .Handshake,insertion 2 4 2 .Handshake,insertion 6 0 3 .Handshake]

theorem one_slot_per_flow_updated :
    let t := repinned.foldl ConnTable.apply (ConnTable.new 2 (by decide) short_ttls 0)
    (∀ i < t.entries.length, ∀ j < t.entries.length, (entry_at t.entries i).occupied = true →
      (entry_at t.entries j).occupied = true → (entry_at t.entries i).hash = (entry_at t.entries j).hash → i = j) ∧
    t.len = t.hashes.dedup.length ∧
    ∀ hash now backend_ip, t.get hash now = some backend_ip →
      repinned.foldl repin (fun _ => none) hash = some backend_ip :=
  one_slot_per_flow 2 (by decide) short_ttls 0 repinned
    ⟨by decide,by decide,by decide,by decide,trivial⟩

/-- Hash 4 is in slot 1 when the entry of hash 0 expires; its next insertion takes
    slot 0, and hash 4 has two entries. Once hash 8 has taken slot 0 in turn, a
    lookup of hash 4 answers the backend it had first. -/
theorem reclaimed_slot_doubles_entry :
    (¬ ∀ (bits : Nat) (small : bits < 64) (ttls : ConnTtls) (start : Nat) (calls : List TableCall),
      Runs.Clocked TableCall.now start calls →
      let t := calls.foldl ConnTable.apply (ConnTable.new bits small ttls start)
      (∀ i < t.entries.length, ∀ j < t.entries.length, (entry_at t.entries i).occupied = true →
        (entry_at t.entries j).occupied = true → (entry_at t.entries i).hash = (entry_at t.entries j).hash → i = j) ∧
      t.len = t.hashes.dedup.length) ∧
    ¬ ∀ (bits : Nat) (small : bits < 64) (ttls : ConnTtls) (start : Nat) (calls : List TableCall),
      Runs.Clocked TableCall.now start calls →
      ∀ hash now backend_ip, (calls.foldl ConnTable.apply (ConnTable.new bits small ttls start)).get hash now =
        some backend_ip → calls.foldl repin (fun _ => none) hash = some backend_ip := by
  constructor
  · intro single
    have doubled := (single 2 (by decide) short_ttls 0
      [insertion 0 0 1 .Handshake,insertion 0 4 1 .Established,insertion 6 4 2 .Handshake]
      ⟨by decide,by decide,by decide,trivial⟩).1 0 (by decide) 1 (by decide) (by decide) (by decide) (by decide)
    exact absurd doubled (by decide)
  · intro current
    have resurfaced := current 2 (by decide) short_ttls 0
      [insertion 0 0 1 .Handshake,insertion 0 4 1 .Established,insertion 6 4 2 .Handshake,insertion 12 8 3 .Established]
      ⟨by decide,by decide,by decide,by decide,trivial⟩ 4 (from_secs 12) (.V4 ⟨10,0,0,1⟩) (by decide)
    exact absurd resurfaced (by decide)

/-! ### TCP states -/

/-- Up to `Closing`, which is terminal. -/
def rank : TcpFlowState → Nat
  | .Handshake => 0
  | .NotTcp => 1
  | .Established => 2
  | .Closing => 3

/-- An existing state is not demoted. -/
theorem rank_promote (old new : TcpFlowState) : rank old ≤ rank (promote_state old new) := by
  cases old <;> cases new <;> decide
theorem rank_closing (s : TcpFlowState) : rank s ≤ rank .Closing := by
  cases s <;> decide
theorem rank_established {s : TcpFlowState} (open_ : s ≠ .Closing) : rank s ≤ rank .Established := by
  cases s with
  | Closing => exact absurd rfl open_
  | Handshake | NotTcp | Established => decide

namespace ConnTable
variable {t : ConnTable} {hash : UInt64} {now : Nat}

/-- The TCP state of the entry that the lookups find for the hash. -/
def state_of (t : ConnTable) (hash : UInt64) : Option TcpFlowState :=
  (t.probe hash).map fun idx => (entry_at t.entries idx).tcp_state

/-- The hash is looked up with success at the time of the call, before and after it. -/
def Tracked (hash : UInt64) (t : ConnTable) (call : TableCall) : Prop :=
  (t.get hash call.now).isSome ∧ ((t.apply call).get hash call.now).isSome

instance (hash : UInt64) (t : ConnTable) (call : TableCall) : Decidable (Tracked hash t call) :=
  inferInstanceAs (Decidable (_ ∧ _))

/-- What a successful lookup ends at. -/
theorem get_found (found : (t.get hash now).isSome) :
    ∃ idx, t.probe hash = some idx ∧ slots t.entries idx = some (entry_at t.entries idx) ∧
      (entry_at t.entries idx).hash = hash ∧ Live t.ttls now (entry_at t.entries idx) ∧
      t.state_of hash = some (entry_at t.entries idx).tcp_state := by
  rw [ConnTable.get] at found
  cases at_idx : t.probe hash with
  | none => simp [at_idx] at found
  | some idx =>
    obtain ⟨_,held,same,_⟩ := probe_found t.sized at_idx
    cases expired : is_expired t.ttls (entry_at t.entries idx) now with
    | true => simp [at_idx,expired] at found
    | false => exact ⟨idx,rfl,held,same,expired,by simp [state_of,at_idx]⟩

/-- An update in place that demotes no entry does not demote the entry found. -/
theorem with_matching_entry_rank {f : ConnEntry → ConnEntry} {hash' : UInt64}
    (keeps : ∀ e, (f e).hash = e.hash ∧ (f e).occupied = e.occupied)
    (promotes : ∀ e, rank e.tcp_state ≤ rank (f e).tcp_state) (fronted : t.Fronted (Live t.ttls now) hash) {i j : Nat}
    {e e' : ConnEntry} (at_i : slots t.entries i = some e) (alive : Live t.ttls now e) (same : e.hash = hash)
    (found : t.probe hash = some i) (at_j : slots (t.with_matching_entry hash' f).entries j = some e')
    (alive' : Live t.ttls now e') (same' : e'.hash = hash) : rank e.tcp_state ≤ rank e'.tcp_state := by
  have unmoved : slots t.entries j = some e' → e = e' := by
    intro before
    have here := Probing.Fronted.unique fronted (slots_inside at_i) (slots_inside before) at_i before same same' alive
      alive'
    rw [here,before] at at_i
    exact (Option.some.inj at_i).symm
  rcases slots_with_matching_entry t hash' keeps with equal | ⟨idx,at_idx,replaced⟩
  · rw [equal] at at_j
    rw [unmoved at_j]
  · rw [replaced] at at_j
    by_cases here : j = idx
    · subst here
      rw [Function.update_self] at at_j
      cases at_j
      obtain ⟨_,_,ofHash,_⟩ := probe_found t.sized at_idx
      have own : hash' = hash := Eq.trans ofHash.symm ((keeps _).1.symm.trans same')
      rw [← own,at_idx] at found
      cases found
      rw [← (slots_eq_some at_i).1]
      exact promotes _
    · rw [Function.update_of_ne here] at at_j
      rw [unmoved at_j]

/-- A call that comes to the live entry of a tracked hash does not demote it. -/
theorem Tracked.promotes {call : TableCall} (tracked : Tracked hash t call)
    (fronted : t.Fronted (Live t.ttls call.now) hash) (reaches : Reaches (Live t.ttls) hash t call) :
    ∃ s s', t.state_of hash = some s ∧ (t.apply call).state_of hash = some s' ∧ rank s ≤ rank s' := by
  obtain ⟨i,found,at_i,same,alive,state⟩ := get_found tracked.1
  obtain ⟨j,_,at_j,same',alive',state'⟩ := get_found tracked.2
  refine ⟨_,_,state,state',?_⟩
  rw [(apply_ttls call).1] at alive'
  generalize entry_at (t.apply call).entries j = e' at at_j same' alive'
  have unmoved : ∀ k, slots t.entries k = some e' → k = i ∧ entry_at t.entries i = e' := by
    intro k before
    have here := Probing.Fronted.unique fronted (slots_inside before) (slots_inside at_i) before at_i same' same alive'
      alive
    subst here
    exact ⟨rfl,(slots_eq_some before).1⟩
  obtain ⟨now,op⟩ := call
  cases op with
  | insert hash' backend_ip proto tcp_state =>
    change slots (t.insert hash' backend_ip proto tcp_state now).1.entries j = some e' at at_j
    by_cases own : hash' = hash
    · subst own
      have replaced := @Probing.Fronted.insert_counted _ _ t.scheme (Live t.ttls now) _ (slots t.entries) _ _
        merge_entry (new_entry hash' backend_ip proto tcp_state now) _ fronted (reaches rfl) _ (slots_inside at_i) at_i
        same alive
      rw [← (t.insert_eq hash' backend_ip proto tcp_state now).1,if_pos alive] at replaced
      rw [replaced] at at_j
      by_cases here : j = i
      · subst here
        rw [Function.update_self] at at_j
        cases at_j
        exact rank_promote _ _
      · rw [Function.update_of_ne here] at at_j
        exact absurd (unmoved j at_j).1 here
    · have inside := slots_inside at_j
      rw [insert_length] at inside
      obtain ⟨k,_,before⟩ := (insert_fronted_other _ _ _ fronted own fun _ alive => alive).2 j inside e' at_j same'
      rw [(unmoved k before).2]
  | touch hash' =>
    exact with_matching_entry_rank (f := fun e => { e with last_seen := now }) (fun _ => ⟨rfl,rfl⟩)
      (fun _ => le_refl _) fronted at_i alive same found at_j alive' same'
  | mark_established hash' =>
    refine with_matching_entry_rank (fun e => ?_) (fun e => ?_) fronted at_i alive same found at_j alive' same'
    · split_ifs <;> exact ⟨rfl,rfl⟩
    · split_ifs with open_
      · exact rank_established open_.2
      · exact le_refl _
  | mark_closing hash' =>
    refine with_matching_entry_rank (fun e => ?_) (fun e => ?_) fronted at_i alive same found at_j alive' same'
    · split_ifs <;> exact ⟨rfl,rfl⟩
    · split_ifs
      · exact rank_closing _
      · exact le_refl _

theorem tracked_run {calls : List TableCall} {start : Nat} {ttls : ConnTtls} (own : t.ttls = ttls)
    (fronted : t.Fronted (Live ttls start) hash) (clocked : Runs.Clocked TableCall.now start calls)
    (reaches : Runs.Along apply (Reaches (Live ttls) hash) t calls) (tracked : Runs.Along apply (Tracked hash) t calls)
    {s : TcpFlowState} (state : t.state_of hash = some s) :
    ∃ s', (calls.foldl apply t).state_of hash = some s' ∧ rank s ≤ rank s' := by
  induction calls generalizing t start s with
  | nil => exact ⟨s,state,le_refl _⟩
  | cons call calls ih =>
    subst own
    have now_fronted : t.Fronted (Live t.ttls call.now) hash :=
      Probing.Fronted.weaken fronted fun _ alive => Live.earlier clocked.1 alive
    obtain ⟨s₀,s₁,before,after,step⟩ := tracked.1.promotes now_fronted reaches.1
    rw [state] at before
    cases before
    obtain ⟨s',final,rest⟩ := ih (apply_ttls call).1 (apply_fronted now_fronted (fun _ alive => alive) reaches.1)
      clocked.2 reaches.2 tracked.2 after
    exact ⟨s',final,Nat.le_trans step rest⟩

theorem run_fronted {calls : List TableCall} {start : Nat} {ttls : ConnTtls} (own : t.ttls = ttls)
    (fronted : t.Fronted (Live ttls start) hash) (clocked : Runs.Clocked TableCall.now start calls)
    (reaches : Runs.Along apply (Reaches (Live ttls) hash) t calls) :
    (calls.foldl apply t).ttls = ttls ∧
      (calls.foldl apply t).Fronted (Live ttls (Runs.lastTime TableCall.now start calls)) hash := by
  refine clocked.invariant (fun now t => t.ttls = ttls ∧ t.Fronted (Live ttls now) hash) ?_ ?_ reaches ⟨own,fronted⟩
  · rintro now now' t later ⟨own,fronted⟩
    exact ⟨own,Probing.Fronted.weaken fronted fun _ alive => Live.earlier later alive⟩
  · rintro t call ⟨rfl,fronted⟩ reaches
    exact ⟨(apply_ttls call).1,apply_fronted fronted (fun _ alive => alive) reaches⟩

end ConnTable

/-- In every run in which each insertion of a hash comes to its live entry, the TCP
    state that is found for the hash does not move down while the hash is looked
    up with success. -/
theorem state_monotone (bits : Nat) (small : bits < 64) (ttls : ConnTtls) (start : Nat) (hash : UInt64)
    (calls later : List TableCall) (clocked : Runs.Clocked TableCall.now start (calls ++ later))
    (reaches : Runs.Along ConnTable.apply (ConnTable.Reaches (Live ttls) hash)
      (ConnTable.new bits small ttls start) (calls ++ later)) :
    let t := calls.foldl ConnTable.apply (ConnTable.new bits small ttls start)
    Runs.Along ConnTable.apply (ConnTable.Tracked hash) t later → ∀ s, t.state_of hash = some s →
      (∃ s', (later.foldl ConnTable.apply t).state_of hash = some s' ∧ rank s ≤ rank s') ∧
      (s = .Closing → (later.foldl ConnTable.apply t).state_of hash = some .Closing) := by
  intro t tracked s state
  obtain ⟨clocked,clockedLater⟩ := (Runs.clocked_append start calls later).mp clocked
  obtain ⟨reaches,reachesLater⟩ := (Runs.along_append _ calls later).mp reaches
  obtain ⟨own,fronted⟩ := ConnTable.run_fronted (t := ConnTable.new bits small ttls start) rfl
    (ConnTable.new_fronted bits small ttls start) clocked reaches
  obtain ⟨s',final,promoted⟩ := ConnTable.tracked_run own fronted clockedLater reachesLater tracked state
  refine ⟨⟨s',final,promoted⟩,?_⟩
  rintro rfl
  cases s' with
  | Closing => exact final
  | Handshake | NotTcp | Established => exact absurd promoted (by decide)

theorem state_monotone_closing :
    let t := [insertion 0 0 1 .Handshake,insertion 0 4 1 .Established,⟨from_secs 1,.mark_closing 4⟩].foldl
      ConnTable.apply (ConnTable.new 2 (by decide) short_ttls 0)
    ∃ s', (t.apply (insertion 2 4 2 .Handshake)).state_of 4 = some s' ∧ rank .Closing ≤ rank s' :=
  (state_monotone 2 (by decide) short_ttls 0 4
    [insertion 0 0 1 .Handshake,insertion 0 4 1 .Established,⟨from_secs 1,.mark_closing 4⟩] [insertion 2 4 2 .Handshake]
    ⟨by decide,by decide,by decide,by decide,trivial⟩ ⟨by decide,by decide,by decide,by decide,trivial⟩
    ⟨by decide,trivial⟩ .Closing (by decide)).1

/-- Hash 4 is closing in slot 1 when the entry of hash 0 expires; its next insertion
    takes slot 0, where the lookups find it in its handshake. -/
theorem reclaimed_slot_demotes :
    ¬ ∀ (bits : Nat) (small : bits < 64) (ttls : ConnTtls) (start : Nat) (hash : UInt64)
      (calls later : List TableCall), Runs.Clocked TableCall.now start (calls ++ later) →
      let t := calls.foldl ConnTable.apply (ConnTable.new bits small ttls start)
      Runs.Along ConnTable.apply (ConnTable.Tracked hash) t later → ∀ s, t.state_of hash = some s →
        ∃ s', (later.foldl ConnTable.apply t).state_of hash = some s' ∧ rank s ≤ rank s' := by
  intro monotone
  obtain ⟨s',demoted,promoted⟩ := monotone 2 (by decide) short_ttls 0 4
    [insertion 0 0 1 .Handshake,insertion 0 4 1 .Established,⟨from_secs 6,.mark_closing 4⟩] [insertion 6 4 2 .Handshake]
    ⟨by decide,by decide,by decide,by decide,trivial⟩ ⟨by decide,trivial⟩ .Closing (by decide)
  have handshake : some TcpFlowState.Handshake = some s' := Eq.trans (by decide) demoted
  cases handshake
  exact absurd promoted (by decide)

end Lb.Connections
