import Lb.Slots
import Lb.Runs
import Lb.Packet

/-!
# The connection table

Open addressing with Robin Hood displacement over a power of two of slots, where
entries of different protocols and TCP states expire on different schedules. A
lookup finds every live entry of the table as long as no insertion has taken the
slot of an expired entry in front of a live one.
-/
namespace Lb.Connections
open Lb.Addr Lb.Types Lb.Packet Lb.Slots

structure ConnEntry where
  hash : UInt64
  backend_ip : IpAddr
  last_seen : Nat
  proto : FlowProto
  tcp_state : TcpFlowState
  occupied : Bool
deriving DecidableEq

inductive InsertResult
  | Inserted
  | Updated
  | EvictedExpired
  | DroppedFull
deriving DecidableEq

structure ConnTable where
  entries : List ConnEntry
  mask : Nat
  ttls : ConnTtls
  size : Nat
  sized : Sized entries.length mask

def empty_entry (init_time : Nat) : ConnEntry :=
  { hash := 0, backend_ip := .V4 .UNSPECIFIED, last_seen := init_time, proto := .Other, tcp_state := .NotTcp,
    occupied := false }

instance : Slot ConnEntry := ⟨ConnEntry.hash,ConnEntry.occupied,empty_entry 0⟩

/-- A capacity that is not a power of two is refused. -/
def ConnTable.new (bits : Nat) (small : bits < 64) (ttls : ConnTtls) (init_time : Nat) : ConnTable where
  entries := List.replicate (2 ^ bits) (empty_entry init_time)
  mask := 2 ^ bits - 1
  ttls := ttls
  size := 0
  sized := ⟨bits,small,by simp,rfl⟩

def ttl_for (ttls : ConnTtls) : FlowProto → TcpFlowState → Nat
  | .Tcp, .Handshake => ttls.tcp_handshake
  | .Tcp, .Closing => ttls.tcp_closing
  | .Tcp, _ => ttls.tcp_established
  | .Udp, _ => ttls.udp
  | .Other, _ => ttls.other

/-- `duration_since` is zero for a time that lies ahead. -/
def is_expired (ttls : ConnTtls) (entry : ConnEntry) (now : Nat) : Bool :=
  decide (ttl_for ttls entry.proto entry.tcp_state < now - entry.last_seen)

def promote_state : TcpFlowState → TcpFlowState → TcpFlowState
  | .Closing, _ | _, .Closing => .Closing
  | .Established, _ | _, .Established => .Established
  | .NotTcp, _ | _, .NotTcp => .NotTcp
  | .Handshake, .Handshake => .Handshake

namespace ConnTable

def capacity (t : ConnTable) : Nat := t.mask + 1
def len (t : ConnTable) : Nat := t.size
def fill_bp (t : ConnTable) : Nat := t.size * 10000 / t.capacity

def probe (t : ConnTable) (hash : UInt64) : Option Nat := Slots.probe t.entries t.mask hash

def get (t : ConnTable) (hash : UInt64) (now : Nat) : Option IpAddr :=
  match t.probe hash with
  | none => none
  | some idx =>
    let entry := entry_at t.entries idx
    if is_expired t.ttls entry now then none else some entry.backend_ip

/-- The table with the entry of one slot replaced. -/
def store (t : ConnTable) (idx : Nat) (entry : ConnEntry) : ConnTable :=
  { t with entries := t.entries.set idx entry, sized := by simpa using t.sized }

def with_matching_entry (t : ConnTable) (hash : UInt64) (f : ConnEntry → ConnEntry) : ConnTable :=
  match t.probe hash with
  | none => t
  | some idx => t.store idx (f (entry_at t.entries idx))

def touch (t : ConnTable) (hash : UInt64) (now : Nat) : ConnTable :=
  t.with_matching_entry hash (fun entry => { entry with last_seen := now })
def mark_established (t : ConnTable) (hash : UInt64) (now : Nat) : ConnTable :=
  t.with_matching_entry hash (fun entry =>
    if entry.proto = .Tcp ∧ entry.tcp_state ≠ .Closing then
      { entry with tcp_state := .Established, last_seen := now }
    else entry)
def mark_closing (t : ConnTable) (hash : UInt64) (now : Nat) : ConnTable :=
  t.with_matching_entry hash (fun entry =>
    if entry.proto = .Tcp then { entry with tcp_state := .Closing, last_seen := now } else entry)

end ConnTable

/-- An update in place: `Closing` is terminal and `Established` is not demoted. -/
def merge_entry (entry cur : ConnEntry) : ConnEntry :=
  { entry with
    backend_ip := cur.backend_ip
    last_seen := cur.last_seen
    proto := cur.proto
    tcp_state := promote_state entry.tcp_state cur.tcp_state }

/-- The loop of `insert`: the entries, the number of occupied slots and the
    result, from slot `idx` on, `dist` steps from the home of `cur`. -/
def insert_from (mask : Nat) (ttls : ConnTtls) (now : Nat) :
    Nat → List ConnEntry → Nat → Nat → ConnEntry → Nat → Bool → List ConnEntry × Nat × InsertResult
  | 0, entries, size, _, _, _, _ => (entries,size,.DroppedFull)
  | fuel + 1, entries, size, idx, cur, dist, reclaimed_expired =>
    let entry := entry_at entries idx
    if !entry.occupied then
      (entries.set idx cur,size + 1,if reclaimed_expired then .EvictedExpired else .Inserted)
    else if is_expired ttls entry now then (entries.set idx cur,size,.EvictedExpired)
    else if entry.hash = cur.hash then (entries.set idx (merge_entry entry cur),size,.Updated)
    else
      let incumbent_dist := probe_distance mask entry.hash idx
      if incumbent_dist < dist then
        insert_from mask ttls now fuel (entries.set idx cur) size ((idx + 1) &&& mask) entry (incumbent_dist + 1)
          (reclaimed_expired || false)
      else
        insert_from mask ttls now fuel entries size ((idx + 1) &&& mask) cur (dist + 1) (reclaimed_expired || false)

theorem insert_from_length (mask : Nat) (ttls : ConnTtls) (now : Nat) :
    ∀ fuel entries size idx cur dist reclaimed,
      (insert_from mask ttls now fuel entries size idx cur dist reclaimed).1.length = entries.length := by
  intro fuel
  induction fuel with
  | zero => intros; rfl
  | succ fuel ih =>
    intro entries size idx cur dist reclaimed
    simp only [insert_from]
    split_ifs <;> simp [ih]

def new_entry (hash : UInt64) (backend_ip : IpAddr) (proto : FlowProto) (tcp_state : TcpFlowState) (now : Nat) :
    ConnEntry :=
  { hash, backend_ip, last_seen := now, proto, tcp_state, occupied := true }

def ConnTable.insert (t : ConnTable) (hash : UInt64) (backend_ip : IpAddr) (proto : FlowProto)
    (tcp_state : TcpFlowState) (now : Nat) : ConnTable × InsertResult :=
  let r := insert_from t.mask t.ttls now t.capacity t.entries t.size (hash.toNat &&& t.mask)
    (new_entry hash backend_ip proto tcp_state now) 0 false
  ({ t with entries := r.1, size := r.2.1, sized := by rw [insert_from_length]; exact t.sized },r.2.2)

/-! ### The table as a probing table -/

/-- The entry has not expired. -/
def Live (ttls : ConnTtls) (now : Nat) (entry : ConnEntry) : Prop := is_expired ttls entry now = false

instance (ttls : ConnTtls) (now : Nat) : DecidablePred (Live ttls now) :=
  fun entry => inferInstanceAs (Decidable (is_expired ttls entry now = false))

theorem Live.earlier {ttls : ConnTtls} {now now' : Nat} {e : ConnEntry} (later : now ≤ now')
    (alive : Live ttls now' e) : Live ttls now e := by
  simp only [Live,is_expired,decide_eq_false_iff_not,not_lt] at alive ⊢
  omega
/-- An entry seen just now has not expired. -/
theorem live_now {ttls : ConnTtls} {now : Nat} {e : ConnEntry} (seen : e.last_seen = now) : Live ttls now e := by
  simp [Live,is_expired,seen]

namespace ConnTable
variable {t t' : ConnTable} {hash : UInt64} {now : Nat}

def scheme (t : ConnTable) : Probing.Scheme ConnEntry UInt64 := Slots.scheme ConnEntry t.entries.length t.sized.pos

/-- Every live entry is where a lookup of its hash ends. -/
def Sound (t : ConnTable) (now : Nat) : Prop := Probing.Sound t.scheme (Live t.ttls now) (slots t.entries)
/-- The table holds the entry, live. -/
def Holds (t : ConnTable) (now : Nat) (e : ConnEntry) : Prop :=
  Probing.Holds t.scheme (Live t.ttls now) (slots t.entries) e
/-- If an insertion of the hash comes to the slot of an expired entry, then no
    live entry that passes the slot is of that hash, or farther from its home
    there than the hash is from its own. -/
def ReclaimSafe (t : ConnTable) (hash : UInt64) (now : Nat) : Prop :=
  Probing.ReclaimSafe t.scheme (Live t.ttls now) (slots t.entries) hash
/-- Every slot holds a live entry. -/
def Full (t : ConnTable) (now : Nat) : Prop := Probing.Full t.scheme (Live t.ttls now) (slots t.entries)

theorem scheme_eq (same : t'.entries.length = t.entries.length) : t'.scheme = t.scheme := by
  unfold scheme Slots.scheme
  simp only [same]
theorem capacity_eq : t.capacity = t.entries.length := t.sized.capacity_eq

/-- In a sound table a lookup ends at the live entry of its hash. -/
theorem Sound.probe (sound : t.Sound now) {idx : Nat} {e : ConnEntry} (at_idx : slots t.entries idx = some e)
    (alive : Live t.ttls now e) : t.probe e.hash = some idx := by
  rw [ConnTable.probe,probe_eq t.sized]
  exact Probing.Sound.find sound (slots_inside at_idx) at_idx alive

/-- In a sound table `get` answers with the live entry of the hash. -/
theorem Sound.get (sound : t.Sound now) {e : ConnEntry} (held : t.Holds now e) :
    t.get e.hash now = some e.backend_ip := by
  obtain ⟨alive,idx,_,at_idx⟩ := held
  have found := sound.probe at_idx alive
  obtain ⟨rfl,_⟩ := slots_eq_some at_idx
  have fresh : is_expired t.ttls (entry_at t.entries idx) now = false := alive
  simp [ConnTable.get,found,fresh]

/-- What `get` answers is of a live entry that the table holds. -/
theorem get_held {b : IpAddr} (found : t.get hash now = some b) :
    ∃ e, t.Holds now e ∧ e.hash = hash ∧ e.backend_ip = b := by
  rw [ConnTable.get] at found
  cases at_idx : t.probe hash with
  | none => simp [at_idx] at found
  | some idx =>
    obtain ⟨inside,held,same,_⟩ := probe_found t.sized at_idx
    simp only [at_idx,Option.ite_none_left_eq_some,Bool.not_eq_true] at found
    exact ⟨_,⟨found.1,idx,inside,held⟩,same,Option.some.inj found.2⟩

theorem Sound.later {now' : Nat} (sound : t.Sound now) (later : now ≤ now') : t.Sound now' :=
  Probing.Sound.weaken sound (fun _ alive => Live.earlier later alive)

theorem new_sound (bits : Nat) (small : bits < 64) (ttls : ConnTtls) (init_time : Nat) :
    (ConnTable.new bits small ttls init_time).Sound now := by
  intro i inside e at_i
  simp [ConnTable.new,slots_replicate (e := empty_entry init_time) rfl] at at_i

theorem new_get (bits : Nat) (small : bits < 64) (ttls : ConnTtls) (init_time : Nat) :
    (ConnTable.new bits small ttls init_time).get hash now = none := by
  by_contra found
  obtain ⟨backend_ip,found⟩ := Option.ne_none_iff_exists'.mp found
  obtain ⟨e,⟨_,idx,_,at_idx⟩,_⟩ := get_held found
  simp [ConnTable.new,slots_replicate (e := empty_entry init_time) rfl] at at_idx

/-! ### Updates in place -/

theorem store_sound {idx : Nat} {e : ConnEntry} (sound : t.Sound now) (found : t.probe e.hash = some idx)
    (occupied : e.occupied = true) : (t.store idx e).Sound now := by
  obtain ⟨inside,at_idx,_,_⟩ := probe_found t.sized found
  rw [probe,probe_eq t.sized] at found
  have refreshed := Probing.Sound.refresh sound found at_idx
  unfold Sound
  rw [scheme_eq (t := t) (by simp [store])]
  rwa [store,slots_set inside occupied]

theorem with_matching_entry_sound {f : ConnEntry → ConnEntry} (keeps : ∀ e, (f e).hash = e.hash ∧
    (f e).occupied = e.occupied) (sound : t.Sound now) : (t.with_matching_entry hash f).Sound now := by
  rw [with_matching_entry]
  cases found : t.probe hash with
  | none => exact sound
  | some idx =>
    obtain ⟨_,_,same,occupied⟩ := probe_found t.sized found
    refine store_sound sound ?_ ((keeps _).2.trans occupied)
    rw [(keeps _).1]
    exact (congrArg t.probe same).trans found

theorem touch_sound {at_ : Nat} (sound : t.Sound now) : (t.touch hash at_).Sound now :=
  with_matching_entry_sound (fun _ => ⟨rfl,rfl⟩) sound
theorem mark_established_sound {at_ : Nat} (sound : t.Sound now) : (t.mark_established hash at_).Sound now :=
  with_matching_entry_sound (fun e => by split_ifs <;> exact ⟨rfl,rfl⟩) sound
theorem mark_closing_sound {at_ : Nat} (sound : t.Sound now) : (t.mark_closing hash at_).Sound now :=
  with_matching_entry_sound (fun e => by split_ifs <;> exact ⟨rfl,rfl⟩) sound

end ConnTable

/-! ### Insertion -/

/-- The result that an insertion reports. -/
def insertResult : Probing.Outcome ConnEntry → InsertResult
  | .inserted => .Inserted
  | .reclaimed => .EvictedExpired
  | .updated _ => .Updated
  | .dropped _ => .DroppedFull

private theorem insert_from_eq (ttls : ConnTtls) (now : Nat) {mask n : Nat} (sized : Sized n mask) :
    ∀ fuel entries size cur d, entries.length = n → cur.occupied = true →
      let r := insert_from mask ttls now fuel entries size ((Slots.scheme ConnEntry n sized.pos).slot cur.hash d) cur d
        false
      let r' := Probing.insertFrom (Slots.scheme ConnEntry n sized.pos) (Live ttls now) merge_entry fuel
        (slots entries) cur d
      slots r.1 = r'.1 ∧ r.2.2 = insertResult r'.2 := by
  intro fuel
  induction fuel with
  | zero => intros; exact ⟨rfl,rfl⟩
  | succ fuel ih =>
    intro entries size cur d length occupied
    have inside : (Slots.scheme ConnEntry n sized.pos).slot cur.hash d < entries.length := by
      rw [length]
      exact (Slots.scheme ConnEntry n sized.pos).slot_lt _ _
    have next := next_slot ConnEntry sized cur.hash d
    simp only [insert_from,Probing.insertFrom]
    have key : (Slots.scheme ConnEntry n sized.pos).key = ConnEntry.hash := rfl
    set idx := (Slots.scheme ConnEntry n sized.pos).slot cur.hash d with idxIs
    simp only [key,← idxIs]
    cases taken : (entry_at entries idx).occupied with
    | false =>
      have free : slots entries idx = none := slots_free taken
      simp only [free,Bool.not_false,if_true]
      exact ⟨slots_set inside occupied,rfl⟩
    | true =>
      have held : slots entries idx = some (entry_at entries idx) := slots_occupied inside taken
      simp only [held,Bool.not_true,Bool.false_eq_true,if_false]
      by_cases alive : Live ttls now (entry_at entries idx)
      · have fresh : is_expired ttls (entry_at entries idx) now = false := alive
        simp only [alive,fresh,Bool.false_eq_true,not_true_eq_false,if_false]
        by_cases same : (entry_at entries idx).hash = cur.hash
        · simp only [same,if_true]
          exact ⟨slots_set inside taken,rfl⟩
        · have distance : probe_distance mask (entry_at entries idx).hash idx =
              (Slots.scheme ConnEntry n sized.pos).far (entry_at entries idx) idx :=
            probe_distance_eq sized (entry_at entries idx) idx
          simp only [same,if_false,distance,Bool.or_false]
          by_cases closer : (Slots.scheme ConnEntry n sized.pos).far (entry_at entries idx) idx < d
          · simp only [closer,if_true]
            have onward := next_far sized (entry_at entries idx) (length ▸ inside)
            rw [onward,← slots_set inside occupied]
            exact ih (entries.set idx cur) size (entry_at entries idx) _ (by simpa using length) taken
          · simp only [closer,if_false]
            rw [next]
            exact ih entries size cur (d + 1) length occupied
      · have expired : is_expired ttls (entry_at entries idx) now = true := by
          simpa [Live] using alive
        simp only [alive,expired,not_false_eq_true,if_true]
        exact ⟨slots_set inside occupied,rfl⟩

namespace ConnTable
variable (t : ConnTable) (hash : UInt64) (backend_ip : IpAddr) (proto : FlowProto) (tcp_state : TcpFlowState) (now : Nat)

/-- The insertion loop is the insertion of the probing table. -/
theorem insert_eq :
    let r := t.insert hash backend_ip proto tcp_state now
    let r' := Probing.insert t.scheme (Live t.ttls now) merge_entry (slots t.entries)
      (new_entry hash backend_ip proto tcp_state now)
    slots r.1.entries = r'.1 ∧ r.2 = insertResult r'.2 := by
  have agree := insert_from_eq t.ttls now t.sized t.entries.length t.entries t.size
    (new_entry hash backend_ip proto tcp_state now) 0 rfl rfl
  simp only [insert,home_slot ConnEntry t.sized,capacity_eq]
  exact agree

theorem insert_length : (t.insert hash backend_ip proto tcp_state now).1.entries.length = t.entries.length := by
  simp only [insert,insert_from_length]

theorem insert_scheme : (t.insert hash backend_ip proto tcp_state now).1.scheme = t.scheme :=
  scheme_eq (t.insert_length hash backend_ip proto tcp_state now)

variable {t hash now}

/-- What a safe insertion does, to the probing table. -/
theorem insert_outcome (sound : t.Sound now) (safe : t.ReclaimSafe hash now) :
    ∃ outcome, (t.insert hash backend_ip proto tcp_state now).2 = insertResult outcome ∧
      (∀ lost, outcome = .dropped lost → t.Full now) ∧
      (t.insert hash backend_ip proto tcp_state now).1.Sound now ∧
      Probing.Contents t.scheme (Live t.ttls now) merge_entry (slots t.entries)
        (new_entry hash backend_ip proto tcp_state now)
        (slots (t.insert hash backend_ip proto tcp_state now).1.entries) outcome := by
  obtain ⟨entries,result⟩ := t.insert_eq hash backend_ip proto tcp_state now
  have correct := @Probing.insert_correct _ _ t.scheme (Live t.ttls now) _ _ merge_entry (fun _ _ same => same)
    (slots t.entries) (new_entry hash backend_ip proto tcp_state now) (fun _ _ => live_now rfl) (live_now rfl) sound safe
  refine ⟨_,result,fun lost dropped => Probing.insert_dropped dropped,?_,?_⟩
  · unfold Sound
    rw [insert_scheme,entries]
    exact correct.1
  · rw [entries]
    exact correct.2

/-- A safe insertion keeps the table sound. -/
theorem insert_sound (sound : t.Sound now) (safe : t.ReclaimSafe hash now) :
    (t.insert hash backend_ip proto tcp_state now).1.Sound now := by
  obtain ⟨_,_,_,sound',_⟩ := insert_outcome backend_ip proto tcp_state sound safe
  exact sound'

/-- An insertion keeps the table sound exactly when it is safe. -/
theorem insert_sound_iff (sound : t.Sound now) :
    (t.insert hash backend_ip proto tcp_state now).1.Sound now ↔ t.ReclaimSafe hash now := by
  obtain ⟨entries,_⟩ := t.insert_eq hash backend_ip proto tcp_state now
  unfold Sound
  rw [insert_scheme,entries]
  exact @Probing.insert_sound_iff _ _ t.scheme (Live t.ttls now) _ _ merge_entry (fun _ _ same => same)
    (slots t.entries) (new_entry hash backend_ip proto tcp_state now) (fun _ _ => live_now rfl) (live_now rfl) sound

end ConnTable

/-! ### Runs of the table -/

/-- The calls that change a table. -/
inductive TableOp
  | insert (hash : UInt64) (backend_ip : IpAddr) (proto : FlowProto) (tcp_state : TcpFlowState)
  | touch (hash : UInt64)
  | mark_established (hash : UInt64)
  | mark_closing (hash : UInt64)

structure TableCall where
  now : Nat
  op : TableOp

namespace ConnTable

def apply (t : ConnTable) (call : TableCall) : ConnTable :=
  match call.op with
  | .insert hash backend_ip proto tcp_state => (t.insert hash backend_ip proto tcp_state call.now).1
  | .touch hash => t.touch hash call.now
  | .mark_established hash => t.mark_established hash call.now
  | .mark_closing hash => t.mark_closing hash call.now

/-- The call does not take the slot of an expired entry in front of a live one
    that would be hidden by it. -/
def Safe (t : ConnTable) (call : TableCall) : Prop :=
  match call.op with
  | .insert hash _ _ _ => t.ReclaimSafe hash call.now
  | _ => True

/-- A scan of all slots for a live entry of the hash. -/
def scan (t : ConnTable) (hash : UInt64) (now : Nat) : Option IpAddr :=
  (t.entries.find? fun e => e.occupied && decide (e.hash = hash) && !is_expired t.ttls e now).map (·.backend_ip)

instance (t : ConnTable) (hash : UInt64) (now : Nat) : Decidable (t.ReclaimSafe hash now) :=
  inferInstanceAs (Decidable (Probing.ReclaimSafe t.scheme (Live t.ttls now) (slots t.entries) hash))
instance (t : ConnTable) (call : TableCall) : Decidable (t.Safe call) :=
  match call with
  | ⟨now,.insert hash _ _ _⟩ => inferInstanceAs (Decidable (t.ReclaimSafe hash now))
  | ⟨_,.touch _⟩ | ⟨_,.mark_established _⟩ | ⟨_,.mark_closing _⟩ => isTrue trivial

variable {t : ConnTable} {now : Nat}

theorem apply_sound {call : TableCall} (sound : t.Sound call.now) (safe : t.Safe call) :
    (t.apply call).Sound call.now := by
  obtain ⟨at_,op⟩ := call
  cases op with
  | insert hash backend_ip proto tcp_state => exact insert_sound backend_ip proto tcp_state sound safe
  | touch hash => exact touch_sound sound
  | mark_established hash => exact mark_established_sound sound
  | mark_closing hash => exact mark_closing_sound sound

theorem run_sound {calls : List TableCall} {start : Nat} (sound : t.Sound start)
    (clocked : Runs.Clocked TableCall.now start calls) (safe : Runs.Along apply Safe t calls) :
    (calls.foldl apply t).Sound (Runs.lastTime TableCall.now start calls) :=
  clocked.invariant (fun now t => t.Sound now) (fun _ _ _ later sound => sound.later later)
    (fun _ _ sound safe => apply_sound sound safe) safe sound

/-- In a sound table the lookup answers what a scan answers. -/
theorem Sound.get_eq_scan (sound : t.Sound now) (hash : UInt64) : t.get hash now = t.scan hash now := by
  rw [scan]
  cases scanned : t.entries.find? (fun e => e.occupied && decide (e.hash = hash) && !is_expired t.ttls e now) with
  | some e =>
    obtain ⟨⟨occupied,same⟩,alive⟩ : (e.occupied = true ∧ e.hash = hash) ∧ is_expired t.ttls e now = false := by
      simpa using List.find?_some scanned
    obtain ⟨i,inside,rfl⟩ := List.getElem_of_mem (List.mem_of_find?_eq_some scanned)
    have held : t.Holds now t.entries[i] := by
      refine ⟨alive,i,inside,?_⟩
      simp [slots,inside,show Slot.occupied t.entries[i] = true from occupied]
    rw [← same,sound.get held]
    rfl
  | none =>
    rw [List.find?_eq_none] at scanned
    cases answer : t.get hash now with
    | none => rfl
    | some b =>
      obtain ⟨e,⟨alive,i,inside,at_i⟩,same,_⟩ := get_held answer
      have listed : e ∈ t.entries := by
        rw [slots,Option.bind_eq_some_iff] at at_i
        obtain ⟨e',at_i,taken⟩ := at_i
        split_ifs at taken
        cases taken
        exact List.mem_of_getElem? at_i
      have dead := scanned e listed
      have fresh : is_expired t.ttls e now = false := alive
      simp [same,fresh,show e.occupied = true from (slots_eq_some at_i).2] at dead

end ConnTable

/-- Every live entry of a table is found, and a lookup answers what a scan
    answers, at the end of every run in which no insertion takes the slot of an
    expired entry in front of a live one that would be hidden by it. -/
theorem lookup_complete (bits : Nat) (small : bits < 64) (ttls : ConnTtls) (start : Nat) (calls : List TableCall)
    (clocked : Runs.Clocked TableCall.now start calls)
    (safe : Runs.Along ConnTable.apply ConnTable.Safe (ConnTable.new bits small ttls start) calls) (now : Nat)
    (later : Runs.lastTime TableCall.now start calls ≤ now) :
    let t := calls.foldl ConnTable.apply (ConnTable.new bits small ttls start)
    (∀ idx < t.entries.length, (entry_at t.entries idx).occupied = true →
      is_expired t.ttls (entry_at t.entries idx) now = false →
      t.get (entry_at t.entries idx).hash now = some (entry_at t.entries idx).backend_ip) ∧
    ∀ hash, t.get hash now = t.scan hash now := by
  intro t
  have sound : t.Sound now := (ConnTable.run_sound (ConnTable.new_sound bits small ttls start) clocked safe).later later
  constructor
  · intro idx inside occupied fresh
    exact sound.get ⟨fresh,idx,inside,slots_occupied inside occupied⟩
  · exact sound.get_eq_scan

private def minute : ConnTtls := .with_established (from_secs 60)
private def call (secs : Nat) (hash : UInt64) (tcp_state : TcpFlowState) : TableCall :=
  ⟨from_secs secs,.insert hash (.V4 .UNSPECIFIED) .Tcp tcp_state⟩

theorem lookup_complete_reclaimed :
    let t := [call 0 0 .Handshake,call 1 4 .Established,call 6 8 .Established].foldl ConnTable.apply
      (ConnTable.new 2 (by decide) minute 0)
    (∀ idx < t.entries.length, (entry_at t.entries idx).occupied = true →
      is_expired t.ttls (entry_at t.entries idx) (from_secs 9) = false →
      t.get (entry_at t.entries idx).hash (from_secs 9) = some (entry_at t.entries idx).backend_ip) ∧
    ∀ hash, t.get hash (from_secs 9) = t.scan hash (from_secs 9) :=
  lookup_complete 2 (by decide) minute 0 [call 0 0 .Handshake,call 1 4 .Established,call 6 8 .Established]
    ⟨by decide,by decide,by decide,trivial⟩ ⟨by decide,by decide,by decide,trivial⟩ (from_secs 9) (by decide)

/-- Slots 0, 1 and 2 hold hashes 0, 4 and 8. Hash 4 expires first, and hash 1
    takes its slot, its own home, where the lookup of hash 8 then gives up. -/
theorem reclaim_hides_live_entry :
    ¬ ∀ (bits : Nat) (small : bits < 64) (ttls : ConnTtls) (start : Nat) (calls : List TableCall),
      Runs.Clocked TableCall.now start calls → ∀ now, Runs.lastTime TableCall.now start calls ≤ now →
      let t := calls.foldl ConnTable.apply (ConnTable.new bits small ttls start)
      ∀ idx < t.entries.length, (entry_at t.entries idx).occupied = true →
        is_expired t.ttls (entry_at t.entries idx) now = false →
        (t.get (entry_at t.entries idx).hash now).isSome := by
  intro complete
  have found := complete 2 (by decide) minute 0
    [call 0 0 .Established,call 0 4 .Handshake,call 0 8 .Established,call 6 1 .Established]
    ⟨by decide,by decide,by decide,by decide,trivial⟩ (from_secs 6) (by decide) 2 (by decide) (by decide) (by decide)
  exact absurd found (by decide)

end Lb.Connections
