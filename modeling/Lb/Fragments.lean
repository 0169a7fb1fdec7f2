import Lb.Slots
import Lb.Runs
import Lb.Addr

/-!
# The fragment table

The backends that the first fragments of datagrams went to, by the hash of the
3-tuple that all fragments of a datagram share. It probes as the connection
table does, with one time to live for all entries.
-/
namespace Lb.Fragments
open Lb.Addr Lb.Slots

structure FragmentEntry where
  hash : UInt64
  backend_ip : IpAddr
  inserted_at : Nat
  occupied : Bool
deriving DecidableEq

structure FragmentTable where
  entries : List FragmentEntry
  mask : Nat
  ttl : Nat
  sized : Sized entries.length mask

def empty_entry (init_time : Nat) : FragmentEntry :=
  { hash := 0, backend_ip := .V4 .UNSPECIFIED, inserted_at := init_time, occupied := false }

instance : Slot FragmentEntry := ⟨FragmentEntry.hash,FragmentEntry.occupied,empty_entry 0⟩

/-- The entry is older than the time to live. -/
def is_expired (ttl : Nat) (entry : FragmentEntry) (now : Nat) : Bool := decide (ttl < now - entry.inserted_at)

/-- The loop of `insert`: the entries, from slot `idx` on, `dist` steps from the
    home of `cur`. -/
def insert_from (mask ttl now : Nat) : Nat → List FragmentEntry → Nat → FragmentEntry → Nat → List FragmentEntry
  | 0, entries, _, _, _ => entries
  | fuel + 1, entries, idx, cur, dist =>
    let entry := entry_at entries idx
    if !entry.occupied || is_expired ttl entry now || entry.hash = cur.hash then entries.set idx cur
    else
      let incumbent_dist := probe_distance mask entry.hash idx
      if incumbent_dist < dist then
        insert_from mask ttl now fuel (entries.set idx cur) ((idx + 1) &&& mask) entry (incumbent_dist + 1)
      else insert_from mask ttl now fuel entries ((idx + 1) &&& mask) cur (dist + 1)

theorem insert_from_length (mask ttl now : Nat) :
    ∀ fuel entries idx cur dist, (insert_from mask ttl now fuel entries idx cur dist).length = entries.length := by
  intro fuel
  induction fuel with
  | zero => intros; rfl
  | succ fuel ih =>
    intro entries idx cur dist
    simp only [insert_from]
    split_ifs <;> simp [ih]

def new_entry (hash : UInt64) (backend_ip : IpAddr) (now : Nat) : FragmentEntry :=
  { hash, backend_ip, inserted_at := now, occupied := true }

namespace FragmentTable

/-- A capacity that is not a power of two is refused. -/
def new (bits : Nat) (small : bits < 64) (ttl init_time : Nat) : FragmentTable where
  entries := List.replicate (2 ^ bits) (empty_entry init_time)
  mask := 2 ^ bits - 1
  ttl := ttl
  sized := ⟨bits,small,by simp,rfl⟩

def get (t : FragmentTable) (hash : UInt64) (now : Nat) : Option IpAddr :=
  match probe t.entries t.mask hash with
  | none => none
  | some idx =>
    let entry := entry_at t.entries idx
    if is_expired t.ttl entry now then none else some entry.backend_ip

def insert (t : FragmentTable) (hash : UInt64) (backend_ip : IpAddr) (now : Nat) : FragmentTable :=
  { t with
    entries := insert_from t.mask t.ttl now (t.mask + 1) t.entries (hash.toNat &&& t.mask)
      (new_entry hash backend_ip now) 0
    sized := by rw [insert_from_length]; exact t.sized }

end FragmentTable

/-! ### The table as a probing table -/

/-- The entry has not expired. -/
def Live (ttl now : Nat) (entry : FragmentEntry) : Prop := is_expired ttl entry now = false

instance (ttl now : Nat) : DecidablePred (Live ttl now) :=
  fun entry => inferInstanceAs (Decidable (is_expired ttl entry now = false))

theorem Live.earlier {ttl now now' : Nat} {e : FragmentEntry} (later : now ≤ now') (alive : Live ttl now' e) :
    Live ttl now e := by
  simp only [Live,is_expired,decide_eq_false_iff_not,not_lt] at alive ⊢
  omega

private theorem insert_from_eq (ttl now : Nat) {mask n : Nat} (sized : Sized n mask) :
    ∀ fuel entries cur d, entries.length = n → cur.occupied = true →
      slots (insert_from mask ttl now fuel entries ((Slots.scheme FragmentEntry n sized.pos).slot cur.hash d) cur d) =
        (Probing.insertFrom (Slots.scheme FragmentEntry n sized.pos) (Live ttl now) (fun _ cur => cur) fuel
          (slots entries) cur d).1 := by
  intro fuel
  induction fuel with
  | zero => intros; rfl
  | succ fuel ih =>
    intro entries cur d length occupied
    have inside : (Slots.scheme FragmentEntry n sized.pos).slot cur.hash d < entries.length := by
      rw [length]
      exact (Slots.scheme FragmentEntry n sized.pos).slot_lt _ _
    have next := next_slot FragmentEntry sized cur.hash d
    simp only [insert_from,Probing.insertFrom]
    have key : (Slots.scheme FragmentEntry n sized.pos).key = FragmentEntry.hash := rfl
    set idx := (Slots.scheme FragmentEntry n sized.pos).slot cur.hash d with idxIs
    simp only [key,← idxIs]
    cases taken : (entry_at entries idx).occupied with
    | false =>
      have free : slots entries idx = none := slots_free taken
      simp only [free,Bool.not_false,Bool.true_or,if_true]
      exact slots_set inside occupied
    | true =>
      have held : slots entries idx = some (entry_at entries idx) := slots_occupied inside taken
      simp only [held,Bool.not_true,Bool.false_or,Bool.or_eq_true,decide_eq_true_eq]
      by_cases alive : Live ttl now (entry_at entries idx)
      · have fresh : is_expired ttl (entry_at entries idx) now = false := alive
        simp only [alive,fresh,Bool.false_eq_true,false_or,not_true_eq_false,if_false]
        by_cases same : (entry_at entries idx).hash = cur.hash
        · simp only [same,if_true]
          exact slots_set inside occupied
        · have distance : probe_distance mask (entry_at entries idx).hash idx =
              (Slots.scheme FragmentEntry n sized.pos).far (entry_at entries idx) idx :=
            probe_distance_eq sized (entry_at entries idx) idx
          simp only [same,if_false,distance]
          by_cases closer : (Slots.scheme FragmentEntry n sized.pos).far (entry_at entries idx) idx < d
          · simp only [closer,if_true]
            have onward := next_far sized (entry_at entries idx) (length ▸ inside)
            rw [onward,← slots_set inside occupied]
            exact ih (entries.set idx cur) (entry_at entries idx) _ (by simpa using length) taken
          · simp only [closer,if_false]
            rw [next]
            exact ih entries cur (d + 1) length occupied
      · have expired : is_expired ttl (entry_at entries idx) now = true := by
          simpa [Live] using alive
        simp only [alive,expired,true_or,not_false_eq_true,if_true]
        exact slots_set inside occupied

namespace FragmentTable
variable {t t' : FragmentTable} {hash : UInt64} {backend_ip : IpAddr} {now : Nat}

def scheme (t : FragmentTable) : Probing.Scheme FragmentEntry UInt64 :=
  Slots.scheme FragmentEntry t.entries.length t.sized.pos

/-- Every live entry is where a lookup of its hash ends. -/
def Sound (t : FragmentTable) (now : Nat) : Prop := Probing.Sound t.scheme (Live t.ttl now) (slots t.entries)
/-- The table holds the entry, live. -/
def Holds (t : FragmentTable) (now : Nat) (e : FragmentEntry) : Prop :=
  Probing.Holds t.scheme (Live t.ttl now) (slots t.entries) e
/-- If an insertion of the hash comes to the slot of an expired entry, then no
    live entry that passes the slot is of that hash, or farther from its home
    there than the hash is from its own. -/
def ReclaimSafe (t : FragmentTable) (hash : UInt64) (now : Nat) : Prop :=
  Probing.ReclaimSafe t.scheme (Live t.ttl now) (slots t.entries) hash

/-- No slot is free, or holds an expired entry. -/
def Full (t : FragmentTable) (now : Nat) : Prop := Probing.Full t.scheme (Live t.ttl now) (slots t.entries)

instance (t : FragmentTable) (hash : UInt64) (now : Nat) : Decidable (t.ReclaimSafe hash now) :=
  inferInstanceAs (Decidable (Probing.ReclaimSafe t.scheme (Live t.ttl now) (slots t.entries) hash))

instance (t : FragmentTable) (now : Nat) : Decidable (t.Full now) :=
  inferInstanceAs (Decidable (∀ i < t.scheme.n, ∃ e ∈ slots t.entries i, Live t.ttl now e))

theorem new_sound (bits : Nat) (small : bits < 64) (ttl init_time : Nat) :
    (FragmentTable.new bits small ttl init_time).Sound now := by
  intro i inside e at_i
  simp [FragmentTable.new,slots_replicate (e := empty_entry init_time) rfl] at at_i

theorem Sound.later {now' : Nat} (sound : t.Sound now) (later : now ≤ now') : t.Sound now' :=
  Probing.Sound.weaken sound (fun _ alive => Live.earlier later alive)

/-- In a sound table `get` answers with the live entry of the hash. -/
theorem Sound.get (sound : t.Sound now) {e : FragmentEntry} (held : t.Holds now e) :
    t.get e.hash now = some e.backend_ip := by
  obtain ⟨alive,idx,_,at_idx⟩ := held
  have found : probe t.entries t.mask e.hash = some idx := by
    rw [probe_eq t.sized]
    exact Probing.Sound.find sound (slots_inside at_idx) at_idx alive
  obtain ⟨rfl,_⟩ := slots_eq_some at_idx
  have fresh : is_expired t.ttl (entry_at t.entries idx) now = false := alive
  simp [FragmentTable.get,found,fresh]

theorem scheme_eq (same : t'.entries.length = t.entries.length) : t'.scheme = t.scheme := by
  unfold scheme Slots.scheme
  simp only [same]

/-- The insertion loop is the insertion of the probing table. -/
theorem insert_eq (t : FragmentTable) (hash : UInt64) (backend_ip : IpAddr) (now : Nat) :
    slots (t.insert hash backend_ip now).entries =
      (Probing.insert t.scheme (Live t.ttl now) (fun _ cur => cur) (slots t.entries)
        (new_entry hash backend_ip now)).1 := by
  have agree := insert_from_eq t.ttl now t.sized t.entries.length t.entries (new_entry hash backend_ip now) 0 rfl rfl
  simp only [insert,home_slot FragmentEntry t.sized,t.sized.capacity_eq]
  exact agree

theorem insert_scheme (t : FragmentTable) (hash : UInt64) (backend_ip : IpAddr) (now : Nat) :
    (t.insert hash backend_ip now).scheme = t.scheme := scheme_eq (by simp only [insert,insert_from_length])

/-- What a safe insertion does, to the probing table. -/
theorem insert_outcome (sound : t.Sound now) (safe : t.ReclaimSafe hash now) (backend_ip : IpAddr) :
    ∃ outcome, (∀ lost, outcome = .dropped lost → t.Full now) ∧ (t.insert hash backend_ip now).Sound now ∧
      Probing.Contents t.scheme (Live t.ttl now) (fun _ cur => cur) (slots t.entries) (new_entry hash backend_ip now)
        (slots (t.insert hash backend_ip now).entries) outcome := by
  have alive : Live t.ttl now (new_entry hash backend_ip now) := by simp [Live,is_expired,new_entry]
  have correct := @Probing.insert_correct _ _ t.scheme (Live t.ttl now) _ _ (fun _ cur => cur) (fun _ _ _ => rfl)
    (slots t.entries) (new_entry hash backend_ip now) (fun _ _ => alive) alive sound safe
  rw [← insert_eq] at correct
  refine ⟨_,fun lost dropped => Probing.insert_dropped dropped,?_,correct.2⟩
  unfold Sound
  rw [insert_scheme]
  exact correct.1

/-- A safe insertion keeps the table sound. -/
theorem insert_sound (sound : t.Sound now) (safe : t.ReclaimSafe hash now) (backend_ip : IpAddr) :
    (t.insert hash backend_ip now).Sound now := by
  obtain ⟨_,_,sound',_⟩ := insert_outcome sound safe backend_ip
  exact sound'

/-- What a safe insertion leaves in a table that is not full. -/
theorem holds_insert (sound : t.Sound now) (safe : t.ReclaimSafe hash now) (room : ¬ t.Full now)
    (backend_ip : IpAddr) :
    (t.insert hash backend_ip now).Holds now (new_entry hash backend_ip now) ∧
      ∀ e, t.Holds now e → e.hash ≠ hash → (t.insert hash backend_ip now).Holds now e := by
  obtain ⟨outcome,full,_,contents⟩ := insert_outcome sound safe backend_ip
  unfold Holds
  rw [insert_scheme]
  cases outcome with
  | inserted => exact ⟨(contents _).mpr (.inr rfl),fun e held _ => (contents e).mpr (.inl held)⟩
  | reclaimed => exact ⟨(contents _).mpr (.inr rfl),fun e held _ => (contents e).mpr (.inl held)⟩
  | updated old =>
    exact ⟨(contents.2.2 _).mpr (.inr rfl),fun e held other => (contents.2.2 e).mpr (.inl ⟨held,other⟩)⟩
  | dropped lost => exact absurd (full lost rfl) room

/-! ### Mappings -/

/-- The table holds a mapping of the hash to the backend, recorded at `seen` or
    later, as long as no more than the time to live has passed since then. -/
structure Remembers (t : FragmentTable) (hash : UInt64) (backend_ip : IpAddr) (seen now : Nat) : Prop where
  sound : t.Sound now
  entry : now ≤ seen + t.ttl → ∃ e, t.Holds now e ∧ e.hash = hash ∧ e.backend_ip = backend_ip ∧ seen ≤ e.inserted_at

variable {seen : Nat}

theorem Remembers.later {now' : Nat} (remembers : t.Remembers hash backend_ip seen now) (later : now ≤ now') :
    t.Remembers hash backend_ip seen now' := by
  refine ⟨remembers.sound.later later,fun within => ?_⟩
  obtain ⟨e,⟨_,idx,inside,at_idx⟩,same,backend,recorded⟩ := remembers.entry (by omega)
  refine ⟨e,⟨?_,idx,inside,at_idx⟩,same,backend,recorded⟩
  simp only [Live,is_expired,decide_eq_false_iff_not]
  omega

/-- A mapping that is recorded in a table that is not full is remembered. -/
theorem remembers_insert (sound : t.Sound now) (safe : t.ReclaimSafe hash now) (room : ¬ t.Full now) :
    (t.insert hash backend_ip now).Remembers hash backend_ip now now :=
  ⟨insert_sound sound safe backend_ip,
    fun _ => ⟨_,(holds_insert sound safe room backend_ip).1,rfl,rfl,Nat.le_refl now⟩⟩

/-- A mapping stays, unless one of the same hash takes its place. -/
theorem Remembers.insert {hash' : UInt64} {backend_ip' : IpAddr} (remembers : t.Remembers hash backend_ip seen now)
    (began : seen ≤ now) (safe : t.ReclaimSafe hash' now) (room : ¬ t.Full now)
    (same : hash' = hash → backend_ip' = backend_ip) :
    (t.insert hash' backend_ip' now).Remembers hash backend_ip seen now := by
  obtain ⟨fresh,kept⟩ := holds_insert remembers.sound safe room backend_ip'
  refine ⟨insert_sound remembers.sound safe backend_ip',fun within => ?_⟩
  obtain ⟨e,held,rfl,backend,recorded⟩ := remembers.entry within
  by_cases again : hash' = e.hash
  · exact ⟨_,fresh,again,same again,began⟩
  · exact ⟨e,kept e held (Ne.symm again),rfl,backend,recorded⟩

/-- A mapping that is remembered is found. -/
theorem Remembers.get (remembers : t.Remembers hash backend_ip seen now) (within : now ≤ seen + t.ttl) :
    t.get hash now = some backend_ip := by
  obtain ⟨e,held,rfl,rfl,_⟩ := remembers.entry within
  exact remembers.sound.get held

end FragmentTable

end Lb.Fragments
