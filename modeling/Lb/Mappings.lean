import Lb.Fragments
import Mathlib.Data.List.Dedup
import Mathlib.Data.List.Perm.Subperm

/-!
# Fragment mappings

What the fragment table holds live was recorded within the time to live, for
different hashes. While fewer hashes are unexpired than the table has slots,
every insertion finds a slot, and a mapping is answered for its whole time to
live as long as no insertion takes the slot of an expired entry in front of a
live one.
-/
namespace Lb.Fragments
open Lb.Addr Lb.Slots

/-- An insertion. -/
structure Mapping where
  hash : UInt64
  backend_ip : IpAddr
  now : Nat

/-- The hashes that were recorded no longer ago than the time to live. -/
def unexpired (ttl : Nat) (history : List Mapping) (now : Nat) : List UInt64 :=
  ((history.filter fun mapping => decide (now - mapping.now ≤ ttl)).map Mapping.hash).dedup

namespace FragmentTable
variable {t : FragmentTable} {history : List Mapping} {now : Nat}

def record (t : FragmentTable) (mapping : Mapping) : FragmentTable :=
  t.insert mapping.hash mapping.backend_ip mapping.now

/-- The insertion does not take the slot of an expired entry in front of a live
    one that would be hidden by it. -/
def Safe (t : FragmentTable) (mapping : Mapping) : Prop := t.ReclaimSafe mapping.hash mapping.now

instance (t : FragmentTable) (mapping : Mapping) : Decidable (t.Safe mapping) :=
  inferInstanceAs (Decidable (t.ReclaimSafe mapping.hash mapping.now))

/-- The table is sound, and what it holds live was recorded. -/
structure Recorded (t : FragmentTable) (history : List Mapping) (now : Nat) : Prop where
  sound : t.Sound now
  mem : ∀ e, t.Holds now e → ∃ mapping ∈ history, mapping.hash = e.hash ∧ mapping.now = e.inserted_at

theorem new_recorded (bits : Nat) (small : bits < 64) (ttl init_time : Nat) :
    (FragmentTable.new bits small ttl init_time).Recorded [] now := by
  refine ⟨new_sound bits small ttl init_time,?_⟩
  rintro e ⟨_,idx,_,at_idx⟩
  rw [FragmentTable.new,slots_replicate rfl] at at_idx
  cases at_idx

theorem Recorded.later {now' : Nat} (recorded : t.Recorded history now) (later : now ≤ now') :
    t.Recorded history now' :=
  ⟨recorded.sound.later later,
    fun e ⟨alive,idx,inside,at_idx⟩ => recorded.mem e ⟨Live.earlier later alive,idx,inside,at_idx⟩⟩

/-- A safe insertion adds no live entry but its own. -/
theorem holds_of_insert {hash : UInt64} {backend_ip : IpAddr} (sound : t.Sound now) (safe : t.ReclaimSafe hash now)
    {e : FragmentEntry} (held : (t.insert hash backend_ip now).Holds now e) :
    t.Holds now e ∨ e = new_entry hash backend_ip now := by
  obtain ⟨outcome,_,_,contents⟩ := insert_outcome sound safe backend_ip
  unfold Holds at held
  rw [insert_scheme] at held
  cases outcome with
  | inserted => exact (contents e).mp held
  | reclaimed => exact (contents e).mp held
  | updated old => exact ((contents.2.2 e).mp held).imp_left And.left
  | dropped lost => exact (contents.2 e).mp (.inl held)

theorem Recorded.record {mapping : Mapping} (recorded : t.Recorded history mapping.now) (safe : t.Safe mapping) :
    (t.record mapping).Recorded (history ++ [mapping]) mapping.now := by
  refine ⟨insert_sound recorded.sound safe mapping.backend_ip,fun e held => ?_⟩
  rcases holds_of_insert recorded.sound safe held with before | rfl
  · obtain ⟨old,known,same⟩ := recorded.mem e before
    exact ⟨old,List.mem_append_left _ known,same⟩
  · exact ⟨mapping,by simp,rfl,rfl⟩

/-- A full table holds as many different hashes as it has slots. -/
theorem Sound.full_nodup (sound : t.Sound now) (full : t.Full now) : (t.entries.map (·.hash)).Nodup := by
  unfold List.Nodup
  rw [List.pairwise_map,List.pairwise_iff_getElem]
  intro i j insideI insideJ before same
  obtain ⟨e,at_i,alive⟩ := full i insideI
  obtain ⟨e',at_j,alive'⟩ := full j insideJ
  have read : ∀ {k : Nat} {e : FragmentEntry} (inside : k < t.entries.length), slots t.entries k = some e →
      t.entries[k] = e := by
    intro k e inside at_k
    rw [← (slots_eq_some at_k).1,entry_at,List.getD_eq_getElem _ _ inside]
  rw [read insideI at_i,read insideJ at_j] at same
  have := Probing.Sound.unique sound insideI insideJ at_i at_j alive alive' same
  omega

/-- A table is full only when as many hashes are unexpired as it has slots. -/
theorem Recorded.full_length_le (recorded : t.Recorded history now) (full : t.Full now) :
    t.entries.length ≤ (unexpired t.ttl history now).length := by
  have subset : t.entries.map (·.hash) ⊆ unexpired t.ttl history now := by
    intro hash listed
    obtain ⟨e,member,rfl⟩ := List.mem_map.mp listed
    obtain ⟨i,inside,rfl⟩ := List.getElem_of_mem member
    obtain ⟨e,at_i,alive⟩ := full i inside
    obtain ⟨mapping,known,same,time⟩ := recorded.mem e ⟨alive,i,inside,at_i⟩
    have read : t.entries[i] = e := by rw [← (slots_eq_some at_i).1,entry_at,List.getD_eq_getElem _ _ inside]
    have young : now - mapping.now ≤ t.ttl := by
      simp only [Live,is_expired,decide_eq_false_iff_not,not_lt] at alive
      omega
    rw [unexpired,List.mem_dedup,List.mem_map]
    exact ⟨mapping,List.mem_filter.mpr ⟨known,by simpa using young⟩,by rw [same,read]⟩
  have := (List.subperm_of_subset (recorded.sound.full_nodup full) subset).length_le
  rwa [List.length_map] at this

theorem record_ttl (mapping : Mapping) :
    (t.record mapping).ttl = t.ttl ∧ (t.record mapping).entries.length = t.entries.length :=
  ⟨rfl,by simp only [record,insert,insert_from_length]⟩

/-- At its insertion, fewer hashes of the history are unexpired than there are
    slots. -/
def Room (ttl capacity : Nat) (history : List Mapping) (mapping : Mapping) : Prop :=
  (unexpired ttl history mapping.now).length < capacity

instance (ttl capacity : Nat) (history : List Mapping) (mapping : Mapping) :
    Decidable (Room ttl capacity history mapping) :=
  inferInstanceAs (Decidable (_ < capacity))

theorem Recorded.not_full {mapping : Mapping} (recorded : t.Recorded history mapping.now)
    (room : Room t.ttl t.entries.length history mapping) : ¬ t.Full mapping.now := fun full =>
  absurd (recorded.full_length_le full) (Nat.not_le_of_lt room)

theorem Recorded.run {start : Nat} {mappings : List Mapping} (recorded : t.Recorded history start)
    (clocked : Runs.Clocked Mapping.now start mappings) (safe : Runs.Along FragmentTable.record Safe t mappings) :
    (mappings.foldl FragmentTable.record t).Recorded (history ++ mappings)
      (Runs.lastTime Mapping.now start mappings) := by
  induction mappings generalizing t history start with
  | nil => simpa [Runs.lastTime] using recorded
  | cons mapping mappings ih =>
    have rest := ih ((recorded.later clocked.1).record safe.1) clocked.2 safe.2
    rwa [List.append_assoc] at rest

theorem run_ttl (mappings : List Mapping) : (mappings.foldl FragmentTable.record t).ttl = t.ttl ∧
    (mappings.foldl FragmentTable.record t).entries.length = t.entries.length :=
  Runs.invariant (fun s : FragmentTable => s.ttl = t.ttl ∧ s.entries.length = t.entries.length)
    (fun _ mapping same => ⟨(record_ttl mapping).1.trans same.1,(record_ttl mapping).2.trans same.2⟩) ⟨rfl,rfl⟩ mappings

/-- A mapping stays while other hashes are recorded and there is room for them. -/
theorem Remembers.run {hash : UInt64} {backend_ip : IpAddr} {seen start : Nat} {mappings : List Mapping}
    (remembers : t.Remembers hash backend_ip seen start) (recorded : t.Recorded history start) (began : seen ≤ start)
    (clocked : Runs.Clocked Mapping.now start mappings) (safe : Runs.Along FragmentTable.record Safe t mappings)
    (others : ∀ mapping ∈ mappings, mapping.hash ≠ hash)
    (room : Runs.Along (fun history mapping => history ++ [mapping]) (Room t.ttl t.entries.length) history mappings) :
    (mappings.foldl FragmentTable.record t).Remembers hash backend_ip seen
      (Runs.lastTime Mapping.now start mappings) := by
  induction mappings generalizing t history start with
  | nil => exact remembers
  | cons mapping mappings ih =>
    have recorded := recorded.later clocked.1
    refine ih (Remembers.insert (remembers.later clocked.1) (by have := clocked.1; omega) safe.1 ?_ ?_)
      (recorded.record safe.1) ?_ clocked.2 safe.2 ?_ ?_
    · exact recorded.not_full room.1
    · exact fun same => absurd same (others mapping List.mem_cons_self)
    · exact Nat.le_trans began clocked.1
    · exact fun other later => others other (List.mem_cons_of_mem mapping later)
    · rw [(record_ttl mapping).1,(record_ttl mapping).2]
      exact room.2

end FragmentTable

/-- In every run in which no insertion takes the slot of an expired entry in front
    of a live one that would be hidden by it, a mapping is answered for its whole
    time to live, as long as the later insertions are of other hashes and fewer
    hashes are unexpired than there are slots. -/
theorem mapping_kept (bits : Nat) (small : bits < 64) (ttl start : Nat) (before later : List Mapping)
    (mapping : Mapping) (clocked : Runs.Clocked Mapping.now start (before ++ mapping :: later))
    (safe : Runs.Along FragmentTable.record FragmentTable.Safe (FragmentTable.new bits small ttl start)
      (before ++ mapping :: later))
    (others : ∀ other ∈ later, other.hash ≠ mapping.hash)
    (room : Runs.Along (fun history mapping => history ++ [mapping]) (FragmentTable.Room ttl (2 ^ bits)) before
      (mapping :: later)) (time : Nat)
    (now : Runs.lastTime Mapping.now start (before ++ mapping :: later) ≤ time) (within : time ≤ mapping.now + ttl) :
    ((before ++ mapping :: later).foldl FragmentTable.record (FragmentTable.new bits small ttl start)).get
      mapping.hash time = some mapping.backend_ip := by
  obtain ⟨clocked,clockedHere,clockedLater⟩ := (Runs.clocked_append start before (mapping :: later)).mp clocked
  obtain ⟨safe,safeHere,safeLater⟩ := (Runs.along_append _ before (mapping :: later)).mp safe
  have recorded : FragmentTable.Recorded _ before _ :=
    (@FragmentTable.new_recorded start bits small ttl start).run clocked safe
  obtain ⟨sameTtl,sameLength⟩ := FragmentTable.run_ttl (t := FragmentTable.new bits small ttl start) before
  rw [List.foldl_append,List.foldl_cons]
  generalize before.foldl FragmentTable.record (FragmentTable.new bits small ttl start) = t at *
  have length : t.entries.length = 2 ^ bits := by rw [sameLength,FragmentTable.new,List.length_replicate]
  have here := recorded.later clockedHere
  rw [← show t.ttl = ttl from sameTtl,← length] at room
  have remembers : (t.record mapping).Remembers mapping.hash mapping.backend_ip mapping.now mapping.now :=
    FragmentTable.remembers_insert here.sound safeHere (here.not_full room.1)
  have kept := remembers.run (here.record safeHere) (Nat.le_refl _) clockedLater safeLater others (by
    rw [(FragmentTable.record_ttl mapping).1,(FragmentTable.record_ttl mapping).2]
    exact room.2)
  refine (kept.later ?_).get ?_
  · rwa [Runs.lastTime,List.foldl_append] at now
  · rw [(FragmentTable.run_ttl later).1]
    exact sameTtl ▸ within

private def fragment (hash : UInt64) (now : Nat) : Mapping := ⟨hash,.V4 ⟨10,0,0,1⟩,now⟩

theorem mapping_kept_reclaimed :
    ([fragment 0 0,fragment 4 5,fragment 8 11].foldl FragmentTable.record (FragmentTable.new 2 (by decide) 10 0)).get 4
      15 = some (.V4 ⟨10,0,0,1⟩) :=
  mapping_kept 2 (by decide) 10 0 [fragment 0 0] [fragment 8 11] (fragment 4 5) ⟨by decide,by decide,by decide,trivial⟩
    ⟨by decide,by decide,by decide,trivial⟩ (by decide) ⟨by decide,by decide,trivial⟩ 15 (by decide) (by decide)

/-- No more hashes are unexpired than were recorded. -/
theorem unexpired_length_le (ttl : Nat) (history : List Mapping) (now : Nat) :
    (unexpired ttl history now).length ≤ history.length := by
  have distinct := (List.dedup_sublist ((history.filter fun m => decide (now - m.now ≤ ttl)).map Mapping.hash)).length_le
  rw [List.length_map] at distinct
  exact Nat.le_trans distinct (List.length_filter_le _ history)

/-- Slots 0, 1 and 2 hold hashes 0, 8 and 16, and hash 16 was recorded last. Once
    the others have expired, hash 1 takes slot 1, its own home, where the lookup of
    hash 16 then gives up. -/
theorem reclaimed_slot_hides_mapping :
    ¬ ∀ (bits : Nat) (small : bits < 64) (ttl start : Nat) (before later : List Mapping) (mapping : Mapping),
      Runs.Clocked Mapping.now start (before ++ mapping :: later) →
      (∀ other ∈ later, other.hash ≠ mapping.hash) →
      (∀ now, (unexpired ttl (before ++ mapping :: later) now).length < 2 ^ bits) →
      ∀ time, Runs.lastTime Mapping.now start (before ++ mapping :: later) ≤ time → time ≤ mapping.now + ttl →
        ((before ++ mapping :: later).foldl FragmentTable.record (FragmentTable.new bits small ttl start)).get
          mapping.hash time = some mapping.backend_ip := by
  intro kept
  have few : ∀ now, (unexpired 10 ([fragment 0 0,fragment 8 0] ++ fragment 16 5 :: [fragment 1 11]) now).length < 2 ^ 3 :=
    fun now => Nat.lt_of_le_of_lt (unexpired_length_le 10 _ now) (by decide)
  have found := kept 3 (by decide) 10 0 [fragment 0 0,fragment 8 0] [fragment 1 11] (fragment 16 5) (by decide)
    (by decide) few 11 (by decide) (by decide)
  exact absurd found (by decide)

end Lb.Fragments
