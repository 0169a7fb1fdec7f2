import Mathlib.Data.Finset.Sort

/-!
# Feeds of announcements and withdrawals

A feed tells a receiver which elements a set has, as a list of announcements and
withdrawals. A receiver that has seen the whole feed knows the set; one that
joins late knows a part of it, until the whole set is announced again.
-/
namespace Lb.Feed
variable {A : Type*} [DecidableEq A]

inductive Update (A : Type*)
  | announce (xs : List A)
  | withdraw (xs : List A)
deriving DecidableEq

/-- The set that a receiver knows after an update. -/
def Update.apply (s : Finset A) : Update A → Finset A
  | .announce xs => s ∪ xs.toFinset
  | .withdraw xs => s \ xs.toFinset

/-- The set that a receiver knows after a feed. -/
def replay (s : Finset A) (us : List (Update A)) : Finset A := us.foldl Update.apply s

/-- The elements that an update names. -/
def Update.items : Update A → List A
  | .announce xs | .withdraw xs => xs

/-- No update announces what is known or withdraws what is not. -/
def Exact : Finset A → List (Update A) → Prop
  | _, [] => True
  | s, u :: us => (match u with
      | .announce xs => ∀ a ∈ xs, a ∉ s
      | .withdraw xs => ∀ a ∈ xs, a ∈ s) ∧ Exact (u.apply s) us

/-- The updates take receivers of `s` to `d`, and take nobody beyond `d`: neither
    those who know a part of `s`, nor those who know nothing and miss the first
    of the updates. -/
structure Leads (s : Finset A) (us : List (Update A)) (d : Finset A) : Prop where
  whole : replay s us = d
  part : ∀ r ⊆ s, replay r us ⊆ d
  late : ∀ us', us' <:+ us → replay ∅ us' ⊆ d

@[simp] theorem replay_nil (s : Finset A) : replay s [] = s := rfl
@[simp] theorem replay_cons (s : Finset A) (u : Update A) (us : List (Update A)) :
    replay s (u :: us) = replay (u.apply s) us := rfl
theorem replay_append (s : Finset A) (us us' : List (Update A)) : replay s (us ++ us') = replay (replay s us) us' :=
  List.foldl_append

theorem Leads.refl (s : Finset A) : Leads s [] s :=
  ⟨rfl,fun _ part => part,fun us' suffix => by simp [List.suffix_nil.mp suffix]⟩

omit [DecidableEq A] in
theorem suffix_append_cases {us a b : List (Update A)} (suffix : us <:+ a ++ b) :
    (∃ front, us = front ++ b ∧ front <:+ a) ∨ us <:+ b := by
  obtain ⟨gone,whole⟩ := suffix
  rcases List.append_eq_append_iff.mp whole with ⟨front,split,rfl⟩ | ⟨more,_,split⟩
  · exact .inl ⟨front,rfl,⟨gone,split.symm⟩⟩
  · exact .inr ⟨more,split.symm⟩

section
variable [LinearOrder A]

/-- The announcement of a set, in order; of an empty set, none. -/
def announceAll (s : Finset A) : List (Update A) := if s = ∅ then [] else [.announce s.sort]
def withdrawAll (s : Finset A) : List (Update A) := if s = ∅ then [] else [.withdraw s.sort]
/-- The updates between two sets: what is new is announced first. -/
def diff (s d : Finset A) : List (Update A) := announceAll (d \ s) ++ withdrawAll (s \ d)

@[simp] theorem replay_announceAll (r s : Finset A) : replay r (announceAll s) = r ∪ s := by
  unfold announceAll
  split_ifs with empty
  · simp [empty]
  · simp [Update.apply]
@[simp] theorem replay_withdrawAll (r s : Finset A) : replay r (withdrawAll s) = r \ s := by
  unfold withdrawAll
  split_ifs with empty
  · simp [empty]
  · simp [Update.apply]
theorem replay_diff (r s d : Finset A) : replay r (diff s d) = (r ∪ d \ s) \ (s \ d) := by
  rw [diff,replay_append,replay_announceAll,replay_withdrawAll]

/-- To announce the whole set again brings everybody up to it. -/
theorem replay_announceAll_of_subset {r s : Finset A} (part : r ⊆ s) : replay r (announceAll s) = s := by
  rw [replay_announceAll,Finset.union_eq_right.mpr part]

theorem announceAll_nonempty (s : Finset A) : ∀ u ∈ announceAll s, u.items ≠ [] := by
  unfold announceAll
  split_ifs with empty
  · simp
  · simpa [Update.items,← List.toFinset_eq_empty_iff] using empty
theorem withdrawAll_nonempty (s : Finset A) : ∀ u ∈ withdrawAll s, u.items ≠ [] := by
  unfold withdrawAll
  split_ifs with empty
  · simp
  · simpa [Update.items,← List.toFinset_eq_empty_iff] using empty
theorem diff_nonempty (s d : Finset A) : ∀ u ∈ diff s d, u.items ≠ [] := by
  intro u listed
  rcases List.mem_append.mp listed with announced | withdrawn
  · exact announceAll_nonempty _ u announced
  · exact withdrawAll_nonempty _ u withdrawn

omit [DecidableEq A] [LinearOrder A] in
private theorem suffix_single {us : List (Update A)} {u : Update A} (suffix : us <:+ [u]) : us = [u] ∨ us = [] := by
  rcases List.suffix_cons_iff.mp suffix with whole | rest
  · exact .inl whole
  · exact .inr (List.suffix_nil.mp rest)
private theorem suffix_announceAll {s : Finset A} {us : List (Update A)} (suffix : us <:+ announceAll s) :
    us = announceAll s ∨ us = [] := by
  unfold announceAll at suffix ⊢
  split_ifs at suffix ⊢
  · exact .inr (List.suffix_nil.mp suffix)
  · exact suffix_single suffix
private theorem suffix_withdrawAll {s : Finset A} {us : List (Update A)} (suffix : us <:+ withdrawAll s) :
    us = withdrawAll s ∨ us = [] := by
  unfold withdrawAll at suffix ⊢
  split_ifs at suffix ⊢
  · exact .inr (List.suffix_nil.mp suffix)
  · exact suffix_single suffix

theorem leads_announceAll (s : Finset A) : Leads s (announceAll s) s := by
  refine ⟨replay_announceAll_of_subset (Finset.Subset.refl s),fun r part => ?_,fun us' suffix => ?_⟩
  · rw [replay_announceAll_of_subset part]
  · rcases suffix_announceAll suffix with rfl | rfl <;> simp

theorem leads_withdrawAll (s : Finset A) : Leads s (withdrawAll s) ∅ := by
  refine ⟨by simp,fun r part => ?_,fun us' suffix => ?_⟩
  · rw [replay_withdrawAll,Finset.sdiff_eq_empty_iff_subset.mpr part]
  · rcases suffix_withdrawAll suffix with rfl | rfl <;> simp

theorem leads_diff (s d : Finset A) : Leads s (diff s d) d := by
  have part : ∀ r ⊆ s, replay r (diff s d) ⊆ d := by
    intro r part a known
    rw [replay_diff] at known
    simp only [Finset.mem_sdiff,Finset.mem_union] at known
    obtain ⟨inRest | isNew,kept⟩ := known
    · by_contra gone
      exact kept ⟨part inRest,gone⟩
    · exact isNew.1
  refine ⟨?_,part,fun us' suffix => ?_⟩
  · ext a
    rw [replay_diff]
    simp only [Finset.mem_sdiff,Finset.mem_union]
    tauto
  · rcases suffix_append_cases suffix with ⟨front,rfl,inFront⟩ | inBack
    · rcases suffix_announceAll inFront with rfl | rfl
      · exact part ∅ (Finset.empty_subset s)
      · simp
    · rcases suffix_withdrawAll inBack with rfl | rfl <;> simp

private theorem exact_announceAll {r s : Finset A} {us : List (Update A)} (apart : Disjoint s r)
    (rest : Exact (r ∪ s) us) : Exact r (announceAll s ++ us) := by
  unfold announceAll
  split_ifs with empty
  · simpa [empty] using rest
  · refine ⟨fun a listed => ?_,by simpa [Update.apply] using rest⟩
    exact Finset.disjoint_left.mp apart (by simpa using listed)
private theorem exact_withdrawAll {r s : Finset A} (inside : s ⊆ r) : Exact r (withdrawAll s) := by
  unfold withdrawAll
  split_ifs with empty
  · trivial
  · exact ⟨fun a listed => inside (by simpa using listed),trivial⟩

theorem exact_diff (s d : Finset A) : Exact s (diff s d) := by
  refine exact_announceAll Finset.sdiff_disjoint (exact_withdrawAll fun a gone => ?_)
  exact Finset.mem_union_left _ (Finset.mem_sdiff.mp gone).1
theorem exact_withdraw_whole (s : Finset A) : Exact s (withdrawAll s) := exact_withdrawAll (Finset.Subset.refl s)

end

end Lb.Feed
