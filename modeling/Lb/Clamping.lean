import Lb.Checksums

/-!
# Clamping of the maximum segment size

The options of a TCP SYN are a list of kinds, lengths and values, of which
clamping changes the value of the first MSS option and the TCP checksum.
-/
namespace Lb.Mtu
open Lb.Addr Lb.Packet Lb.Buffer

/-! ### The options of a SYN -/

/-- The length of the TCP header. -/
def data_offset (data : List UInt8) : Nat := (byte data (ihl data + 12) >>> 4).toNat * 4

/-- What `clamp_mss` takes for a SYN with all of its options: the protocol is TCP, and
    the SYN flag is set where the flags of a TCP header behind the first `ihl data`
    bytes would be. The fragment offset is not looked at, so that the payload of a later
    fragment may be taken for such a header. -/
structure TcpSyn (data : List UInt8) : Prop where
  least : 40 ≤ data.length
  ipv4 : byte data 0 >>> 4 = 4
  tcp : byte data 9 = 6
  fixed : ihl data + 20 ≤ data.length
  syn : byte data (ihl data + 13) &&& 0x02 ≠ 0
  options : 20 ≤ data_offset data
  whole : ihl data + data_offset data ≤ data.length

/-- The options, within the data offset. -/
def options (data : List UInt8) : List UInt8 := (data.take (ihl data + data_offset data)).drop (ihl data + 20)

/-- The options have an MSS option of length 4 after so many bytes: in front of it
    there are only options that are whole, and none that ends the list. -/
inductive MssAt : List UInt8 → Nat → Prop
  | mss (hi lo : UInt8) (rest : List UInt8) : MssAt (2 :: 4 :: hi :: lo :: rest) 0
  | nop {rest : List UInt8} {n : Nat} (later : MssAt rest n) : MssAt (1 :: rest) (n + 1)
  | option {kind length : UInt8} {value rest : List UInt8} {n : Nat} (kinds : kind ≠ 0 ∧ kind ≠ 1)
      (other : ¬ (kind = 2 ∧ length = 4)) (whole : length.toNat = value.length + 2) (later : MssAt rest n) :
      MssAt (kind :: length :: (value ++ rest)) (n + length.toNat)

section
variable {data : List UInt8} {options_end offset : Nat}

theorem rest_cons {kind : UInt8} {rest : List UInt8} (split : (data.take options_end).drop offset = kind :: rest) :
    offset < options_end ∧ byte data offset = kind ∧ (data.take options_end).drop (offset + 1) = rest := by
  have inside : offset < (data.take options_end).length := by
    by_contra outside
    rw [List.drop_eq_nil_of_le (by omega)] at split
    cases split
  rw [List.drop_eq_getElem_cons inside] at split
  obtain ⟨first,tail⟩ := List.cons.inj split
  rw [List.length_take] at inside
  refine ⟨by omega,?_,tail⟩
  rw [← first,List.getElem_take,byte,List.getD_eq_getElem?_getD,List.getElem?_eq_getElem (by omega),Option.getD_some]

theorem cons_rest (inside : offset < options_end) (whole : options_end ≤ data.length) :
    (data.take options_end).drop offset = byte data offset :: (data.take options_end).drop (offset + 1) := by
  have short : offset < (data.take options_end).length := by
    rw [List.length_take]
    omega
  rw [List.drop_eq_getElem_cons short,List.getElem_take,byte,List.getD_eq_getElem?_getD,
    List.getElem?_eq_getElem (by omega),Option.getD_some]

/-- The loop finds the option that the grammar has. -/
theorem MssAt.found {rest : List UInt8} {n : Nat} (reached : MssAt rest n) :
    ∀ {fuel offset : Nat}, (data.take options_end).drop offset = rest → options_end ≤ offset + fuel →
      find_mss data options_end fuel offset = some (offset + n) := by
  induction reached with
  | mss hi lo rest =>
    intro fuel offset split enough
    obtain ⟨inside,kind,split⟩ := rest_cons split
    obtain ⟨_,length,split⟩ := rest_cons split
    obtain ⟨_,_,split⟩ := rest_cons split
    obtain ⟨last,_,_⟩ := rest_cons split
    obtain ⟨fuel,rfl⟩ : ∃ more, fuel = more + 1 := ⟨fuel - 1,by omega⟩
    simp [find_mss,kind,length,show ¬ options_end ≤ offset by omega,show ¬ options_end ≤ offset + 1 by omega,
      show ¬ options_end < offset + 4 by omega]
  | nop later ih =>
    intro fuel offset split enough
    obtain ⟨inside,kind,split⟩ := rest_cons split
    obtain ⟨fuel,rfl⟩ : ∃ more, fuel = more + 1 := ⟨fuel - 1,by omega⟩
    have onward := @ih fuel _ split (by omega)
    simp [find_mss,kind,show ¬ options_end ≤ offset by omega,onward,Nat.add_assoc,Nat.add_comm 1]
  | @option kind length value rest n kinds other whole later ih =>
    intro fuel offset split enough
    obtain ⟨inside,is_kind,split⟩ := rest_cons split
    obtain ⟨more,is_length,split⟩ := rest_cons split
    obtain ⟨fuel,rfl⟩ : ∃ more, fuel = more + 1 := ⟨fuel - 1,by omega⟩
    have next : (data.take options_end).drop (offset + length.toNat) = rest := by
      rw [whole,show offset + (value.length + 2) = offset + 1 + 1 + value.length by omega,← List.drop_drop,split,
        List.drop_left]
    have onward := @ih fuel _ next (by omega)
    have differs : ¬ (kind = 2 ∧ length.toNat = 4) := fun same => other ⟨same.1,UInt8.toNat_inj.mp same.2⟩
    simp only [find_mss,is_kind,is_length,show ¬ options_end ≤ offset by omega,kinds.1,kinds.2,
      show ¬ options_end ≤ offset + 1 by omega,show ¬ length.toNat < 2 by omega,differs,if_false,onward]
    rw [Nat.add_assoc,Nat.add_comm length.toNat]

/-- What the loop finds is the option that the grammar has. -/
theorem find_mss_reached (whole : options_end ≤ data.length) {fuel found : Nat}
    (some_option : find_mss data options_end fuel offset = some found) :
    ∃ n, found = offset + n ∧ MssAt ((data.take options_end).drop offset) n := by
  induction fuel generalizing offset with
  | zero => cases some_option
  | succ fuel ih =>
    rw [find_mss] at some_option
    dsimp only at some_option
    split_ifs at some_option with past ends nop last short mss truncated
    · obtain ⟨n,rfl,later⟩ := ih some_option
      refine ⟨n + 1,by omega,?_⟩
      rw [cons_rest (by omega) whole,nop]
      exact .nop later
    · cases some_option
      refine ⟨0,rfl,?_⟩
      have four : byte data (found + 1) = 4 := UInt8.toNat_inj.mp mss.2
      rw [cons_rest (by omega) whole,cons_rest (by omega) whole,cons_rest (by omega) whole,cons_rest (by omega) whole,
        mss.1,four]
      exact .mss _ _ _
    · obtain ⟨n,rfl,later⟩ := ih some_option
      refine ⟨n + (byte data (offset + 1)).toNat,by omega,?_⟩
      obtain ⟨_,last⟩ := find_mss_inside some_option
      have value_rest := List.take_append_drop ((byte data (offset + 1)).toNat - 2)
        ((data.take options_end).drop (offset + 2))
      rw [List.drop_drop,show offset + 2 + ((byte data (offset + 1)).toNat - 2) = offset + (byte data (offset + 1)).toNat by
        omega] at value_rest
      rw [cons_rest (by omega) whole,cons_rest (by omega) whole,← value_rest]
      refine .option ⟨ends,nop⟩ (fun same => mss ⟨same.1,by rw [same.2]; rfl⟩) ?_ later
      rw [List.length_take,List.length_drop,List.length_take]
      omega

variable (max_mss : UInt16) {n : Nat}

/-- The grammar has an MSS option only where there is room for one. -/
theorem MssAt.inside {rest : List UInt8} (reached : MssAt rest n) : n + 4 ≤ rest.length := by
  induction reached with
  | mss hi lo rest => simp
  | nop later ih => simpa using ih
  | option kinds other whole later ih =>
    rw [List.length_cons,List.length_cons,List.length_append]
    omega

theorem MssAt.last (reached : MssAt (options data) n) :
    ihl data + 20 + n + 4 ≤ min data.length (ihl data + data_offset data) := by
  have inside := reached.inside
  rw [options,List.length_drop,List.length_take] at inside
  omega

theorem MssAt.unique {rest : List UInt8} {n' : Nat} (reached : MssAt rest n) (reached' : MssAt rest n') : n = n' := by
  have found := @MssAt.found rest rest.length rest n reached rest.length 0 (by simp) (by omega)
  rw [reached'.found (by simp) (by omega)] at found
  simpa using found.symm

theorem reached_of_not (some_option : ¬ (TcpSyn data → ∀ n, ¬ MssAt (options data) n)) :
    TcpSyn data ∧ ∃ n, MssAt (options data) n := by
  by_contra none
  exact some_option fun syn n reached => none ⟨syn,n,reached⟩

/-- Clamping, of a SYN with an MSS option. -/
theorem clamp_mss_reached (syn : TcpSyn data) (reached : MssAt (options data) n) :
    clamp_mss data max_mss =
      if max_mss < be16 data (ihl data + 20 + n + 2) then
        (incremental_checksum_update (put16 data (ihl data + 20 + n + 2) max_mss) (ihl data + 16)
          (be16 data (ihl data + 20 + n + 2)) max_mss,.Clamped)
      else (data,.Noop) := by
  have found : find_mss data (ihl data + data_offset data) (data_offset data) (ihl data + 20) = some _ :=
    reached.found rfl (by omega)
  have not_missing : ¬ (data_offset data < 20 ∨ data.length < ihl data + data_offset data) := by
    have := syn.options
    have := syn.whole
    omega
  have long := syn.least
  have fixed := syn.fixed
  unfold data_offset at found not_missing
  rw [clamp_mss,if_neg (by omega),if_neg (not_not.mpr syn.ipv4),if_neg (not_not.mpr syn.tcp),if_neg (by omega),
    if_neg syn.syn]
  dsimp only
  rw [if_neg not_missing,found]

/-- Clamping, of any other buffer. -/
theorem clamp_mss_unreached (unreached : TcpSyn data → ∀ n, ¬ MssAt (options data) n) :
    (clamp_mss data max_mss).1 = data ∧ (clamp_mss data max_mss).2 ≠ .Clamped ∧ (clamp_mss data max_mss).2 ≠ .Noop := by
  rw [clamp_mss]
  split_ifs with short version proto header syn
  all_goals try exact ⟨rfl,by simp,by simp⟩
  dsimp only
  split_ifs with missing
  · simp
  have is_syn : TcpSyn data := by
    refine ⟨by omega,not_not.mp version,not_not.mp proto,by omega,syn,?_,?_⟩ <;> unfold data_offset <;> omega
  cases found : find_mss data (ihl data + (byte data (ihl data + 12) >>> 4).toNat * 4)
      ((byte data (ihl data + 12) >>> 4).toNat * 4) (ihl data + 20) with
  | none => simp
  | some offset =>
    obtain ⟨n,_,reached⟩ := find_mss_reached is_syn.whole found
    exact absurd reached (unreached is_syn n)

/-- Every round of the loop goes on by a byte or more. -/
theorem find_mss_enough {fuel fuel' : Nat} (enough : options_end ≤ offset + fuel)
    (enough' : options_end ≤ offset + fuel') :
    find_mss data options_end fuel offset = find_mss data options_end fuel' offset := by
  induction fuel generalizing offset fuel' with
  | zero =>
    cases fuel' with
    | zero => rfl
    | succ fuel' => rw [find_mss,find_mss,if_pos (by omega)]
  | succ fuel ih =>
    cases fuel' with
    | zero => rw [find_mss,find_mss,if_pos (by omega)]
    | succ fuel' =>
      rw [find_mss,find_mss]
      dsimp only
      split_ifs
      · rfl
      · rfl
      · exact ih (by omega) (by omega)
      · rfl
      · rfl
      · rfl
      · rfl
      · exact ih (by omega) (by omega)

end

/-! ### What clamping does -/

/-- Clamping reports an MSS option exactly for an IPv4 SYN with one, leaves it at
    the lesser of its value and the maximum, and changes at most its value and the
    TCP checksum, behind the fixed IP header. -/
structure Exact (data : List UInt8) (max_mss : UInt16) : Prop where
  result : (clamp_mss data max_mss).2 = .Clamped ∨ (clamp_mss data max_mss).2 = .Noop ↔
    20 ≤ ihl data ∧ TcpSyn data ∧ ∃ n, MssAt (options data) n
  value : 20 ≤ ihl data → TcpSyn data → ∀ n, MssAt (options data) n →
    be16 (clamp_mss data max_mss).1 (ihl data + 20 + n + 2) = min (be16 data (ihl data + 20 + n + 2)) max_mss
  length : (clamp_mss data max_mss).1.length = data.length
  frame : ∀ i, byte (clamp_mss data max_mss).1 i ≠ byte data i → 20 ≤ i ∧
    (i = ihl data + 16 ∨ i = ihl data + 17 ∨
      ∃ n, MssAt (options data) n ∧ (i = ihl data + 20 + n + 2 ∨ i = ihl data + 20 + n + 3))

section
variable {data : List UInt8} {max_mss : UInt16} {n : Nat}

theorem clamp_mss_value (syn : TcpSyn data) (reached : MssAt (options data) n) :
    be16 (clamp_mss data max_mss).1 (ihl data + 20 + n + 2) = min (be16 data (ihl data + 20 + n + 2)) max_mss := by
  have last := reached.last
  have least : min (be16 data (ihl data + 20 + n + 2)) max_mss =
    if be16 data (ihl data + 20 + n + 2) ≤ max_mss then be16 data (ihl data + 20 + n + 2) else max_mss := rfl
  rw [clamp_mss_reached _ syn reached,least]
  by_cases above : max_mss < be16 data (ihl data + 20 + n + 2)
  · rw [if_pos above,if_neg (UInt16.not_le.mpr above),be16_incremental_checksum_update (by omega),
      be16_put16 _ (by omega)]
  · rw [if_neg above,if_pos (UInt16.not_lt.mp above)]

theorem clamp_mss_frame (syn : TcpSyn data) (reached : MssAt (options data) n) {i : Nat}
    (changed : byte (clamp_mss data max_mss).1 i ≠ byte data i) :
    i = ihl data + 16 ∨ i = ihl data + 17 ∨ i = ihl data + 20 + n + 2 ∨ i = ihl data + 20 + n + 3 := by
  rw [clamp_mss_reached _ syn reached] at changed
  split_ifs at changed
  · by_contra elsewhere
    rw [incremental_checksum_update,byte_put16 _ (by omega),byte_put16 _ (by omega)] at changed
    exact changed rfl
  · exact absurd rfl changed

theorem exact_of_unreached (unreached : TcpSyn data → ∀ n, ¬ MssAt (options data) n) : Exact data max_mss := by
  obtain ⟨same,not_clamped,not_noop⟩ := clamp_mss_unreached max_mss unreached
  refine ⟨⟨fun result => ?_,fun ⟨_,syn,n,reached⟩ => absurd reached (unreached syn n)⟩,
    fun _ syn n reached => absurd reached (unreached syn n),clamp_mss_length,
    fun i changed => absurd (by rw [same]) changed⟩
  rcases result with clamped | noop
  · exact absurd clamped not_clamped
  · exact absurd noop not_noop

theorem exact_of_header (header : 20 ≤ ihl data) (syn : TcpSyn data) (reached : MssAt (options data) n) :
    Exact data max_mss := by
  refine ⟨⟨fun _ => ⟨header,syn,n,reached⟩,fun _ => ?_⟩,fun _ syn n reached => clamp_mss_value syn reached,
    clamp_mss_length,fun i changed => ?_⟩
  · rw [clamp_mss_reached _ syn reached]
    split_ifs
    · exact .inl rfl
    · exact .inr rfl
  · rcases clamp_mss_frame syn reached changed with first | second | third | fourth
    · exact ⟨by omega,.inl first⟩
    · exact ⟨by omega,.inr (.inl second)⟩
    · exact ⟨by omega,.inr (.inr ⟨n,reached,.inl third⟩)⟩
    · exact ⟨by omega,.inr (.inr ⟨n,reached,.inr fourth⟩)⟩

end

/-- The loop over the options ends, and clamping is exact if and only if the buffer
    is not one with an internet header length below 5 that reads as a SYN with an
    MSS option. -/
theorem clamp_mss_exact_iff (data : List UInt8) (max_mss : UInt16) :
    (∀ fuel ≥ data_offset data, find_mss data (ihl data + data_offset data) fuel (ihl data + 20) =
      find_mss data (ihl data + data_offset data) (data_offset data) (ihl data + 20)) ∧
    (Exact data max_mss ↔ ¬ (ihl data < 20 ∧ TcpSyn data ∧ ∃ n, MssAt (options data) n)) := by
  refine ⟨fun fuel enough => find_mss_enough (by omega) (by omega),?_⟩
  constructor
  · intro exact
    rintro ⟨short,syn,n,reached⟩
    have result : (clamp_mss data max_mss).2 = .Clamped ∨ (clamp_mss data max_mss).2 = .Noop := by
      rw [clamp_mss_reached _ syn reached]
      split_ifs
      · exact .inl rfl
      · exact .inr rfl
    have := (exact.result.mp result).1
    omega
  · intro regular
    by_cases unreached : TcpSyn data → ∀ n, ¬ MssAt (options data) n
    · exact exact_of_unreached unreached
    · obtain ⟨syn,n,reached⟩ := reached_of_not unreached
      have header : 20 ≤ ihl data := by
        by_contra short
        exact regular ⟨by omega,syn,n,reached⟩
      exact exact_of_header header syn reached

/-- With an internet header length of 0 the checksum is taken to be at byte 16, in
    the destination address. -/
theorem clamp_mss_overwrites_address :
    ¬ ∀ data max_mss, Exact data max_mss := by
  intro exact
  have frame := (exact ([0x40,0,0,40,0,0,0,0,64,6,0,0,0x60,0x02,0,1,192,168,1,1,2,4,5,0xb4] ++ List.replicate 16 0)
    1436).frame 17 (by decide)
  omega

/-! ### The TCP checksum -/

/-- The TCP segment, which ends with the packet or at the end of the buffer. -/
def segment (data : List UInt8) (stop : Nat) : List UInt8 := (data.take stop).drop (ihl data)

/-- The sum of the words of the pseudo-header and the segment. -/
def tcp_sum (data : List UInt8) (stop : Nat) : Nat :=
  (be16 data 12).toNat + (be16 data 14).toNat + (be16 data 16).toNat + (be16 data 18).toNat + (byte data 9).toNat +
    (segment data stop).length + sum_words (segment data stop)

/-- The ones' complement sum of the pseudo-header and the segment is all ones. -/
def TcpValid (data : List UInt8) (stop : Nat) : Prop := fold_carry (tcp_sum data stop) (tcp_sum data stop) = 0xFFFF

instance (data : List UInt8) (stop : Nat) : Decidable (TcpValid data stop) :=
  inferInstanceAs (Decidable (fold_carry (tcp_sum data stop) (tcp_sum data stop) = 0xFFFF))

section
variable {data : List UInt8} {stop : Nat}

theorem tcp_valid_iff (tcp : byte data 9 = 6) : TcpValid data stop ↔ 65535 ∣ tcp_sum data stop := by
  have pos : 0 < tcp_sum data stop := by
    rw [tcp_sum,tcp,show (6 : UInt8).toNat = 6 from rfl]
    omega
  rw [TcpValid,fold_carry_eq]
  exact OnesComplement.fold_eq_top (by omega) (OnesComplement.fold_lt (by omega) (by omega)) pos

theorem ihl_put16 {i : Nat} (v : UInt16) (behind : 20 ≤ i) : ihl (put16 data i v) = ihl data := by
  rw [ihl,byte_put16 _ (by omega),ihl]

theorem segment_put16 {i : Nat} (v : UInt16) (header : 20 ≤ ihl data) (behind : ihl data ≤ i) :
    segment (put16 data i v) stop = put16 (segment data stop) (i - ihl data) v := by
  rw [segment,ihl_put16 _ (by omega),segment,put16,put16,List.take_set,List.take_set,List.drop_set,List.drop_set,
    if_neg (by omega),if_neg (by omega),Nat.sub_add_comm behind]

/-- The sum with a 16-bit number written into the segment. -/
theorem tcp_sum_put16 {i : Nat} (v : UInt16) (header : 20 ≤ ihl data) (behind : ihl data ≤ i)
    (inside : i + 1 < min stop data.length) :
    tcp_sum (put16 data i v) stop + word_weight i * (be16 data i).toNat ≡
      tcp_sum data stop + word_weight i * v.toNat [MOD 65535] := by
  have length : (segment data stop).length = min stop data.length - ihl data := by
    rw [segment,List.length_drop,List.length_take]
  have written := @sum_words_put16 (segment data stop) (i - ihl data) v (by omega)
  have read : be16 (segment data stop) (i - ihl data) = be16 data i := by
    rw [be16,segment,byte_drop,byte_drop,byte_take (by omega),byte_take (by omega),
      show ihl data + (i - ihl data) = i by omega,show ihl data + (i - ihl data + 1) = i + 1 by omega,be16]
  have parity : word_weight (i - ihl data) = word_weight i := by
    unfold word_weight
    rw [show (i - ihl data) % 2 = i % 2 by unfold ihl at *; omega]
  rw [read,parity] at written
  have same : ∀ k, k + 1 < 20 → be16 (put16 data i v) k = be16 data k := fun k early => by
    rw [be16,byte_put16 _ (by omega),byte_put16 _ (by omega),be16]
  rw [tcp_sum,tcp_sum,segment_put16 v header behind,put16_length,same 12 (by omega),same 14 (by omega),
    same 16 (by omega),same 18 (by omega),byte_put16 _ (by omega)]
  rw [Nat.add_assoc,Nat.add_assoc _ (sum_words (segment data stop))]
  exact written.add_left _

/-- What clamping does to the sum. -/
theorem clamped_sum {max_mss : UInt16} {n : Nat} (header : 20 ≤ ihl data) (syn : TcpSyn data)
    (reached : MssAt (options data) n) (above : max_mss < be16 data (ihl data + 20 + n + 2))
    (within : min data.length (ihl data + data_offset data) ≤ stop) :
    tcp_sum (clamp_mss data max_mss).1 stop + word_weight n * (be16 data (ihl data + 20 + n + 2)).toNat +
        max_mss.toNat ≡
      tcp_sum data stop + word_weight n * max_mss.toNat + (be16 data (ihl data + 20 + n + 2)).toNat [MOD 65535] := by
  have last := reached.last
  have fixed := syn.fixed
  rw [clamp_mss_reached _ syn reached,if_pos above]
  set position := ihl data + 20 + n + 2 with positionIs
  have value := @tcp_sum_put16 data stop position max_mss header (by omega) (by omega)
  have parity : word_weight position = word_weight n := by
    unfold word_weight
    rw [show position % 2 = n % 2 by unfold ihl at *; omega]
  have even : word_weight (ihl data + 16) = 1 := by
    unfold word_weight
    rw [if_pos (by unfold ihl; omega)]
  have update := updated_checksum (be16 (put16 data position max_mss) (ihl data + 16)) (be16 data position) max_mss
  rw [incremental_checksum_update]
  dsimp only
  generalize ~~~(UInt16.ofNat (fold_carry 2 _)) = fresh at update ⊢
  have same := @ihl_put16 data position max_mss (by omega)
  have checksum := @tcp_sum_put16 (put16 data position max_mss) stop (ihl data + 16) fresh (by rwa [same])
    (by rw [same]; omega) (by rw [put16_length]; omega)
  rw [parity] at value
  rw [even] at checksum
  rw [Nat.ModEq] at value checksum update ⊢
  rcases Nat.mod_two_eq_zero_or_one n with even | odd
  · rw [word_weight,if_pos even] at value ⊢
    omega
  · rw [word_weight,if_neg (by omega)] at value ⊢
    omega

end

/-- A checksum that is right before the clamping is right after it if and only if
    the value of an MSS option that is clamped begins at an even byte, or changes
    by a multiple of 257. -/
theorem clamp_checksum_iff (data : List UInt8) (max_mss : UInt16) (stop : Nat) (header : 20 ≤ ihl data)
    (within : min data.length (ihl data + data_offset data) ≤ stop) (valid : TcpValid data stop) :
    TcpValid (clamp_mss data max_mss).1 stop ↔
      ∀ n, TcpSyn data → MssAt (options data) n → max_mss < be16 data (ihl data + 20 + n + 2) →
        n % 2 = 0 ∨ 257 ∣ (be16 data (ihl data + 20 + n + 2)).toNat - max_mss.toNat := by
  by_cases clamped : ∃ n, TcpSyn data ∧ MssAt (options data) n ∧ max_mss < be16 data (ihl data + 20 + n + 2)
  · obtain ⟨n,syn,reached,above⟩ := clamped
    have only : (∀ n, TcpSyn data → MssAt (options data) n → max_mss < be16 data (ihl data + 20 + n + 2) →
        n % 2 = 0 ∨ 257 ∣ (be16 data (ihl data + 20 + n + 2)).toNat - max_mss.toNat) ↔
        n % 2 = 0 ∨ 257 ∣ (be16 data (ihl data + 20 + n + 2)).toNat - max_mss.toNat := by
      constructor
      · intro all
        exact all n syn reached above
      · intro one n' _ reached' _
        rwa [← reached.unique reached']
    have sums := clamped_sum header syn reached above within
    have tcp : byte (clamp_mss data max_mss).1 9 = 6 := by rw [clamp_mss_byte (by omega),syn.tcp]
    rw [tcp_valid_iff syn.tcp] at valid
    rw [tcp_valid_iff tcp,only]
    rw [UInt16.lt_iff_toNat_lt] at above
    generalize (be16 data (ihl data + 20 + n + 2)).toNat = value at above sums ⊢
    rw [Nat.ModEq,word_weight] at sums
    split_ifs at sums with even
    · simp only [even,true_or,iff_true]
      omega
    · simp only [even,false_or]
      omega
  · have same : (clamp_mss data max_mss).1 = data := by
      by_cases unreached : TcpSyn data → ∀ n, ¬ MssAt (options data) n
      · exact (clamp_mss_unreached max_mss unreached).1
      · obtain ⟨syn,n,reached⟩ := reached_of_not unreached
        rw [clamp_mss_reached _ syn reached,if_neg fun above => clamped ⟨n,syn,reached,above⟩]
    rw [same]
    exact ⟨fun _ n syn reached above => absurd ⟨n,syn,reached,above⟩ clamped,fun _ => valid⟩

private def syn_with (options : List UInt8) (data_offset checksum_hi checksum_lo : UInt8) : List UInt8 :=
  [0x45,0,0,20 + UInt8.ofNat options.length,0,0,0,0,64,6,0,0,10,0,0,1,192,168,1,1,48,57,1,187,0,0,0,0,0,0,0,0,
    data_offset * 16,0x02,255,255,checksum_hi,checksum_lo,0,0] ++ options

theorem clamp_checksum_even :
    TcpValid (clamp_mss (syn_with [2,4,5,0xb4] 6 154 136) 1436).1 44 ↔
      ∀ n, TcpSyn (syn_with [2,4,5,0xb4] 6 154 136) → MssAt (options (syn_with [2,4,5,0xb4] 6 154 136)) n →
        1436 < be16 (syn_with [2,4,5,0xb4] 6 154 136) (ihl (syn_with [2,4,5,0xb4] 6 154 136) + 20 + n + 2) →
        n % 2 = 0 ∨ 257 ∣ (be16 (syn_with [2,4,5,0xb4] 6 154 136)
          (ihl (syn_with [2,4,5,0xb4] 6 154 136) + 20 + n + 2)).toNat - (1436 : UInt16).toNat :=
  clamp_checksum_iff (syn_with [2,4,5,0xb4] 6 154 136) 1436 44 (by decide) (by decide) (by decide +kernel)

/-- A NOP in front of the MSS option puts its value at an odd byte, where it counts
    with its bytes swapped. -/
theorem clamp_checksum_odd :
    ¬ ∀ data max_mss, 20 ≤ ihl data → TcpSyn data → TcpValid data data.length →
      TcpValid (clamp_mss data max_mss).1 data.length := by
  intro preserved
  have valid := preserved (syn_with [1,2,4,5,0xb4,1,1,0] 7 216 51) 1436 (by decide)
    ⟨by decide,by decide,by decide,by decide,by decide,by decide,by decide⟩ (by decide +kernel)
  exact absurd valid (by decide +kernel)

end Lb.Mtu
