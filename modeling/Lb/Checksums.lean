import Lb.OnesComplement
import Lb.Mtu

/-!
# Internet checksums

The checksum of a header or a segment is right if the ones' complement sum of
its words is all ones. A byte at an even index counts 256 times, one at an odd
index once.
-/
namespace Lb.Buffer
open Lb.Addr Lb.Packet

theorem be16_toNat (data : List UInt8) (i : Nat) :
    (be16 data i).toNat = (byte data i).toNat * 256 + (byte data (i + 1)).toNat := from_be_bytes_toNat _ _

theorem sum_words_eq (data : List UInt8) : sum_words data = OnesComplement.words 256 (data.map UInt8.toNat) := by
  induction data using sum_words.induct with
  | case1 => rfl
  | case2 b => rfl
  | case3 hi lo rest ih =>
    rw [sum_words,ih,from_be_bytes_toNat]
    rfl

theorem fold_carry_eq (fuel sum : Nat) : fold_carry fuel sum = OnesComplement.fold 0x10000 fuel sum := by
  induction fuel generalizing sum with
  | zero => rfl
  | succ fuel ih => simp only [fold_carry,OnesComplement.fold,ih,Nat.lt_iff_add_one_le]

/-- The sum of the words with one byte replaced. -/
theorem sum_words_set {data : List UInt8} (b : UInt8) {i : Nat} (inside : i < data.length) :
    sum_words (data.set i b) + OnesComplement.weight 256 i * (byte data i).toNat =
      sum_words data + OnesComplement.weight 256 i * b.toNat := by
  have replaced := @OnesComplement.words_set 256 (data.map UInt8.toNat) b.toNat i (by rwa [List.length_map])
  have read : (data.map UInt8.toNat).getD i 0 = (byte data i).toNat := by
    simp [byte,List.getD_eq_getElem?_getD,List.getElem?_eq_getElem inside]
  rw [read,← List.map_set] at replaced
  rwa [sum_words_eq,sum_words_eq]

theorem sum_words_le : ∀ data : List UInt8, sum_words data ≤ 65535 * data.length
  | [] => Nat.zero_le _
  | [b] => by
    have := b.toNat_lt
    simp only [sum_words,List.length_singleton]
    omega
  | hi :: lo :: rest => by
    have := (from_be_bytes hi lo).toNat_lt
    have := sum_words_le rest
    simp only [sum_words,List.length_cons]
    omega

/-- Bytes that are given the checksum they have without it sum up to all ones. -/
theorem fold_carry_filled {blank filled : List UInt8} (short : blank.length ≤ 65536) (pos : 0 < sum_words blank)
    (sum : sum_words filled = sum_words blank + (ip_checksum blank).toNat) :
    fold_carry 2 (sum_words filled) = 0xFFFF := by
  have bound := sum_words_le blank
  have same := @OnesComplement.fold_modEq 0x10000 (by omega) 2 (sum_words blank)
  have folded := @fold_carry_done (sum_words blank) (by omega)
  rw [← fold_carry_eq,Nat.ModEq] at same
  have checksum : (ip_checksum blank).toNat = 65535 - fold_carry 2 (sum_words blank) := by
    rw [ip_checksum,UInt16.toNat_not,UInt16.toNat_ofNat_of_lt' (by rw [UInt16.size]; omega)]
    rfl
  rw [sum,checksum]
  generalize sum_words blank = blank_sum at *
  generalize fold_carry 2 blank_sum = folded_sum at *
  have small := @fold_carry_done (blank_sum + (65535 - folded_sum)) (by omega)
  rw [fold_carry_eq] at small ⊢
  exact (OnesComplement.fold_eq_top (by omega) (by omega) (by omega)).mpr (by omega)

/-- Their own checksum is zero. -/
theorem ip_checksum_filled {blank filled : List UInt8} (short : blank.length ≤ 65536) (pos : 0 < sum_words blank)
    (sum : sum_words filled = sum_words blank + (ip_checksum blank).toNat) : ip_checksum filled = 0 := by
  rw [ip_checksum,fold_carry_filled short pos sum]
  rfl

end Lb.Buffer

namespace Lb.Mtu
open Lb.Addr Lb.Packet Lb.Buffer

/-- What a 16-bit number at an index counts for in the sum of the words, to the
    modulus 65535: at an odd index its bytes are swapped. -/
def word_weight (i : Nat) : Nat := if i % 2 = 0 then 1 else 256

theorem put16_bytes (v : UInt16) : (v >>> 8).toUInt8.toNat * 256 + v.toUInt8.toNat = v.toNat := by
  rw [← from_be_bytes_toNat,from_be_bytes_split]

/-- The sum of the words with a 16-bit number written. -/
theorem sum_words_put16 {data : List UInt8} {i : Nat} (v : UInt16) (inside : i + 1 < data.length) :
    sum_words (put16 data i v) + word_weight i * (be16 data i).toNat ≡
      sum_words data + word_weight i * v.toNat [MOD 65535] := by
  have first := sum_words_set (v >>> 8).toUInt8 (show i < data.length by omega)
  have second := @sum_words_set (data.set i (v >>> 8).toUInt8) v.toUInt8 (i + 1) (by simpa using inside)
  have apart : byte (data.set i (v >>> 8).toUInt8) (i + 1) = byte data (i + 1) := by
    simp [byte,List.getD_eq_getElem?_getD,List.getElem?_set_ne (show i ≠ i + 1 by omega)]
  rw [apart] at second
  have written := put16_bytes v
  have read := be16_toNat data i
  rw [put16,Nat.ModEq]
  generalize sum_words ((data.set i (v >>> 8).toUInt8).set (i + 1) v.toUInt8) = after at *
  generalize sum_words (data.set i (v >>> 8).toUInt8) = between at *
  rcases Nat.mod_two_eq_zero_or_one i with even | odd
  · have odd : (i + 1) % 2 = 1 := by omega
    simp only [OnesComplement.weight,word_weight,even,odd,if_true,one_ne_zero,if_false] at *
    omega
  · have even : (i + 1) % 2 = 0 := by omega
    simp only [OnesComplement.weight,word_weight,even,odd,if_true,one_ne_zero,if_false] at *
    omega

/-- The checksum that is written makes up for the change of a word. -/
theorem updated_checksum (checksum old new : UInt16) :
    (~~~(UInt16.ofNat (fold_carry 2 ((~~~checksum).toNat + (~~~old).toNat + new.toNat)))).toNat + new.toNat ≡
      checksum.toNat + old.toNat [MOD 65535] := by
  have flip : ∀ v : UInt16, (~~~v).toNat = 65535 - v.toNat := fun v => by
    have := v.toNat_lt
    rw [UInt16.toNat_not]
    rfl
  have c := checksum.toNat_lt
  have o := old.toNat_lt
  have n := new.toNat_lt
  have small := @fold_carry_done ((~~~checksum).toNat + (~~~old).toNat + new.toNat) (by rw [flip,flip]; omega)
  have same := @OnesComplement.fold_modEq 0x10000 (by omega) 2 ((~~~checksum).toNat + (~~~old).toNat + new.toNat)
  rw [← fold_carry_eq,Nat.ModEq] at same
  rw [flip,UInt16.toNat_ofNat_of_lt' (by rw [UInt16.size]; omega),Nat.ModEq]
  rw [flip,flip] at *
  generalize fold_carry 2 (65535 - checksum.toNat + (65535 - old.toNat) + new.toNat) = folded at *
  omega

end Lb.Mtu
