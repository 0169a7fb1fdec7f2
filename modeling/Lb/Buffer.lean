import Lb.Packet

/-!
# Packet buffers

Buffers of a fixed size with a packet at the front, and the ones' complement
checksum of IP headers.
-/
namespace Lb.Buffer
open Lb.Addr Lb.Packet

def PACKET_BUF_SIZE : Nat := 2048

structure PacketBuf where
  data : List UInt8
  len : Nat
  sized : data.length = PACKET_BUF_SIZE
  fits : len ≤ PACKET_BUF_SIZE
deriving DecidableEq

namespace PacketBuf

def new : PacketBuf where
  data := List.replicate PACKET_BUF_SIZE 0
  len := 0
  sized := List.length_replicate
  fits := Nat.zero_le _

/-- The buffer with a packet written over its front, cut off at its end. -/
def write_from (buf : PacketBuf) (src : List UInt8) : PacketBuf where
  data := src.take PACKET_BUF_SIZE ++ buf.data.drop (src.take PACKET_BUF_SIZE).length
  len := (src.take PACKET_BUF_SIZE).length
  sized := by
    have := buf.sized
    simp only [List.length_append,List.length_drop,List.length_take]
    omega
  fits := by simp only [List.length_take]; omega
def from_slice (slice : List UInt8) : PacketBuf := new.write_from slice

def as_slice (buf : PacketBuf) : List UInt8 := buf.data.take buf.len

theorem as_slice_length (buf : PacketBuf) : buf.as_slice.length = buf.len := by
  have := buf.fits
  simp [as_slice,buf.sized,this]

@[simp] theorem write_from_as_slice (buf : PacketBuf) (src : List UInt8) :
    (buf.write_from src).as_slice = src.take PACKET_BUF_SIZE := by simp [write_from,as_slice]
@[simp] theorem from_slice_as_slice (slice : List UInt8) : (from_slice slice).as_slice = slice.take PACKET_BUF_SIZE :=
  write_from_as_slice _ _

/-- The packet as a mutable slice, after it has been changed in place. -/
def with_slice (buf : PacketBuf) (slice : List UInt8) (same : slice.length = buf.len) : PacketBuf where
  data := slice ++ buf.data.drop buf.len
  len := buf.len
  sized := by
    have := buf.fits
    have := buf.sized
    simp only [List.length_append,List.length_drop]
    omega
  fits := buf.fits

@[simp] theorem as_slice_with_slice (buf : PacketBuf) {slice : List UInt8} (same : slice.length = buf.len) :
    (buf.with_slice slice same).as_slice = slice := by
  simp [with_slice,as_slice,← same]

/-- A packet that is not changed leaves the buffer as it was. -/
theorem with_slice_as_slice (buf : PacketBuf) : buf.with_slice buf.as_slice buf.as_slice_length = buf := by
  obtain ⟨data,len,sized,fits⟩ := buf
  simp [with_slice,as_slice]

end PacketBuf

/-! ### Checksums -/

/-- The sum of the big-endian 16-bit words; a last odd byte is a high byte. -/
def sum_words : List UInt8 → Nat
  | [] => 0
  | [b] => b.toNat * 256
  | hi :: lo :: rest => (from_be_bytes hi lo).toNat + sum_words rest

/-- Carries are folded back into the low 16 bits while there are any; of a
    32-bit sum two folds leave none. -/
def fold_carry : Nat → Nat → Nat
  | 0, sum => sum
  | fuel + 1, sum => if 0xFFFF < sum then fold_carry fuel (sum % 0x10000 + sum / 0x10000) else sum

theorem fold_carry_done {sum : Nat} (word : sum < 2 ^ 32) : fold_carry 2 sum ≤ 0xFFFF := by
  simp only [fold_carry]
  split_ifs <;> omega

def ip_checksum (data : List UInt8) : UInt16 := ~~~(UInt16.ofNat (fold_carry 2 (sum_words data)))

end Lb.Buffer
