import Mathlib.Order.Basic
import Mathlib.Data.Nat.Basic
import Mathlib.Order.Nat

/-!
# Addresses

`std::net` addresses as the crates use them: their octets, the order that a
`BTreeSet` of IPv4 addresses follows, and the text that names a backend.
-/
namespace Lb.Addr

/-- The bytes of a 16-bit number, most significant first. -/
def to_be_bytes (v : UInt16) : List UInt8 := [(v >>> 8).toUInt8,v.toUInt8]
/-- A 16-bit number from its bytes, most significant first. -/
def from_be_bytes (hi lo : UInt8) : UInt16 := (hi.toUInt16 <<< 8) ||| lo.toUInt16

theorem from_be_bytes_toNat (hi lo : UInt8) : (from_be_bytes hi lo).toNat = hi.toNat * 256 + lo.toNat := by
  have low := lo.toNat_lt
  have high := hi.toNat_lt
  have joined := Nat.shiftLeft_add_eq_or_of_lt (i := 8) (b := lo.toNat) (by omega) hi.toNat
  simp only [from_be_bytes,UInt16.toNat_or,UInt16.toNat_shiftLeft,UInt8.toNat_toUInt16,UInt16.reduceToNat]
  rw [show 8 % 16 = 8 from rfl]
  rw [Nat.shiftLeft_eq] at joined ⊢
  rw [Nat.mod_eq_of_lt (by omega),← joined]

theorem from_be_bytes_split (v : UInt16) : from_be_bytes (v >>> 8).toUInt8 v.toUInt8 = v := by
  have small := v.toNat_lt
  rw [← UInt16.toNat_inj,from_be_bytes_toNat,UInt16.toNat_toUInt8,UInt16.toNat_toUInt8,UInt16.toNat_shiftRight,
    show (8 : UInt16).toNat % 16 = 8 from rfl,Nat.shiftRight_eq_div_pow]
  omega

theorem to_be_bytes_inj {v w : UInt16} (same : to_be_bytes v = to_be_bytes w) : v = w := by
  simp only [to_be_bytes,List.cons.injEq,and_true] at same
  rw [← from_be_bytes_split v,← from_be_bytes_split w,same.1,same.2]

theorem to_be_bytes_from_be_bytes (hi lo : UInt8) : to_be_bytes (from_be_bytes hi lo) = [hi,lo] := by
  have value := from_be_bytes_toNat hi lo
  have low := lo.toNat_lt
  have high := hi.toNat_lt
  have first : (from_be_bytes hi lo >>> 8).toUInt8 = hi := by
    rw [← UInt8.toNat_inj,UInt16.toNat_toUInt8,UInt16.toNat_shiftRight,value,show (8 : UInt16).toNat % 16 = 8 from rfl,
      Nat.shiftRight_eq_div_pow]
    omega
  have second : (from_be_bytes hi lo).toUInt8 = lo := by
    rw [← UInt8.toNat_inj,UInt16.toNat_toUInt8,value]
    omega
  rw [to_be_bytes,first,second]

structure Ipv4Addr where
  a : UInt8
  b : UInt8
  c : UInt8
  d : UInt8
deriving DecidableEq

def Ipv4Addr.octets (ip : Ipv4Addr) : List UInt8 := [ip.a,ip.b,ip.c,ip.d]
def Ipv4Addr.UNSPECIFIED : Ipv4Addr := ⟨0,0,0,0⟩

/-- The address as a number; addresses are ordered by it. -/
def Ipv4Addr.toNat (ip : Ipv4Addr) : Nat :=
  ((ip.a.toNat * 256 + ip.b.toNat) * 256 + ip.c.toNat) * 256 + ip.d.toNat

theorem Ipv4Addr.toNat_injective : Function.Injective Ipv4Addr.toNat := by
  rintro ⟨a,b,c,d⟩ ⟨a',b',c',d'⟩ same
  simp only [toNat] at same
  have := a.toNat_lt; have := a'.toNat_lt
  have := b.toNat_lt; have := b'.toNat_lt
  have := c.toNat_lt; have := c'.toNat_lt
  have := d.toNat_lt; have := d'.toNat_lt
  have sameA : a.toNat = a'.toNat := by omega
  have sameB : b.toNat = b'.toNat := by omega
  have sameC : c.toNat = c'.toNat := by omega
  have sameD : d.toNat = d'.toNat := by omega
  rw [UInt8.toNat_inj] at sameA sameB sameC sameD
  subst sameA sameB sameC sameD
  rfl

instance : LinearOrder Ipv4Addr := LinearOrder.lift' Ipv4Addr.toNat Ipv4Addr.toNat_injective

/-- The eight 16-bit segments of an IPv6 address. -/
structure Ipv6Addr where
  a : UInt16
  b : UInt16
  c : UInt16
  d : UInt16
  e : UInt16
  f : UInt16
  g : UInt16
  h : UInt16
deriving DecidableEq

def Ipv6Addr.segments (ip : Ipv6Addr) : List UInt16 := [ip.a,ip.b,ip.c,ip.d,ip.e,ip.f,ip.g,ip.h]
def Ipv6Addr.octets (ip : Ipv6Addr) : List UInt8 := ip.segments.flatMap to_be_bytes

inductive IpAddr
  | V4 (ip : Ipv4Addr)
  | V6 (ip : Ipv6Addr)
deriving DecidableEq

/-! ### Text -/

/-- Dotted decimal. -/
def Ipv4Addr.fmt (ip : Ipv4Addr) : List Char :=
  Nat.toDigits 10 ip.a.toNat ++ '.' :: Nat.toDigits 10 ip.b.toNat ++ '.' :: Nat.toDigits 10 ip.c.toNat ++
    '.' :: Nat.toDigits 10 ip.d.toNat

/-- Segments in hexadecimal, separated by colons. -/
def fmt_subslice : List UInt16 → List Char
  | [] => []
  | [s] => Nat.toDigits 16 s.toNat
  | s :: rest => Nat.toDigits 16 s.toNat ++ ':' :: fmt_subslice rest

/-- The start and length of a run of zero segments. -/
structure Span where
  start : Nat
  len : Nat

/-- The first longest run of zero segments: `i` is the index of the next
    segment, `current` the run it may continue. -/
def longest_zeroes : List UInt16 → Nat → Span → Span → Span
  | [], _, _, longest => longest
  | s :: rest, i, current, longest =>
    if s = 0 then
      let current : Span := ⟨if current.len = 0 then i else current.start,current.len + 1⟩
      longest_zeroes rest (i + 1) current (if longest.len < current.len then current else longest)
    else longest_zeroes rest (i + 1) ⟨0,0⟩ longest

/-- The longest run of two or more zero segments is written `::`, and an
    IPv4-mapped address ends in dotted decimal. -/
def Ipv6Addr.fmt (ip : Ipv6Addr) : List Char :=
  if ip.segments.take 6 = [0,0,0,0,0,0xffff] then
    "::ffff:".toList ++ Ipv4Addr.fmt ⟨(ip.g >>> 8).toUInt8,ip.g.toUInt8,(ip.h >>> 8).toUInt8,ip.h.toUInt8⟩
  else
    let longest := longest_zeroes ip.segments 0 ⟨0,0⟩ ⟨0,0⟩
    if 1 < longest.len then
      fmt_subslice (ip.segments.take longest.start) ++ "::".toList ++
        fmt_subslice (ip.segments.drop (longest.start + longest.len))
    else fmt_subslice ip.segments

def IpAddr.fmt : IpAddr → List Char
  | .V4 ip => ip.fmt
  | .V6 ip => ip.fmt

example : (Ipv6Addr.mk 0x2001 0xdb8 0 0 1 0 0 1).fmt = "2001:db8::1:0:0:1".toList := by decide

end Lb.Addr
