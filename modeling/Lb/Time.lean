import Mathlib.Data.List.Basic

/-!
# Durations and instants

The spans and the clock readings of the language's standard library. A span has
seconds of 64 bits without a sign, a reading has them with a sign, and a sum that
does not fit has no value.
-/
namespace Lb.Time

def NANOS_PER_SEC : Nat := 1000000000

theorem nanos_pos : 0 < NANOS_PER_SEC := by decide

@[ext] structure Duration where
  secs : UInt64
  nanos : Nat
  nanos_fit : nanos < NANOS_PER_SEC
deriving DecidableEq

def Duration.from_secs (secs : UInt64) : Duration := ⟨secs,0,nanos_pos⟩
def Duration.from_millis (millis : UInt64) : Duration :=
  ⟨millis / 1000,(millis % 1000).toNat * 1000000,by rw [NANOS_PER_SEC]; simp; omega⟩
def Duration.from_micros (micros : UInt64) : Duration :=
  ⟨micros / 1000000,(micros % 1000000).toNat * 1000,by rw [NANOS_PER_SEC]; simp; omega⟩
/-- The whole microseconds of a span, in 128 bits. -/
def Duration.as_micros (d : Duration) : Nat := d.secs.toNat * 1000000 + d.nanos / 1000

/-- The first number of seconds that no reading has. -/
def SECS_LIMIT : Int := 9223372036854775808

structure Instant where
  tv_sec : Int
  tv_nsec : Nat
  sec_fits : - SECS_LIMIT ≤ tv_sec ∧ tv_sec < SECS_LIMIT
  nsec_fits : tv_nsec < NANOS_PER_SEC
deriving DecidableEq

/-- The reading with these parts, if there is one. -/
def Instant.new (tv_sec : Int) (tv_nsec : Nat) : Option Instant :=
  if fits : (- SECS_LIMIT ≤ tv_sec ∧ tv_sec < SECS_LIMIT) ∧ tv_nsec < NANOS_PER_SEC then
    some ⟨tv_sec,tv_nsec,fits.1,fits.2⟩
  else none

/-- The seconds are added first, and then the one that the nanoseconds carry. -/
def Instant.checked_add (i : Instant) (d : Duration) : Option Instant :=
  (Instant.new (i.tv_sec + d.secs.toNat) 0).bind fun sum =>
    let nsec := i.tv_nsec + d.nanos
    if NANOS_PER_SEC ≤ nsec then Instant.new (sum.tv_sec + 1) (nsec - NANOS_PER_SEC)
    else Instant.new sum.tv_sec nsec

variable {i : Instant} {d : Duration}

theorem Instant.new_isSome {tv_sec : Int} {tv_nsec : Nat} :
    (Instant.new tv_sec tv_nsec).isSome = true ↔
      (- SECS_LIMIT ≤ tv_sec ∧ tv_sec < SECS_LIMIT) ∧ tv_nsec < NANOS_PER_SEC := by
  unfold Instant.new
  split_ifs with fits
  · simp only [Option.isSome_some,true_iff]
    exact fits
  · simp only [Option.isSome_none,Bool.false_eq_true,false_iff]
    exact fits

/-- A span of whole seconds may be added if the seconds fit. -/
theorem Instant.checked_add_isSome (whole : d.nanos = 0) :
    (i.checked_add d).isSome = true ↔ i.tv_sec + d.secs.toNat < SECS_LIMIT := by
  have low := i.sec_fits.1
  have nsec := i.nsec_fits
  unfold Instant.checked_add
  simp only [whole,Nat.add_zero,if_neg (Nat.not_le.mpr nsec)]
  by_cases fits : i.tv_sec + d.secs.toNat < SECS_LIMIT
  · have sum : Instant.new (i.tv_sec + d.secs.toNat) 0 =
        some ⟨i.tv_sec + d.secs.toNat,0,⟨by omega,fits⟩,by decide⟩ :=
      dif_pos ⟨⟨by omega,fits⟩,by decide⟩
    rw [sum,Option.bind_some,Instant.new_isSome]
    exact ⟨fun parts => parts.1.2,fun _ => ⟨⟨by dsimp only; omega,fits⟩,nsec⟩⟩
  · have none_fits : Instant.new (i.tv_sec + d.secs.toNat) 0 = none :=
      dif_neg fun parts => fits parts.1.2
    rw [none_fits]
    simp [fits]

@[simp] theorem Duration.from_secs_secs (secs : UInt64) : (Duration.from_secs secs).secs = secs := rfl
@[simp] theorem Duration.from_secs_nanos (secs : UInt64) : (Duration.from_secs secs).nanos = 0 := rfl

end Lb.Time
