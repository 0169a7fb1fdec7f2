import Lb.Text
import Lb.Time

/-!
# Durations in the configuration

Durations are written with a unit, the largest in which they are whole, and read
back with any of the three units.
-/
namespace Lb.Durations
open Lb.Text Lb.Time

def serialize_duration (duration : Duration) : List Char :=
  let micros := duration.as_micros
  if micros % 1000000 = 0 then Nat.toDigits 10 (micros / 1000000) ++ ['s']
  else if micros % 1000 = 0 then Nat.toDigits 10 (micros / 1000) ++ ['m','s']
  else Nat.toDigits 10 micros ++ ['u','s']

/-- The count of a unit, with white space around it. -/
def parse_count (of : UInt64 → Duration) (val : List Char) : Except String Duration :=
  match parse_u64 (trim val) with
  | .ok n => .ok (of n)
  | .error e => .error e.text

def parse_duration (s : List Char) : Except String Duration :=
  let s := trim s
  match strip_suffix s ['u','s'] with
  | some val => parse_count .from_micros val
  | none =>
    match strip_suffix s ['m','s'] with
    | some val => parse_count .from_millis val
    | none =>
      match strip_suffix s ['s'] with
      | some val => parse_count .from_secs val
      | none => .error ("unknown duration format: " ++ .ofList s)

/-- A count of one of the three units. -/
inductive Counted : Duration → Prop
  | micros (n : UInt64) : Counted (.from_micros n)
  | millis (n : UInt64) : Counted (.from_millis n)
  | secs (n : UInt64) : Counted (.from_secs n)

section
variable {s val : List Char} {d : Duration} {n : UInt64}

/-! ### What is read -/

theorem parse_count_ok {of : UInt64 → Duration} (parsed : parse_count of val = .ok d) : ∃ n, of n = d := by
  unfold parse_count at parsed
  cases number : parse_u64 (trim val) with
  | ok n =>
    rw [number] at parsed
    cases parsed
    exact ⟨n,rfl⟩
  | error e =>
    rw [number] at parsed
    cases parsed

/-- What is read is a count of a unit. -/
theorem parse_duration_counted (parsed : parse_duration s = .ok d) : Counted d := by
  unfold parse_duration at parsed
  dsimp only at parsed
  cases micros : strip_suffix (trim s) ['u','s'] with
  | some val =>
    rw [micros] at parsed
    obtain ⟨n,rfl⟩ := parse_count_ok parsed
    exact .micros n
  | none =>
    rw [micros] at parsed
    dsimp only at parsed
    cases millis : strip_suffix (trim s) ['m','s'] with
    | some val =>
      rw [millis] at parsed
      obtain ⟨n,rfl⟩ := parse_count_ok parsed
      exact .millis n
    | none =>
      rw [millis] at parsed
      dsimp only at parsed
      cases secs : strip_suffix (trim s) ['s'] with
      | some val =>
        rw [secs] at parsed
        obtain ⟨n,rfl⟩ := parse_count_ok parsed
        exact .secs n
      | none =>
        rw [secs] at parsed
        cases parsed

/-! ### What is written -/

/-- The digits of a count. -/
def digits (n : UInt64) : List Char := Nat.toDigits 10 n.toNat

theorem digits_solid (n : UInt64) : ∀ c ∈ digits n, white_space c = false :=
  fun _ listed => white_space_digit (Nat.isDigit_of_mem_toDigits (by decide) (by decide) listed)

theorem parse_count_digits (of : UInt64 → Duration) (n : UInt64) : parse_count of (digits n) = .ok (of n) := by
  rw [parse_count,trim_eq_self (digits_solid n),digits,parse_u64_toDigits]

/-- A count with a unit has no white space. -/
theorem trim_written (n : UInt64) {unit : List Char} (solid : unit.any white_space = false) :
    trim (digits n ++ unit) = digits n ++ unit := by
  refine trim_eq_self fun c listed => ?_
  rcases List.mem_append.mp listed with digit | letter
  · exact digits_solid n c digit
  · exact eq_false_of_ne_true (List.any_eq_false.mp solid c letter)

theorem parse_micros (n : UInt64) : parse_duration (digits n ++ ['u','s']) = .ok (.from_micros n) := by
  unfold parse_duration
  dsimp only
  rw [trim_written n rfl,strip_suffix_append]
  exact parse_count_digits .from_micros n

theorem parse_millis (n : UInt64) : parse_duration (digits n ++ ['m','s']) = .ok (.from_millis n) := by
  have other : strip_suffix (digits n ++ ['m','s']) ['u','s'] = none := strip_suffix_other (digits n) rfl (by decide)
  unfold parse_duration
  dsimp only
  rw [trim_written n rfl,other,strip_suffix_append]
  exact parse_count_digits .from_millis n

/-- The letter before the `s` of seconds is a digit. -/
theorem parse_secs (n : UInt64) : parse_duration (digits n ++ ['s']) = .ok (.from_secs n) := by
  have no_unit : ∀ letter : Char, letter.isDigit = false → strip_suffix (digits n ++ ['s']) [letter,'s'] = none := by
    intro letter other
    obtain ⟨front,last,split⟩ := List.eq_nil_or_concat (digits n) |>.resolve_left Nat.toDigits_ne_nil
    have digit : last.isDigit = true :=
      Nat.isDigit_of_mem_toDigits (by decide) (by decide) (show last ∈ digits n by simp [split])
    rw [split,List.concat_eq_append,List.append_assoc]
    refine strip_suffix_other front rfl ?_
    intro same
    rw [List.singleton_append,List.cons.injEq] at same
    rw [same.1,digit] at other
    cases other
  unfold parse_duration
  dsimp only
  rw [trim_written n rfl,no_unit 'u' rfl,no_unit 'm' rfl,strip_suffix_append]
  exact parse_count_digits .from_secs n

/-! ### There and back -/

theorem as_micros_from_micros (n : UInt64) : (Duration.from_micros n).as_micros = n.toNat := by
  simp [Duration.as_micros,Duration.from_micros]
  omega

theorem as_micros_from_millis (n : UInt64) : (Duration.from_millis n).as_micros = n.toNat * 1000 := by
  simp [Duration.as_micros,Duration.from_millis]
  omega

theorem as_micros_from_secs (n : UInt64) : (Duration.from_secs n).as_micros = n.toNat * 1000000 := by
  simp [Duration.as_micros,Duration.from_secs]

/-- Counts of a unit have whole microseconds. -/
theorem counted_micros (counted : Counted d) : d.nanos % 1000 = 0 := by
  cases counted with
  | micros n => exact Nat.mul_mod_left _ 1000
  | millis n =>
    show (n % 1000).toNat * 1000000 % 1000 = 0
    omega
  | secs n => rfl

theorem whole_secs (counted : Counted d) (whole : d.as_micros % 1000000 = 0) :
    d.as_micros / 1000000 = d.secs.toNat ∧ d = .from_secs d.secs := by
  have micros := counted_micros counted
  have fits := d.nanos_fit
  rw [NANOS_PER_SEC] at fits
  rw [Duration.as_micros] at whole ⊢
  exact ⟨by omega,Duration.ext rfl (by show d.nanos = 0; omega)⟩

theorem whole_millis (n : UInt64) (whole : n.toNat % 1000 = 0) : Duration.from_millis (n / 1000) = .from_micros n := by
  refine Duration.ext (UInt64.toNat_inj.mp ?_) ?_
  · simp [Duration.from_millis,Duration.from_micros]
    omega
  · simp [Duration.from_millis,Duration.from_micros]
    omega

/-- A count of a unit is read back as it is written. -/
theorem counted_round_trip (counted : Counted d) : parse_duration (serialize_duration d) = .ok d := by
  unfold serialize_duration
  dsimp only
  by_cases secs : d.as_micros % 1000000 = 0
  · obtain ⟨count,same⟩ := whole_secs counted secs
    rw [if_pos secs,count]
    exact (parse_secs d.secs).trans (congrArg Except.ok same.symm)
  · rw [if_neg secs]
    by_cases millis : d.as_micros % 1000 = 0
    · rw [if_pos millis]
      cases counted with
      | micros n =>
        rw [as_micros_from_micros] at millis ⊢
        have count : n.toNat / 1000 = (n / 1000).toNat := by simp
        rw [count,← whole_millis n millis]
        exact parse_millis (n / 1000)
      | millis n =>
        rw [as_micros_from_millis,Nat.mul_div_cancel _ (by decide)]
        exact parse_millis n
      | secs n =>
        rw [as_micros_from_secs] at secs
        omega
    · rw [if_neg millis]
      cases counted with
      | micros n =>
        rw [as_micros_from_micros]
        exact parse_micros n
      | millis n =>
        rw [as_micros_from_millis] at millis
        omega
      | secs n =>
        rw [as_micros_from_secs] at millis
        omega

end

/-- What is read from the configuration is read back unchanged after it is written. -/
theorem duration_round_trip {s : List Char} {d : Duration} (parsed : parse_duration s = .ok d) :
    parse_duration (serialize_duration d) = .ok d :=
  counted_round_trip (parse_duration_counted parsed)

/-- The largest count, with white space around it. -/
theorem duration_round_trip_largest :
    parse_duration (serialize_duration (.from_millis 18446744073709551615)) = .ok (.from_millis 18446744073709551615) :=
  @duration_round_trip " 18446744073709551615 ms ".toList _ (by decide +kernel)

end Lb.Durations
