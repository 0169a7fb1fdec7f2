import Mathlib.Data.List.DropRight

/-!
# Text

What the language's standard library does with text: white space is trimmed off both
ends, an ending is stripped, and a 64-bit number is read.
-/
namespace Lb.Text

/-- The characters of Unicode that are white space. -/
def white_space (c : Char) : Bool :=
  let code := c.toNat
  (9 ≤ code && code ≤ 13) || code = 0x20 || code = 0x85 || code = 0xA0 || code = 0x1680 ||
    (0x2000 ≤ code && code ≤ 0x200A) || code = 0x2028 || code = 0x2029 || code = 0x202F || code = 0x205F || code = 0x3000

def trim (s : List Char) : List Char := (s.dropWhile white_space).rdropWhile white_space

def strip_suffix (s ending : List Char) : Option (List Char) :=
  if ending.isSuffixOf s then some (s.take (s.length - ending.length)) else none

inductive IntErrorKind
  | Empty
  | InvalidDigit
  | PosOverflow
deriving DecidableEq

def IntErrorKind.text : IntErrorKind → String
  | .Empty => "cannot parse integer from empty string"
  | .InvalidDigit => "invalid digit found in string"
  | .PosOverflow => "number too large to fit in target type"

/-- The digits from the left; the first that is none, or that makes the number too
    large, ends the reading. -/
def read_digits (result : Nat) : List Char → Except IntErrorKind Nat
  | [] => .ok result
  | c :: rest =>
    if !c.isDigit then .error .InvalidDigit
    else
      let result := 10 * result + (c.toNat - '0'.toNat)
      if 0xFFFFFFFFFFFFFFFF < result then .error .PosOverflow else read_digits result rest

/-- A number may have a plus sign, but not a plus sign alone. -/
def parse_u64 : List Char → Except IntErrorKind UInt64
  | [] => .error .Empty
  | '+' :: [] => .error .InvalidDigit
  | '+' :: digits => (read_digits 0 digits).map UInt64.ofNat
  | digits => (read_digits 0 digits).map UInt64.ofNat

example : parse_u64 "+18446744073709551615".toList = .ok 18446744073709551615 := by decide
example : parse_u64 "18446744073709551616".toList = .error .PosOverflow := by decide

section
variable {s front ending other : List Char} {c : Char}

/-! ### Trimming and stripping -/

theorem white_space_digit (digit : c.isDigit = true) : white_space c = false := by
  simp only [Char.isDigit,Bool.and_eq_true,decide_eq_true_eq] at digit
  have low : 48 ≤ c.toNat := digit.1
  have high : c.toNat ≤ 57 := digit.2
  simp only [white_space,Bool.or_eq_false_iff,Bool.and_eq_false_iff,decide_eq_false_iff_not]
  omega

/-- Text without white space is not trimmed. -/
theorem trim_eq_self (solid : ∀ c ∈ s, white_space c = false) : trim s = s := by
  have front : s.dropWhile white_space = s := by
    cases s with
    | nil => rfl
    | cons c rest => rw [List.dropWhile_cons_of_neg (by simp [solid c List.mem_cons_self])]
  rw [trim,front,List.rdropWhile_eq_self_iff]
  intro some_left
  simp [solid _ (List.getLast_mem some_left)]

theorem strip_suffix_append (front ending : List Char) : strip_suffix (front ++ ending) ending = some front := by
  rw [strip_suffix,if_pos (by simp)]
  simp

/-- Another ending of the same length is not stripped. -/
theorem strip_suffix_other (front : List Char) (same : ending.length = other.length) (differs : other ≠ ending) :
    strip_suffix (front ++ ending) other = none := by
  refine if_neg fun ends => ?_
  have ends := List.isSuffixOf_iff_suffix.mp ends
  have agree := List.suffix_or_suffix_of_suffix ends (List.suffix_append front ending)
  rcases agree with less | more
  · exact differs (less.eq_of_length same.symm)
  · exact differs (more.eq_of_length same).symm

/-! ### Numbers -/

theorem ofDigitChars_ge (digits : List Char) (n : Nat) : n ≤ Nat.ofDigitChars 10 digits n := by
  induction digits generalizing n with
  | nil => simp
  | cons c rest ih =>
    rw [Nat.ofDigitChars_cons]
    have := ih (10 * n + (c.toNat - '0'.toNat))
    omega

/-- Digits are read as the number that they write, if it fits. -/
theorem read_digits_eq {digits : List Char} (all : ∀ c ∈ digits, c.isDigit = true) (n : Nat)
    (fits : Nat.ofDigitChars 10 digits n ≤ 0xFFFFFFFFFFFFFFFF) :
    read_digits n digits = .ok (Nat.ofDigitChars 10 digits n) := by
  induction digits generalizing n with
  | nil => simp [read_digits]
  | cons c rest ih =>
    obtain ⟨first,all⟩ := List.forall_mem_cons.mp all
    rw [Nat.ofDigitChars_cons] at fits ⊢
    have bounded := ofDigitChars_ge rest (10 * n + (c.toNat - '0'.toNat))
    rw [read_digits,first]
    dsimp only
    rw [if_neg (by decide),if_neg (by omega),ih all _ fits]

/-- A number that is written out is read back. -/
theorem parse_u64_toDigits (n : UInt64) : parse_u64 (Nat.toDigits 10 n.toNat) = .ok n := by
  have digits : ∀ c ∈ Nat.toDigits 10 n.toNat, c.isDigit = true :=
    fun c listed => Nat.isDigit_of_mem_toDigits (by decide) (by decide) listed
  have read := read_digits_eq digits 0 (by
    rw [Nat.ofDigitChars_ten_toDigits]
    exact Nat.le_of_lt_succ n.toNat_lt)
  rw [Nat.ofDigitChars_ten_toDigits] at read
  obtain ⟨c,rest,written⟩ := List.exists_cons_of_ne_nil (@Nat.toDigits_ne_nil n.toNat 10)
  rw [written] at digits read ⊢
  have sign : c ≠ '+' := by
    rintro rfl
    exact absurd (digits '+' List.mem_cons_self) (by decide)
  have unsigned : parse_u64 (c :: rest) = (read_digits 0 (c :: rest)).map UInt64.ofNat := by
    unfold parse_u64
    split <;> simp_all
  rw [unsigned,read]
  exact congrArg Except.ok (UInt64.ofNat_toNat)

end

end Lb.Text
