import Mathlib.Data.List.Basic
import Mathlib.Data.List.GetD

/-!
# Bytes read as text

UTF-8 in which whatever is no character is replaced: a sequence of bytes that
begins a character and does not end it gives one replacement character, and so
does a byte that begins none. Bytes below 128 stand for themselves, and nothing
else is read as one of them.
-/
namespace Lb.Utf8

def REPLACEMENT_CHARACTER : Char := '\uFFFD'

/-- The character of an ASCII byte. -/
def char (b : UInt8) : Char := Char.ofNat b.toNat

def continues (b : UInt8) : Bool := 0x80 ≤ b && b ≤ 0xBF
/-- The second byte of a character of three or four, after the first. -/
def second (first b : UInt8) : Bool :=
  if first = 0xE0 then 0xA0 ≤ b && b ≤ 0xBF
  else if first = 0xED then 0x80 ≤ b && b ≤ 0x9F
  else if first = 0xF0 then 0x90 ≤ b && b ≤ 0xBF
  else if first = 0xF4 then 0x80 ≤ b && b ≤ 0x8F
  else continues b

/-- The low bits of a byte that goes on with a character. -/
def low (b : UInt8) : Nat := b.toNat % 64

/-- The character that a byte begins, and how many more bytes it takes. -/
def read_char (first : UInt8) (rest : List UInt8) : Char × Nat :=
  let b := rest.getD 0 0
  let c := rest.getD 1 0
  let d := rest.getD 2 0
  if first < 0x80 then (char first,0)
  else if 0xC2 ≤ first ∧ first ≤ 0xDF then
    if continues b then (Char.ofNat (first.toNat % 32 * 64 + low b),1) else (REPLACEMENT_CHARACTER,0)
  else if 0xE0 ≤ first ∧ first ≤ 0xEF then
    if second first b then
      if continues c then (Char.ofNat (first.toNat % 16 * 4096 + low b * 64 + low c),2) else (REPLACEMENT_CHARACTER,1)
    else (REPLACEMENT_CHARACTER,0)
  else if 0xF0 ≤ first ∧ first ≤ 0xF4 then
    if second first b then
      if continues c then
        if continues d then (Char.ofNat (first.toNat % 8 * 262144 + low b * 4096 + low c * 64 + low d),3)
        else (REPLACEMENT_CHARACTER,2)
      else (REPLACEMENT_CHARACTER,1)
    else (REPLACEMENT_CHARACTER,0)
  else (REPLACEMENT_CHARACTER,0)

def read_chars : Nat → List UInt8 → List Char
  | 0, _ => []
  | _, [] => []
  | fuel + 1, first :: rest =>
    let (c,more) := read_char first rest
    c :: read_chars fuel (rest.drop more)
def from_utf8_lossy (bytes : List UInt8) : List Char := read_chars bytes.length bytes

/-! ### ASCII -/

/-- The bytes are read as the text: ASCII as itself, all else as something else. -/
inductive Reads : List UInt8 → List Char → Prop
  | nil : Reads [] []
  | ascii {b : UInt8} {bytes : List UInt8} {text : List Char} (seven_bits : b < 0x80) (rest : Reads bytes text) :
      Reads (b :: bytes) (char b :: text)
  | other {first : UInt8} {more bytes : List UInt8} {c : Char} {text : List Char}
      (above : ∀ b ∈ first :: more, 0x80 ≤ b) (no_ascii : 0x80 ≤ c.toNat) (rest : Reads bytes text) :
      Reads (first :: more ++ bytes) (c :: text)

theorem toNat_ofNat {n : Nat} (valid : n.isValidChar) : (Char.ofNat n).toNat = n := by
  rw [Char.ofNat,dif_pos valid]
  rfl

theorem toNat_char (b : UInt8) : (char b).toNat = b.toNat := by
  have := b.toNat_lt
  exact toNat_ofNat (.inl (by omega))

theorem char_inj {a b : UInt8} : char a = char b ↔ a = b := by
  constructor
  · intro same
    have := congrArg Char.toNat same
    rw [toNat_char,toNat_char] at this
    exact UInt8.toNat_inj.mp this
  · rintro rfl
    rfl

section
variable {b c d first : UInt8} {rest bytes : List UInt8} {text : List Char}

theorem continues_iff : continues b = true ↔ 128 ≤ b.toNat ∧ b.toNat ≤ 191 := by
  simp [continues,UInt8.le_iff_toNat_le]

/-- A second byte goes on with a character, and keeps it out of what has a shorter
    form, is half of a surrogate pair or is too large. -/
theorem second_bounds (fits : second first b = true) :
    (128 ≤ b.toNat ∧ b.toNat ≤ 191) ∧ (first.toNat = 0xE0 → 160 ≤ b.toNat) ∧ (first.toNat = 0xED → b.toNat ≤ 159) ∧
      (first.toNat = 0xF0 → 144 ≤ b.toNat) ∧ (first.toNat = 0xF4 → b.toNat ≤ 143) := by
  unfold second at fits
  simp only [continues,UInt8.le_iff_toNat_le,← UInt8.toNat_inj] at fits
  split_ifs at fits <;> simp_all <;> omega

theorem take_above {n : Nat} (above : ∀ i < n, 128 ≤ (rest.getD i 0).toNat) :
    ∀ b ∈ rest.take n, (0x80 : UInt8) ≤ b := by
  intro b listed
  obtain ⟨i,inside,rfl⟩ := List.getElem_of_mem listed
  rw [List.length_take] at inside
  have here := above i (by omega)
  rw [List.getD_eq_getElem _ _ (by omega)] at here
  rw [List.getElem_take,UInt8.le_iff_toNat_le]
  exact here

theorem ofNat_above {n : Nat} (above : 128 ≤ n) (valid : n < 0xD800 ∨ 0xDFFF < n ∧ n < 0x110000) :
    0x80 ≤ (Char.ofNat n).toNat := by
  rw [toNat_ofNat valid]
  exact above

/-- A byte that is no ASCII is read, with all that it takes, as one character that
    is no ASCII. -/
theorem read_char_above (above : ¬ first < 0x80) :
    0x80 ≤ (read_char first rest).1.toNat ∧ ∀ i < (read_char first rest).2, 128 ≤ (rest.getD i 0).toNat := by
  have replaced : 0x80 ≤ REPLACEMENT_CHARACTER.toNat := by decide
  have one : 128 ≤ (rest.getD 0 0).toNat → ∀ i < 1, 128 ≤ (rest.getD i 0).toNat := by
    intro b i inside
    obtain rfl : i = 0 := by omega
    exact b
  have two : 128 ≤ (rest.getD 0 0).toNat → 128 ≤ (rest.getD 1 0).toNat → ∀ i < 2, 128 ≤ (rest.getD i 0).toNat := by
    intro b c i inside
    obtain rfl | rfl : i = 0 ∨ i = 1 := by omega
    · exact b
    · exact c
  unfold read_char
  dsimp only
  rw [if_neg above]
  simp only [UInt8.le_iff_toNat_le,UInt8.reduceToNat]
  split_ifs with range cont range fits cont range fits cont cont'
  · have b := continues_iff.mp cont
    refine ⟨ofNat_above ?_ ?_,one b.1⟩
    · unfold low
      omega
    · unfold low
      omega
  · exact ⟨replaced,by omega⟩
  · obtain ⟨b,e0,ed,_⟩ := second_bounds fits
    have c := continues_iff.mp cont
    refine ⟨ofNat_above ?_ ?_,two b.1 c.1⟩
    · unfold low
      omega
    · unfold low
      omega
  · obtain ⟨b,_⟩ := second_bounds fits
    exact ⟨replaced,one b.1⟩
  · exact ⟨replaced,by omega⟩
  · obtain ⟨b,_,_,f0,f4⟩ := second_bounds fits
    have c := continues_iff.mp cont
    have d := continues_iff.mp cont'
    refine ⟨ofNat_above ?_ ?_,?_⟩
    · unfold low
      omega
    · unfold low
      omega
    · intro i inside
      obtain rfl | rfl | rfl : i = 0 ∨ i = 1 ∨ i = 2 := by omega
      · exact b.1
      · exact c.1
      · exact d.1
  · obtain ⟨b,_⟩ := second_bounds fits
    have c := continues_iff.mp cont
    exact ⟨replaced,two b.1 c.1⟩
  · obtain ⟨b,_⟩ := second_bounds fits
    exact ⟨replaced,one b.1⟩
  · exact ⟨replaced,by omega⟩
  · exact ⟨replaced,by omega⟩

theorem read_char_ascii (seven_bits : first < 0x80) : read_char first rest = (char first,0) := if_pos seven_bits

/-- ASCII, and nothing else, is read as ASCII. -/
theorem read_chars_reads (fuel : Nat) (bytes : List UInt8) (enough : bytes.length ≤ fuel) :
    Reads bytes (read_chars fuel bytes) := by
  induction fuel generalizing bytes with
  | zero =>
    obtain rfl := List.length_eq_zero_iff.mp (Nat.le_zero.mp enough)
    exact .nil
  | succ fuel ih =>
    cases bytes with
    | nil => exact .nil
    | cons first rest =>
      rw [List.length_cons] at enough
      by_cases seven_bits : first < 0x80
      · rw [read_chars,read_char_ascii seven_bits]
        exact .ascii seven_bits (ih rest (by omega))
      · obtain ⟨no_ascii,above⟩ := @read_char_above first rest seven_bits
        have later := ih (rest.drop (read_char first rest).2) (by rw [List.length_drop]; omega)
        have block : ∀ b ∈ first :: rest.take (read_char first rest).2, (0x80 : UInt8) ≤ b := by
          intro b listed
          rcases List.mem_cons.mp listed with rfl | listed
          · exact UInt8.not_lt.mp seven_bits
          · exact take_above above b listed
        have joined := Reads.other block no_ascii later
        rwa [List.cons_append,List.take_append_drop] at joined

theorem from_utf8_lossy_reads (bytes : List UInt8) : Reads bytes (from_utf8_lossy bytes) :=
  read_chars_reads bytes.length bytes (Nat.le_refl _)

example : from_utf8_lossy [0xE2,0x82,0xAC,0xE2,0x82,0x41] = ['€',REPLACEMENT_CHARACTER,'A'] := by decide

/-- A line ends in the text where it ends in the bytes. -/
theorem Reads.takeWhile (reads : Reads bytes text) {stop : UInt8} (seven_bits : stop < 0x80) :
    Reads (bytes.takeWhile (· ≠ stop)) (text.takeWhile (· ≠ char stop)) := by
  induction reads with
  | nil => exact .nil
  | @ascii b bytes text small rest ih =>
    by_cases here : b = stop
    · subst here
      simpa using Reads.nil
    · have other : char b ≠ char stop := fun same => here (char_inj.mp same)
      rw [List.takeWhile_cons_of_pos (by simpa using here),List.takeWhile_cons_of_pos (by simpa using other)]
      exact .ascii small ih
  | @other first more bytes c text above no_ascii rest ih =>
    have passed : ∀ b ∈ first :: more, decide (b ≠ stop) = true := by
      intro b listed
      have := above b listed
      simp only [decide_eq_true_eq]
      rintro rfl
      exact absurd seven_bits (UInt8.not_lt.mpr this)
    have different : c ≠ char stop := by
      rintro rfl
      rw [toNat_char] at no_ascii
      rw [UInt8.lt_iff_toNat_lt] at seven_bits
      exact absurd seven_bits (Nat.not_lt.mpr no_ascii)
    rw [List.takeWhile_append_of_pos passed,List.takeWhile_cons_of_pos (by simpa using different)]
    exact .other above no_ascii ih

/-- A character that is no ASCII, and the bytes that it is read from, are no part of
    a pattern of ASCII. -/
theorem no_ascii_front {p : UInt8} {pattern : List UInt8} {c : Char} (seven_bits : p < 0x80) (no_ascii : 0x80 ≤ c.toNat) :
    ¬ (p :: pattern).map char <+: c :: text := by
  rw [List.map_cons,List.cons_prefix_cons]
  rintro ⟨rfl,_⟩
  rw [toNat_char] at no_ascii
  rw [UInt8.lt_iff_toNat_lt] at seven_bits
  exact absurd seven_bits (Nat.not_lt.mpr no_ascii)
theorem above_front {p : UInt8} {pattern : List UInt8} (seven_bits : p < 0x80) (above : 0x80 ≤ b) :
    ¬ p :: pattern <+: b :: bytes := by
  rw [List.cons_prefix_cons]
  rintro ⟨rfl,_⟩
  exact absurd seven_bits (UInt8.not_lt.mpr above)

/-- ASCII is at the front of the text if it is at the front of the bytes. -/
theorem Reads.prefix_iff (reads : Reads bytes text) {pattern : List UInt8} (seven_bits : ∀ b ∈ pattern, b < 0x80) :
    pattern.map char <+: text ↔ pattern <+: bytes := by
  induction reads generalizing pattern with
  | nil => simp
  | @ascii b bytes text small rest ih =>
    cases pattern with
    | nil => simp
    | cons p pattern =>
      rw [List.map_cons,List.cons_prefix_cons,List.cons_prefix_cons,char_inj,
        ih fun b listed => seven_bits b (List.mem_cons_of_mem p listed)]
  | @other first more bytes c text above no_ascii rest ih =>
    cases pattern with
    | nil => simp
    | cons p pattern =>
      have small := seven_bits p List.mem_cons_self
      exact iff_of_false (no_ascii_front small no_ascii) (above_front small (above first List.mem_cons_self))

theorem infix_above {block : List UInt8} (above : ∀ b ∈ block, 0x80 ≤ b) {p : UInt8} {pattern : List UInt8}
    (seven_bits : p < 0x80) : p :: pattern <:+: block ++ bytes ↔ p :: pattern <:+: bytes := by
  induction block with
  | nil => rfl
  | cons b block ih =>
    rw [List.cons_append,List.infix_cons_iff,ih fun b' listed => above b' (List.mem_cons_of_mem b listed)]
    exact or_iff_right (above_front seven_bits (above b List.mem_cons_self))

/-- ASCII is found in the text if it is found in the bytes. -/
theorem Reads.infix_iff (reads : Reads bytes text) {p : UInt8} {pattern : List UInt8}
    (seven_bits : ∀ b ∈ p :: pattern, b < 0x80) : (p :: pattern).map char <:+: text ↔ p :: pattern <:+: bytes := by
  induction reads with
  | nil => simp
  | @ascii b bytes text small rest ih =>
    rw [List.infix_cons_iff,List.infix_cons_iff,ih,(Reads.ascii small rest).prefix_iff seven_bits]
  | @other first more bytes c text above no_ascii rest ih =>
    have small := seven_bits p List.mem_cons_self
    rw [List.infix_cons_iff,ih,infix_above above small]
    exact or_iff_right (no_ascii_front small no_ascii)

end

end Lb.Utf8
