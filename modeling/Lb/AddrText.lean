import Lb.Addr
import Mathlib.Algebra.Group.Nat.Defs

/-!
# Addresses from text

The parser of the language's standard library for `std::net` addresses, and that it reads
every address as it is written. A reader gives back what it has read and the rest of the
text, and leaves the text alone if it fails.
-/
namespace Lb.Addr

abbrev Scanner (A : Type) := List Char → Option (A × List Char)

/-- The value of a digit in a radix of at most 36. -/
def to_digit (radix : Nat) (c : Char) : Option Nat :=
  let digit :=
    if '0' ≤ c ∧ c ≤ '9' then c.toNat - 48
    else if 'a' ≤ c ∧ c ≤ 'z' then c.toNat - 87
    else if 'A' ≤ c ∧ c ≤ 'Z' then c.toNat - 55
    else radix
  if digit < radix then some digit else none

/-- The digits up to the first character that is none: the number, how many there are,
    and the rest; fails at once if there are more than `max_digits`. -/
def read_digits (radix max_digits result digit_count : Nat) : List Char → Option (Nat × Nat × List Char)
  | [] => some (result,digit_count,[])
  | c :: rest =>
    match to_digit radix c with
    | none => some (result,digit_count,c :: rest)
    | some digit =>
      if max_digits < digit_count + 1 then none
      else read_digits radix max_digits (result * radix + digit) (digit_count + 1) rest

/-- A number below `limit`, by which the width of its type is given. -/
def read_number (radix max_digits limit : Nat) (zero_prefix_allowed : Bool) : Scanner Nat := fun s =>
  match read_digits radix max_digits 0 0 s with
  | none => none
  | some (result,digit_count,rest) =>
    if digit_count = 0 then none
    else if !zero_prefix_allowed && (s.head? = some '0') && 1 < digit_count then none
    else if result < limit then some (result,rest)
    else none

def read_given_char (target : Char) : List Char → Option (List Char)
  | [] => none
  | c :: rest => if c = target then some rest else none

/-- A separator comes before every item but the first. -/
def read_separator {A : Type} (sep : Char) (index : Nat) (inner : Scanner A) : Scanner A := fun s =>
  if 0 < index then (read_given_char sep s).bind inner else inner s

def read_octet (index : Nat) : Scanner Nat := read_separator '.' index (read_number 10 3 256 false)

def read_ipv4_addr : Scanner Ipv4Addr := fun s => do
  let (a,s) ← read_octet 0 s
  let (b,s) ← read_octet 1 s
  let (c,s) ← read_octet 2 s
  let (d,s) ← read_octet 3 s
  some (⟨.ofNat a,.ofNat b,.ofNat c,.ofNat d⟩,s)

/-- Up to `n` groups, the first of which has index `i`, and whether the last two of them
    are an IPv4 address. -/
def read_groups (i : Nat) : Nat → List Char → List UInt16 × Bool × List Char
  | 0, s => ([],false,s)
  | n + 1, s =>
    match if 0 < n then read_separator ':' i read_ipv4_addr s else none with
    | some (v4_addr,rest) =>
      ([from_be_bytes v4_addr.a v4_addr.b,from_be_bytes v4_addr.c v4_addr.d],true,rest)
    | none =>
      match read_separator ':' i (read_number 16 4 65536 true) s with
      | none => ([],false,s)
      | some (group,rest) =>
        let (groups,ipv4,rest) := read_groups (i + 1) n rest
        (UInt16.ofNat group :: groups,ipv4,rest)

/-- The address with the segments. -/
def Ipv6Addr.from_segments (segments : List UInt16) : Ipv6Addr where
  a := segments.getD 0 0
  b := segments.getD 1 0
  c := segments.getD 2 0
  d := segments.getD 3 0
  e := segments.getD 4 0
  f := segments.getD 5 0
  g := segments.getD 6 0
  h := segments.getD 7 0

def read_ipv6_addr : Scanner Ipv6Addr := fun s =>
  let (head,head_ipv4,s) := read_groups 0 8 s
  if head.length = 8 then some (.from_segments head,s)
  else if head_ipv4 then none
  else do
    let s ← read_given_char ':' s
    let s ← read_given_char ':' s
    let (tail,_,s) := read_groups 0 (8 - (head.length + 1)) s
    some (.from_segments (head ++ List.replicate (8 - head.length - tail.length) 0 ++ tail),s)

def read_ip_addr : Scanner IpAddr := fun s =>
  match read_ipv4_addr s with
  | some (ip,rest) => some (.V4 ip,rest)
  | none => (read_ipv6_addr s).map fun (ip,rest) => (.V6 ip,rest)

/-- The text must be read to its end. -/
def IpAddr.from_str (s : List Char) : Option IpAddr :=
  match read_ip_addr s with
  | some (ip,[]) => some ip
  | _ => none

example : IpAddr.from_str "2001:DB8::10.0.0.1".toList = some (.V6 ⟨0x2001,0xdb8,0,0,0,0,0x0a00,1⟩) := by decide
example : IpAddr.from_str "10.0.0.01".toList = none := by decide

/-! ### Numbers -/

/-- The text does not go on with a digit. -/
def Ends (radix : Nat) (rest : List Char) : Prop := ∀ c ∈ rest.head?, to_digit radix c = none

/-- The number that digits write. -/
def of_digits (radix : Nat) (digits : List Char) (result : Nat) : Nat :=
  digits.foldl (fun result c => result * radix + (to_digit radix c).getD 0) result

section
variable {radix max_digits limit n : Nat} {rest : List Char}

theorem read_digits_ends (ended : Ends radix rest) (result digit_count : Nat) :
    read_digits radix max_digits result digit_count rest = some (result,digit_count,rest) := by
  cases rest with
  | nil => rfl
  | cons c rest => rw [read_digits,ended c rfl]

/-- Digits that are not too many are read as the number that they write. -/
theorem read_digits_append {digits : List Char} (all : ∀ c ∈ digits, (to_digit radix c).isSome) (ended : Ends radix rest)
    (result : Nat) {digit_count : Nat} (few : digit_count + digits.length ≤ max_digits) :
    read_digits radix max_digits result digit_count (digits ++ rest) =
      some (of_digits radix digits result,digit_count + digits.length,rest) := by
  induction digits generalizing result digit_count with
  | nil => exact read_digits_ends ended result digit_count
  | cons c digits ih =>
    obtain ⟨first,all⟩ := List.forall_mem_cons.mp all
    obtain ⟨digit,value⟩ := Option.isSome_iff_exists.mp first
    rw [List.length_cons] at few
    rw [List.cons_append,read_digits,value]
    dsimp only
    have written : of_digits radix (c :: digits) result = of_digits radix digits (result * radix + digit) := by
      rw [of_digits,List.foldl_cons,value]
      rfl
    rw [if_neg (by omega),ih all _ (by omega),written,List.length_cons,Nat.add_assoc,Nat.add_comm 1]

theorem to_digit_digitChar : ∀ radix ∈ [10,16], ∀ d < radix, to_digit radix d.digitChar = some d := by decide

/-- The digits of a number are digits, and write the number. -/
theorem of_digits_toDigits (known : radix ∈ [10,16]) (n : Nat) :
    (∀ c ∈ Nat.toDigits radix n, (to_digit radix c).isSome) ∧ of_digits radix (Nat.toDigits radix n) 0 = n := by
  have base : 1 < radix := by
    simp only [List.mem_cons,List.not_mem_nil,or_false] at known
    omega
  induction n using Nat.strong_induction_on with
  | _ n ih =>
    by_cases small : n < radix
    · rw [Nat.toDigits_of_lt_base small]
      have value := to_digit_digitChar radix known n small
      constructor
      · intro c listed
        rw [List.mem_singleton.mp listed,value]
        rfl
      · simp [of_digits,value]
    · obtain ⟨all,written⟩ := ih (n / radix) (Nat.div_lt_self (by omega) base)
      have last := to_digit_digitChar radix known (n % radix) (Nat.mod_lt _ (by omega))
      rw [Nat.toDigits_of_base_le base (Nat.le_of_not_lt small)]
      constructor
      · intro c listed
        rcases List.mem_append.mp listed with front | final
        · exact all c front
        · rw [List.mem_singleton.mp final,last]
          rfl
      · rw [of_digits] at written ⊢
        rw [List.foldl_append,written,List.foldl_cons,List.foldl_nil,last,Option.getD_some]
        exact Nat.div_add_mod' n radix

/-- A number with more than one digit does not begin with a zero. -/
theorem toDigits_head (base : 1 < radix) (known : radix ∈ [10,16]) (n : Nat)
    (zero : (Nat.toDigits radix n).head? = some '0') : (Nat.toDigits radix n).length = 1 := by
  induction n using Nat.strong_induction_on with
  | _ n ih =>
    by_cases small : n < radix
    · rw [Nat.toDigits_of_lt_base small]
      rfl
    · have more := Nat.toDigits_of_base_le base (Nat.le_of_not_lt small)
      have first : (Nat.toDigits radix (n / radix)).head? = some '0' := by
        rw [more,List.head?_append] at zero
        obtain ⟨c,written⟩ := Option.isSome_iff_exists.mp
          (List.isSome_head?.mpr (@Nat.toDigits_ne_nil (n / radix) radix))
        rw [written] at zero ⊢
        exact zero
      have one := ih (n / radix) (Nat.div_lt_self (by omega) base) first
      have value := (of_digits_toDigits known (n / radix)).2
      obtain ⟨c,single⟩ := List.length_eq_one_iff.mp one
      rw [single] at first value
      cases first
      have positive : 0 < n / radix := Nat.div_pos (Nat.le_of_not_lt small) (by omega)
      have nothing : of_digits radix ['0'] 0 = 0 := by
        have digit := to_digit_digitChar radix known 0 (by omega)
        rw [of_digits,List.foldl_cons,List.foldl_nil,show '0' = Nat.digitChar 0 from rfl,digit]
        simp
      omega

/-- A number that fits is read as it is written. -/
theorem read_number_toDigits (known : radix ∈ [10,16]) (fits : n < limit) (digits : 0 < max_digits)
    (short : n < radix ^ max_digits) (ended : Ends radix rest) (zero_prefix_allowed : Bool) :
    read_number radix max_digits limit zero_prefix_allowed (Nat.toDigits radix n ++ rest) = some (n,rest) := by
  have base : 1 < radix := by
    simp only [List.mem_cons,List.not_mem_nil,or_false] at known
    omega
  obtain ⟨all,value⟩ := of_digits_toDigits known n
  have few := (Nat.length_toDigits_le_iff base digits).mpr short
  have some_digit := @Nat.length_toDigits_pos radix n
  rw [read_number,read_digits_append all ended 0 (by omega),value]
  dsimp only
  rw [if_neg (by omega),if_neg,if_pos fits]
  simp only [Bool.and_eq_true,decide_eq_true_eq,not_and,Nat.zero_add]
  rintro ⟨_,zero⟩
  have head : (Nat.toDigits radix n).head? = some '0' := by
    obtain ⟨c,written⟩ := Option.isSome_iff_exists.mp (List.isSome_head?.mpr (@Nat.toDigits_ne_nil n radix))
    rw [List.head?_append,written] at zero
    rw [written]
    exact zero
  rw [toDigits_head base known n head]
  omega

/-- What a number is read from goes on with the rest. -/
theorem read_digits_suffix {result digit_count : Nat} {s : List Char} {read : Nat × Nat × List Char}
    (some_read : read_digits radix max_digits result digit_count s = some read) : read.2.2 <:+ s := by
  induction s generalizing result digit_count with
  | nil =>
    cases some_read
    exact List.suffix_refl _
  | cons c rest ih =>
    rw [read_digits] at some_read
    cases value : to_digit radix c with
    | none =>
      rw [value] at some_read
      cases some_read
      exact List.suffix_refl _
    | some digit =>
      rw [value] at some_read
      dsimp only at some_read
      split_ifs at some_read
      exact (ih some_read).trans (List.suffix_cons c rest)

theorem read_number_suffix {zero_prefix_allowed : Bool} {s : List Char} {read : Nat × List Char}
    (some_read : read_number radix max_digits limit zero_prefix_allowed s = some read) : read.2 <:+ s := by
  unfold read_number at some_read
  cases digits : read_digits radix max_digits 0 0 s with
  | none =>
    rw [digits] at some_read
    cases some_read
  | some result =>
    rw [digits] at some_read
    dsimp only at some_read
    split_ifs at some_read
    cases some_read
    exact read_digits_suffix digits

end

/-! ### IPv4 addresses -/

theorem ends_cons {radix : Nat} {c : Char} (other : to_digit radix c = none) (rest : List Char) :
    Ends radix (c :: rest) := by
  intro d first
  cases first
  exact other

theorem read_octet_fmt (octet : UInt8) {rest : List Char} (ended : Ends 10 rest) :
    read_number 10 3 256 false (Nat.toDigits 10 octet.toNat ++ rest) = some (octet.toNat,rest) := by
  have fits := octet.toNat_lt
  exact read_number_toDigits (by decide) (by omega) (by decide) (by omega) ended false

theorem read_ipv4_addr_fmt (ip : Ipv4Addr) {rest : List Char} (ended : Ends 10 rest) :
    read_ipv4_addr (ip.fmt ++ rest) = some (ip,rest) := by
  have dot : ∀ rest, Ends 10 ('.' :: rest) := ends_cons rfl
  have next : ∀ (i : Nat) (octet : UInt8) (rest : List Char), Ends 10 rest →
      read_octet (i + 1) ('.' :: (Nat.toDigits 10 octet.toNat ++ rest)) = some (octet.toNat,rest) :=
    fun i octet rest ended => read_octet_fmt octet ended
  have first : read_octet 0 (ip.fmt ++ rest) = some (ip.a.toNat,
      '.' :: (Nat.toDigits 10 ip.b.toNat ++ '.' :: (Nat.toDigits 10 ip.c.toNat ++
        '.' :: (Nat.toDigits 10 ip.d.toNat ++ rest)))) := by
    rw [Ipv4Addr.fmt]
    simp only [List.append_assoc,List.cons_append]
    exact read_octet_fmt ip.a (dot _)
  rw [read_ipv4_addr,first]
  simp only [Option.bind_eq_bind,Option.bind_some,next _ _ _ (dot _),next _ _ _ ended]
  simp

/-- An IPv4 address has a dot. -/
theorem read_ipv4_addr_none {s : List Char} (dotless : '.' ∉ s) : read_ipv4_addr s = none := by
  rw [read_ipv4_addr]
  cases first : read_octet 0 s with
  | none => rfl
  | some read =>
    obtain ⟨a,rest⟩ := read
    have suffix : rest <:+ s := read_number_suffix first
    have second : read_octet 1 rest = none := by
      cases rest with
      | nil => rfl
      | cons c rest =>
        have other : c ≠ '.' := fun same => dotless (suffix.subset (same ▸ List.mem_cons_self))
        show (if c = '.' then some rest else none).bind _ = none
        rw [if_neg other]
        rfl
    simp only [Option.bind_eq_bind,Option.bind_some,second,Option.bind_none]

/-! ### IPv6 addresses -/

/-- The text of segments that come after others. -/
def fmt_more (segments : List UInt16) : List Char := segments.flatMap fun s => ':' :: Nat.toDigits 16 s.toNat

theorem fmt_subslice_cons (s : UInt16) (segments : List UInt16) :
    fmt_subslice (s :: segments) = Nat.toDigits 16 s.toNat ++ fmt_more segments := by
  induction segments generalizing s with
  | nil => rw [fmt_subslice,fmt_more,List.flatMap_nil,List.append_nil]
  | cons next segments ih =>
    rw [fmt_subslice,ih,fmt_more,fmt_more,List.flatMap_cons,List.cons_append]
    simp

/-- A segment has neither a dot nor a colon. -/
theorem segment_plain {n : Nat} {c : Char} (listed : c ∈ Nat.toDigits 16 n) : c ≠ '.' ∧ c ≠ ':' := by
  have digit := (of_digits_toDigits (by decide) n).1 c listed
  constructor
  · rintro rfl
    cases digit
  · rintro rfl
    cases digit

theorem fmt_subslice_dotless (segments : List UInt16) : '.' ∉ fmt_subslice segments := by
  cases segments with
  | nil => simp [fmt_subslice]
  | cons s segments =>
    rw [fmt_subslice_cons,List.mem_append,not_or]
    refine ⟨fun listed => (segment_plain listed).1 rfl,fun listed => ?_⟩
    obtain ⟨s',_,inside⟩ := List.mem_flatMap.mp listed
    rcases List.mem_cons.mp inside with colon | digit
    · cases colon
    · exact (segment_plain digit).1 rfl

/-- The text ends here, or goes on with two colons. -/
def Breaks (rest : List Char) : Prop := rest = [] ∨ ∃ more, rest = ':' :: ':' :: more

theorem Breaks.ends {rest : List Char} (breaks : Breaks rest) : Ends 16 rest := by
  rcases breaks with rfl | ⟨more,rfl⟩
  · intro c listed
    cases listed
  · exact ends_cons rfl _

/-- Where the text breaks off there is no group. -/
theorem read_groups_break {rest : List Char} (breaks : Breaks rest) (i n : Nat) :
    read_groups i n rest = ([],false,rest) := by
  have no_addr : ∀ more, read_ipv4_addr (':' :: more) = none := fun _ => rfl
  have no_number : ∀ more, read_number 16 4 65536 true (':' :: more) = none := fun _ => rfl
  cases n with
  | zero => rfl
  | succ n =>
    have v4 : read_separator ':' i read_ipv4_addr rest = none := by
      rcases breaks with rfl | ⟨more,rfl⟩ <;> cases i <;> rfl
    have group : read_separator ':' i (read_number 16 4 65536 true) rest = none := by
      rcases breaks with rfl | ⟨more,rfl⟩ <;> cases i <;> rfl
    rw [read_groups,v4,ite_self,group]

theorem read_group_fmt (segment : UInt16) {rest : List Char} (ended : Ends 16 rest) :
    read_number 16 4 65536 true (Nat.toDigits 16 segment.toNat ++ rest) = some (segment.toNat,rest) := by
  have fits := segment.toNat_lt
  exact read_number_toDigits (by decide) (by omega) (by decide) (by omega) ended true

theorem more_ends {segments : List UInt16} {rest : List Char} (breaks : Breaks rest) :
    Ends 16 (fmt_more segments ++ rest) := by
  cases segments with
  | nil => exact breaks.ends
  | cons s segments =>
    rw [fmt_more,List.flatMap_cons]
    exact ends_cons rfl _

/-- The first group is read, and then the others, if there is no dot in the text. -/
theorem read_groups_step {i n : Nat} {segment : UInt16} {s rest : List Char} (dotless : '.' ∉ s)
    (reads : read_separator ':' i (read_number 16 4 65536 true) s = some (segment.toNat,rest)) :
    read_groups i (n + 1) s =
      (segment :: (read_groups (i + 1) n rest).1,(read_groups (i + 1) n rest).2.1,(read_groups (i + 1) n rest).2.2) := by
  have v4 : read_separator ':' i read_ipv4_addr s = none := by
    rw [read_separator]
    split_ifs
    · cases s with
      | nil => rfl
      | cons c s =>
        rw [read_given_char]
        split_ifs
        · exact read_ipv4_addr_none fun listed => dotless (List.mem_cons_of_mem c listed)
        · rfl
    · exact read_ipv4_addr_none dotless
  rw [read_groups,v4,ite_self,reads]
  dsimp only
  rw [UInt16.ofNat_toNat]

theorem read_groups_more {i n : Nat} (segments : List UInt16) {rest : List Char} (breaks : Breaks rest)
    (few : segments.length ≤ n) (dotless : '.' ∉ fmt_more segments ++ rest) :
    read_groups (i + 1) n (fmt_more segments ++ rest) = (segments,false,rest) := by
  induction segments generalizing i n with
  | nil => exact read_groups_break breaks (i + 1) n
  | cons s segments ih =>
    obtain ⟨n,rfl⟩ := Nat.exists_eq_add_of_le' (Nat.lt_of_lt_of_le (Nat.succ_pos _) few)
    have split : fmt_more (s :: segments) ++ rest = ':' :: (Nat.toDigits 16 s.toNat ++ (fmt_more segments ++ rest)) := by
      rw [fmt_more,List.flatMap_cons,List.cons_append,List.cons_append,List.append_assoc]
      rfl
    have reads : read_separator ':' (i + 1) (read_number 16 4 65536 true) (fmt_more (s :: segments) ++ rest) =
        some (s.toNat,fmt_more segments ++ rest) := by
      rw [split]
      exact read_group_fmt s (more_ends breaks)
    have others := @ih (i + 1) n (Nat.le_of_succ_le_succ few) (fun listed => dotless (by
      rw [split]
      exact List.mem_cons_of_mem _ (List.mem_append_right _ listed)))
    rw [read_groups_step dotless reads,others]

/-- Segments are read as they are written. -/
theorem read_groups_fmt {n : Nat} (segments : List UInt16) {rest : List Char} (breaks : Breaks rest)
    (few : segments.length ≤ n) (dotless : '.' ∉ rest) :
    read_groups 0 n (fmt_subslice segments ++ rest) = (segments,false,rest) := by
  have plain := fmt_subslice_dotless segments
  cases segments with
  | nil => exact read_groups_break breaks 0 n
  | cons s segments =>
    obtain ⟨n,rfl⟩ := Nat.exists_eq_add_of_le' (Nat.lt_of_lt_of_le (Nat.succ_pos _) few)
    rw [fmt_subslice_cons] at plain ⊢
    rw [List.mem_append,not_or] at plain
    have dotless' : '.' ∉ fmt_more segments ++ rest := by
      rw [List.mem_append,not_or]
      exact ⟨plain.2,dotless⟩
    have reads : read_separator ':' 0 (read_number 16 4 65536 true)
        (Nat.toDigits 16 s.toNat ++ fmt_more segments ++ rest) = some (s.toNat,fmt_more segments ++ rest) := by
      rw [List.append_assoc]
      exact read_group_fmt s (more_ends breaks)
    have others := @read_groups_more 0 n segments rest breaks (Nat.le_of_succ_le_succ few) dotless'
    rw [read_groups_step _ reads,others]
    rw [List.append_assoc,List.mem_append,not_or]
    exact ⟨plain.1,dotless'⟩

/-! ### The longest run of zeroes -/

/-- The segments of the span are zero. -/
def Zeroes (segments : List UInt16) (span : Span) : Prop :=
  (segments.drop span.start).take span.len = List.replicate span.len 0

/-- `longest_zeroes` finds a run of zeroes: the current one ends before the segments that
    are left. -/
theorem longest_zeroes_spec (before segments : List UInt16) {current longest : Span}
    (running : current.len = 0 ∨ current.start + current.len = before.length)
    (current_zeroes : Zeroes (before ++ segments) current) (longest_zero : Zeroes (before ++ segments) longest) :
    Zeroes (before ++ segments) (longest_zeroes segments before.length current longest) := by
  induction segments generalizing before current longest with
  | nil => exact longest_zero
  | cons s segments ih =>
    have shift : before ++ s :: segments = (before ++ [s]) ++ segments := by simp
    have length : (before ++ [s]).length = before.length + 1 := by simp
    rw [longest_zeroes]
    by_cases zero : s = 0
    · obtain ⟨next,extended⟩ : ∃ next : Span,
          ⟨if current.len = 0 then before.length else current.start,current.len + 1⟩ = next := ⟨_,rfl⟩
      rw [if_pos zero,extended]
      have next_zeroes : Zeroes (before ++ s :: segments) next := by
        rw [← extended,Zeroes]
        dsimp only
        by_cases fresh : current.len = 0
        · rw [if_pos fresh,fresh,List.drop_left' rfl,zero]
          rfl
        · rw [if_neg fresh]
          have ends := running.resolve_left fresh
          rw [List.take_add_one,current_zeroes,List.getElem?_drop,ends,List.getElem?_append_right (Nat.le_refl _),
            Nat.sub_self,List.getElem?_cons_zero,zero,Option.toList_some,← List.replicate_succ']
      have next_running : next.len = 0 ∨ next.start + next.len = (before ++ [s]).length := by
        rw [← extended,length]
        dsimp only
        by_cases fresh : current.len = 0
        · rw [if_pos fresh,fresh]
          exact .inr rfl
        · rw [if_neg fresh]
          have ends := running.resolve_left fresh
          exact .inr (by omega)
      rw [← length,shift]
      rw [shift] at next_zeroes longest_zero
      refine ih (before ++ [s]) next_running next_zeroes ?_
      split_ifs
      · exact next_zeroes
      · exact longest_zero
    · rw [if_neg zero,← length,shift]
      rw [shift] at longest_zero
      exact ih (before ++ [s]) (.inl rfl) rfl longest_zero

/-! ### There and back -/

theorem from_segments_segments (ip : Ipv6Addr) : Ipv6Addr.from_segments ip.segments = ip := rfl

/-- The address around a run of two zeroes or more. -/
theorem segments_around {segments : List UInt16} (eight : segments.length = 8) {span : Span}
    (zeroes : Zeroes segments span) (some_zero : 0 < span.len) :
    span.start + span.len ≤ 8 ∧ segments.take span.start ++ List.replicate span.len 0 ++
      segments.drop (span.start + span.len) = segments := by
  have within : span.start + span.len ≤ 8 := by
    have length := congrArg List.length zeroes
    rw [List.length_take,List.length_drop,List.length_replicate,eight] at length
    omega
  refine ⟨within,?_⟩
  rw [← zeroes,List.append_assoc,← List.drop_drop,List.take_append_drop,List.take_append_drop]

/-- What is left out between two colons and what comes before is zero. -/
theorem read_ipv6_addr_break {s more rest : List Char} {head tail : List UInt16} {ipv4 : Bool}
    (before : read_groups 0 8 s = (head,false,':' :: ':' :: more)) (short : head.length ≠ 8)
    (behind : read_groups 0 (8 - (head.length + 1)) more = (tail,ipv4,rest)) :
    read_ipv6_addr s =
      some (.from_segments (head ++ List.replicate (8 - head.length - tail.length) 0 ++ tail),rest) := by
  rw [read_ipv6_addr,before]
  dsimp only
  rw [if_neg short,if_neg (by decide)]
  show (match read_groups 0 (8 - (head.length + 1)) more with
    | (tail,_,s) => some (Ipv6Addr.from_segments _,s)) = _
  rw [behind]

/-- An IPv4-mapped address. -/
theorem read_ipv6_addr_mapped (addr : Ipv4Addr) : read_ipv6_addr ("::ffff:".toList ++ addr.fmt) =
    some (.from_segments [0,0,0,0,0,0xffff,from_be_bytes addr.a addr.b,from_be_bytes addr.c addr.d],[]) := by
  have text : "::ffff:".toList ++ addr.fmt = ':' :: ':' :: (['f','f','f','f'] ++ ':' :: addr.fmt) := rfl
  have last := @read_ipv4_addr_fmt addr [] fun _ listed => by cases listed
  rw [List.append_nil] at last
  have second : read_groups 1 6 (':' :: addr.fmt) =
      ([from_be_bytes addr.a addr.b,from_be_bytes addr.c addr.d],true,[]) := by
    rw [read_groups,if_pos (by decide),show read_separator ':' 1 read_ipv4_addr (':' :: addr.fmt) = _ from last]
  have group : read_separator ':' 0 (read_number 16 4 65536 true) (['f','f','f','f'] ++ ':' :: addr.fmt) =
      some (0xffff,':' :: addr.fmt) :=
    @read_group_fmt 0xffff (':' :: addr.fmt) (ends_cons rfl _)
  have no_addr : read_separator ':' 0 read_ipv4_addr (['f','f','f','f'] ++ ':' :: addr.fmt) = none := rfl
  have behind : read_groups 0 7 (['f','f','f','f'] ++ ':' :: addr.fmt) =
      ([0xffff,from_be_bytes addr.a addr.b,from_be_bytes addr.c addr.d],true,[]) := by
    rw [read_groups,no_addr,ite_self,group]
    dsimp only
    rw [second]
    rfl
  rw [text,read_ipv6_addr_break (read_groups_break (.inr ⟨_,rfl⟩) 0 8) (by decide) behind]
  rfl

theorem read_ipv6_addr_fmt (ip : Ipv6Addr) : read_ipv6_addr ip.fmt = some (ip,[]) := by
  have eight : ip.segments.length = 8 := rfl
  rw [Ipv6Addr.fmt]
  by_cases mapped : ip.segments.take 6 = [0,0,0,0,0,0xffff]
  · rw [if_pos mapped,read_ipv6_addr_mapped]
    have segments : [0,0,0,0,0,0xffff] ++ [ip.g,ip.h] = ip.segments := by
      rw [← mapped]
      rfl
    dsimp only
    rw [from_be_bytes_split,from_be_bytes_split,← from_segments_segments ip,← segments]
    rfl
  · rw [if_neg mapped]
    dsimp only
    have zeroes := @longest_zeroes_spec [] ip.segments ⟨0,0⟩ ⟨0,0⟩ (.inl rfl) rfl rfl
    rw [List.nil_append,List.length_nil] at zeroes
    generalize longest_zeroes ip.segments 0 ⟨0,0⟩ ⟨0,0⟩ = longest at zeroes ⊢
    by_cases long : 1 < longest.len
    · obtain ⟨within,around⟩ := segments_around eight zeroes (by omega)
      have head_length : (ip.segments.take longest.start).length = longest.start := by
        rw [List.length_take,eight]
        omega
      have tail_length : (ip.segments.drop (longest.start + longest.len)).length =
          8 - (longest.start + longest.len) := by
        rw [List.length_drop,eight]
      have behind := @read_groups_fmt (8 - ((ip.segments.take longest.start).length + 1)) (ip.segments.drop (longest.start + longest.len)) []
        (.inl rfl) (by omega) (by simp)
      rw [List.append_nil] at behind
      have before := @read_groups_fmt 8 (ip.segments.take longest.start)
        (':' :: ':' :: fmt_subslice (ip.segments.drop (longest.start + longest.len))) (.inr ⟨_,rfl⟩) (by omega)
        (by simpa using fmt_subslice_dotless _)
      have colons : "::".toList = [':',':'] := rfl
      rw [if_pos long,List.append_assoc,colons,List.cons_append,List.cons_append,List.nil_append,
        read_ipv6_addr_break before (by omega) behind,head_length,tail_length,
        show 8 - longest.start - (8 - (longest.start + longest.len)) = longest.len by omega,around,
        from_segments_segments]
    · have whole := @read_groups_fmt 8 ip.segments [] (.inl rfl) (by omega) (by simp)
      rw [List.append_nil] at whole
      rw [if_neg long,read_ipv6_addr,whole]
      rfl

/-- A text that is not an IPv4-mapped address has no dot, and one that is begins with a
    colon. -/
theorem read_ipv4_addr_ipv6 (ip : Ipv6Addr) : read_ipv4_addr ip.fmt = none := by
  rw [Ipv6Addr.fmt]
  split_ifs with mapped
  · rfl
  · dsimp only
    refine read_ipv4_addr_none ?_
    split_ifs
    · simp only [List.mem_append,not_or]
      exact ⟨⟨fmt_subslice_dotless _,by decide⟩,fmt_subslice_dotless _⟩
    · exact fmt_subslice_dotless _

/-- Every address is read as it is written. -/
theorem from_str_fmt (ip : IpAddr) : IpAddr.from_str ip.fmt = some ip := by
  cases ip with
  | V4 ip =>
    have reads := @read_ipv4_addr_fmt ip [] fun _ listed => by cases listed
    rw [List.append_nil] at reads
    rw [IpAddr.from_str,read_ip_addr,IpAddr.fmt,reads]
  | V6 ip => rw [IpAddr.from_str,read_ip_addr,IpAddr.fmt,read_ipv4_addr_ipv6,read_ipv6_addr_fmt,Option.map_some]

/-! ### The characters of an address -/

/-- A character that an address may have. -/
def AddrChar (c : Char) : Prop := c = '.' ∨ c = ':' ∨ (to_digit 16 c).isSome

theorem hex_addrChar {n : Nat} {c : Char} (listed : c ∈ Nat.toDigits 16 n) : AddrChar c :=
  .inr (.inr ((of_digits_toDigits (by decide) n).1 c listed))

theorem decimal_addrChar {n : Nat} {c : Char} (listed : c ∈ Nat.toDigits 10 n) : AddrChar c := by
  have digit := Nat.isDigit_of_mem_toDigits (by decide) (by decide) listed
  simp only [Char.isDigit,Bool.and_eq_true,decide_eq_true_eq] at digit
  have decimal : '0' ≤ c ∧ c ≤ '9' := digit
  have high : c.toNat ≤ 57 := digit.2
  refine .inr (.inr ?_)
  rw [to_digit,if_pos decimal,if_pos (by omega)]
  rfl

theorem fmt_subslice_addrChar {segments : List UInt16} : ∀ c ∈ fmt_subslice segments, AddrChar c := by
  intro c listed
  cases segments with
  | nil => cases listed
  | cons s segments =>
    rw [fmt_subslice_cons] at listed
    rcases List.mem_append.mp listed with first | more
    · exact hex_addrChar first
    · obtain ⟨s',_,inside⟩ := List.mem_flatMap.mp more
      rcases List.mem_cons.mp inside with colon | digit
      · exact .inr (.inl colon)
      · exact hex_addrChar digit

theorem ipv4_fmt_addrChar {ip : Ipv4Addr} : ∀ c ∈ ip.fmt, AddrChar c := by
  intro c listed
  simp only [Ipv4Addr.fmt,List.mem_append,List.mem_cons,List.append_assoc,List.cons_append] at listed
  rcases listed with a | dot | b | dot | c' | dot | d
  · exact decimal_addrChar a
  · exact .inl dot
  · exact decimal_addrChar b
  · exact .inl dot
  · exact decimal_addrChar c'
  · exact .inl dot
  · exact decimal_addrChar d

theorem fmt_addrChar {ip : IpAddr} : ∀ c ∈ ip.fmt, AddrChar c := by
  intro c listed
  cases ip with
  | V4 ip => exact ipv4_fmt_addrChar c listed
  | V6 ip =>
    rw [IpAddr.fmt,Ipv6Addr.fmt] at listed
    have fixed : ∀ c ∈ "::ffff:".toList, AddrChar c := by
      intro c listed
      have all : ("::ffff:".toList.all fun c => c = '.' || c = ':' || (to_digit 16 c).isSome) = true := by decide
      simpa [AddrChar,or_assoc] using List.all_eq_true.mp all c listed
    split_ifs at listed with mapped
    · rcases List.mem_append.mp listed with before | addr
      · exact fixed c before
      · exact ipv4_fmt_addrChar c addr
    · dsimp only at listed
      split_ifs at listed
      · rcases List.mem_append.mp listed with front | behind
        · rcases List.mem_append.mp front with before | colons
          · exact fmt_subslice_addrChar c before
          · have colon : c = ':' := by simpa using colons
            exact .inr (.inl colon)
        · exact fmt_subslice_addrChar c behind
      · exact fmt_subslice_addrChar c listed

end Lb.Addr
