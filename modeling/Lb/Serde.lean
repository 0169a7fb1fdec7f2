import Mathlib.Algebra.Group.Int.Defs
import Mathlib.Data.List.Nodup
import Mathlib.Logic.Equiv.Defs

/-!
# JSON values and the types read from them

The readers and writers that `serde` derives, as it documents them: a record is written
by the names of its fields and read by name or by position, a newtype is what it holds,
a variant its name, and no value is null. A codec comes with what its reader can give,
all of which it reads back as it writes it; codecs of records are put together from
their fields. The errors of the readers are dropped.
-/
namespace Lb.Serde

/-- A JSON value; an object has its entries in order, whatever their keys. -/
inductive Value
  | null
  | bool (b : Bool)
  | number (n : Int)
  | string (s : String)
  | array (values : List Value)
  | object (entries : List (String × Value))

structure Codec (A : Type) where
  serialize : A → Value
  deserialize : Value → Option A
  Valid : A → Prop
  yields : ∀ {v a}, deserialize v = some a → Valid a
  round_trip : ∀ {a}, Valid a → deserialize (serialize a) = some a

namespace Codec
variable {A B : Type}

/-- A type that is read as another one, which it is equivalent to. -/
def map (c : Codec A) (e : A ≃ B) : Codec B where
  serialize b := c.serialize (e.symm b)
  deserialize v := (c.deserialize v).map e
  Valid b := c.Valid (e.symm b)
  yields := by
    intro v b read
    obtain ⟨a,found,rfl⟩ := Option.map_eq_some_iff.mp read
    rw [Equiv.symm_apply_apply]
    exact c.yields found
  round_trip valid := by rw [c.round_trip valid,Option.map_some,Equiv.apply_symm_apply]

/-! ### Plain values -/

def bool : Codec Bool where
  serialize := .bool
  deserialize
    | .bool b => some b
    | _ => none
  Valid _ := True
  yields _ := trivial
  round_trip _ := rfl

def string : Codec String where
  serialize := .string
  deserialize
    | .string s => some s
    | _ => none
  Valid _ := True
  yields _ := trivial
  round_trip _ := rfl

def u16 : Codec UInt16 where
  serialize n := .number n.toNat
  deserialize
    | .number n => if 0 ≤ n ∧ n < 2 ^ 16 then some (.ofNat n.toNat) else none
    | _ => none
  Valid _ := True
  yields _ := trivial
  round_trip {n} _ := by
    have small := n.toNat_lt
    dsimp only
    rw [if_pos ⟨Int.natCast_nonneg _,by exact_mod_cast small⟩,Int.toNat_natCast,UInt16.ofNat_toNat]

def u32 : Codec UInt32 where
  serialize n := .number n.toNat
  deserialize
    | .number n => if 0 ≤ n ∧ n < 2 ^ 32 then some (.ofNat n.toNat) else none
    | _ => none
  Valid _ := True
  yields _ := trivial
  round_trip {n} _ := by
    have small := n.toNat_lt
    dsimp only
    rw [if_pos ⟨Int.natCast_nonneg _,by exact_mod_cast small⟩,Int.toNat_natCast,UInt32.ofNat_toNat]

/-- A value that is written as text and read from it. -/
def text (write : A → List Char) (read : List Char → Option A) (Valid : A → Prop)
    (yields : ∀ {s a}, read s = some a → Valid a) (reads : ∀ {a}, Valid a → read (write a) = some a) : Codec A where
  serialize a := .string (.ofList (write a))
  deserialize
    | .string s => read s.toList
    | _ => none
  Valid := Valid
  yields := by
    intro v a some_read
    cases v with
    | string s => exact yields some_read
    | null => cases some_read
    | bool b => cases some_read
    | number n => cases some_read
    | array values => cases some_read
    | object entries => cases some_read
  round_trip valid := by
    dsimp only
    rw [String.toList_ofList,reads valid]

/-- The variant with the name. -/
def variant (name : A → String) (variants : List A) (s : String) : Option A := variants.find? fun a => name a = s

/-- An enumeration; a variant is read from its name, alone or as the key of a null. -/
def enum (name : A → String) (variants : List A) (all : ∀ a, variant name variants (name a) = some a) : Codec A where
  serialize a := .string (name a)
  deserialize
    | .string s => variant name variants s
    | .object [(s,.null)] => variant name variants s
    | _ => none
  Valid _ := True
  yields _ := trivial
  round_trip _ := all _

/-! ### Lists and options -/

theorem mapM_eq_some {read : Value → Option A} {P : A → Prop} (yields : ∀ {v a}, read v = some a → P a)
    {values : List Value} {as : List A} (some_read : values.mapM read = some as) : ∀ a ∈ as, P a := by
  induction values generalizing as with
  | nil =>
    cases some_read
    simp
  | cons v values ih =>
    rw [List.mapM_cons] at some_read
    obtain ⟨a,first,rest⟩ := Option.bind_eq_some_iff.mp some_read
    obtain ⟨as',others,same⟩ := Option.bind_eq_some_iff.mp rest
    cases same
    exact List.forall_mem_cons.mpr ⟨yields first,ih others⟩

theorem mapM_map {read : Value → Option A} {write : A → Value} {as : List A}
    (reads : ∀ a ∈ as, read (write a) = some a) : (as.map write).mapM read = some as := by
  induction as with
  | nil => rfl
  | cons a as ih =>
    obtain ⟨first,others⟩ := List.forall_mem_cons.mp reads
    rw [List.map_cons,List.mapM_cons,first,ih others]
    rfl

def list (c : Codec A) : Codec (List A) where
  serialize as := .array (as.map c.serialize)
  deserialize
    | .array values => values.mapM c.deserialize
    | _ => none
  Valid as := ∀ a ∈ as, c.Valid a
  yields := by
    intro v as some_read
    cases v with
    | array values => exact mapM_eq_some c.yields some_read
    | null => cases some_read
    | bool b => cases some_read
    | number n => cases some_read
    | string s => cases some_read
    | object entries => cases some_read
  round_trip valid := mapM_map fun a listed => c.round_trip (valid a listed)

/-- What is written for no value must not be written for a value. -/
def option (c : Codec A) (solid : ∀ a, c.serialize a ≠ .null) : Codec (Option A) where
  serialize
    | none => .null
    | some a => c.serialize a
  deserialize
    | .null => some none
    | v => (c.deserialize v).map some
  Valid a := ∀ a' ∈ a, c.Valid a'
  yields := by
    intro v a some_read a' inside
    cases v with
    | null =>
      cases some_read
      cases inside
    | bool b =>
      obtain ⟨a'',read,rfl⟩ := Option.map_eq_some_iff.mp some_read
      cases inside
      exact c.yields read
    | number n =>
      obtain ⟨a'',read,rfl⟩ := Option.map_eq_some_iff.mp some_read
      cases inside
      exact c.yields read
    | string s =>
      obtain ⟨a'',read,rfl⟩ := Option.map_eq_some_iff.mp some_read
      cases inside
      exact c.yields read
    | array values =>
      obtain ⟨a'',read,rfl⟩ := Option.map_eq_some_iff.mp some_read
      cases inside
      exact c.yields read
    | object entries =>
      obtain ⟨a'',read,rfl⟩ := Option.map_eq_some_iff.mp some_read
      cases inside
      exact c.yields read
  round_trip := by
    intro a valid
    cases a with
    | none => rfl
    | some a =>
      have read := c.round_trip (valid a rfl)
      have some_value := solid a
      dsimp only
      cases written : c.serialize a <;> simp_all

end Codec

/-! ### Records -/

/-- Where the value of a field is looked for: it may be missing in an object, and an
    array may end before it. -/
inductive Slot
  | value (v : Value)
  | missing
  | short

/-- The slots of the fields with the names. A field must not be given twice, and
    unknown ones may be denied. -/
def visit_struct (names : List String) (deny_unknown_fields : Bool) : Value → Option (List Slot)
  | .object entries =>
    if names.any fun name => decide (1 < (entries.map Prod.fst).count name) then none
    else if deny_unknown_fields && (entries.map Prod.fst).any fun key => decide (key ∉ names) then none
    else some (names.map fun name =>
      match entries.find? fun entry => entry.1 = name with
      | some entry => .value entry.2
      | none => .missing)
  | .array values =>
    if names.length < values.length then none
    else some (values.map .value ++ List.replicate (names.length - values.length) .short)
  | _ => none

/-- The fields of a record are found where they are written. -/
theorem visit_struct_zip {names : List String} (nodup : names.Nodup) (deny : Bool) {values : List Value}
    (lengths : values.length = names.length) :
    visit_struct names deny (.object (names.zip values)) = some (values.map .value) := by
  have keys : (names.zip values).map Prod.fst = names := List.map_fst_zip (by omega)
  rw [visit_struct,keys,if_neg,if_neg]
  · congr 1
    clear keys
    induction names generalizing values with
    | nil =>
      rw [List.eq_nil_of_length_eq_zero lengths]
      rfl
    | cons name names ih =>
      obtain ⟨v,values,rfl⟩ := List.exists_cons_of_length_eq_add_one lengths
      obtain ⟨fresh,nodup⟩ := List.nodup_cons.mp nodup
      rw [List.length_cons,List.length_cons] at lengths
      rw [List.map_cons,List.zip_cons_cons,List.find?_cons_of_pos (by simp),List.map_cons,
        ← ih nodup (Nat.succ.inj lengths)]
      congr 1
      refine List.map_congr_left fun other listed => ?_
      rw [List.find?_cons_of_neg]
      simpa using fun same : name = other => fresh (same ▸ listed)
  · simp
  · simp only [List.any_eq_true,decide_eq_true_eq,not_exists,not_and,Nat.not_lt]
    exact fun name _ => List.nodup_iff_count_le_one.mp nodup name

/-- A field of a record, with the default that it may have. -/
structure Field (A : Type) where
  name : String
  write : A → Value
  read : Slot → Option A
  Valid : A → Prop
  yields : ∀ {slot a}, read slot = some a → Valid a
  round_trip : ∀ {a}, Valid a → read (.value (write a)) = some a

namespace Field
variable {A : Type}

def required (name : String) (c : Codec A) : Field A where
  name
  write := c.serialize
  read
    | .value v => c.deserialize v
    | .missing | .short => none
  Valid := c.Valid
  yields := by
    intro slot a some_read
    cases slot with
    | value v => exact c.yields some_read
    | missing => cases some_read
    | short => cases some_read
  round_trip := c.round_trip

def defaulted (name : String) (c : Codec A) (default : A) (valid : c.Valid default) : Field A where
  name
  write := c.serialize
  read
    | .value v => c.deserialize v
    | .missing | .short => some default
  Valid := c.Valid
  yields := by
    intro slot a some_read
    cases slot with
    | value v => exact c.yields some_read
    | missing => cases some_read; exact valid
    | short => cases some_read; exact valid
  round_trip := c.round_trip

/-- An optional field without a default may be missing in an object. -/
def optional (name : String) (c : Codec A) (solid : ∀ a, c.serialize a ≠ .null) : Field (Option A) where
  name
  write := (c.option solid).serialize
  read
    | .value v => (c.option solid).deserialize v
    | .missing => some none
    | .short => none
  Valid := (c.option solid).Valid
  yields := by
    intro slot a some_read
    cases slot with
    | value v => exact (c.option solid).yields some_read
    | missing => cases some_read; exact fun _ inside => by cases inside
    | short => cases some_read
  round_trip := (c.option solid).round_trip

end Field

/-- The fields of a record, in order. -/
structure Fields (A : Type) where
  names : List String
  write : A → List Value
  read : List Slot → Option A
  Valid : A → Prop
  lengths : ∀ a, (write a).length = names.length
  yields : ∀ {slots a}, read slots = some a → Valid a
  round_trip : ∀ {a}, Valid a → read ((write a).map .value) = some a

namespace Fields
variable {A B : Type}

def nil : Fields Unit where
  names := []
  write _ := []
  read _ := some ()
  Valid _ := True
  lengths _ := rfl
  yields _ := trivial
  round_trip _ := rfl

def cons (field : Field A) (fields : Fields B) : Fields (A × B) where
  names := field.name :: fields.names
  write ab := field.write ab.1 :: fields.write ab.2
  read
    | [] => none
    | slot :: slots => (field.read slot).bind fun a => (fields.read slots).map fun b => (a,b)
  Valid ab := field.Valid ab.1 ∧ fields.Valid ab.2
  lengths ab := by rw [List.length_cons,List.length_cons,fields.lengths]
  yields := by
    intro slots ab some_read
    cases slots with
    | nil => cases some_read
    | cons slot slots =>
      obtain ⟨a,first,rest⟩ := Option.bind_eq_some_iff.mp some_read
      obtain ⟨b,others,rfl⟩ := Option.map_eq_some_iff.mp rest
      exact ⟨field.yields first,fields.yields others⟩
  round_trip := by
    intro ab valid
    rw [List.map_cons]
    dsimp only
    rw [field.round_trip valid.1,fields.round_trip valid.2]
    rfl

end Fields

/-- A record, written as an object and read from an object or an array. -/
def Codec.struct {A : Type} (deny_unknown_fields : Bool) (fields : Fields A) (nodup : fields.names.Nodup) :
    Codec A where
  serialize a := .object (fields.names.zip (fields.write a))
  deserialize v := (visit_struct fields.names deny_unknown_fields v).bind fields.read
  Valid := fields.Valid
  yields := by
    intro v a some_read
    obtain ⟨slots,_,read⟩ := Option.bind_eq_some_iff.mp some_read
    exact fields.yields read
  round_trip := by
    intro a valid
    rw [visit_struct_zip nodup deny_unknown_fields (fields.lengths a),Option.bind_some,fields.round_trip valid]

end Lb.Serde
