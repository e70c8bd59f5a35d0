import Lanewise.Json.Basic
import Lanewise.Word

/-!
# Kinds of values

What a value is read as is a kind. A record is a kind that is read from an object: each member goes
to the field with its name, in any case, and members for which there is no field are passed over.
Members are read in order, so of several for one field the last one counts, and the first one that
is of the wrong kind is reported. A member that is `null` leaves most fields as they are; a list
becomes empty.

## Main definitions

* `Json.Kind`: what values are read as.
* `Json.Kind.record`: records.
* `Json.Mismatch`: a value of the wrong kind.
-/

namespace Lanewise.Json

/-! ### Names -/

/-- The letter that stands for a letter in any case. Two letters outside the plain alphabet have a
plain letter as one of their cases. -/
def foldChar (c : Char) : Char :=
  if c = Char.ofNat 0x17F then 's' else if c = Char.ofNat 0x212A then 'k' else c.toLower

/-- Whether two names are equal up to case. -/
def sameName (a b : String) : Bool :=
  a.toList.map foldChar == b.toList.map foldChar

/-! ### Kinds -/

/-- What a value is called. -/
def kindName : Json → String
  | null => "null"
  | bool _ => "bool"
  | number _ => "number"
  | string _ => "string"
  | array _ => "array"
  | object _ => "object"

/-- A value of the wrong kind. -/
structure Mismatch where
  found : String
  wanted : String
  /-- The record and the field that the value is for or a part of, if any. -/
  place : Option (String × String) := none
deriving DecidableEq, Repr

/-- The wording of a mismatch. -/
def Mismatch.message (m : Mismatch) : String :=
  let place := match m.place with
    | some (record, field) => "Go struct field " ++ record ++ "." ++ field
    | none => "Go value"
  "json: cannot unmarshal " ++ m.found ++ " into " ++ place ++ " of type " ++ m.wanted

/-- What values are read as. -/
structure Kind (α : Type) where
  name : String
  /-- The value of a field that is missing. -/
  zero : α
  /-- What becomes of a value for which `null` is given. -/
  null : α → α := id
  /-- The value that is read, from anything but `null`. -/
  read : Json → Except Mismatch α

namespace Kind

variable {α : Type}

/-- The value after one more value has been given for it. -/
def into (k : Kind α) (old : α) : Json → Except Mismatch α
  | .null => .ok (k.null old)
  | j => k.read j

/-- Texts. -/
def text (name : String := "string") : Kind String where
  name
  zero := ""
  read
    | .string s => .ok s
    | j => .error ⟨j.kindName, name, none⟩

/-- Truth values. -/
def truth : Kind Bool where
  name := "bool"
  zero := false
  read
    | .bool b => .ok b
    | j => .error ⟨j.kindName, "bool", none⟩

/-- Numbers that are written as whole numbers which `parse` accepts. -/
def whole (name : String) (zero : α) (parse : String → Option α) : Kind α where
  name
  zero
  read
    | .number literal =>
      match parse literal with
      | some n => .ok n
      | none => .error ⟨"number " ++ literal, name, none⟩
    | j => .error ⟨j.kindName, name, none⟩

/-- Signed 64-bit integers. -/
def int : Kind Int :=
  whole "int" 0 fun literal =>
    literal.toInt?.filter fun n => -0x8000000000000000 ≤ n ∧ n ≤ 0x7fffffffffffffff

/-- Unsigned 64-bit integers, which are written without a sign. -/
def uint64 : Kind UInt64 :=
  whole "uint64" 0 fun literal => (literal.toNat?.filter (· < 0x10000000000000000)).map UInt64.ofNat

/-- Words. -/
def word : Kind Word :=
  whole "int32" 0 fun literal =>
    (literal.toInt?.filter fun n => Word.least ≤ n ∧ n ≤ Word.greatest).map Int32.ofInt

/-- Lists. -/
def list (item : Kind α) : Kind (List α) where
  name := "[]" ++ item.name
  zero := []
  null _ := []
  read
    | .array xs => xs.mapM (item.into item.zero)
    | j => .error ⟨j.kindName, "[]" ++ item.name, none⟩

end Kind

/-! ### Records -/

/-- A field of a record. -/
structure Field (ρ : Type) where
  name : String
  /-- The record after a value has been given for the field. -/
  into : ρ → Json → Except Mismatch ρ

/-- A field of a given kind. -/
def Field.of {α ρ : Type} (name : String) (k : Kind α) (get : ρ → α) (set : ρ → α → ρ) :
    Field ρ where
  name
  into r j := (k.into (get r) j).map (set r)

namespace Kind

variable {ρ : Type}

/-- The record after one more member. -/
def step (record : String) (fields : List (Field ρ)) (r : ρ) (m : String × Json) :
    Except Mismatch ρ :=
  match fields.find? fun f => sameName f.name m.1 with
  | none => .ok r
  | some f => (f.into r m.2).mapError fun e => { e with place := some (record, f.name) }

/-- Records. -/
def record (package name : String) (zero : ρ) (fields : List (Field ρ)) : Kind ρ where
  name := package ++ "." ++ name
  zero
  read
    | .object ms => ms.foldlM (step name fields) zero
    | j => .error ⟨j.kindName, package ++ "." ++ name, none⟩

end Kind

end Lanewise.Json
