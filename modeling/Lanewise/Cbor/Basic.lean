/-!
# CBOR values

Messages between devices and stored run records are CBOR. Texts are kept as the chunks of bytes they
came in, since only a text that is used has to be well formed.

## Main definitions

* `Cbor`, `Cbor.encode`: values and their shortest encoding.
-/

namespace Lanewise

/-- A CBOR value. -/
inductive Cbor
  | uint (n : Nat)
  /-- The number `-1 - n`. -/
  | nint (n : Nat)
  | bytes (b : List UInt8)
  | text (chunks : List (List UInt8))
  | array (items : List Cbor)
  | map (members : List (Cbor × Cbor))
  | tag (number : Nat) (value : Cbor)
  | simple (n : Nat)
  /-- A floating-point number, by the width in bytes and the bits. -/
  | float (width bits : Nat)
deriving Repr, Inhabited

namespace Cbor

/-- An integer. -/
def ofInt (n : Int) : Cbor :=
  match n with
  | .ofNat k => uint k
  | .negSucc k => nint k

/-- A text. -/
def ofString (s : String) : Cbor :=
  text [s.toUTF8.toList]

/-- A truth value. -/
def ofBool (b : Bool) : Cbor :=
  simple (if b then 21 else 20)

/-- The value that stands for nothing. -/
def null : Cbor :=
  simple 22

/-- A list, or nothing. -/
def ofListOrNull {α : Type} (write : α → Cbor) : Option (List α) → Cbor
  | some xs => array (xs.map write)
  | none => null

/-- A message: the fields that are present, by ascending numbers. -/
def ofFields (fields : List (Option (Nat × Cbor))) : Cbor :=
  map ((fields.filterMap (·)).map fun f => (uint f.1, f.2))

/-- A field that is always present. -/
def present (n : Nat) (v : Cbor) : Option (Nat × Cbor) :=
  some (n, v)

/-- A field that is left out in a given case. -/
def omitted (absent : Bool) (n : Nat) (v : Cbor) : Option (Nat × Cbor) :=
  if absent then none else some (n, v)

/-- Appends the `n` low bytes of a number, most significant first. -/
def pushBig (out : ByteArray) (v : Nat) : (n : Nat) → ByteArray
  | 0 => out
  | n + 1 => pushBig (out.push (UInt8.ofNat (v / Nat.pow 256 n))) v n

/-- Appends the head of a value: its kind and a number, in as few bytes as possible. -/
def pushHead (out : ByteArray) (kind n : Nat) : ByteArray :=
  let first (k : Nat) := out.push (UInt8.ofNat (kind * 32 + k))
  if n < 24 then first n
  else if n < 0x100 then pushBig (first 24) n 1
  else if n < 0x10000 then pushBig (first 25) n 2
  else if n < 0x100000000 then pushBig (first 26) n 4
  else pushBig (first 27) n 8

/-- Appends bytes. -/
def pushBytes (out : ByteArray) (bs : List UInt8) : ByteArray :=
  bs.foldl ByteArray.push out

mutual

/-- Appends the encoding of a value. -/
def push (out : ByteArray) : Cbor → ByteArray
  | uint n => pushHead out 0 n
  | nint n => pushHead out 1 n
  | bytes b => pushBytes (pushHead out 2 b.length) b
  | text cs => pushBytes (pushHead out 3 cs.flatten.length) cs.flatten
  | array xs => pushItems (pushHead out 4 xs.length) xs
  | map ms => pushMembers (pushHead out 5 ms.length) ms
  | tag n v => push (pushHead out 6 n) v
  | simple n => pushHead out 7 n
  | float w bits => pushBig (out.push (UInt8.ofNat (7 * 32 + 24 + Nat.log2 w))) bits w

/-- Appends the encodings of items. -/
def pushItems (out : ByteArray) : List Cbor → ByteArray
  | [] => out
  | x :: xs => pushItems (push out x) xs

/-- Appends the encodings of members. -/
def pushMembers (out : ByteArray) : List (Cbor × Cbor) → ByteArray
  | [] => out
  | (k, v) :: ms => pushMembers (push (push out k) v) ms

end

/-- The encoding of a value. -/
def encode (v : Cbor) : ByteArray :=
  push .empty v

end Cbor

end Lanewise
