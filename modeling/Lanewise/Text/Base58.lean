import Lanewise.Text.Quoted

/-!
# Base 58 text of bytes

Bytes are read as one number, most significant byte first, and written with 58 letters and digits
that are hard to confuse. A zero byte in front contributes nothing to the number, so it is written
as a `1` of its own: the text determines the bytes and the bytes the text.

## Main definitions

* `Base58.encode`, `Base58.decode`: the text of bytes and the bytes of a text.
-/

namespace Lanewise.Base58

/-- The digits in increasing value. -/
def alphabet : List Char :=
  "123456789ABCDEFGHJKLMNPQRSTUVWXYZabcdefghijkmnopqrstuvwxyz".toList

/-- The digit that stands for a value below 58. -/
def digit (n : Nat) : Char :=
  alphabet.getD n '1'

/-- The value of a digit. -/
def value? (c : Char) : Option Nat :=
  alphabet.findIdx? (· == c)

/-- The digits of a number in a base, most significant first, put in front of `acc`. Zero has no
digits. -/
def digitsOnto (base n : Nat) (acc : List Nat) : List Nat :=
  if _h : n = 0 ∨ base < 2 then acc
  else digitsOnto base (n / base) (n % base :: acc)
termination_by n
decreasing_by exact Nat.div_lt_self (by omega) (by omega)

/-- The number whose digits in a base are given, most significant first. -/
def ofDigits (base : Nat) (ds : List Nat) : Nat :=
  ds.foldl (fun n d => n * base + d) 0

/-- The text of bytes. -/
def encode (bytes : List UInt8) : String :=
  let zeros := (bytes.takeWhile (· == 0)).length
  let n := ofDigits 256 (bytes.map UInt8.toNat)
  String.ofList (List.replicate zeros '1' ++ (digitsOnto 58 n []).map digit)

/-- Why a text is not the text of bytes. -/
inductive Error
  /-- The empty text is refused. -/
  | empty
  /-- A character outside the seven-bit range. -/
  | highBit
  /-- A seven-bit character that is not a digit. -/
  | notDigit (c : Char)
deriving DecidableEq, Repr

/-- The wording of a refusal. -/
def Error.message : Error → String
  | empty => "zero length string"
  | highBit => "high-bit set on invalid digit"
  | notDigit c => "invalid base58 digit (" ++ Text.quoteChar c ++ ")"

/-- The value of one digit, or why it is none. -/
def value (c : Char) : Except Error Nat :=
  if c.toNat > 127 then .error .highBit
  else match value? c with
    | some v => .ok v
    | none => .error (.notDigit c)

/-- The bytes of a text. -/
def decode (s : String) : Except Error (List UInt8) := do
  let cs := s.toList
  if cs.isEmpty then throw .empty
  let ds ← cs.mapM value
  let zeros := (cs.takeWhile (· == '1')).length
  return List.replicate zeros 0 ++ (digitsOnto 256 (ofDigits 58 ds) []).map UInt8.ofNat

end Lanewise.Base58
