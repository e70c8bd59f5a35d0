import Lanewise.Text.Quoted

/-!
# Hexadecimal text of bytes

Bytes are written as two lower case digits each; both cases are read.
-/

namespace Lanewise.Hex

/-- Two lower case digits for each byte. -/
def encode (bytes : ByteArray) : String :=
  bytes.foldl
    (fun s b => (s.push (Text.hexDigit (b.toNat / 16))).push (Text.hexDigit (b.toNat % 16))) ""

/-- The value of a hexadecimal digit. -/
def digit? (c : Char) : Option Nat :=
  if '0' ≤ c ∧ c ≤ '9' then some (c.toNat - 48)
  else if 'a' ≤ c ∧ c ≤ 'f' then some (c.toNat - 87)
  else if 'A' ≤ c ∧ c ≤ 'F' then some (c.toNat - 55)
  else none

/-- The bytes of pairs of digits, after those already read. -/
def decodeFrom? : ByteArray → List Char → Option ByteArray
  | acc, [] => some acc
  | acc, a :: b :: rest =>
    match digit? a, digit? b with
    | some x, some y => decodeFrom? (acc.push (UInt8.ofNat (x * 16 + y))) rest
    | _, _ => none
  | _, [_] => none

/-- The bytes of a hexadecimal text. -/
def decode? (s : String) : Option ByteArray :=
  decodeFrom? ByteArray.empty s.toList

end Lanewise.Hex
