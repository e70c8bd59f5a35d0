/-!
# Base 64 text of bytes

Three bytes are written as four digits of six bits; one or two bytes at the end are filled up with
zero bits and marked by `=`. Line breaks inside a text are passed over.

## Main definitions

* `Base64.encode`, `Base64.decode?`: the text of bytes and the bytes of a text.
-/

namespace Lanewise.Base64

/-- The digits in increasing value. -/
def alphabet : Array Char :=
  "ABCDEFGHIJKLMNOPQRSTUVWXYZabcdefghijklmnopqrstuvwxyz0123456789+/".toList.toArray

/-- The digit that stands for a value below 64. -/
def digit (n : Nat) : Char :=
  alphabet.getD n 'A'

/-- The value of a digit. -/
def value? (c : Char) : Option Nat :=
  if 'A' ≤ c ∧ c ≤ 'Z' then some (c.toNat - 65)
  else if 'a' ≤ c ∧ c ≤ 'z' then some (c.toNat - 71)
  else if '0' ≤ c ∧ c ≤ '9' then some (c.toNat + 4)
  else if c = '+' then some 62
  else if c = '/' then some 63
  else none

/-- Appends the digits of bytes. -/
def encodeOnto (out : String) : List UInt8 → String
  | [] => out
  | [a] =>
    let n := a.toNat * 16
    (((out.push (digit (n / 64))).push (digit (n % 64))).push '=').push '='
  | [a, b] =>
    let n := (a.toNat * 256 + b.toNat) * 4
    (((out.push (digit (n / 4096))).push (digit (n / 64 % 64))).push (digit (n % 64))).push '='
  | a :: b :: c :: rest =>
    let n := (a.toNat * 256 + b.toNat) * 256 + c.toNat
    encodeOnto ((((out.push (digit (n / 262144))).push (digit (n / 4096 % 64))).push
      (digit (n / 64 % 64))).push (digit (n % 64))) rest

/-- The text of bytes. -/
def encode (bytes : List UInt8) : String :=
  encodeOnto "" bytes

/-- The number with two digits of six bits. -/
def pair? (a b : Char) : Option Nat := do
  return (← value? a) * 64 + (← value? b)

/-- Appends the bytes of a text without line breaks. -/
def decodeOnto? (out : ByteArray) : List Char → Option ByteArray
  | [] => some out
  | [a, b, '=', '='] => do
    let n ← pair? a b
    return out.push (UInt8.ofNat (n / 16))
  | [a, b, c, '='] => do
    let n := (← pair? a b) * 64 + (← value? c)
    return (out.push (UInt8.ofNat (n / 1024))).push (UInt8.ofNat (n / 4))
  | a :: b :: c :: d :: rest =>
    match pair? a b, pair? c d with
    | some m, some n =>
      let v := m * 4096 + n
      decodeOnto? (((out.push (UInt8.ofNat (v / 65536))).push (UInt8.ofNat (v / 256))).push
        (UInt8.ofNat v)) rest
    | _, _ => none
  | _ => none

/-- The bytes of a text. -/
def decode? (s : String) : Option ByteArray :=
  decodeOnto? .empty (s.toList.filter fun c => c != '\r' && c != '\n')

end Lanewise.Base64
