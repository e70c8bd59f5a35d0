/-!
# Byte texts read as UTF-8

Source texts and file contents arrive as bytes, and nothing promises that they are well formed.
A byte text is read as a sequence of *runes*: a rune is a character, or a single byte that belongs
to no character at its place. Reading never fails and loses nothing.

## Main definitions

* `Rune`, `Rune.decode`: the runes of a byte text.
* `Text.lossy`: the text in which every stray byte is shown as U+FFFD.
-/

namespace Lanewise

/-- One position of a byte text: a character, or a byte that belongs to no character. -/
inductive Rune
  | char (c : Char)
  | stray (b : UInt8)
deriving DecidableEq, Repr, Inhabited

namespace Rune

/-- The six payload bits of a continuation byte. -/
def continuation? (b : UInt8) : Option Nat :=
  if b.toNat / 64 = 2 then some (b.toNat % 64) else none

/-- The character with code point `n`, when `n` is a scalar value of at least `least`. The bound
refuses encodings that are longer than they need to be. -/
def scalar? (least n : Nat) : Option Char :=
  if least ≤ n ∧ n.isValidChar then some (Char.ofNat n) else none

/-- The character encoded at the front of a byte text, with the number of bytes it takes. -/
def front? : List UInt8 → Option (Char × Nat)
  | [] => none
  | b :: rest =>
    let n := b.toNat
    if n < 0x80 then
      some (Char.ofNat n, 1)
    else if n < 0xC0 then
      none
    else if n < 0xE0 then
      match rest with
      | b₁ :: _ => do
        let c₁ ← continuation? b₁
        let c ← scalar? 0x80 ((n - 0xC0) * 64 + c₁)
        return (c, 2)
      | _ => none
    else if n < 0xF0 then
      match rest with
      | b₁ :: b₂ :: _ => do
        let c₁ ← continuation? b₁
        let c₂ ← continuation? b₂
        let c ← scalar? 0x800 (((n - 0xE0) * 64 + c₁) * 64 + c₂)
        return (c, 3)
      | _ => none
    else if n < 0xF8 then
      match rest with
      | b₁ :: b₂ :: b₃ :: _ => do
        let c₁ ← continuation? b₁
        let c₂ ← continuation? b₂
        let c₃ ← continuation? b₃
        let c ← scalar? 0x10000 ((((n - 0xF0) * 64 + c₁) * 64 + c₂) * 64 + c₃)
        return (c, 4)
      | _ => none
    else
      none

/-- The runes of a byte text of which the first `skip` bytes are already read. -/
def decodeAfter : Nat → List UInt8 → List Rune
  | _, [] => []
  | skip + 1, _ :: rest => decodeAfter skip rest
  | 0, b :: rest =>
    match front? (b :: rest) with
    | some (c, k) => char c :: decodeAfter (k - 1) rest
    | none => stray b :: decodeAfter 0 rest

/-- The runes of a byte text. -/
def decode (bytes : List UInt8) : List Rune :=
  decodeAfter 0 bytes

/-- A stray byte is shown as the replacement character. -/
def toChar : Rune → Char
  | char c => c
  | stray _ => Char.ofNat 0xFFFD

end Rune

namespace Text

/-- The text in which every stray byte is shown as U+FFFD. -/
def lossy (bytes : List UInt8) : String :=
  String.ofList ((Rune.decode bytes).map Rune.toChar)

/-- The runes of a well formed text. -/
def runes (s : String) : List Rune :=
  s.toList.map Rune.char

/-- White space in the sense of the Unicode property: it separates the fields of a line. -/
def isSpace (c : Char) : Bool :=
  let n := c.toNat
  (0x09 ≤ n && n ≤ 0x0D) || n == 0x20 || n == 0x85 || n == 0xA0 || n == 0x1680 ||
    (0x2000 ≤ n && n ≤ 0x200A) || n == 0x2028 || n == 0x2029 || n == 0x202F || n == 0x205F ||
    n == 0x3000

end Text

/-- White space separates fields; a stray byte does not. -/
def Rune.isSpace : Rune → Bool
  | char c => Text.isSpace c
  | stray _ => false

end Lanewise
