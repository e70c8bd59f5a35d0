import Lanewise.Text.Rune
import Lanewise.Text.Printable

/-!
# Quoted texts

Messages show names and operands between quotation marks. Printable characters stand for
themselves; the delimiter and the backslash take a backslash; seven control characters have a letter
escape; every other character is written by its code point in hexadecimal, and a stray byte by its
value. The quoted form therefore never holds a byte that is not text.

## Main definitions

* `Text.quoteWith`, `Text.quote`: a text between quotation marks.
* `Text.quoteChar`: one character between apostrophes.
-/

namespace Lanewise.Text

/-- The hexadecimal digit of a value below sixteen. -/
def hexDigit (n : Nat) : Char :=
  if n < 10 then Char.ofNat (48 + n) else Char.ofNat (87 + n)

/-- The last `width` hexadecimal digits of `n`, most significant first. -/
def hexDigits : (width n : Nat) → List Char
  | 0, _ => []
  | w + 1, n => hexDigits w (n / 16) ++ [hexDigit (n % 16)]

/-- The letter that names a control character in an escape. -/
def controlLetter? (c : Char) : Option Char :=
  match c.toNat with
  | 7 => some 'a'
  | 8 => some 'b'
  | 12 => some 'f'
  | 10 => some 'n'
  | 13 => some 'r'
  | 9 => some 't'
  | 11 => some 'v'
  | _ => none

/-- One character as it stands inside quotation marks `mark`. -/
def escapeChar (mark c : Char) : List Char :=
  if c = mark ∨ c = '\\' then ['\\', c]
  else if isPrintable c then [c]
  else match controlLetter? c with
    | some l => ['\\', l]
    | none =>
      let n := c.toNat
      if n < 0x80 then '\\' :: 'x' :: hexDigits 2 n
      else if n < 0x10000 then '\\' :: 'u' :: hexDigits 4 n
      else '\\' :: 'U' :: hexDigits 8 n

/-- One rune as it stands inside quotation marks `mark`. -/
def escapeRune (mark : Char) : Rune → List Char
  | .char c => escapeChar mark c
  | .stray b => '\\' :: 'x' :: hexDigits 2 b.toNat

/-- A byte text between quotation marks. -/
def quoteRunes (rs : List Rune) : String :=
  String.ofList ('"' :: rs.flatMap (escapeRune '"') ++ ['"'])

/-- A text between quotation marks. -/
def quote (s : String) : String :=
  quoteRunes (runes s)

/-- The apostrophe. -/
def apostrophe : Char := Char.ofNat 39

/-- A single character between apostrophes. -/
def quoteChar (c : Char) : String :=
  String.ofList (apostrophe :: escapeChar apostrophe c ++ [apostrophe])

end Lanewise.Text
