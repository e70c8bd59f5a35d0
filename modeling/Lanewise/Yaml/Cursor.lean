/-!
# Places in a text

A cursor is a place in a text: the characters from there on, and the line and the column of the
place.

## Main definitions

* `Yaml.Cursor`: a place.
* `Yaml.Cursor.skip`, `Yaml.Cursor.takeBreak`: steps within a line and to the next line.
-/

namespace Lanewise.Yaml

/-- Blanks within a line. -/
def isBlank (c : Char) : Bool :=
  c == ' ' || c == '\t'

/-- The characters that end a line. -/
def isBreak (c : Char) : Bool :=
  c == '\n' || c == '\r' || c == '\u0085' || c == '\u2028' || c == '\u2029'

/-- The characters that begin or end a collection in brackets, or separate its items. -/
def isFlowMark (c : Char) : Bool :=
  c == ',' || c == '[' || c == ']' || c == '\x7b' || c == '\x7d'

/-- Whether a character may stand in a text. -/
def isReadable (c : Char) : Bool :=
  let n := c.toNat
  n = 9 || n = 10 || n = 13 || (0x20 ≤ n && n ≤ 0x7E) || n = 0x85 || (0xA0 ≤ n && n ≤ 0xFFFD) ||
    0x10000 ≤ n

/-- A place in a text. -/
structure Cursor where
  /-- The text from the place on. -/
  rest : List Char
  /-- The number of characters before the place. -/
  index : Nat := 0
  line : Nat := 0
  column : Nat := 0
deriving Inhabited

namespace Cursor

/-- The place after some characters of the line. -/
def skip (c : Cursor) (n : Nat) : Cursor :=
  { c with rest := c.rest.drop n, index := c.index + n, column := c.column + n }

/-- The place after the characters that satisfy a condition, which none that ends a line does. -/
def skipWhile (c : Cursor) (p : Char → Bool) : Cursor :=
  c.skip (c.rest.takeWhile p).length

/-- Whether the character some places ahead satisfies a condition; the end of the text does not. -/
def ahead (c : Cursor) (n : Nat) (p : Char → Bool) : Bool :=
  c.rest[n]?.any p

/-- Whether a blank, the end of a line or the end of the text is some places ahead. -/
def gapAhead (c : Cursor) (n : Nat) : Bool :=
  c.rest[n]?.all fun ch => isBlank ch || isBreak ch

/-- Whether the end of a line or of the text is here. -/
def atLineEnd (c : Cursor) : Bool :=
  c.rest.head?.all isBreak

/-- Whether a mark between documents is here: three equal characters at the start of a line. -/
def atMark (c : Cursor) (mark : Char) : Bool :=
  c.column == 0 && c.rest.take 3 == [mark, mark, mark] && c.gapAhead 3

/-- Whether a mark between documents is here. -/
def atDocumentMark (c : Cursor) : Bool :=
  c.atMark '-' || c.atMark '.'

/-- The break that ends the line, and the start of the next line. Most breaks are read as one
character. -/
def takeBreak (c : Cursor) : List Char × Cursor :=
  let next (n : Nat) : Cursor :=
    { rest := c.rest.drop n, index := c.index + n, line := c.line + 1, column := 0 }
  match c.rest with
  | '\r' :: '\n' :: _ => (['\n'], next 2)
  | '\u2028' :: _ => (['\u2028'], next 1)
  | '\u2029' :: _ => (['\u2029'], next 1)
  | [] => ([], c)
  | _ => (['\n'], next 1)

end Cursor

end Lanewise.Yaml
