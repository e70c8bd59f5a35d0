import Lanewise.Json.Number
import Lanewise.Timestamp

/-!
# Statements of TOML

A text is a list of statements: headings of tables, headings of elements of lists of tables, and
members. This module reads the statements; what they say together is a matter of the document.

## Main definitions

* `Toml.Expr`: a value as it is written.
* `Toml.Statement`: a heading or a member.
* `Toml.statements?`: the statements of a text.
-/

namespace Lanewise.Toml

/-- A key with its parts. -/
abbrev Key := List String

/-- A value as it is written. Numbers with a fraction and points in time are read and then
forgotten. -/
inductive Expr
  | text (s : String)
  | integer (n : Int)
  | float
  | flag (b : Bool)
  | time
  | list (items : List Expr)
  | table (members : List (Key × Expr))
deriving Repr, Inhabited

/-- One statement. -/
inductive Statement
  /-- The heading of a table. -/
  | table (key : Key)
  /-- The heading of a further element of a list of tables. -/
  | element (key : Key)
  | member (key : Key) (value : Expr)
deriving Repr, Inhabited

/-! ### Characters -/

/-- Blanks within a line. -/
def isBlank (c : Char) : Bool :=
  c == ' ' || c == '\t'

/-- The characters that end a line. -/
def isBreak (c : Char) : Bool :=
  c == '\n' || c == '\r'

/-- The text after blanks. -/
def skipBlanks (cs : List Char) : List Char :=
  cs.dropWhile isBlank

/-- Whether a character may stand in a text: every one but control characters, and a carriage return
only at the end of a line. -/
def plainText : List Char → Bool
  | [] => true
  | '\r' :: '\n' :: cs => plainText cs
  | c :: cs => (c == '\t' || c == '\n' || (0x20 ≤ c.toNat && c.toNat != 0x7F)) && plainText cs

/-- The characters of keys without quotes. -/
def isBare (c : Char) : Bool :=
  c.isAlphanum || c == '_' || c == '-'

/-! ### Texts -/

/-- The character with the number that the first digits in base sixteen say. -/
def numbered? (width : Nat) (cs : List Char) : Option (Char × List Char) := do
  let digits := cs.take width
  if digits.length < width ∨ digits.any (· == '_') then none
  let n ← Numeral.digits? 16 0 digits
  if h : n.isValidChar then some (Char.ofNatAux n h, cs.drop width) else none

/-- The character that an escape stands for; the backslash has been read. -/
def escape? : List Char → Option (Char × List Char)
  | 'b' :: cs => some ('\x08', cs)
  | 't' :: cs => some ('\t', cs)
  | 'n' :: cs => some ('\n', cs)
  | 'f' :: cs => some ('\x0c', cs)
  | 'r' :: cs => some ('\r', cs)
  | 'e' :: cs => some ('\x1b', cs)
  | '"' :: cs => some ('"', cs)
  | '\\' :: cs => some ('\\', cs)
  | 'x' :: cs => numbered? 2 cs
  | 'u' :: cs => numbered? 4 cs
  | 'U' :: cs => numbered? 8 cs
  | _ => none

/-- A text with escapes up to its closing mark; the opening mark has been read. -/
def quoted? : (fuel : Nat) → (out : List Char) → List Char → Option (String × List Char)
  | 0, _, _ | _, _, [] => none
  | _, out, '"' :: cs => some (String.ofList out.reverse, cs)
  | fuel + 1, out, '\\' :: cs => do
    let (c, cs) ← escape? cs
    quoted? fuel (c :: out) cs
  | fuel + 1, out, c :: cs => if isBreak c then none else quoted? fuel (c :: out) cs

/-- A text without escapes up to its closing mark. -/
def literal? (cs : List Char) : Option (String × List Char) :=
  match cs.span fun c => c != '\x27' && !isBreak c with
  | (text, '\x27' :: rest) => some (String.ofList text, rest)
  | _ => none

/-- The text after the line break that may follow an opening mark. -/
def afterBreak : List Char → List Char
  | '\n' :: cs => cs
  | '\r' :: '\n' :: cs => cs
  | cs => cs

/-- The rest of a text of several lines, which ends with three marks. Up to two marks before them
belong to the text. A backslash at the end of a line takes away the white space that follows it, if
escapes are read. -/
def lines? (mark : Char) (escapes : Bool) :
    (fuel : Nat) → (out : List Char) → List Char → Option (String × List Char)
  | 0, _, _ | _, _, [] => none
  | fuel + 1, out, c :: cs =>
    if c == mark then
      let marks := 1 + (cs.takeWhile (· == mark)).length
      let rest := cs.dropWhile (· == mark)
      if marks < 3 then lines? mark escapes fuel (List.replicate marks mark ++ out) rest
      else if marks < 6 then
        some (String.ofList (List.replicate (marks - 3) mark ++ out).reverse, rest)
      else none
    else if escapes && c == '\\' then
      let gap := cs.takeWhile fun c => isBlank c || isBreak c
      if gap.contains '\n' then lines? mark escapes fuel out (cs.drop gap.length)
      else match escape? cs with
        | some (c, cs) => lines? mark escapes fuel (c :: out) cs
        | none => none
    else lines? mark escapes fuel (c :: out) cs

/-! ### Keys -/

/-- One part of a key. -/
def keyPart? : List Char → Option (String × List Char)
  | '"' :: cs => quoted? (cs.length + 1) [] cs
  | '\x27' :: cs => literal? cs
  | cs =>
    match cs.span isBare with
    | ([], _) => none
    | (name, rest) => some (String.ofList name, rest)

/-- A key and the text after the blanks behind it. -/
def key? : (fuel : Nat) → List Char → Option (Key × List Char)
  | 0, _ => none
  | fuel + 1, cs => do
    let (part, rest) ← keyPart? (skipBlanks cs)
    match skipBlanks rest with
    | '.' :: rest =>
      let (more, rest) ← key? fuel rest
      return (part :: more, rest)
    | rest => return ([part], rest)

/-! ### Numbers and points in time -/

/-- Every underscore stands between two digits. -/
def spaced : (afterDigit : Bool) → List Char → Bool
  | afterDigit, [] => afterDigit
  | afterDigit, c :: cs =>
    (c != '_' || afterDigit) && spaced ((Numeral.digit? c).any (· < 16)) cs

/-- Whether a number begins with a zero that it does not need. -/
def leadingZero : List Char → Bool
  | '0' :: c :: _ => c != 'b' && c != 'o' && c != 'x'
  | '-' :: '0' :: _ :: _ | '+' :: '0' :: _ :: _ => true
  | _ => false

/-- The value of a whole number. -/
def integer? (cs : List Char) : Option Expr :=
  if spaced false cs && !leadingZero cs then
    (Numeral.parseIn? (-0x8000000000000000) 0x7fffffffffffffff cs).map .integer
  else none

/-- Whether an optional exponent is well formed. -/
def exponentOk : List Char → Bool
  | [] => true
  | c :: '-' :: ds | c :: '+' :: ds => (c == 'e' || c == 'E') && !ds.isEmpty && ds.all Char.isDigit
  | c :: ds => (c == 'e' || c == 'E') && !ds.isEmpty && ds.all Char.isDigit

/-- Reads a number with a fraction or an exponent. -/
def float? (cs : List Char) : Option Expr :=
  let digits := if cs.head? == some '-' || cs.head? == some '+' then cs.drop 1 else cs
  let isPoint (c : Char) := c == '.' || c == 'e' || c == 'E'
  let plain := digits.filter (· != '_')
  let (whole, rest) := plain.span Char.isDigit
  let (fraction, tail) := match rest with
    | '.' :: ds => (some (ds.takeWhile Char.isDigit), ds.dropWhile Char.isDigit)
    | ds => (none, ds)
  let parts := cs.splitOnP isPoint
  if !whole.isEmpty && fraction != some [] && exponentOk tail &&
      parts.all (fun p => p.isEmpty || spaced false p) &&
        !leadingZero (cs.takeWhile (!isPoint ·)) &&
      (Json.float? (String.ofList plain)).isSome then
    some .float
  else none

/-- The text after a date. -/
def date? (cs : List Char) : Option (List Char) := do
  let (year, cs) ← Timestamp.fixed? 4 cs
  let (month, cs) ← Timestamp.fixed? 2 (← Timestamp.after? '-' cs)
  let (day, cs) ← Timestamp.fixed? 2 (← Timestamp.after? '-' cs)
  if month < 1 ∨ 12 < month ∨ day < 1 ∨ Timestamp.daysIn year month < day then none
  return cs

/-- The text after a time of day, which may lack its seconds. -/
def clock? (cs : List Char) : Option (List Char) := do
  let (hour, cs) ← Timestamp.fixed? 2 cs
  let (minute, cs) ← Timestamp.fixed? 2 (← Timestamp.after? ':' cs)
  if 24 ≤ hour ∨ 60 ≤ minute then none
  match cs with
  | ':' :: cs =>
    let (second, cs) ← Timestamp.fixed? 2 cs
    if 60 ≤ second then none
    match cs with
    | '.' :: cs => if (cs.head?.any Char.isDigit) then return cs.dropWhile Char.isDigit else none
    | cs => return cs
  | cs => return cs

/-- Whether a text is a difference from universal time. -/
def isOffset : List Char → Bool
  | [] | ['Z'] => true
  | sign :: cs =>
    (sign == '+' || sign == '-') && ((do
      let (hours, cs) ← Timestamp.fixed? 2 cs
      let (minutes, cs) ← Timestamp.fixed? 2 (← Timestamp.after? ':' cs)
      return cs.isEmpty && hours ≤ 24 && minutes ≤ 60 : Option Bool) == some true)

/-- Reads a point in time: a date, a time of day, or both. -/
def time? (cs : List Char) : Option Expr :=
  let cs := cs.map fun c => if c == 't' || c == ' ' then 'T' else if c == 'z' then 'Z' else c
  match date? cs with
  | some [] => some .time
  | some ('T' :: cs) => ((clock? cs).filter isOffset).map fun _ => .time
  | some _ => none
  | none => ((clock? cs).filter List.isEmpty).map fun _ => .time

/-- A number in the base that a letter after zero selects. -/
def based? (front : List Char) (base : Nat) (cs : List Char) : Option (Expr × List Char) :=
  let isDigit (c : Char) := (Numeral.digit? c).any (· < base)
  match cs with
  | c :: _ =>
    if isDigit c then
      let (digits, rest) := cs.span fun c => isDigit c || c == '_'
      (integer? (front ++ digits)).map (·, rest)
    else none
  | [] => none

/-- A decimal number after its sign. -/
def decimal? (sign cs : List Char) : Option (Expr × List Char) :=
  let (digits, rest) := cs.span fun c => c.isDigit || c == '_'
  match rest with
  | '.' :: _ | 'e' :: _ | 'E' :: _ =>
    let (more, rest) := rest.span fun c => c.isDigit || ['_', '.', '-', '+', 'e', 'E'].contains c
    (float? (sign ++ digits ++ more)).map (·, rest)
  | _ => (integer? (sign ++ digits)).map (·, rest)

/-- A number or a point in time. -/
def number? (cs : List Char) : Option (Expr × List Char) :=
  match cs with
  | '0' :: 'b' :: cs => based? ['0', 'b'] 2 cs
  | '0' :: 'o' :: cs => based? ['0', 'o'] 8 cs
  | '0' :: 'x' :: cs => based? ['0', 'x'] 16 cs
  | '-' :: 'i' :: 'n' :: 'f' :: cs | '+' :: 'i' :: 'n' :: 'f' :: cs
  | '-' :: 'n' :: 'a' :: 'n' :: cs | '+' :: 'n' :: 'a' :: 'n' :: cs => some (.float, cs)
  | sign :: cs =>
    if sign == '-' || sign == '+' then
      if cs.head?.any Char.isDigit then decimal? [sign] cs else none
    else
      let digits := (sign :: cs).takeWhile Char.isDigit
      match (sign :: cs).drop digits.length with
      | '-' :: _ | ':' :: _ =>
        let (word, rest) := (sign :: cs).span fun c =>
          c.isDigit || ['-', ':', 'T', 't', ' ', '.', 'Z', 'z', '+'].contains c
        (time? (word.reverse.dropWhile isBlank).reverse).map (·, rest)
      | _ => decimal? [] (sign :: cs)
  | [] => none

/-! ### Values -/

/-- The text after blanks, line breaks and comments. -/
def skipGaps : (fuel : Nat) → List Char → List Char
  | 0, cs => cs
  | fuel + 1, cs =>
    match cs.dropWhile fun c => isBlank c || isBreak c with
    | '#' :: rest => skipGaps fuel (rest.dropWhile (!isBreak ·))
    | rest => rest

mutual

/-- A value; blanks in front of it have been read. -/
def value? : (fuel : Nat) → List Char → Option (Expr × List Char)
  | 0, _ | _, [] => none
  | fuel + 1, '[' :: cs => (items? fuel (skipGaps cs.length cs)).map fun r => (.list r.1, r.2)
  | fuel + 1, '\x7b' :: cs => (members? fuel (skipGaps cs.length cs)).map fun r => (.table r.1, r.2)
  | _, '"' :: '"' :: '"' :: cs =>
    (lines? '"' true (cs.length + 1) [] (afterBreak cs)).map fun r => (.text r.1, r.2)
  | _, '"' :: cs => (quoted? (cs.length + 1) [] cs).map fun r => (.text r.1, r.2)
  | _, '\x27' :: '\x27' :: '\x27' :: cs =>
    (lines? '\x27' false (cs.length + 1) [] (afterBreak cs)).map fun r => (.text r.1, r.2)
  | _, '\x27' :: cs => (literal? cs).map fun r => (.text r.1, r.2)
  | _, 't' :: 'r' :: 'u' :: 'e' :: cs => some (.flag true, cs)
  | _, 'f' :: 'a' :: 'l' :: 's' :: 'e' :: cs => some (.flag false, cs)
  | _, 'i' :: 'n' :: 'f' :: cs | _, 'n' :: 'a' :: 'n' :: cs => some (.float, cs)
  | _, c :: cs => if c.isDigit || c == '-' || c == '+' then number? (c :: cs) else none

/-- The items of a list; a comma may follow the last. -/
def items? : (fuel : Nat) → List Char → Option (List Expr × List Char)
  | 0, _ => none
  | _, ']' :: cs => some ([], cs)
  | fuel + 1, cs => do
    let (x, cs) ← value? fuel cs
    match skipGaps cs.length cs with
    | ']' :: cs => return ([x], cs)
    | ',' :: cs =>
      let (xs, cs) ← items? fuel (skipGaps cs.length cs)
      return (x :: xs, cs)
    | _ => none

/-- The members of a table in braces; a comma may follow the last. -/
def members? : (fuel : Nat) → List Char → Option (List (Key × Expr) × List Char)
  | 0, _ => none
  | _, '\x7d' :: cs => some ([], cs)
  | fuel + 1, cs => do
    let (key, cs) ← key? (cs.length + 1) cs
    let (x, cs) ← value? fuel (skipBlanks (← Timestamp.after? '=' cs))
    match skipGaps cs.length cs with
    | '\x7d' :: cs => return ([(key, x)], cs)
    | ',' :: cs =>
      let (ms, cs) ← members? fuel (skipGaps cs.length cs)
      return ((key, x) :: ms, cs)
    | _ => none

end

/-! ### Statements -/

/-- The text from the end of a line on, if nothing but a comment is left on the line. -/
def lineEnd? (cs : List Char) : Option (List Char) :=
  match skipBlanks cs with
  | [] => some []
  | '#' :: cs => some (cs.dropWhile (!isBreak ·))
  | c :: cs => if isBreak c then some cs else none

/-- One statement and the text from the end of its line on. -/
def statement? (cs : List Char) : Option (Statement × List Char) := do
  match cs with
  | '[' :: '[' :: cs =>
    let (key, cs) ← key? (cs.length + 1) cs
    return (.element key, ← lineEnd? (← Timestamp.after? ']' (← Timestamp.after? ']' cs)))
  | '[' :: cs =>
    let (key, cs) ← key? (cs.length + 1) cs
    return (.table key, ← lineEnd? (← Timestamp.after? ']' cs))
  | cs =>
    let (key, cs) ← key? (cs.length + 1) cs
    let cs := skipBlanks (← Timestamp.after? '=' cs)
    let (x, cs) ← value? (2 * cs.length + 2) cs
    return (.member key x, ← lineEnd? cs)

/-- The statements of a text, after those read so far. -/
def statementsFrom? : (fuel : Nat) → List Statement → List Char → Option (List Statement)
  | 0, _, _ => none
  | fuel + 1, done, cs =>
    match skipGaps (cs.length + 1) cs with
    | [] => some done.reverse
    | cs =>
      match statement? cs with
      | some (s, cs) => statementsFrom? fuel (s :: done) cs
      | none => none

/-- The statements of a text. A mark of its byte order may stand in front. -/
def statements? (text : String) : Option (List Statement) :=
  let cs := match text.toList with
    | '\uFEFF' :: cs => cs
    | cs => cs
  if plainText cs then statementsFrom? (cs.length + 1) [] cs else none

end Lanewise.Toml
