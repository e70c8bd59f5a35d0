import Lanewise.Text.Numeral
import Lanewise.Yaml.Cursor

/-!
# Reading scalars

A scalar is a text: bare, in single or double quotes, or a block of lines below a mark. A bare or
quoted text may go over several lines; a single break counts as a blank then, and of several breaks
one is dropped. Blocks are literal, or folded by the same rule where lines do not start with blanks.

## Main definitions

* `Yaml.plain?`, `Yaml.quoted?`, `Yaml.block?`: the scalars, each with the place behind it.
-/

namespace Lanewise.Yaml

/-! ### White space within a scalar -/

/-- The white space between two words of a scalar. -/
structure Gap where
  /-- Blanks on the line of the first word. -/
  blanks : List Char := []
  first : List Char := []
  more : List Char := []
  /-- Whether the second word is on a later line. -/
  crossed : Bool := false

/-- Breaks between two lines, folded. -/
def foldBreaks (first more : List Char) : List Char :=
  if first.head? == some '\n' then (if more.isEmpty then [' '] else more) else first ++ more

/-- What the white space stands for. -/
def Gap.folded (g : Gap) : List Char :=
  if g.crossed then foldBreaks g.first g.more else g.blanks

/-- The white space from a place on. A tab within the indentation of a later line is refused. -/
def gap? (indent : Nat) : (fuel : Nat) → Gap → Cursor → Option (Gap × Cursor)
  | 0, g, c => some (g, c)
  | fuel + 1, g, c =>
    match c.rest with
    | [] => some (g, c)
    | ch :: _ =>
      if isBlank ch then
        if g.crossed then
          if ch == '\t' && c.column < indent then none else gap? indent fuel g (c.skip 1)
        else gap? indent fuel { g with blanks := g.blanks ++ [ch] } (c.skip 1)
      else if isBreak ch then
        let (br, next) := c.takeBreak
        if g.crossed then gap? indent fuel { g with more := g.more ++ br } next
        else gap? indent fuel { g with blanks := [], first := br, crossed := true } next
      else some (g, c)

/-! ### Bare texts -/

/-- The length of a bare word. It ends before a colon that is followed by white space, and within
brackets before their marks. -/
def wordLength (inFlow : Bool) : List Char → Nat
  | [] => 0
  | c :: cs =>
    if isBlank c || isBreak c then 0
    else if c == ':' && cs.head?.all (fun d => isBlank d || isBreak d) then 0
    else if inFlow && (isFlowMark c || c == '?') then 0
    else 1 + wordLength inFlow cs

/-- The rest of a bare text behind some white space. The answer says whether the text is followed by
a new line. -/
def plainFrom? (inFlow : Bool) (indent : Nat) :
    (fuel : Nat) → (out : List Char) → Gap → Cursor → Option (List Char × Bool × Cursor)
  | 0, out, g, c => some (out, g.crossed, c)
  | fuel + 1, out, g, c =>
    if c.atDocumentMark || c.ahead 0 (· == '#') then some (out, g.crossed, c)
    else
      let n := wordLength inFlow c.rest
      if n = 0 then some (out, g.crossed, c)
      else
        let out := out ++ g.folded ++ c.rest.take n
        let c := c.skip n
        if c.rest.isEmpty || !c.gapAhead 0 then some (out, false, c)
        else match gap? indent (c.rest.length + 1) {} c with
          | none => none
          | some (g, c) =>
            if !inFlow && c.column < indent then some (out, g.crossed, c)
            else plainFrom? inFlow indent fuel out g c

/-- A bare text. The answer says whether it is followed by a new line. -/
def plain? (inFlow : Bool) (indent : Nat) (c : Cursor) : Option (String × Bool × Cursor) :=
  (plainFrom? inFlow indent (c.rest.length + 1) [] {} c).map fun r => (String.ofList r.1, r.2)

/-! ### Quoted texts -/

/-- The character with the number that the first digits in base sixteen say. -/
def numbered? (width : Nat) (cs : List Char) : Option (Char × Nat) := do
  let digits := cs.take width
  if digits.length < width ∨ digits.any (· == '_') then none
  let n ← Numeral.digits? 16 0 digits
  if h : n.isValidChar then some (Char.ofNatAux n h, width + 1) else none

/-- The character that an escape stands for, and how long the escape is without its backslash. -/
def escape? : List Char → Option (Char × Nat)
  | '0' :: _ => some ('\x00', 1)
  | 'a' :: _ => some ('\x07', 1)
  | 'b' :: _ => some ('\x08', 1)
  | 't' :: _ | '\t' :: _ => some ('\t', 1)
  | 'n' :: _ => some ('\n', 1)
  | 'v' :: _ => some ('\x0b', 1)
  | 'f' :: _ => some ('\x0c', 1)
  | 'r' :: _ => some ('\r', 1)
  | 'e' :: _ => some ('\x1b', 1)
  | ' ' :: _ => some (' ', 1)
  | '"' :: _ => some ('"', 1)
  | '\x27' :: _ => some ('\x27', 1)
  | '\\' :: _ => some ('\\', 1)
  | '/' :: _ => some ('/', 1)
  | 'N' :: _ => some ('\u0085', 1)
  | '_' :: _ => some ('\u00a0', 1)
  | 'L' :: _ => some ('\u2028', 1)
  | 'P' :: _ => some ('\u2029', 1)
  | 'x' :: cs => numbered? 2 cs
  | 'u' :: cs => numbered? 4 cs
  | 'U' :: cs => numbered? 8 cs
  | _ => none

/-- The rest of a quoted text up to its closing mark. Both marks may be doubled or escaped as their
kind of text has it; a backslash at the end of a line joins the lines. -/
def quotedFrom? (single : Bool) :
    (fuel : Nat) → (out : List Char) → Cursor → Option (String × Cursor)
  | 0, _, _ => none
  | fuel + 1, out, c =>
    if c.atDocumentMark then none
    else match c.rest with
      | [] => none
      | '\x27' :: cs =>
        if !single then quotedFrom? single fuel ('\x27' :: out) (c.skip 1)
        else if cs.head? == some '\x27' then quotedFrom? single fuel ('\x27' :: out) (c.skip 2)
        else some (String.ofList out.reverse, c.skip 1)
      | '"' :: _ =>
        if single then quotedFrom? single fuel ('"' :: out) (c.skip 1)
        else some (String.ofList out.reverse, c.skip 1)
      | ch :: cs =>
        if isBlank ch || isBreak ch then
          match gap? 0 (c.rest.length + 1) {} c with
          | some (g, c) => quotedFrom? single fuel (g.folded.reverse ++ out) c
          | none => none
        else if ch == '\\' && !single then
          if cs.head?.any isBreak then
            match gap? 0 (c.rest.length + 1) { crossed := true } ((c.skip 1).takeBreak).2 with
            | some (g, c) => quotedFrom? single fuel (g.more.reverse ++ out) c
            | none => none
          else match escape? cs with
            | some (e, n) => quotedFrom? single fuel (e :: out) (c.skip (n + 1))
            | none => none
        else quotedFrom? single fuel (ch :: out) (c.skip 1)

/-- A quoted text; the cursor is at its opening mark. -/
def quoted? (single : Bool) (c : Cursor) : Option (String × Cursor) :=
  quotedFrom? single (c.rest.length + 1) [] (c.skip 1)

/-! ### Blocks -/

/-- What happens to the breaks at the end of a block. -/
inductive Chomping
  | strip
  | clip
  | keep
deriving DecidableEq

/-- The marks in the heading of a block: chomping and indentation, in either order. -/
def heading? : List Char → Option (Chomping × Nat × Nat)
  | '+' :: d :: _ => if d == '0' then none else some (.keep, digit d)
  | '-' :: d :: _ => if d == '0' then none else some (.strip, digit d)
  | ['+'] => some (.keep, 0, 1)
  | ['-'] => some (.strip, 0, 1)
  | d :: '+' :: _ => afterDigit d .keep
  | d :: '-' :: _ => afterDigit d .strip
  | d :: _ =>
    if d == '0' then none else some (.clip, if d.isDigit then (d.toNat - 48, 1) else (0, 0))
  | [] => some (.clip, 0, 0)
where
  /-- The indentation that a character behind a mark says, and the length of the marks. -/
  digit (d : Char) : Nat × Nat := if d.isDigit then (d.toNat - 48, 2) else (0, 1)
  /-- The marks if the indentation comes first. -/
  afterDigit (d : Char) (c : Chomping) : Option (Chomping × Nat × Nat) :=
    if d == '0' then none
    else some (if d.isDigit then (c, d.toNat - 48, 2) else (.clip, 0, 0))

/-- Empty lines and the indentation of the line behind them. If the indentation is not known (zero),
it is the greatest that occurs. -/
def emptyLines? (indent : Nat) :
    (fuel : Nat) → (greatest : Nat) → (breaks : List Char) → Cursor →
      Option (Nat × List Char × Cursor)
  | 0, greatest, breaks, c => some (greatest, breaks, c)
  | fuel + 1, greatest, breaks, c =>
    let spaces := (c.rest.takeWhile (· == ' ')).length
    let c := c.skip (if indent = 0 then spaces else min spaces (indent - c.column))
    let greatest := max greatest c.column
    if (indent = 0 || c.column < indent) && c.ahead 0 (· == '\t') then none
    else if c.rest.isEmpty || !c.atLineEnd then some (greatest, breaks, c)
    else
      let (br, c) := c.takeBreak
      emptyLines? indent fuel greatest (breaks ++ br) c

/-- The lines of a block; `first` is the break before the line at hand and `more` are empty lines
after it. -/
def blockLines? (folded : Bool) (indent : Nat) :
    (fuel : Nat) → (out : List Char) → (afterBlank : Bool) → (first more : List Char) → Cursor →
      Option (List Char × List Char × List Char × Cursor)
  | 0, out, _, first, more, c => some (out, first, more, c)
  | fuel + 1, out, afterBlank, first, more, c =>
    if c.column ≠ indent || c.rest.isEmpty then some (out, first, more, c)
    else
      let blank := c.ahead 0 isBlank
      let joint :=
        if folded && !afterBlank && !blank && first.head? == some '\n' then
          (if more.isEmpty then [' '] else more)
        else first ++ more
      let text := c.rest.takeWhile (!isBreak ·)
      let (br, c) := (c.skip text.length).takeBreak
      match emptyLines? indent (c.rest.length + 1) 0 [] c with
      | none => none
      | some (_, more, c) => blockLines? folded indent fuel (out ++ joint ++ text) blank br more c

/-- A block; the cursor is at its mark. The outer indentation is -1 at the top. -/
def block? (folded : Bool) (outer : Int) (c : Cursor) : Option (String × Cursor) := do
  let c := c.skip 1
  let (chomping, step, length) ← heading? (c.rest.take 2)
  let c := (c.skip length).skipWhile isBlank
  let c := if c.ahead 0 (· == '#') then c.skipWhile (!isBreak ·) else c
  if !c.atLineEnd then none
  let c := c.takeBreak.2
  let stated := if step = 0 then 0 else (if 0 ≤ outer then outer.toNat else 0) + step
  let (greatest, more, c) ← emptyLines? stated (c.rest.length + 1) 0 [] c
  let indent := if stated = 0 then max (max greatest (outer + 1).toNat) 1 else stated
  let (out, first, more, c) ← blockLines? folded indent (c.rest.length + 1) [] false [] more c
  return (String.ofList (out ++ (if chomping = .strip then [] else first) ++
    (if chomping = .keep then more else [])), c)

end Lanewise.Yaml
