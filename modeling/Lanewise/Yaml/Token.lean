import Lanewise.Yaml.Scalar

/-!
# Tokens

The structure of a text is made of tokens. Indentation becomes tokens of its own: a collection
starts where the indentation grows, and ends where it shrinks. That a text is a key is seen only at
the colon behind it, so a token that may be the start of a key is remembered, and the tokens for the
key are put in front of it later.

## Main definitions

* `Yaml.Token`: the tokens.
* `Yaml.Lexer`: the state of the division into tokens.
* `Yaml.tokens`: the tokens of a text; where it cannot be divided any further, they end with
  `Token.unreadable`.
-/

namespace Lanewise.Yaml

/-- The tokens. -/
inductive Token
  | directive
  | documentStart
  | documentEnd
  | blockSequence
  | blockMapping
  | blockEnd
  | flowSequence
  | flowSequenceEnd
  | flowMapping
  | flowMappingEnd
  | item
  | comma
  | key
  | value
  | alias (name : String)
  | anchor (name : String)
  | tag (name : String)
  | scalar (text : String) (bare : Bool)
  | finish
  /-- The text cannot be read from here on. -/
  | unreadable
deriving DecidableEq, Repr, Inhabited

/-- A token that may turn out to be the start of a key. -/
structure Candidate where
  /-- Whether the indentation says that it has to be one. -/
  required : Bool
  /-- The number of tokens before it. -/
  position : Nat
  index : Nat
  line : Nat
  column : Nat

/-- The state of the division of a text into tokens. -/
structure Lexer where
  cursor : Cursor
  tokens : Array Token := #[]
  /-- The column of the innermost collection by indentation; -1 outside. -/
  indent : Int := -1
  outer : List Int := []
  /-- Whether a key may start here. -/
  keyAllowed : Bool := true
  /-- The candidates for keys: one for each open bracket, and one outside. -/
  candidates : List (Option Candidate) := [none]

namespace Lexer

/-- Whether the place is within brackets. -/
def inFlow (s : Lexer) : Bool :=
  1 < s.candidates.length

/-- Adds a token. -/
def push (s : Lexer) (t : Token) : Lexer :=
  { s with tokens := s.tokens.push t }

/-- Adds a token in front of the token at a position. -/
def insertAt (s : Lexer) (position : Nat) (t : Token) : Lexer :=
  { s with
    tokens := s.tokens.extract 0 position ++ #[t] ++ s.tokens.extract position s.tokens.size }

/-- Passes over some characters of the line. -/
def skip (s : Lexer) (n : Nat) : Lexer :=
  { s with cursor := s.cursor.skip n }

/-- Gives the innermost candidate up. One that has to be a key cannot be given up. -/
def dropCandidate (s : Lexer) : Option Lexer :=
  match s.candidates with
  | some c :: rest => if c.required then none else some { s with candidates := none :: rest }
  | _ => some s

/-- Remembers that the token at hand may be a key, where keys are allowed. -/
def addCandidate (s : Lexer) : Option Lexer :=
  if !s.keyAllowed then some s
  else s.dropCandidate.map fun s =>
    let c := s.cursor
    { s with
      candidates := some
        { required := !s.inFlow && s.indent == c.column, position := s.tokens.size, index := c.index
          line := c.line, column := c.column } :: s.candidates.drop 1 }

/-- The innermost candidate, if it is near enough: on the same line, and at most 1024 characters
back. A candidate that has to be a key and is not near is an error. -/
def nearCandidate (s : Lexer) : Option (Option Candidate) :=
  match s.candidates with
  | some c :: _ =>
    if c.line < s.cursor.line ∨ c.index + 1024 < s.cursor.index then
      (if c.required then none else some none)
    else some (some c)
  | _ => some none

/-- Ends the collections that are indented by more than a column. -/
def unrollFrom (s : Lexer) (column : Int) : List Int → Lexer
  | [] => s
  | previous :: rest =>
    if column < s.indent then
      unrollFrom { s.push .blockEnd with indent := previous, outer := rest } column rest
    else s

/-- Ends the collections that are indented by more than a column, outside brackets. -/
def unroll (s : Lexer) (column : Int) : Lexer :=
  if s.inFlow then s else s.unrollFrom column s.outer

/-- Starts a collection if a column is beyond the indentation. -/
def roll (s : Lexer) (column position : Nat) (t : Token) : Lexer :=
  if s.inFlow || column ≤ s.indent then s
  else { s.insertAt position t with indent := column, outer := s.indent :: s.outer }

/-- Passes over white space and comments. -/
def skipGaps : (fuel : Nat) → Lexer → Lexer
  | 0, s => s
  | fuel + 1, s =>
    let c := s.cursor.skipWhile fun ch => ch == ' ' || (ch == '\t' && (s.inFlow || !s.keyAllowed))
    let c := if c.ahead 0 (· == '#') then c.skipWhile (!isBreak ·) else c
    if c.ahead 0 isBreak then
      skipGaps fuel { s with cursor := c.takeBreak.2, keyAllowed := s.keyAllowed || !s.inFlow }
    else { s with cursor := c }

/-! ### Tokens of the structure -/

/-- The start of a collection in brackets. -/
def openBracket (s : Lexer) (t : Token) : Option Lexer := do
  let s ← s.addCandidate
  return { (s.push t).skip 1 with candidates := none :: s.candidates, keyAllowed := true }

/-- The end of a collection in brackets. -/
def closeBracket (s : Lexer) (t : Token) : Option Lexer := do
  let s ← s.dropCandidate
  return { (s.push t).skip 1 with
    candidates := if s.inFlow then s.candidates.drop 1 else s.candidates, keyAllowed := false }

/-- A comma within brackets. -/
def comma (s : Lexer) : Option Lexer := do
  let s ← s.dropCandidate
  return { (s.push .comma).skip 1 with keyAllowed := true }

/-- The mark of an item of a sequence. -/
def item (s : Lexer) : Option Lexer := do
  if !s.inFlow && !s.keyAllowed then none
  let s := s.roll s.cursor.column s.tokens.size .blockSequence
  let s ← s.dropCandidate
  return { (s.push .item).skip 1 with keyAllowed := true }

/-- The mark of a key. -/
def keyMark (s : Lexer) : Option Lexer := do
  if !s.inFlow && !s.keyAllowed then none
  let s := s.roll s.cursor.column s.tokens.size .blockMapping
  let s ← s.dropCandidate
  return { (s.push .key).skip 1 with keyAllowed := !s.inFlow }

/-- The colon between a key and its value. -/
def valueMark (s : Lexer) : Option Lexer := do
  match ← s.nearCandidate with
  | some k =>
    let s := (s.insertAt k.position .key).roll k.column k.position .blockMapping
    return { (s.push .value).skip 1 with
      keyAllowed := false, candidates := none :: s.candidates.drop 1 }
  | none =>
    if !s.inFlow && !s.keyAllowed then none
    let s := s.roll s.cursor.column s.tokens.size .blockMapping
    return { (s.push .value).skip 1 with keyAllowed := !s.inFlow }

/-- A mark between documents. -/
def documentMark (s : Lexer) (t : Token) : Option Lexer := do
  let s ← (s.unroll (-1)).dropCandidate
  return { (s.push t).skip 3 with keyAllowed := false }

/-- The end of the text. -/
def finish (s : Lexer) : Option Lexer := do
  let s ← (s.unroll (-1)).dropCandidate
  return s.push .finish

/-- Whether the text of a directive is one that is known. -/
def knownDirective (text : List Char) : Bool :=
  let words := (String.ofList text).splitOn " " |>.filter (· != "")
  match words with
  | ["YAML", v] => v == "1.1" || v == "1.2"
  | ["TAG", _, _] => true
  | _ => false

/-- A directive. -/
def directive (s : Lexer) : Option Lexer := do
  let s ← (s.unroll (-1)).dropCandidate
  let text := (s.cursor.rest.drop 1).takeWhile fun c => !isBreak c && c != '#'
  if !knownDirective text then none
  return { (s.push .directive).skip (text.length + 1) with keyAllowed := false }

/-! ### Tokens of nodes -/

/-- The name of an anchor or an alias. -/
def name (s : Lexer) (make : String → Token) : Option Lexer := do
  let s ← s.addCandidate
  let text := (s.cursor.rest.drop 1).takeWhile fun c => c.isAlphanum || c == '_' || c == '-'
  let s := s.skip (text.length + 1)
  if text.isEmpty || !(s.cursor.gapAhead 0 ||
      s.cursor.ahead 0 (['?', ':', ',', ']', '\x7d', '%', '@', '\x60'].contains ·)) then none
  return { s.push (make (String.ofList text)) with keyAllowed := false }

/-- A tag. The tags of the standard may be written out. -/
def tag (s : Lexer) : Option Lexer := do
  let s ← s.addCandidate
  let rest := s.cursor.rest
  let (text, length) := if rest.take 2 == ['!', '<'] then
      let text := (rest.drop 2).takeWhile fun c => c != '>' && !isBlank c && !isBreak c
      (text, text.length + 3)
    else
      let text := rest.takeWhile fun c => !isBlank c && !isBreak c && !(s.inFlow && isFlowMark c)
      (text, text.length)
  let standard := "tag:yaml.org,2002:".toList
  let text := if standard.isPrefixOf text then '!' :: '!' :: text.drop standard.length else text
  let s := s.skip length
  if !(s.cursor.gapAhead 0 || (s.inFlow && s.cursor.ahead 0 (· == ','))) then none
  return { s.push (.tag (String.ofList text)) with keyAllowed := false }

/-- A block of lines. -/
def block (s : Lexer) (folded : Bool) : Option Lexer := do
  let s ← s.dropCandidate
  let (text, cursor) ← block? folded s.indent s.cursor
  return { s.push (.scalar text false) with cursor, keyAllowed := true }

/-- A quoted text. -/
def quoted (s : Lexer) (single : Bool) : Option Lexer := do
  let s ← s.addCandidate
  let (text, cursor) ← quoted? single s.cursor
  return { s.push (.scalar text false) with cursor, keyAllowed := false }

/-- A bare text. -/
def plain (s : Lexer) : Option Lexer := do
  let s ← s.addCandidate
  let (text, crossed, cursor) ← plain? s.inFlow (s.indent + 1).toNat s.cursor
  return { s.push (.scalar text true) with cursor, keyAllowed := crossed }

/-- Whether a bare text may start with a character. -/
def startsPlain (s : Lexer) (c : Char) : Bool :=
  if c == '-' then !s.cursor.ahead 1 isBlank
  else if c == '?' || c == ':' then !s.inFlow && !s.cursor.gapAhead 1
  else !(isBlank c || isBreak c || isFlowMark c ||
    ['#', '&', '*', '!', '|', '>', '\x27', '"', '%', '@', '\x60'].contains c)

/-- The next token; the cursor is at its first character. -/
def next (s : Lexer) (c : Char) : Option Lexer :=
  let cursor := s.cursor
  if cursor.column == 0 && c == '%' then s.directive
  else if cursor.atMark '-' then s.documentMark .documentStart
  else if cursor.atMark '.' then s.documentMark .documentEnd
  else if c == '[' then s.openBracket .flowSequence
  else if c == '\x7b' then s.openBracket .flowMapping
  else if c == ']' then s.closeBracket .flowSequenceEnd
  else if c == '\x7d' then s.closeBracket .flowMappingEnd
  else if c == ',' then s.comma
  else if c == '-' && cursor.gapAhead 1 then s.item
  else if c == '?' && (s.inFlow || cursor.gapAhead 1) then s.keyMark
  else if c == ':' && (s.inFlow || cursor.gapAhead 1) then s.valueMark
  else if c == '*' then s.name .alias
  else if c == '&' then s.name .anchor
  else if c == '!' then s.tag
  else if c == '|' && !s.inFlow then s.block false
  else if c == '>' && !s.inFlow then s.block true
  else if c == '\x27' then s.quoted true
  else if c == '"' then s.quoted false
  else if s.startsPlain c then s.plain
  else none

/-- All further tokens. -/
def run : (fuel : Nat) → Lexer → Array Token
  | 0, s => s.tokens.push .unreadable
  | fuel + 1, s =>
    let s := skipGaps (s.cursor.rest.length + 1) s
    let s := s.unroll s.cursor.column
    match s.cursor.rest with
    | [] => (s.finish.map (·.tokens)).getD (s.tokens.push .unreadable)
    | c :: _ =>
      match s.next c with
      | some s => run fuel s
      | none => s.tokens.push .unreadable

end Lexer

/-- The tokens of a text. A mark of its byte order may stand in front. -/
def tokens (text : String) : Array Token :=
  let cs := match text.toList with
    | '\uFEFF' :: cs => cs
    | cs => cs
  if cs.all isReadable then Lexer.run (cs.length + 1) { cursor := { rest := cs } }
  else #[.unreadable]

end Lanewise.Yaml
