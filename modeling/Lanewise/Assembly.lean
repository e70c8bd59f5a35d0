import Lanewise.Instruction
import Lanewise.Text.Quoted
import Std.Data.HashMap

/-!
# Program texts

A program text has one instruction a line, after any number of labels. A label stands for the
position of the next instruction. Operands are integer literals or labels, and labels may be used
before they are set. A comment starts with `;` or `#`. The line `.entry x` says where execution
starts; without one it starts at position zero.

The text is read twice: the first reading collects the labels and the instructions with the
operands as written, the second replaces the operands by their values.

## Main definitions

* `Source.lines`: the lines of a byte text.
* `Assembly.Draft`, `Assembly.readLine`: the first reading.
* `Assembly.resolve`, `Assembly.emit`: the second reading.
* `assemble`: the program of a text and its entry.
-/

namespace Lanewise

/-- A program and the position where it starts. -/
structure Executable where
  program : Program
  entry : Nat
deriving DecidableEq, Repr, Inhabited

/-! ### Lines and fields -/

namespace Source

/-- The number of bytes that no line may reach. -/
def lineLimit : Nat := 65536

/-- A line, or the mark that the text has a line that is too long. Nothing follows the mark. -/
inductive Line
  | text (bytes : List UInt8)
  | tooLong
deriving DecidableEq, Repr

/-- A line without the one carriage return that may end it, from its bytes in reverse. -/
def finish : List UInt8 → Line
  | 13 :: rest => .text rest.reverse
  | bytes => .text bytes.reverse

/-- The lines of a byte text, after those already split off. The bytes of the line at hand stand in
`line` in reverse, `length` of them. -/
def linesFrom : Array Line → (line : List UInt8) → (length : Nat) → List UInt8 → Array Line
  | acc, line, length, [] => if length = 0 then acc else acc.push (finish line)
  | acc, line, length, b :: rest =>
    if b = 10 then linesFrom (acc.push (finish line)) [] 0 rest
    else if length + 1 < lineLimit then linesFrom acc (b :: line) (length + 1) rest
    else acc.push .tooLong

/-- The lines of a byte text. -/
def lines (bytes : List UInt8) : Array Line :=
  linesFrom #[] [] 0 bytes

/-- Whether a rune starts a comment. -/
def startsComment (r : Rune) : Bool :=
  r == .char ';' || r == .char '#'

/-- The fields of a line; the runes of the field at hand stand in `field` in reverse. -/
def fieldsFrom : (field : List Rune) → List Rune → List (List Rune)
  | [], [] => []
  | field, [] => [field.reverse]
  | field, r :: rest =>
    if r.isSpace then
      match field with
      | [] => fieldsFrom [] rest
      | _ => field.reverse :: fieldsFrom [] rest
    else fieldsFrom (r :: field) rest

/-- The fields of a line in front of its comment. -/
def fields (bytes : List UInt8) : List (List Rune) :=
  fieldsFrom [] ((Rune.decode bytes).takeWhile fun r => !startsComment r)

end Source

namespace Assembly

/-- A field of a line. -/
abbrev Field := List Rune

/-- The characters of a field; a stray byte becomes a character that no word of the language has. -/
def Field.chars (f : Field) : List Char :=
  f.map Rune.toChar

/-- The characters of a field as a string. -/
def Field.name (f : Field) : String :=
  String.ofList f.chars

/-! ### Errors -/

/-- What is wrong with a line. -/
inductive Cause
  | badLabel (name : Field)
  | duplicateLabel (name : Field)
  | entryArity
  | unknownMnemonic (name : Field)
  | operandCount (op : Opcode) (got : Nat)
  | undefinedLabel (name : Field)
  | badOperand (text : Field)
  | program (e : Program.Error)
deriving DecidableEq, Repr

/-- The wording of a cause. -/
def Cause.message : Cause → String
  | badLabel f => "assembly syntax error: bad label " ++ Text.quoteRunes f
  | duplicateLabel f => "assembly syntax error: duplicate label " ++ Text.quoteRunes f
  | entryArity => "assembly syntax error: .entry takes one argument"
  | unknownMnemonic f => "unknown mnemonic: " ++ Text.quoteRunes f
  | operandCount op got =>
    "assembly syntax error: " ++ op.mnemonic ++ " takes " ++ toString op.operands ++
      " operands, got " ++ toString got
  | undefinedLabel f => "assembly syntax error: undefined label " ++ Text.quoteRunes f
  | badOperand f => "assembly syntax error: bad operand " ++ Text.quoteRunes f
  | program e => e.message

/-- Why a text has no program. -/
inductive Error
  | line (number : Nat) (cause : Cause)
  | lineTooLong
deriving DecidableEq, Repr

/-- The wording of an error. -/
def Error.message : Error → String
  | line n c => s!"line {n}: " ++ c.message
  | lineTooLong => "bufio.Scanner: token too long"

/-! ### The first reading -/

/-- A letter or sign that may begin a label. -/
def isLabelStart (c : Char) : Bool :=
  c == '_' || c == '.' || ('a' ≤ c && c ≤ 'z') || ('A' ≤ c && c ≤ 'Z')

/-- Labels begin with a letter, an underscore or a dot, and go on with these and digits. -/
def isLabel : List Char → Bool
  | [] => false
  | c :: rest => isLabelStart c && rest.all fun c => isLabelStart c || ('0' ≤ c && c ≤ '9')

/-- An instruction as written. -/
structure Statement where
  line : Nat
  op : Opcode
  operands : List Field
deriving DecidableEq, Repr

/-- What the first reading has collected. -/
structure Draft where
  /-- The position that each label stands for. -/
  labels : Std.HashMap String Nat := ∅
  statements : Array Statement := #[]
  /-- The position of the next instruction. -/
  position : Nat := 0
  /-- The entry as written, and its line. -/
  entry : Field := [.char '0']
  entryLine : Nat := 0

/-- The name of a label, when the field is one. -/
def labelName? (f : Field) : Option Field :=
  match f.reverse with
  | .char ':' :: rest => some rest.reverse
  | _ => none

/-- Whether a field is the entry directive; the case of letters does not matter. -/
def isEntryDirective (f : Field) : Bool :=
  f.chars.map Char.toLower == ".entry".toList

/-- Enters the labels in front of a line and returns the fields after them. -/
def readLabels (number : Nat) : Draft → List Field → Except Error (Draft × List Field)
  | d, [] => .ok (d, [])
  | d, f :: rest =>
    match labelName? f with
    | none => .ok (d, f :: rest)
    | some name =>
      if !isLabel (Field.chars name) then .error (.line number (.badLabel name))
      else if d.labels.contains (Field.name name) then .error (.line number (.duplicateLabel name))
      else readLabels number { d with labels := d.labels.insert (Field.name name) d.position } rest

/-- Enters what follows the labels of a line. -/
def readStatement (number : Nat) (d : Draft) : List Field → Except Error Draft
  | [] => .ok d
  | f :: rest =>
    if isEntryDirective f then
      match rest with
      | [e] => .ok { d with entry := e, entryLine := number }
      | _ => .error (.line number .entryArity)
    else
      match Opcode.ofMnemonic? f.chars with
      | none => .error (.line number (.unknownMnemonic f))
      | some op =>
        if rest.length = op.operands then
          .ok { d with
            statements := d.statements.push ⟨number, op, rest⟩
            position := d.position + op.size }
        else .error (.line number (.operandCount op rest.length))

/-- Enters one line. -/
def readLine (number : Nat) (d : Draft) : Source.Line → Except Error Draft
  | .tooLong => .error .lineTooLong
  | .text bytes => do
    let (d, fields) ← readLabels number d (Source.fields bytes)
    readStatement number d fields

/-- Enters lines, of which the first has the number after `number`. -/
def readLines : (number : Nat) → Draft → List Source.Line → Except Error Draft
  | _, d, [] => .ok d
  | n, d, l :: rest =>
    match readLine (n + 1) d l with
    | .error e => .error e
    | .ok d => readLines (n + 1) d rest

/-! ### The second reading -/

/-- The value of an operand. Literals come first; no label looks like one. -/
def resolve (labels : Std.HashMap String Nat) (f : Field) : Except Cause Word :=
  match Numeral.parseIn? Word.least Word.greatest f.chars with
  | some v => .ok (Int32.ofInt v)
  | none =>
    match labels[f.name]? with
    | some position => .ok (Int32.ofNat position)
    | none => .error (if isLabel f.chars then .undefinedLabel f else .badOperand f)

/-- Appends the words of an instruction. -/
def emitStatement (labels : Std.HashMap String Nat) (words : Array Word) (s : Statement) :
    Except Error (Array Word) :=
  s.operands.foldlM (fun ws f =>
    match resolve labels f with
    | .ok w => .ok (ws.push w)
    | .error c => .error (.line s.line c)) (words.push s.op.code)

/-- The words of the collected instructions. -/
def emit (d : Draft) : Except Error (Array Word) :=
  d.statements.foldlM (emitStatement d.labels) #[]

/-- The program of a draft and its entry. -/
def finish (d : Draft) : Except Error Executable := do
  let program : Program := ⟨← emit d⟩
  match resolve d.labels d.entry with
  | .error c => throw (.line d.entryLine c)
  | .ok e =>
    match program.checkEntry e.toInt with
    | .error c => throw (.line d.entryLine (.program c))
    | .ok () => return ⟨program, e.toInt.toNat⟩

end Assembly

/-- The program of a text and its entry. -/
def assemble (source : List UInt8) : Except Assembly.Error Executable := do
  Assembly.finish (← Assembly.readLines 0 {} (Source.lines source).toList)

end Lanewise
