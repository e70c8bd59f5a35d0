import Lanewise.Text.Numeral

/-!
# Flags

A flag is a word that begins with one or two hyphens. Its value stands behind an equals sign or is
the next word; a switch has a value only behind an equals sign, and is on without one. Two hyphens
alone end the flags, and so does a word that is none.

## Main definitions

* `Cli.Flag`: the flags that a command knows.
* `Cli.Given`: the flags that have been given.
* `Cli.parseFlags`: divides words into flags and the rest.
-/

namespace Lanewise.Cli

/-- The types of values. -/
inductive FlagType
  | text
  | int
  | uint64
  | switch
deriving DecidableEq, Repr

/-- A flag that a command knows. -/
structure Flag where
  name : String
  type : FlagType
deriving DecidableEq, Repr

/-- The value of a flag that has been given. -/
inductive FlagValue
  | text (s : String)
  | int (n : Int)
  | uint64 (n : UInt64)
  | switch (b : Bool)
deriving DecidableEq, Repr

/-- Flags with their values, the last first. -/
abbrev Given := List (String × FlagValue)

/-- Why a command does not start. -/
inductive Stop
  /-- Somebody asked how it is used. -/
  | help
  /-- A flag is unknown, or its value is missing or of the wrong form. -/
  | misuse
deriving DecidableEq, Repr

/-- The truth values. -/
def switchValues : List (String × Bool) :=
  [("1", true), ("t", true), ("T", true), ("true", true), ("TRUE", true), ("True", true),
    ("0", false), ("f", false), ("F", false), ("false", false), ("FALSE", false), ("False", false)]

/-- The value that a text stands for. -/
def FlagType.read? (t : FlagType) (s : String) : Option FlagValue :=
  match t with
  | .text => some (.text s)
  | .int => (Numeral.parseIn? (-0x8000000000000000) 0x7fffffffffffffff s.toList).map .int
  | .uint64 =>
    ((Numeral.unsigned? s.toList).filter (· < 0x10000000000000000)).map fun n =>
      .uint64 (UInt64.ofNat n)
  | .switch => (switchValues.lookup s).map .switch

/-- The name and the value of a flag without its hyphens. -/
def splitValue (cs : List Char) : String × Option String :=
  match cs with
  | [] => ("", none)
  | c :: rest =>
    match rest.span (· != '=') with
    | (name, '=' :: value) => (String.ofList (c :: name), some (String.ofList value))
    | (name, _) => (String.ofList (c :: name), none)

/-- Reads a flag whose hyphens have been taken away. The answer has the words behind it. -/
def readFlag (known : List Flag) (cs : List Char) (rest : List String) :
    Except Stop ((String × FlagValue) × List String) :=
  if cs.head?.all fun c => c == '-' || c == '=' then .error .misuse
  else
    let (name, value) := splitValue cs
    match known.find? (·.name == name) with
    | none => .error (if name == "help" || name == "h" then .help else .misuse)
    | some f =>
      let (value, rest) := match value, f.type, rest with
        | some v, _, rest => (some v, rest)
        | none, .switch, rest => (some "true", rest)
        | none, _, v :: rest => (some v, rest)
        | none, _, [] => (none, [])
      match value.bind f.type.read? with
      | some v => .ok ((name, v), rest)
      | none => .error .misuse

/-- Divides words into flags and the rest. -/
def parseFlagsFrom (known : List Flag) :
    (fuel : Nat) → Given → List String → Except Stop (Given × List String)
  | 0, given, words => .ok (given, words)
  | _, given, [] => .ok (given, [])
  | fuel + 1, given, word :: rest =>
    match word.toList with
    | ['-', '-'] => .ok (given, rest)
    | '-' :: '-' :: cs => next fuel given cs rest
    | '-' :: c :: cs => next fuel given (c :: cs) rest
    | _ => .ok (given, word :: rest)
where
  /-- Goes on behind one flag. -/
  next (fuel : Nat) (given : Given) (cs : List Char) (rest : List String) :
      Except Stop (Given × List String) :=
    match readFlag known cs rest with
    | .ok (g, rest) => parseFlagsFrom known fuel (g :: given) rest
    | .error e => .error e

/-- Divides words into flags and the rest. -/
def parseFlags (known : List Flag) (words : List String) : Except Stop (Given × List String) :=
  parseFlagsFrom known words.length [] words

namespace Given

/-- The text that has been given for a flag. -/
def text (g : Given) (name default : String) : String :=
  match g.lookup name with
  | some (.text s) => s
  | _ => default

/-- The number that has been given for a flag. -/
def int (g : Given) (name : String) (default : Int) : Int :=
  match g.lookup name with
  | some (.int n) => n
  | _ => default

/-- The unsigned number that has been given for a flag. -/
def uint64 (g : Given) (name : String) (default : UInt64) : UInt64 :=
  match g.lookup name with
  | some (.uint64 n) => n
  | _ => default

/-- Whether a switch is on. -/
def switch (g : Given) (name : String) (default : Bool) : Bool :=
  match g.lookup name with
  | some (.switch b) => b
  | _ => default

end Given

end Lanewise.Cli
