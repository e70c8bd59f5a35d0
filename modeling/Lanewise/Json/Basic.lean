/-!
# JSON values

Numbers are kept as the literal that was read or is to be written, so nothing is lost before it is
known what a number is for. Objects keep the order of their members and all repetitions.

## Main definitions

* `Json`, `Json.get?`: values and their members.
* `Json.ofInt`, `Json.int?`: integers.
* `Json.render`: the text of a value.
-/

namespace Lanewise

/-- A JSON value. -/
inductive Json
  | null
  | bool (b : Bool)
  | number (literal : String)
  | string (s : String)
  | array (items : List Json)
  | object (members : List (String × Json))
deriving Repr, Inhabited

namespace Json

/-- An integer. -/
def ofInt (n : Int) : Json :=
  number (toString n)

/-- A natural number. -/
def ofNat (n : Nat) : Json :=
  number (toString n)

/-- The value of the last member with a given name. -/
def get? (j : Json) (name : String) : Option Json :=
  match j with
  | object ms => (ms.reverse.find? (·.1 == name)).map (·.2)
  | _ => none

/-- The integer that a literal without fraction and exponent stands for. -/
def int? : Json → Option Int
  | number s => s.toInt?
  | _ => none

/-- The text of a string value. -/
def string? : Json → Option String
  | string s => some s
  | _ => none

/-- The truth value. -/
def bool? : Json → Option Bool
  | bool b => some b
  | _ => none

/-- The items of an array. -/
def items? : Json → Option (List Json)
  | array xs => some xs
  | _ => none

/-- The members of an object. -/
def members? : Json → Option (List (String × Json))
  | object ms => some ms
  | _ => none

/-- An object without the members of a given name. -/
def erase (j : Json) (name : String) : Json :=
  match j with
  | object ms => object (ms.filter (·.1 != name))
  | j => j

/-- An object with further members at the end. -/
def extend (j : Json) (more : List (String × Json)) : Json :=
  match j with
  | object ms => object (ms ++ more)
  | j => j

/-! ### Text -/

/-- The digits of a code unit in an escape. -/
def unitDigits (n : Nat) : String :=
  let d (k : Nat) : Char := Char.ofNat (if k < 10 then 48 + k else 87 + k)
  String.ofList [d (n / 4096 % 16), d (n / 256 % 16), d (n / 16 % 16), d (n % 16)]

/-- Appends a character as it stands inside a string. -/
def pushEscaped (out : String) (c : Char) : String :=
  if c = '"' then out ++ "\\\""
  else if c = '\\' then out ++ "\\\\"
  else if c = '\n' then out ++ "\\n"
  else if c = '\r' then out ++ "\\r"
  else if c = '\t' then out ++ "\\t"
  else if c.toNat < 0x20 then out ++ "\\u" ++ unitDigits c.toNat
  else out.push c

/-- Appends a string value. -/
def pushString (out : String) (s : String) : String :=
  (s.foldl pushEscaped (out.push '"')).push '"'

/-- The opening brace of an object. -/
def leftBrace : Char := Char.ofNat 123

/-- The closing brace of an object. -/
def rightBrace : Char := Char.ofNat 125

mutual

/-- Appends the text of a value. -/
def push (out : String) : Json → String
  | null => out ++ "null"
  | bool b => out ++ (if b then "true" else "false")
  | number l => out ++ l
  | string s => pushString out s
  | array xs => (pushItems (out.push '[') true xs).push ']'
  | object ms => (pushMembers (out.push leftBrace) true ms).push rightBrace

/-- Appends items, with a comma in front of all but the first. -/
def pushItems (out : String) (first : Bool) : List Json → String
  | [] => out
  | x :: xs => pushItems (push (if first then out else out.push ',') x) false xs

/-- Appends members, with a comma in front of all but the first. -/
def pushMembers (out : String) (first : Bool) : List (String × Json) → String
  | [] => out
  | (k, v) :: ms =>
    pushMembers (push ((pushString (if first then out else out.push ',') k).push ':') v) false ms

end

/-- The text of a value. -/
def render (j : Json) : String :=
  push "" j

end Json

end Lanewise
