import Lanewise.Json.Basic

/-!
# Reading JSON

The reader takes exactly the grammar: no comments, no leading zeros, no trailing commas, nothing but
white space around the value. An escape that names half of a surrogate pair without its other half
reads as U+FFFD. Values nested too deeply are refused.

## Main definitions

* `Json.parse?`: the value of a text.
-/

namespace Lanewise.Json

/-- The greatest depth of nesting. -/
def maxDepth : Nat := 10000

/-- White space between the parts of a value. -/
def isBlank (c : Char) : Bool :=
  c == ' ' || c == '\t' || c == '\n' || c == '\r'

/-- The text after white space. -/
def skipBlanks (cs : List Char) : List Char :=
  cs.dropWhile isBlank

/-- The text after a word, if it begins with it. -/
def afterWord? : (word : List Char) → List Char → Option (List Char)
  | [], cs => some cs
  | w :: ws, c :: cs => if w = c then afterWord? ws cs else none
  | _ :: _, [] => none

/-! ### Numbers -/

/-- A run of decimal digits and what follows it. -/
def spanDigits (cs : List Char) : List Char × List Char :=
  cs.span Char.isDigit

/-- The whole part of a number: zero, or digits that do not begin with zero. -/
def wholePart? (cs : List Char) : Option (List Char × List Char) :=
  match spanDigits cs with
  | ([], _) => none
  | ('0' :: more, rest) => some (['0'], more ++ rest)
  | r => some r

/-- The fraction of a number, if there is one. -/
def fractionPart? : List Char → Option (List Char × List Char)
  | '.' :: cs =>
    match spanDigits cs with
    | ([], _) => none
    | (ds, rest) => some ('.' :: ds, rest)
  | cs => some ([], cs)

/-- The digits of an exponent behind what stands in front of them. -/
def exponentDigits? (front cs : List Char) : Option (List Char × List Char) :=
  match spanDigits cs with
  | ([], _) => none
  | (ds, rest) => some (front ++ ds, rest)

/-- The exponent of a number, if there is one. -/
def exponentPart? : List Char → Option (List Char × List Char)
  | c :: cs =>
    if c = 'e' ∨ c = 'E' then
      match cs with
      | '+' :: cs => exponentDigits? [c, '+'] cs
      | '-' :: cs => exponentDigits? [c, '-'] cs
      | cs => exponentDigits? [c] cs
    else some ([], c :: cs)
  | [] => some ([], [])

/-- A number without sign, and what follows it. -/
def unsigned? (cs : List Char) : Option (List Char × List Char) := do
  let (w, cs) ← wholePart? cs
  let (f, cs) ← fractionPart? cs
  let (e, cs) ← exponentPart? cs
  return (w ++ f ++ e, cs)

/-- A number, and what follows it. -/
def number? : List Char → Option (Json × List Char)
  | '-' :: cs => (unsigned? cs).map fun (l, rest) => (number (String.ofList ('-' :: l)), rest)
  | cs => (unsigned? cs).map fun (l, rest) => (number (String.ofList l), rest)

/-! ### Strings -/

/-- The value of four hexadecimal digits. -/
def unit? : List Char → Option (Nat × List Char)
  | a :: b :: c :: d :: rest => do
    let digit (c : Char) : Option Nat :=
      if '0' ≤ c ∧ c ≤ '9' then some (c.toNat - 48)
      else if 'a' ≤ c ∧ c ≤ 'f' then some (c.toNat - 87)
      else if 'A' ≤ c ∧ c ≤ 'F' then some (c.toNat - 55)
      else none
    let n := ((← digit a) * 16 + (← digit b)) * 256 + (← digit c) * 16 + (← digit d)
    return (n, rest)
  | _ => none

/-- The character that a letter stands for after a backslash. -/
def escaped? (c : Char) : Option Char :=
  match c with
  | '"' => some '"'
  | '\\' => some '\\'
  | '/' => some '/'
  | 'b' => some (Char.ofNat 8)
  | 'f' => some (Char.ofNat 12)
  | 'n' => some '\n'
  | 'r' => some '\r'
  | 't' => some '\t'
  | _ => none

/-- The character of a code unit, together with the other half of its pair if it is a half and the
other half follows. -/
def unitChar (n : Nat) (rest : List Char) : Char × List Char :=
  if 0xD800 ≤ n ∧ n < 0xE000 then
    match rest with
    | '\\' :: 'u' :: more =>
      match unit? more with
      | some (m, after) =>
        if n < 0xDC00 ∧ 0xDC00 ≤ m ∧ m < 0xE000 then
          (Char.ofNat (0x10000 + (n - 0xD800) * 1024 + (m - 0xDC00)), after)
        else (Char.ofNat 0xFFFD, rest)
      | none => (Char.ofNat 0xFFFD, rest)
    | _ => (Char.ofNat 0xFFFD, rest)
  else (Char.ofNat n, rest)

/-- The rest of a string up to its closing mark, and what follows it. The fuel bounds the number of
characters. -/
def stringRest? : (fuel : Nat) → (out : String) → List Char → Option (String × List Char)
  | 0, _, _ => none
  | _ + 1, _, [] => none
  | fuel + 1, out, c :: cs =>
    if c = '"' then some (out, cs)
    else if c.toNat < 0x20 then none
    else if c = '\\' then
      match cs with
      | 'u' :: more =>
        match unit? more with
        | some (n, rest) =>
          let (c, rest) := unitChar n rest
          stringRest? fuel (out.push c) rest
        | none => none
      | e :: more =>
        match escaped? e with
        | some c => stringRest? fuel (out.push c) more
        | none => none
      | [] => none
    else stringRest? fuel (out.push c) cs

/-! ### Values -/

mutual

/-- A value, and what follows it. The fuel bounds the number of values and characters. -/
def value? : (fuel depth : Nat) → List Char → Option (Json × List Char)
  | 0, _, _ => none
  | fuel + 1, depth, cs =>
    match skipBlanks cs with
    | '"' :: rest => (stringRest? fuel "" rest).map fun (s, rest) => (string s, rest)
    | 'n' :: rest => (afterWord? "ull".toList rest).map fun rest => (null, rest)
    | 't' :: rest => (afterWord? "rue".toList rest).map fun rest => (bool true, rest)
    | 'f' :: rest => (afterWord? "alse".toList rest).map fun rest => (bool false, rest)
    | '[' :: rest =>
      if depth = 0 then none
      else match skipBlanks rest with
        | ']' :: rest => some (array [], rest)
        | rest => arrayRest? fuel (depth - 1) [] rest
    | c :: rest =>
      if c = leftBrace then
        if depth = 0 then none
        else match skipBlanks rest with
          | d :: rest' =>
            if d = rightBrace then some (object [], rest')
            else objectRest? fuel (depth - 1) [] (d :: rest')
          | [] => none
      else number? (c :: rest)
    | [] => none

/-- The items of an array after those already read, and what follows it. -/
def arrayRest? : (fuel depth : Nat) → List Json → List Char → Option (Json × List Char)
  | 0, _, _, _ => none
  | fuel + 1, depth, done, cs =>
    match value? fuel depth cs with
    | none => none
    | some (v, cs) =>
      match skipBlanks cs with
      | ',' :: rest => arrayRest? fuel depth (v :: done) rest
      | ']' :: rest => some (array (v :: done).reverse, rest)
      | _ => none

/-- The members of an object after those already read, and what follows it. -/
def objectRest? : (fuel depth : Nat) → List (String × Json) → List Char → Option (Json × List Char)
  | 0, _, _, _ => none
  | fuel + 1, depth, done, cs =>
    match skipBlanks cs with
    | '"' :: rest =>
      match stringRest? fuel "" rest with
      | none => none
      | some (k, cs) =>
        match skipBlanks cs with
        | ':' :: rest =>
          match value? fuel depth rest with
          | none => none
          | some (v, cs) =>
            match skipBlanks cs with
            | ',' :: rest => objectRest? fuel depth ((k, v) :: done) rest
            | c :: rest =>
              if c = rightBrace then some (object ((k, v) :: done).reverse, rest) else none
            | [] => none
        | _ => none
    | _ => none

end

/-- The value of a text. -/
def parse? (s : String) : Option Json :=
  let cs := s.toList
  match value? (2 * cs.length + 2) maxDepth cs with
  | some (v, rest) => if (skipBlanks rest).isEmpty then some v else none
  | none => none

end Lanewise.Json
