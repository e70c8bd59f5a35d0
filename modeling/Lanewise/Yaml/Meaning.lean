import Lanewise.Json.Number
import Lanewise.Text.Base64
import Lanewise.Text.Rune
import Lanewise.Yaml.Node

/-!
# What scalars mean

A bare text may be a number, a truth value or nothing at all; a quoted text is a text. A tag may say
what a scalar has to be.

## Main definitions

* `Yaml.Meaning`: what a scalar may mean.
* `Yaml.meaning?`: what a scalar means; none if it is not what its tag says.
* `Yaml.Meaning.int64?`, `Yaml.Meaning.uint64?`, `Yaml.Meaning.bool?`: a meaning as a value of a
  type.
-/

namespace Lanewise.Yaml

/-- What a scalar may mean. -/
inductive Meaning
  | nothing
  | bool (b : Bool)
  | int (n : Int)
  | float (x : Float)
  | text (s : String)
deriving Inhabited

/-- The tag of a meaning. -/
def Meaning.tag : Meaning → String
  | nothing => "!!null"
  | bool _ => "!!bool"
  | int _ => "!!int"
  | float _ => "!!float"
  | text _ => "!!str"

/-- The words with a fixed meaning. -/
def words : List (String × Meaning) :=
  [("", .nothing), ("~", .nothing), ("null", .nothing), ("Null", .nothing), ("NULL", .nothing),
    ("true", .bool true), ("True", .bool true), ("TRUE", .bool true),
    ("false", .bool false), ("False", .bool false), ("FALSE", .bool false),
    (".nan", .float (0.0 / 0.0)), (".NaN", .float (0.0 / 0.0)), (".NAN", .float (0.0 / 0.0)),
    (".inf", .float (1.0 / 0.0)), (".Inf", .float (1.0 / 0.0)), (".INF", .float (1.0 / 0.0)),
    ("+.inf", .float (1.0 / 0.0)), ("+.Inf", .float (1.0 / 0.0)), ("+.INF", .float (1.0 / 0.0)),
    ("-.inf", .float (-1.0 / 0.0)), ("-.Inf", .float (-1.0 / 0.0)), ("-.INF", .float (-1.0 / 0.0))]

/-- The value of a decimal number with a fraction or an exponent, or of one too large for an
integer. -/
def float? (cs : List Char) : Option Float :=
  let unsigned := if cs.head? == some '-' || cs.head? == some '+' then cs.drop 1 else cs
  let (whole, rest) := unsigned.span Char.isDigit
  let (fraction, tail) := match rest with
    | '.' :: ds => ds.span Char.isDigit
    | ds => ([], ds)
  let exponent := match tail with
    | [] => true
    | e :: ds =>
      let ds := if ds.head? == some '-' || ds.head? == some '+' then ds.drop 1 else ds
      (e == 'e' || e == 'E') && !ds.isEmpty && ds.all Char.isDigit
  if (whole ++ fraction).isEmpty || !exponent then none
  else Json.float? (String.ofList (if cs.head? == some '+' then unsigned else cs))

/-- The value of a number. Underscores are passed over; a zero in front makes a number octal. -/
def number? (cs : List Char) : Option Meaning :=
  let plain := cs.filter (· != '_')
  match Numeral.parseIn? (-0x8000000000000000) 0x7fffffffffffffff plain with
  | some n => some (.int n)
  | none =>
    match (Numeral.unsigned? plain).filter (· < 0x10000000000000000) with
    | some n => some (.int n)
    | none => (float? plain).map .float

/-- What a bare text means. -/
def bareMeaning (text : String) : Meaning :=
  match words.lookup text with
  | some m => m
  | none =>
    match text.toList with
    | c :: cs =>
      if c == '.' then ((float? (c :: cs)).map .float).getD (.text text)
      else if c.isDigit || c == '-' || c == '+' then (number? (c :: cs)).getD (.text text)
      else .text text
    | [] => .nothing

/-- What a scalar means. -/
def meaning? (text : String) (bare : Bool) (tag : String) : Option Meaning :=
  if tag == "!!str" || (!bare && (tag == "" || tag == "!")) then some (.text text)
  else if tag == "!!binary" then (Base64.decode? text).map fun b => .text (Text.lossy b.toList)
  else
    let m := bareMeaning text
    if tag == "" || tag == "!" || tag == m.tag then some m
    else match m with
      | .int n => if tag == "!!float" then some (.float (Float.ofInt n)) else none
      | _ => none

namespace Meaning

/-- Cuts the fraction of a number off. The result has 64 bits; what does not fit becomes the least
number. -/
def truncated (x : Float) : Int :=
  if x < -9223372036854775808.0 || 9223372036854775808.0 ≤ x || x.isNaN then -0x8000000000000000
  else x.toInt64.toInt

/-- A meaning as a signed number of 64 bits. -/
def int64? : Meaning → Option Int
  | int n => if n < 0x8000000000000000 then some n else none
  | float x => if x ≤ 9223372036854775808.0 then some (truncated x) else none
  | _ => none

/-- A meaning as an unsigned number of 64 bits. Numbers with a fraction wrap around. -/
def uint64? : Meaning → Option UInt64
  | int n => if 0 ≤ n then some (UInt64.ofNat n.toNat) else none
  | float x =>
    if x < 9223372036854775808.0 then some (truncated x).toInt64.toUInt64
    else if x ≤ 18446744073709551616.0 then
      some ((truncated (x - 9223372036854775808.0)).toInt64.toUInt64 ^^^ 0x8000000000000000)
    else none
  | _ => none

/-- A meaning as a truth value; some words mean one only where one is asked for. -/
def bool? : Meaning → Option Bool
  | bool b => some b
  | text s =>
    if ["y", "Y", "yes", "on"].contains s then some true
    else if ["n", "N", "no", "off"].contains s then some false
    else none
  | _ => none

end Meaning

end Lanewise.Yaml
