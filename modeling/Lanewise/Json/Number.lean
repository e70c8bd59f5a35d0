import Lanewise.Decimal.Shortest
import Lanewise.Json.Basic
import Lanewise.Text.Numeral

/-!
# Numbers in JSON

A number whose meaning is left open is read as a floating-point number and written with the fewest
digits that read back. A number beyond the floating-point range cannot be read.

## Main definitions

* `Json.float?`: the value of a literal.
* `Json.normalized?`: a value with all its numbers rewritten.
-/

namespace Lanewise.Json

/-- The mantissa and the power of ten of a literal. -/
def scientific (literal : String) : Bool × Nat × Int :=
  let cs := literal.toList
  let negative := cs.head? == some '-'
  let cs := if negative then cs.drop 1 else cs
  let front := cs.takeWhile fun c => c != 'e' && c != 'E'
  let exponent := (Numeral.decimal? (cs.drop (front.length + 1))).getD 0
  let whole := front.takeWhile (· != '.')
  let fraction := front.drop (whole.length + 1)
  let mantissa := (Numeral.decimalDigits? (whole ++ fraction)).getD 0
  (negative, mantissa, exponent - fraction.length)

/-- The value of a literal; none if it is too large. -/
def float? (literal : String) : Option Float :=
  let (negative, mantissa, exponent) := scientific literal
  let size : Int := (toString mantissa).length + exponent
  let x :=
    if mantissa = 0 ∨ size < -400 then 0.0
    else if 400 < size then 1.0 / 0.0
    else Float.ofScientific mantissa (exponent < 0) exponent.natAbs
  if x.isFinite then some (if negative then -x else x) else none

/-- How floating-point numbers are written: with an exponent below `10 ^ -6` and from `10 ^ 21`
on. -/
def layout : Decimal.Layout := ⟨-6, 21, 1⟩

/-- The number with a given value. -/
def ofFloat (x : Float) : Json :=
  number (layout.float x)

mutual

/-- A value whose numbers are written as floating-point numbers; none if one is too large. -/
def normalized? : Json → Option Json
  | number l => (float? l).map ofFloat
  | array xs => (normalizedItems? xs).map array
  | object ms => (normalizedMembers? ms).map object
  | j => some j

/-- The items of an array, each rewritten. -/
def normalizedItems? : List Json → Option (List Json)
  | [] => some []
  | x :: xs =>
    match normalized? x, normalizedItems? xs with
    | some y, some ys => some (y :: ys)
    | _, _ => none

/-- The members of an object, each rewritten. Of several members with one name the last is kept. -/
def normalizedMembers? : List (String × Json) → Option (List (String × Json))
  | [] => some []
  | (name, x) :: ms =>
    match normalized? x, normalizedMembers? ms with
    | some y, some ys => some (if ys.any (·.1 == name) then ys else (name, y) :: ys)
    | _, _ => none

end

end Lanewise.Json
