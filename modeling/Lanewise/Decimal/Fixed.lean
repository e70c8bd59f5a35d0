import Lanewise.Decimal.Shortest

/-!
# Fixed numbers of places

A finite binary fraction has an exact decimal expansion. It is cut to a fixed number of places; of
two equally near neighbours the one with an even last digit is taken.

## Main definitions

* `Decimal.roundDiv`: the nearest integer to a quotient.
* `Decimal.fixed`: a floating-point number with a fixed number of places.
-/

namespace Lanewise.Decimal

/-- The integer nearest to a quotient; a tie goes to the even neighbour. -/
def roundDiv (num den : Nat) : Nat :=
  let q := num / den
  let r := num % den
  if 2 * r < den then q
  else if den < 2 * r then q + 1
  else if q % 2 = 0 then q else q + 1

/-- The magnitude of a floating-point number as a ratio; none if it is not finite. -/
def ratio? (x : Float) : Option Ratio :=
  let bits := x.toBits.toNat
  let e : Nat := bits / 0x10000000000000 % 2048
  let f := bits % 0x10000000000000
  if e = 2047 then none
  else if e = 0 then some (Ratio.scaled f (-1074))
  else some (Ratio.scaled (0x10000000000000 + f) ((e : Int) - 1075))

/-- A number `n / 10 ^ places`, with all places. -/
def withPlaces (places n : Nat) : String :=
  let s := (toString n).toList
  let s := List.replicate (places + 1 - s.length) '0' ++ s
  if places = 0 then String.ofList s
  else String.ofList (s.take (s.length - places) ++ '.' :: s.drop (s.length - places))

/-- A floating-point number with a fixed number of places. -/
def fixed (places : Nat) (x : Float) : String :=
  let negative := x.toBits.toNat / 0x8000000000000000 = 1
  match ratio? x with
  | some r =>
    (if negative then "-" else "") ++ withPlaces places (roundDiv (r.num * Nat.pow 10 places) r.den)
  | none => if x.isNaN then "NaN" else if negative then "-Inf" else "+Inf"

end Lanewise.Decimal
