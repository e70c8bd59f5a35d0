/-!
# The fewest digits that read back

A finite binary fraction `m * 2 ^ q` stands for all reals that round to it. Its shortest decimal is
the decimal with the fewest digits among those reals, and the nearest to the fraction among these.
For each number of digits only the two neighbours of the fraction on that decimal grid have to be
tried, in exact arithmetic.

## Main definitions

* `Decimal`: digits and a power of ten.
* `Decimal.shortest`: the shortest decimal of a binary fraction.
* `Decimal.ofFloat`: the shortest decimal of a finite floating-point number.
-/

namespace Lanewise

/-- The number `digits * 10 ^ exponent`. -/
structure Decimal where
  digits : Nat
  exponent : Int
deriving DecidableEq, Repr, Inhabited

namespace Decimal

/-- A positive rational number. -/
structure Ratio where
  num : Nat
  den : Nat

/-- The number `n * 2 ^ q`. -/
def Ratio.scaled (n : Nat) (q : Int) : Ratio :=
  if 0 ≤ q then ⟨n <<< q.toNat, 1⟩ else ⟨n, 1 <<< (-q).toNat⟩

/-- The number divided by `10 ^ k`. -/
def Ratio.shifted (r : Ratio) (k : Int) : Ratio :=
  if 0 ≤ k then ⟨r.num, r.den * Nat.pow 10 k.toNat⟩ else ⟨r.num * Nat.pow 10 (-k).toNat, r.den⟩

/-- The whole part. -/
def Ratio.floor (r : Ratio) : Nat :=
  r.num / r.den

/-- Compares a natural number with a ratio. -/
def Ratio.lt (r s : Ratio) : Bool :=
  r.num * s.den < s.num * r.den

/-- The power of ten of the leading digit of a ratio below one: the number of times it has to be
multiplied by ten to reach one, negated. -/
def leadingBelowOne (r : Ratio) : (fuel : Nat) → (times : Nat) → Int
  | 0, times => -(times : Int)
  | fuel + 1, times =>
    if r.den ≤ r.num * Nat.pow 10 times then -(times : Int) else leadingBelowOne r fuel (times + 1)

/-- The power of ten of the leading digit. -/
def leading (r : Ratio) : Int :=
  if r.floor = 0 then leadingBelowOne r 400 1 else ((toString r.floor).length : Int) - 1

/-- The rounding interval of a binary fraction: its ends, and whether they belong to it. -/
structure Interval where
  low : Ratio
  high : Ratio
  closed : Bool

/-- Whether a decimal lies in an interval. -/
def Interval.contains (i : Interval) (d : Decimal) : Bool :=
  let r : Ratio := Ratio.shifted ⟨d.digits, 1⟩ (-d.exponent)
  if i.closed then !r.lt i.low && !i.high.lt r else i.low.lt r && r.lt i.high

/-- The neighbour of `v` with at most `n` digits that lies in the interval, the nearer of two. -/
def candidate? (v : Ratio) (i : Interval) (n : Nat) : Option Decimal :=
  let k : Int := leading v + 1 - n
  let s := v.shifted k
  let below : Decimal := ⟨s.floor, k⟩
  let above : Decimal := ⟨s.floor + 1, k⟩
  match i.contains below, i.contains above with
  | true, true => if 2 * (s.num % s.den) ≤ s.den then some below else some above
  | true, false => some below
  | false, true => some above
  | false, false => none

/-- The first candidate with `n` digits or more. -/
def search (v : Ratio) (i : Interval) : (fuel : Nat) → (n : Nat) → Decimal
  | 0, n => ⟨(v.shifted (leading v + 1 - n)).floor, leading v + 1 - n⟩
  | fuel + 1, n =>
    match candidate? v i n with
    | some d => d
    | none => search v i fuel (n + 1)

/-- Drops zeros at the end of the digits. -/
def trim (d : Decimal) : (fuel : Nat) → Decimal
  | 0 => d
  | fuel + 1 =>
    if d.digits ≠ 0 ∧ d.digits % 10 = 0 then trim ⟨d.digits / 10, d.exponent + 1⟩ fuel else d

/-- The shortest decimal of `m * 2 ^ q` for positive `m`. The gap below a power of two is half as
wide as the gap above, except at the least exponent. -/
def shortest (m : Nat) (q : Int) (narrow : Bool) : Decimal :=
  let v := Ratio.scaled (4 * m) (q - 2)
  let low := Ratio.scaled (if narrow then 4 * m - 1 else 4 * m - 2) (q - 2)
  let high := Ratio.scaled (4 * m + 2) (q - 2)
  trim (search v ⟨low, high, m % 2 == 0⟩ 17 1) 20

/-- The shortest decimal of the magnitude of a finite number. -/
def ofFloat (x : Float) : Decimal :=
  let bits := x.toBits.toNat
  let e : Nat := bits / 0x10000000000000 % 2048
  let f := bits % 0x10000000000000
  if e = 0 ∧ f = 0 then ⟨0, 0⟩
  else if e = 0 then shortest f (-1074) false
  else shortest (0x10000000000000 + f) ((e : Int) - 1075) (f == 0 && decide (1 < e))

/-! ### Layout -/

/-- The exponents for which a layout leaves positional notation, and how it writes exponents. -/
structure Layout where
  /-- The leading power of ten below which the exponent is written. -/
  least : Int
  /-- The leading power of ten from which on the exponent is written. -/
  greatest : Int
  /-- The least number of digits of a written exponent. -/
  width : Nat

/-- The leading power of ten. -/
def magnitude (d : Decimal) : Int :=
  d.exponent + (toString d.digits).length - 1

/-- Positional notation. -/
def positional (d : Decimal) : String :=
  let s := (toString d.digits).toList
  if 0 ≤ d.exponent then String.ofList (s ++ List.replicate d.exponent.toNat '0')
  else
    let places := (-d.exponent).toNat
    if places < s.length then
      String.ofList (s.take (s.length - places) ++ '.' :: s.drop (s.length - places))
    else String.ofList ('0' :: '.' :: List.replicate (places - s.length) '0' ++ s)

/-- Notation with an exponent: one digit in front of the point. -/
def scientific (width : Nat) (d : Decimal) : String :=
  let s := (toString d.digits).toList
  let head := match s with
    | [] => []
    | [c] => [c]
    | c :: rest => c :: '.' :: rest
  let e := d.magnitude
  let sign := if e < 0 then '-' else '+'
  let es := (toString e.natAbs).toList
  String.ofList (head ++ 'e' :: sign :: (List.replicate (width - es.length) '0' ++ es))

/-- The text of a decimal under a layout. Zero is written positionally. -/
def Layout.text (l : Layout) (d : Decimal) : String :=
  if d.digits ≠ 0 ∧ (d.magnitude < l.least ∨ l.greatest ≤ d.magnitude) then d.scientific l.width
  else d.positional

/-- The text of a finite floating-point number under a layout. -/
def Layout.float (l : Layout) (x : Float) : String :=
  let sign := if x.toBits.toNat / 0x8000000000000000 = 1 then "-" else ""
  sign ++ l.text (ofFloat x)

end Decimal

end Lanewise
