import Lanewise.Text.Numeral

/-!
# Lengths of time

A length of time is a signed number of nanoseconds in 64 bits.

## Main definitions

* `Duration.text`: hours, minutes and seconds, or a smaller unit below one second.
* `Duration.coarse`: the two largest units.
* `Duration.roundTo`: the nearest multiple of a unit.
-/

namespace Lanewise

/-- A number of nanoseconds. -/
abbrev Duration := Int64

namespace Duration

/-- Nanoseconds in a second. -/
def second : Nat := 1000000000

/-- The length with a given number of nanoseconds, wrapping around. -/
def ofNanos (n : Int) : Duration :=
  Int64.ofInt n

/-- A number in units of `10 ^ places`, without zeros at the end. -/
def decimal (places n : Nat) : String :=
  let fraction :=
    (Numeral.padded places (n % Nat.pow 10 places)).toList.reverse.dropWhile (· == '0')
  toString (n / Nat.pow 10 places) ++
    (if fraction.isEmpty ∨ places = 0 then "" else String.ofList ('.' :: fraction.reverse))

/-- The text of a number of nanoseconds. -/
def magnitudeText (n : Nat) : String :=
  if n = 0 then "0s"
  else if n < 1000 then decimal 0 n ++ "ns"
  else if n < 1000000 then decimal 3 n ++ "µs"
  else if n < second then decimal 6 n ++ "ms"
  else
    let minutes := n / second / 60
    let seconds := decimal 9 (n - minutes * 60 * second) ++ "s"
    if minutes = 0 then seconds
    else if minutes < 60 then toString minutes ++ "m" ++ seconds
    else toString (minutes / 60) ++ "h" ++ toString (minutes % 60) ++ "m" ++ seconds

/-- The text of a length of time. -/
def text (d : Duration) : String :=
  (if d < 0 then "-" else "") ++ magnitudeText d.toInt.natAbs

/-- The nearest multiple of a unit; halves go away from zero, and a multiple that does not fit is
replaced by the nearest length that does. -/
def roundTo (unit : Nat) (d : Duration) : Duration :=
  let n := d.toInt.natAbs
  let r : Int := if 2 * (n % unit) < unit then n - n % unit else n - n % unit + unit
  let r := if d < 0 then -r else r
  .ofNanos (max Int64.minValue.toInt (min Int64.maxValue.toInt r))

/-- A length as a floating-point number of units: the whole units, and the rest divided by the
unit. -/
def inUnits (unit : Int) (d : Duration) : Float :=
  (Int64.ofInt (d.toInt.tdiv unit)).toFloat +
    (Int64.ofInt (d.toInt.tmod unit)).toFloat / Float.ofInt unit

/-- The whole units in a floating-point number of units. -/
def whole (x : Float) : Int :=
  x.toInt64.toInt

/-- The two largest units of a length of time: seconds, minutes, hours or days. -/
def coarse (d : Duration) : String :=
  let seconds := whole (d.inUnits second)
  let minutes := whole (d.inUnits (60 * second))
  let hours := d.inUnits (3600 * second)
  if d.toInt < 60 * second then s!"{seconds}s"
  else if d.toInt < 3600 * second then s!"{minutes}m {seconds.tmod 60}s"
  else if d.toInt < 24 * 3600 * second then s!"{whole hours}h {minutes.tmod 60}m"
  else s!"{whole (hours / 24)}d " ++ toString ((whole hours).tmod 24) ++ "h"

end Duration

end Lanewise
