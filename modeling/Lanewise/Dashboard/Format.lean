import Lanewise.Decimal.Fixed
import Lanewise.Duration
import Lanewise.Text.Rune
import Lanewise.Timestamp

/-!
# Figures on dashboard pages

## Main definitions

* `Dashboard.count`, `Dashboard.size`, `Dashboard.time`, `Dashboard.shortened`: how counts,
  sizes, points in time and identifiers are shown.
-/

namespace Lanewise.Dashboard

/-- A count in thousands, millions or billions with one place; a count below one thousand is shown
as it is. -/
def count (n : Int64) : String :=
  if n < 1000 then toString n.toInt
  else if n < 1000000 then Decimal.fixed 1 (n.toFloat / 1000) ++ "K"
  else if n < 1000000000 then Decimal.fixed 1 (n.toFloat / 1000000) ++ "M"
  else Decimal.fixed 1 (n.toFloat / 1000000000) ++ "B"

/-- A rate with two places. -/
def rate (x : Float) : String :=
  Decimal.fixed 2 x

/-- The letters of the units of size above the byte. -/
def unitLetters : List Char :=
  ['K', 'M', 'G', 'T', 'P', 'E']

/-- A size in the given units or the first larger one that leaves less than 1024. -/
def sizeIn (n : Int64) : (unit : Nat) → List Char → String
  | unit, [] => Decimal.fixed 1 (n.toFloat / Float.ofNat unit) ++ " B"
  | unit, [c] => Decimal.fixed 1 (n.toFloat / Float.ofNat unit) ++ " " ++ String.ofList [c, 'B']
  | unit, c :: rest =>
    if n.toInt / unit < 1024 then
      Decimal.fixed 1 (n.toFloat / Float.ofNat unit) ++ " " ++ String.ofList [c, 'B']
    else sizeIn n (unit * 1024) rest

/-- A size in bytes or in the largest unit that leaves at least one. -/
def size (n : Int64) : String :=
  if n < 1024 then toString n.toInt ++ " B" else sizeIn n 1024 unitLetters

/-- Date and time of day in universal time. -/
def time (t : Timestamp) : String :=
  if t.isZero then "N/A"
  else
    let c := t.utc.civil
    let two := Numeral.padded 2
    Timestamp.yearText c.year ++ "-" ++ two c.month ++ "-" ++ two c.day ++ " " ++ two c.hour ++
      ":" ++ two c.minute ++ ":" ++ two c.seconds ++ " UTC"

/-- How long a run took, to the microsecond. -/
def elapsed (d : Duration) : String :=
  (d.roundTo 1000).text

/-- The first and last `n` bytes of many, with points between them. -/
def shortenedBytes (bs : List UInt8) (n : Nat) : List UInt8 :=
  if bs.length ≤ n * 2 + 3 then bs else bs.take n ++ [46, 46, 46] ++ bs.drop (bs.length - n)

/-- The first and last `n` bytes of a long text. Cut characters are replaced. -/
def shortened (s : String) (n : Nat) : String :=
  Text.lossy (shortenedBytes s.toUTF8.toList n)

end Lanewise.Dashboard
