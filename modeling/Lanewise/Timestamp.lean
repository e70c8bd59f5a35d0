import Lanewise.Text.Numeral
import Lanewise.Text.Quoted

/-!
# Points in time

A point in time is a number of nanoseconds since the start of 1970, together with the offset of the
clock that shows it, which is less than a day. Dates follow the Gregorian calendar without end in
both directions.

## Main definitions

* `Timestamp`, `Timestamp.text`, `Timestamp.parse`: points in time and their text.
* `Timestamp.Shown`: the points in time that their text tells.
* `Timestamp.Error`: why a text is not a point in time.
* `Timestamp.Civil`: the parts of a date and a time of day.
-/

namespace Lanewise

/-- A point in time as shown by a clock with an offset in seconds. -/
structure Timestamp where
  nanos : Int
  offset : Int := 0
  offset_lt : offset.natAbs < 86400 := by decide
deriving DecidableEq, Repr

namespace Timestamp

/-- Nanoseconds in a second. -/
def second : Int := 1000000000

/-- The start of the year one, which stands for "no time". -/
def zero : Timestamp := { nanos := -62135596800 * second }

instance : Inhabited Timestamp := ⟨zero⟩

/-- Whether a point in time stands for "no time". -/
def isZero (t : Timestamp) : Bool :=
  t.nanos == zero.nanos

/-- A number of nanoseconds since the start of 1970. -/
def ofNanos (n : Int) : Timestamp where
  nanos := n

/-- A number of whole seconds since the start of 1970. -/
def ofSeconds (n : Int) : Timestamp :=
  .ofNanos (n * second)

/-- The same point in time as shown by a clock without offset. -/
def utc (t : Timestamp) : Timestamp :=
  { nanos := t.nanos }

/-! ### Calendar -/

/-- The parts of a date and a time of day. -/
structure Civil where
  year : Int
  month : Nat
  day : Nat
  hour : Nat
  minute : Nat
  seconds : Nat
  nanos : Nat
deriving DecidableEq, Repr, Inhabited

/-- The number of days from the start of 1970 to a date. Years are counted from March on, so that
the leap day is the last of its year. -/
def daysOf (year : Int) (month day : Nat) : Int :=
  let y := if month ≤ 2 then year - 1 else year
  let m : Int := if month ≤ 2 then month + 9 else month - 3
  let era := y.fdiv 400
  let yoe := y - era * 400
  let doy := (153 * m + 2) / 5 + day - 1
  era * 146097 + (yoe * 365 + yoe / 4 - yoe / 100 + doy) - 719468

/-- The date that lies a number of days after the start of 1970. -/
def dateOf (days : Int) : Int × Nat × Nat :=
  let z := days + 719468
  let era := z.fdiv 146097
  let doe := z - era * 146097
  let yoe := (doe - doe / 1460 + doe / 36524 - doe / 146096) / 365
  let doy := doe - (365 * yoe + yoe / 4 - yoe / 100)
  let mp := (5 * doy + 2) / 153
  let day := doy - (153 * mp + 2) / 5 + 1
  let month := if mp < 10 then mp + 3 else mp - 9
  let year := yoe + era * 400 + if month ≤ 2 then 1 else 0
  (year, month.toNat, day.toNat)

/-- What a clock shows at a point in time. -/
def civil (t : Timestamp) : Civil :=
  let local_ := t.nanos + t.offset * second
  let secs := local_.fdiv second
  let days := secs.fdiv 86400
  let rest := (secs - days * 86400).toNat
  let (year, month, day) := dateOf days
  { year, month, day, hour := rest / 3600, minute := rest / 60 % 60, seconds := rest % 60
    nanos := (local_ - secs * second).toNat }

/-- The point in time at which a clock with the given offset shows the parts. -/
def ofCivil (c : Civil) (offset : Int) (h : offset.natAbs < 86400) : Timestamp :=
  let secs := daysOf c.year c.month c.day * 86400 + c.hour * 3600 + c.minute * 60 + c.seconds
  ⟨(secs - offset) * second + c.nanos, offset, h⟩

/-! ### Text -/

/-- The fraction of a second without the zeros at its end, behind a point; nothing if it is zero. -/
def fractionText (nanos : Nat) : String :=
  if nanos = 0 then ""
  else
    let ds := (Numeral.padded 9 nanos).toList.reverse.dropWhile (· == '0')
    String.ofList ('.' :: ds.reverse)

/-- The year in four digits. -/
def yearText (y : Int) : String :=
  if y < 0 then "-" ++ Numeral.padded 4 y.natAbs else Numeral.padded 4 y.toNat

/-- The offset of a clock in whole minutes. -/
def offsetText (offset : Int) : String :=
  if offset = 0 then "Z"
  else
    let m := offset.natAbs / 60
    (if offset ≤ -60 then "-" else "+") ++ Numeral.padded 2 (m / 60) ++ ":" ++
      Numeral.padded 2 (m % 60)

/-- Date, time of day to the nanosecond, and offset. -/
def text (t : Timestamp) : String :=
  let c := t.civil
  yearText c.year ++ "-" ++ Numeral.padded 2 c.month ++ "-" ++ Numeral.padded 2 c.day ++ "T" ++
    Numeral.padded 2 c.hour ++ ":" ++ Numeral.padded 2 c.minute ++ ":" ++
    Numeral.padded 2 c.seconds ++ fractionText c.nanos ++ offsetText t.offset

/-- The number of days of a month. -/
def daysIn (year : Int) (month : Nat) : Nat :=
  match month with
  | 2 => if year % 4 = 0 ∧ (year % 100 ≠ 0 ∨ year % 400 = 0) then 29 else 28
  | 4 | 6 | 9 | 11 => 30
  | _ => 31

/-- A point in time whose text tells it: the year has four digits, and the offset is a number of
whole minutes. What stands for "no time" has no offset. -/
structure Shown (t : Timestamp) : Prop where
  year_nonneg : 0 ≤ t.civil.year
  year_le : t.civil.year ≤ 9999
  whole_minutes : 60 ∣ t.offset
  eq_zero : t.isZero = true → t = zero

instance (t : Timestamp) : Decidable t.Shown :=
  decidable_of_iff (0 ≤ t.civil.year ∧ t.civil.year ≤ 9999 ∧ 60 ∣ t.offset ∧
      (t.isZero = true → t = zero))
    ⟨fun ⟨h₁, h₂, h₃, h₄⟩ => ⟨h₁, h₂, h₃, h₄⟩, fun ⟨h₁, h₂, h₃, h₄⟩ => ⟨h₁, h₂, h₃, h₄⟩⟩

theorem zero_shown : zero.Shown := by decide +kernel

/-! ### Reading -/

/-- Why a text is not a point in time. -/
inductive Error
  /-- The text goes on differently where a part of the layout should stand. -/
  | expected (part rest : String)
  | outOfRange (part : String)
  /-- Something follows the offset. -/
  | extra (rest : String)
deriving DecidableEq, Repr

/-- One byte of a text between quotation marks. -/
def quoteByte (b : UInt8) : List Char :=
  if b < 32 ∨ 128 ≤ b then '\\' :: 'x' :: Text.hexDigits 2 b.toNat
  else
    let c := Char.ofUInt8 b
    if c = '"' ∨ c = '\\' then ['\\', c] else [c]

/-- A text between quotation marks, with its bytes by their values unless they are printable
ASCII. -/
def quote (s : String) : String :=
  String.ofList ('"' :: s.toUTF8.toList.flatMap quoteByte ++ ['"'])

/-- The layout of the text of a point in time. -/
def layout : String := "2006-01-02T15:04:05Z07:00"

/-- The wording of an error about a text. -/
def Error.message (s : String) : Error → String
  | expected part rest =>
    "parsing time " ++ quote s ++ " as " ++ quote layout ++ ": cannot parse " ++ quote rest ++
      " as " ++ quote part
  | outOfRange part => "parsing time " ++ quote s ++ ": " ++ part ++ " out of range"
  | extra rest => "parsing time " ++ quote s ++ ": extra text: " ++ quote rest

/-- A number of exactly the given width, and what follows it. -/
def fixed? (width : Nat) (cs : List Char) : Option (Nat × List Char) :=
  let ds := cs.take width
  if ds.length = width ∧ ds.all Char.isDigit then
    (Numeral.decimalDigits? ds).map fun n => (n, cs.drop width)
  else none

/-- A number of one or two digits, and what follows it. -/
def short? (cs : List Char) : Option (Nat × List Char) :=
  match fixed? 2 cs with
  | some r => some r
  | none => fixed? 1 cs

/-- The text after a given character. -/
def after? (c : Char) : List Char → Option (List Char)
  | d :: rest => if c = d then some rest else none
  | [] => none

/-- What a reader gives; if it gives nothing, the part of the layout it was to read is missing. -/
def orExpected {α : Type} (part : String) (read : List Char → Option α) (cs : List Char) :
    Except Error α :=
  match read cs with
  | some r => .ok r
  | none => .error (.expected part (.ofList cs))

/-- A number with the width of its part of the layout, and what follows it. -/
def number (part : String) (cs : List Char) : Except Error (Nat × List Char) :=
  orExpected part (fixed? part.length) cs

/-- The text after a character of the layout. -/
def skip (c : Char) (cs : List Char) : Except Error (List Char) :=
  orExpected (.singleton c) (after? c) cs

/-- Refuses a number that is too small or too large for its part. -/
def within (part : String) (ok : Bool) : Except Error Unit :=
  if ok then .ok () else .error (.outOfRange part)

/-- The fraction of a second behind a point or a comma, cut to nanoseconds, and what follows it.
Without a digit behind the point there is no fraction. -/
def fraction (cs : List Char) : Nat × List Char :=
  match cs with
  | c :: d :: rest =>
    if (c = '.' ∨ c = ',') ∧ d.isDigit then
      let ds := (d :: rest).takeWhile Char.isDigit
      ((Numeral.decimalDigits? ((ds ++ List.replicate 9 '0').take 9)).getD 0,
        (d :: rest).dropWhile Char.isDigit)
    else (0, cs)
  | _ => (0, cs)

/-- The offset of a clock, and what follows it. A number that is too large is reported before
anything else that is wrong with the offset. -/
def zone (cs : List Char) : Except Error (Int × List Char) :=
  let missing : Except Error (Int × List Char) := .error (.expected "Z07:00" (.ofList cs))
  match cs with
  | 'Z' :: rest => .ok (0, rest)
  | sign :: h₁ :: h₂ :: ':' :: rest =>
    if sign.utf8Size ≠ 1 ∨ (String.ofList rest).utf8ByteSize < 2 then missing
    else
      match fixed? 2 [h₁, h₂] with
      | none => missing
      | some (h, _) =>
        let minutes := fixed? 2 rest
        do
          within "time zone offset minute" ((minutes.elim 0 (·.1)) ≤ 60)
          within "time zone offset hour" (h ≤ 24)
          match minutes with
          | none => missing
          | some (m, rest) =>
            let n : Int := h * 3600 + m * 60
            if sign = '+' then .ok (n, rest) else if sign = '-' then .ok (-n, rest) else missing
  | _ => missing

/-- The point in time that a text names, or the first thing that is wrong with it. The day is
compared with the length of the month when all parts have been read. The layout allows an offset of
a whole day, which no clock has. -/
def parse (s : String) : Except Error Timestamp := do
  let (year, cs) ← number "2006" s.toList
  let (month, cs) ← number "01" (← skip '-' cs)
  within "month" (1 ≤ month && month ≤ 12)
  let (day, cs) ← number "02" (← skip '-' cs)
  let (hour, cs) ← orExpected "15" short? (← skip 'T' cs)
  within "hour" (hour < 24)
  let (minute, cs) ← number "04" (← skip ':' cs)
  within "minute" (minute < 60)
  let (seconds, cs) ← number "05" (← skip ':' cs)
  within "second" (seconds < 60)
  let (nanos, cs) := fraction cs
  let (offset, cs) ← zone cs
  if cs ≠ [] then throw (Error.extra (.ofList cs))
  within "day" (1 ≤ day && day ≤ daysIn year month)
  if h : offset.natAbs < 86400 then
    return ofCivil { year, month, day, hour, minute, seconds, nanos } offset h
  else throw (Error.outOfRange "time zone offset hour")

end Timestamp

end Lanewise
