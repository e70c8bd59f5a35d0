/-!
# Integer literals

A literal is an optional sign and a numeral. A numeral is decimal, or binary, octal or hexadecimal
after `0b`, `0o` or `0x`; a numeral that begins with a further digit after `0` is octal. Underscores
may separate digits, and may follow the base mark, but stand nowhere else.

## Main definitions

* `Numeral.parse?`: the value of a literal.
* `Numeral.parseIn?`: the value of a literal that has to lie in a range.
* `Numeral.decimal?`: the value of a plain decimal integer with optional sign.
-/

namespace Lanewise.Numeral

/-- The value of a digit in the largest base that literals use. -/
def digit? (c : Char) : Option Nat :=
  if '0' ≤ c ∧ c ≤ '9' then some (c.toNat - 48)
  else if 'a' ≤ c ∧ c ≤ 'z' then some (c.toNat - 87)
  else if 'A' ≤ c ∧ c ≤ 'Z' then some (c.toNat - 55)
  else none

/-- The value of a digit string in a base, continuing from `acc`. Underscores are passed over. -/
def digits? (base : Nat) : (acc : Nat) → List Char → Option Nat
  | acc, [] => some acc
  | acc, c :: rest =>
    if c = '_' then digits? base acc rest
    else match digit? c with
      | some d => if d < base then digits? base (acc * base + d) rest else none
      | none => none

/-- Every underscore follows a digit (or the base mark) and is followed by one. The flag says
whether a digit stands just before. -/
def separated : Bool → List Char → Bool
  | afterDigit, [] => afterDigit
  | afterDigit, c :: rest =>
    if c = '_' then afterDigit && separated false rest else separated true rest

/-- The base that a mark after `0` selects. -/
def markedBase? (c : Char) : Option Nat :=
  if c = 'b' ∨ c = 'B' then some 2
  else if c = 'o' ∨ c = 'O' then some 8
  else if c = 'x' ∨ c = 'X' then some 16
  else none

/-- The value of an unsigned numeral. -/
def unsigned? (cs : List Char) : Option Nat :=
  match cs with
  | [] => none
  | '0' :: mark :: c :: rest =>
    match markedBase? mark with
    | some base => if separated true (c :: rest) then digits? base 0 (c :: rest) else none
    | none => if separated false cs then digits? 8 0 (mark :: c :: rest) else none
  | '0' :: rest => if separated false cs then digits? 8 0 rest else none
  | _ => if separated false cs then digits? 10 0 cs else none

/-- The value of a literal. -/
def parse? : List Char → Option Int
  | '-' :: rest => (unsigned? rest).map fun n => -(n : Int)
  | '+' :: rest => (unsigned? rest).map Int.ofNat
  | cs => (unsigned? cs).map Int.ofNat

/-- The value of a literal that has to lie between `lo` and `hi`. -/
def parseIn? (lo hi : Int) (cs : List Char) : Option Int :=
  match parse? cs with
  | some v => if lo ≤ v ∧ v ≤ hi then some v else none
  | none => none

/-- The value of a non-empty string of decimal digits. -/
def decimalDigits? : List Char → Option Nat
  | [] => none
  | cs => cs.foldl (fun acc c => acc.bind fun n =>
      if '0' ≤ c ∧ c ≤ '9' then some (n * 10 + (c.toNat - 48)) else none) (some 0)

/-- The value of a decimal integer with optional sign. -/
def decimal? : List Char → Option Int
  | '-' :: rest => (decimalDigits? rest).map fun n => -(n : Int)
  | '+' :: rest => (decimalDigits? rest).map Int.ofNat
  | cs => (decimalDigits? cs).map Int.ofNat

/-- The value of a decimal integer of 64 bits with optional sign. -/
def int64? (cs : List Char) : Option Int :=
  (decimal? cs).filter fun n => -0x8000000000000000 ≤ n ∧ n < 0x8000000000000000

/-- The decimal digits of `n`, with zeros in front up to the given width. -/
def padded (width n : Nat) : String :=
  let s := toString n
  String.ofList (List.replicate (width - s.length) '0') ++ s

end Lanewise.Numeral
