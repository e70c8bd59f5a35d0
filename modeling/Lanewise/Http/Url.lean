import Lanewise.Text.Hex
import Lanewise.Text.Rune

/-!
# Paths and queries

## Main definitions

* `Http.percentDecode?`: the bytes that an encoded text stands for.
* `Http.Url`: a path and the parameters of a query.
* `Http.cleanPath`: a path without empty parts and without parts that lead back.
-/

namespace Lanewise.Http

/-- The value of a hexadecimal digit. -/
def hexValue? (b : UInt8) : Option UInt8 :=
  if 48 ≤ b ∧ b ≤ 57 then some (b - 48)
  else if 97 ≤ b ∧ b ≤ 102 then some (b - 87)
  else if 65 ≤ b ∧ b ≤ 70 then some (b - 55)
  else none

/-- The bytes that an encoded text stands for; in a query a plus sign stands for a blank. -/
def percentDecode? (inQuery : Bool) : List UInt8 → Option (List UInt8)
  | [] => some []
  | 37 :: a :: b :: rest =>
    match hexValue? a, hexValue? b, percentDecode? inQuery rest with
    | some x, some y, some out => some ((x * 16 + y) :: out)
    | _, _, _ => none
  | b :: rest =>
    if b = 37 then none
    else (percentDecode? inQuery rest).map fun out => (if inQuery ∧ b = 43 then 32 else b) :: out

/-- Splits a list at every occurrence of an item. -/
def splitAt (sep : UInt8) (bs : List UInt8) : List (List UInt8) :=
  let (done, last) := bs.foldr (fun b (parts, part) =>
    if b = sep then (part :: parts, []) else (parts, b :: part)) (([] : List (List UInt8)), [])
  last :: done

/-- A name and a value of a query; a part that cannot be decoded has neither. -/
def parameter? (part : List UInt8) : Option (List UInt8 × List UInt8) :=
  if part.isEmpty ∨ part.contains 59 then none
  else do
    let name := part.takeWhile (· != 61)
    return (← percentDecode? true name, ← percentDecode? true (part.drop (name.length + 1)))

/-- Where a request leads. -/
structure Url where
  /-- The bytes of the path, decoded. -/
  path : List UInt8
  /-- The query as it was sent, with its mark. -/
  query : List UInt8
  /-- The parameters of the query. -/
  parameters : List (List UInt8 × List UInt8)
deriving Repr, Inhabited

namespace Url

/-- The parts of a target. A path that cannot be decoded stands for itself. -/
def ofTarget (target : String) : Url :=
  let bs := target.toUTF8.toList
  let front := bs.takeWhile (· != 63)
  let query := bs.drop front.length
  { path := (percentDecode? false front).getD front
    query
    parameters := (splitAt 38 (query.drop 1)).filterMap parameter? }

/-- The text of the path. -/
def text (u : Url) : String :=
  Text.lossy u.path

/-- The bytes of the first parameter with a given name; empty if there is none. -/
def bytes (u : Url) (name : String) : List UInt8 :=
  (u.parameters.lookup name.toUTF8.toList).getD []

/-- The first parameter with a given name; empty if there is none. -/
def get (u : Url) (name : String) : String :=
  Text.lossy (u.bytes name)

end Url

/-! ### Clean paths -/

/-- Follows the parts of a path; two dots lead back, one dot and empty parts lead nowhere. -/
def followParts : (done : List (List UInt8)) → List (List UInt8) → List (List UInt8)
  | done, [] => done.reverse
  | done, p :: rest =>
    if p = [] ∨ p = [46] then followParts done rest
    else if p = [46, 46] then followParts (done.drop 1) rest
    else followParts (p :: done) rest

/-- A path without empty parts and without parts that lead back. A slash at its end is kept. -/
def cleanPath (path : List UInt8) : List UInt8 :=
  let parts := followParts [] (splitAt 47 path)
  let clean := parts.flatMap (47 :: ·)
  if parts.isEmpty then [47]
  else if path.getLast? = some 47 then clean ++ [47] else clean

end Lanewise.Http
