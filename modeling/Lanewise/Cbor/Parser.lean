import Lanewise.Cbor.Basic
import Lanewise.Text.Rune

/-!
# Reading CBOR

The reader accepts every well formed value whose nesting is not too deep, with numbers of any width
and strings, arrays and maps of indefinite length. Data has to hold exactly one value.

The second half reads fields out of a value: a missing or null field keeps its default, and anything
of the wrong kind is refused.

## Main definitions

* `Cbor.short`: the values whose lists are not too long to be read.
* `Cbor.parse?`: the value of bytes.
* `Cbor.int?`, `Cbor.nat?`, `Cbor.string?`, …: parts of messages.
* `Cbor.field`: a member of a message.
-/

namespace Lanewise.Cbor

/-- The greatest depth of nesting. -/
def maxDepth : Nat := 32

/-- The greatest number of items of an array, and of members of a map. -/
def maxItems : Nat := 131072

/-- What is said about an array with more items. -/
def tooManyText : String :=
  "cbor: exceeded max number of elements " ++ toString maxItems ++ " for CBOR array"

mutual

/-- No list in a value has more items than a message may have. -/
def short : Cbor → Bool
  | array xs => xs.length ≤ maxItems && shortItems xs
  | map ms => ms.length ≤ maxItems && shortMembers ms
  | tag _ v => short v
  | _ => true

/-- No list in the items is too long. -/
def shortItems : List Cbor → Bool
  | [] => true
  | x :: xs => short x && shortItems xs

/-- No list in the members is too long. -/
def shortMembers : List (Cbor × Cbor) → Bool
  | [] => true
  | (k, v) :: ms => short k && (short v && shortMembers ms)

end

/-- The number with the given bytes, most significant first. -/
def bigNumber (bs : List UInt8) : Nat :=
  bs.foldl (fun n b => n * 256 + b.toNat) 0

/-- The first `n` bytes and what follows them. -/
def take? (n : Nat) (bs : List UInt8) : Option (List UInt8 × List UInt8) :=
  let front := bs.take n
  if front.length = n then some (front, bs.drop n) else none

/-- The number in a head; none for an indefinite length. -/
def argument? (info : Nat) (bs : List UInt8) : Option (Option Nat × List UInt8) :=
  if info < 24 then some (some info, bs)
  else if info < 28 then
    (take? (1 <<< (info - 24)) bs).map fun (n, rest) => (some (bigNumber n), rest)
  else if info = 31 then some (none, bs)
  else none

/-- The chunks of a string of indefinite length up to the stop mark. -/
def chunks? (kind : Nat) : (fuel : Nat) → List UInt8 → Option (List (List UInt8) × List UInt8)
  | 0, _ => none
  | _ + 1, [] => none
  | fuel + 1, b :: rest =>
    if b = 255 then some ([], rest)
    else if b.toNat / 32 ≠ kind then none
    else do
      let (n, rest) ← argument? (b.toNat % 32) rest
      let (chunk, rest) ← take? (← n) rest
      let (more, rest) ← chunks? kind fuel rest
      return (chunk :: more, rest)

/-- A simple value or a floating-point number. -/
def special? (info : Nat) (bs : List UInt8) : Option (Cbor × List UInt8) :=
  if info < 24 then some (simple info, bs)
  else if info = 24 then
    match bs with
    | b :: rest => if b.toNat < 32 then none else some (simple b.toNat, rest)
    | [] => none
  else if info < 28 then
    (take? (1 <<< (info - 24)) bs).map fun (n, rest) =>
      (float (1 <<< (info - 24)) (bigNumber n), rest)
  else none

/-- Whether a tag comes first. A tag adds to the depth only of a tag that comes right behind it. -/
def startsWithTag : List UInt8 → Bool
  | [] => false
  | b :: _ => b.toNat / 32 == 6

mutual

/-- A value, and what follows it. -/
def value? : (fuel depth : Nat) → List UInt8 → Option (Cbor × List UInt8)
  | 0, _, _ => none
  | _ + 1, _, [] => none
  | fuel + 1, depth, b :: rest =>
    let info := b.toNat % 32
    match b.toNat / 32 with
    | 0 => do
      let (n, rest) ← argument? info rest
      return (uint (← n), rest)
    | 1 => do
      let (n, rest) ← argument? info rest
      return (nint (← n), rest)
    | 2 => do
      match ← argument? info rest with
      | (some n, rest) =>
        let (bs, rest) ← take? n rest
        return (bytes bs, rest)
      | (none, rest) =>
        let (cs, rest) ← chunks? 2 (rest.length + 1) rest
        return (bytes cs.flatten, rest)
    | 3 => do
      match ← argument? info rest with
      | (some n, rest) =>
        let (bs, rest) ← take? n rest
        return (text [bs], rest)
      | (none, rest) =>
        let (cs, rest) ← chunks? 3 (rest.length + 1) rest
        return (text cs, rest)
    | 4 =>
      if depth = 0 then none
      else match argument? info rest with
        | none => none
        | some (some n, rest) =>
          if rest.length < n ∨ maxItems < n then none else items? fuel (depth - 1) n [] rest
        | some (none, rest) => itemsToStop? fuel (depth - 1) [] rest
    | 5 =>
      if depth = 0 then none
      else match argument? info rest with
        | none => none
        | some (some n, rest) =>
          if rest.length < n ∨ maxItems < n then none else members? fuel (depth - 1) n [] rest
        | some (none, rest) => membersToStop? fuel (depth - 1) [] rest
    | 6 =>
      match argument? info rest with
      | some (some n, rest) =>
        if depth = 0 ∧ startsWithTag rest then none
        else (value? fuel (if startsWithTag rest then depth - 1 else depth) rest).map
          fun (v, rest) => (tag n v, rest)
      | _ => none
    | _ => special? info rest

/-- The given number of items, after those already read. -/
def items? : (fuel depth n : Nat) → List Cbor → List UInt8 → Option (Cbor × List UInt8)
  | 0, _, _, _, _ => none
  | _ + 1, _, 0, done, bs => some (array done.reverse, bs)
  | fuel + 1, depth, n + 1, done, bs =>
    match value? fuel depth bs with
    | some (v, rest) => items? fuel depth n (v :: done) rest
    | none => none

/-- Items up to the stop mark, after those already read. -/
def itemsToStop? : (fuel depth : Nat) → List Cbor → List UInt8 → Option (Cbor × List UInt8)
  | 0, _, _, _ => none
  | _ + 1, _, done, 255 :: rest =>
    if maxItems < done.length then none else some (array done.reverse, rest)
  | fuel + 1, depth, done, bs =>
    match value? fuel depth bs with
    | some (v, rest) => itemsToStop? fuel depth (v :: done) rest
    | none => none

/-- The given number of members, after those already read. -/
def members? : (fuel depth n : Nat) → List (Cbor × Cbor) → List UInt8 → Option (Cbor × List UInt8)
  | 0, _, _, _, _ => none
  | _ + 1, _, 0, done, bs => some (map done.reverse, bs)
  | fuel + 1, depth, n + 1, done, bs =>
    match value? fuel depth bs with
    | none => none
    | some (k, rest) =>
      match value? fuel depth rest with
      | some (v, rest) => members? fuel depth n ((k, v) :: done) rest
      | none => none

/-- Members up to the stop mark, after those already read. -/
def membersToStop? :
    (fuel depth : Nat) → List (Cbor × Cbor) → List UInt8 → Option (Cbor × List UInt8)
  | 0, _, _, _ => none
  | _ + 1, _, done, 255 :: rest =>
    if maxItems < done.length then none else some (map done.reverse, rest)
  | fuel + 1, depth, done, bs =>
    match value? fuel depth bs with
    | none => none
    | some (k, rest) =>
      match value? fuel depth rest with
      | some (v, rest) => membersToStop? fuel depth ((k, v) :: done) rest
      | none => none

end

/-- The value of bytes that hold exactly one. -/
def parse? (data : ByteArray) : Option Cbor :=
  let bs := data.toList
  match value? (2 * bs.length + 2) maxDepth bs with
  | some (v, []) => some v
  | _ => none

/-! ### Parts of messages -/

/-- Whether a value stands for nothing. -/
def isNull : Cbor → Bool
  | simple n => n == 22 || n == 23
  | _ => false

/-- Whether a tag with a given number may stand around a value: dates are texts, times are numbers,
and large numbers are bytes. -/
def tagFits (n : Nat) (v : Cbor) : Bool :=
  match n, v with
  | 0, text _ => true
  | 0, _ => false
  | 1, uint _ | 1, nint _ | 1, float _ _ => true
  | 1, _ => false
  | 2, bytes _ | 3, bytes _ => true
  | 2, _ | 3, _ => false
  | _, _ => true

/-- A value without the tags around it; the tag of a large number stays. None if a tag does not
fit. -/
def content? : Cbor → Option Cbor
  | tag n v =>
    if !tagFits n v then none
    else if n = 2 ∨ n = 3 then some (tag n v)
    else content? v
  | v => some v

/-- The integer that a value without tags stands for. A simple value that has no other meaning
stands for its number. -/
def integer? : Cbor → Option Int
  | uint n => some n
  | nint n => some (.negSucc n)
  | tag 2 (bytes b) => some (bigNumber b)
  | tag 3 (bytes b) => some (.negSucc (bigNumber b))
  | simple n => if n < 20 ∨ 32 ≤ n then some n else none
  | _ => none

/-- An integer between two bounds. -/
def intIn? (lo hi : Int) (v : Cbor) : Option Int :=
  (v.content?.bind integer?).filter fun n => lo ≤ n ∧ n ≤ hi

/-- A signed 64-bit integer. -/
def int? (v : Cbor) : Option Int :=
  v.intIn? (-0x8000000000000000) 0x7fffffffffffffff

/-- A signed 64-bit integer in 64 bits. -/
def int64? (v : Cbor) : Option Int64 :=
  v.int?.map Int64.ofInt

/-- A signed 32-bit integer. -/
def word? (v : Cbor) : Option Int32 :=
  (v.intIn? (-0x80000000) 0x7fffffff).map Int32.ofInt

/-- An unsigned 64-bit integer. -/
def uint64? (v : Cbor) : Option UInt64 :=
  (v.intIn? 0 0xffffffffffffffff).map fun n => UInt64.ofNat n.toNat

/-- A byte. -/
def byte? (v : Cbor) : Option UInt8 :=
  (v.intIn? 0 255).map fun n => UInt8.ofNat n.toNat

/-- A well formed text. -/
def string? (v : Cbor) : Option String :=
  match v.content? with
  | some (text cs) =>
    (cs.mapM fun c => String.fromUTF8? ⟨c.toArray⟩).map fun ss => ss.foldl (· ++ ·) ""
  | _ => none

/-- A truth value. -/
def bool? (v : Cbor) : Option Bool :=
  match v.content? with
  | some (simple 20) => some false
  | some (simple 21) => some true
  | _ => none

/-- A part, or the default when the value stands for nothing. -/
def orDefault {α : Type} (read : Cbor → Option α) (default : α) (v : Cbor) : Option α :=
  if v.content?.any isNull then some default else read v

/-- A list; an item that stands for nothing has the default. -/
def list? {α : Type} (read : Cbor → Option α) (default : α) (v : Cbor) : Option (List α) :=
  match v.content? with
  | some (array xs) => xs.mapM (orDefault read default)
  | _ => none

/-- A list, or nothing. -/
def listOrNull? {α : Type} (read : Cbor → Option α) (default : α) (v : Cbor) :
    Option (Option (List α)) :=
  if v.content?.any isNull then some none else (list? read default v).map some

/-- Bytes, as such, as a large number, or as a list of small numbers, of which no more than the
given number are read. -/
def bytesUpTo? (limit : Option Nat) (v : Cbor) : Option (List UInt8) :=
  match v.content? with
  | some (bytes b) | some (tag _ (bytes b)) => some b
  | some (array xs) => (limit.elim xs xs.take).mapM (orDefault byte? 0)
  | _ => none

/-- Bytes. -/
def bytes? (v : Cbor) : Option (List UInt8) :=
  v.bytesUpTo? none

/-- Whether a key names the field with a given number: the number itself, or its digits as text. -/
def isKey (n : Nat) : Cbor → Bool
  | uint k => k == n
  | text cs => cs.flatten == (toString n).toUTF8.toList
  | _ => false

/-- Whether a value may be a key. -/
def keyOk : Cbor → Bool
  | uint _ => true
  | nint n => n < 0x8000000000000000
  | text cs => cs.all fun c => (String.fromUTF8? ⟨c.toArray⟩).isSome
  | _ => false

/-- The members of a message; a value that stands for nothing has none. -/
def message? (v : Cbor) : Option (List (Cbor × Cbor)) :=
  match v.content? with
  | some (map ms) => if ms.all (keyOk ·.1) then some ms else none
  | some v => if v.isNull then some [] else none
  | none => none

/-- The field with a given number: the first member with that key, or the default. -/
def field {α : Type} (ms : List (Cbor × Cbor)) (n : Nat) (read : Cbor → Option α) (default : α) :
    Option α :=
  match ms.find? (isKey n ·.1) with
  | some (_, v) => orDefault read default v
  | none => some default

end Lanewise.Cbor
