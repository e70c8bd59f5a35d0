/-!
# Buckets

A bucket maps byte strings to values and keeps its entries in the order of their keys, which are
compared byte by byte.

## Main definitions

* `Bucket`, `Bucket.get?`, `Bucket.put`, `Bucket.erase`: buckets.
* `Bucket.below`: the entries with keys below a bound, in descending order.
-/

namespace Lanewise

/-- A key of a bucket. -/
abbrev Key := List UInt8

/-- Whether a key begins with another one. -/
def Key.startsWith (key front : Key) : Bool :=
  front.isPrefixOf key

/-- Entries in ascending order of their keys. -/
structure Bucket (α : Type) where
  entries : List (Key × α) := []
deriving Repr, Inhabited

namespace Bucket

variable {α : Type}

/-- The value of a key. -/
def get? (b : Bucket α) (k : Key) : Option α :=
  b.entries.lookup k

/-- Whether a key has a value. -/
def contains (b : Bucket α) (k : Key) : Bool :=
  (b.get? k).isSome

/-- Ascending entries with one more in its place; an entry with the same key is replaced. -/
def insertInto (k : Key) (v : α) : List (Key × α) → List (Key × α)
  | [] => [(k, v)]
  | e :: rest =>
    if k < e.1 then (k, v) :: e :: rest
    else if e.1 = k then (k, v) :: rest
    else e :: insertInto k v rest

/-- Gives a key a value. -/
def put (b : Bucket α) (k : Key) (v : α) : Bucket α :=
  ⟨insertInto k v b.entries⟩

/-- Removes a key. -/
def erase (b : Bucket α) (k : Key) : Bucket α :=
  ⟨b.entries.filter (·.1 != k)⟩

/-- The keys in ascending order. -/
def keys (b : Bucket α) : List Key :=
  b.entries.map (·.1)

/-- The entries in descending order. -/
def descending (b : Bucket α) : List (Key × α) :=
  b.entries.reverse

/-- The entries with keys below a bound, in descending order. -/
def below (b : Bucket α) (bound : Key) : List (Key × α) :=
  b.descending.dropWhile fun e => !decide (e.1 < bound)

/-- The entries whose keys begin with a given one, in ascending order. -/
def startingWith (b : Bucket α) (front : Key) : List (Key × α) :=
  (b.entries.dropWhile fun e => decide (e.1 < front)).takeWhile (·.1.startsWith front)

end Bucket

end Lanewise
