import Lanewise.Zstd.Bits

/-!
# Finite state entropy tables

A table codes symbols by states. The state names a symbol and says how many bits to read and what to
add to them to get the next state. A table is built from the number of states of each symbol; the
count minus one marks a symbol that has a single state at the end of the table.

## Main definitions

* `Zstd.Fse`, `Zstd.Fse.build`: tables and their construction.
* `Zstd.Fse.readCounts`: the counts as they stand in compressed data.
-/

namespace Lanewise.Zstd

/-- What a state stands for. -/
structure Fse.State where
  symbol : Nat
  bits : Nat
  base : Nat
deriving Repr, Inhabited

/-- A table with `2 ^ log` states. -/
structure Fse where
  log : Nat
  states : Array Fse.State
deriving Repr, Inhabited

namespace Fse

/-- The table that always yields one symbol and reads nothing. -/
def single (symbol : Nat) : Fse :=
  ⟨0, #[⟨symbol, 0, 0⟩]⟩

/-- What a state stands for. -/
def get (t : Fse) (state : Nat) : State :=
  t.states.getD state default

/-! ### Construction -/

/-- Gives each symbol of count minus one a state, from the end of the table down. -/
def placeRare (counts : Array Int) (table : Array Nat) (high : Nat) : Array Nat × Nat :=
  counts.size.fold (fun s _ (table, high) =>
    if counts.getD s 0 = -1 then (table.setIfInBounds (high - 1) s, high - 1) else (table, high))
    (table, high)

/-- The next position that is not taken by a rare symbol. -/
def nextPosition (size high : Nat) : (fuel : Nat) → Nat → Nat
  | 0, p => p
  | fuel + 1, p =>
    let p := (p + size / 2 + size / 8 + 3) % size
    if p < high then p else nextPosition size high fuel p

/-- Spreads `n` states of a symbol over the table. -/
def spread (size high symbol : Nat) : (n : Nat) → Array Nat × Nat → Array Nat × Nat
  | 0, r => r
  | n + 1, (table, p) =>
    spread size high symbol n (table.setIfInBounds p symbol, nextPosition size high size p)

/-- The table with given counts. -/
def build (log : Nat) (counts : Array Int) : Fse :=
  let size := 1 <<< log
  let (table, high) := placeRare counts (Array.replicate size 0) size
  let (table, _) := counts.size.fold (fun s _ r => spread size high s (counts.getD s 0).toNat r)
    (table, 0)
  let next := counts.map fun c => if c = -1 then 1 else c.toNat
  let (states, _) := table.foldl (fun ((states, next) : Array State × Array Nat) s =>
    let n := next.getD s 1
    let bits := log - Nat.log2 n
    (states.push ⟨s, bits, (n <<< bits) - size⟩, next.setIfInBounds s (n + 1))) (#[], next)
  ⟨log, states⟩

/-! ### Reading counts -/

/-- Counts read so far, the next bit position, and the number of states not yet given away. -/
structure Counting where
  counts : Array Int
  pos : Nat
  remaining : Nat

/-- Reads how many further symbols have no states, in steps of up to three. -/
def readZeros (data : ByteArray) (start stop : Nat) :
    (fuel : Nat) → Array Int → Nat → Array Int × Nat
  | 0, counts, pos => (counts, pos)
  | fuel + 1, counts, pos =>
    let n := bitsAt data start stop pos 2
    let counts := counts ++ Array.replicate n 0
    if n = 3 then readZeros data start stop fuel counts (pos + 2) else (counts, pos + 2)

/-- Reads counts until every state is given away or there are too many symbols. -/
def readLoop (data : ByteArray) (start stop maxSymbol : Nat) : (fuel : Nat) → Counting → Counting
  | 0, c => c
  | fuel + 1, c =>
    if c.remaining = 0 ∨ maxSymbol < c.counts.size then c
    else
      let bits := Nat.log2 (c.remaining + 1) + 1
      let v := bitsAt data start stop c.pos bits
      let low := v % (1 <<< (bits - 1))
      let limit := (1 <<< bits) - 1 - (c.remaining + 1)
      let (v, pos) :=
        if low < limit then (low, c.pos + bits - 1)
        else if 1 <<< (bits - 1) ≤ v then (v - limit, c.pos + bits)
        else (v, c.pos + bits)
      let count : Int := (v : Int) - 1
      let counts := c.counts.push count
      let remaining := c.remaining - count.natAbs
      if count = 0 then
        let (counts, pos) := readZeros data start stop 256 counts pos
        readLoop data start stop maxSymbol fuel ⟨counts, pos, remaining⟩
      else readLoop data start stop maxSymbol fuel ⟨counts, pos, remaining⟩

/-- Reads the counts of a table at an offset; returns the table and the offset behind them. -/
def readCounts (data : ByteArray) (start stop maxLog maxSymbol : Nat) :
    Except Error (Fse × Nat) := do
  check (start + 4 ≤ stop)
  let log := bitsAt data start stop 0 4 + 5
  check (log ≤ maxLog)
  let c := readLoop data start stop maxSymbol 512 ⟨#[], 4, 1 <<< log⟩
  let behind := start + (c.pos + 7) / 8
  check (c.remaining = 0 && 1 < c.counts.size && c.counts.size ≤ 256 && behind ≤ stop)
  return (build log c.counts, behind)

end Fse

end Lanewise.Zstd
