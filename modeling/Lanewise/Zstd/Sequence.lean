import Lanewise.Zstd.Fse

/-!
# Sequences

A compressed block is a list of literals and a list of sequences. A sequence says how many literals
to copy, and then how far back and how long a stretch of earlier output to repeat. Its three numbers
are codes of three state tables, each followed by extra bits. Distances may refer to the last three
distances.

## Main definitions

* `Zstd.SequenceTables`: the three tables.
* `Zstd.Offsets`, `Zstd.Offsets.resolve`: the recent distances.
* `Zstd.execute`: the output of the sequences of a block.
-/

namespace Lanewise.Zstd

/-! ### Codes -/

/-- The base and the number of extra bits of each literal length code. -/
def literalLengthCodes : Array (Nat × Nat) :=
  (Array.ofFn fun i : Fin 16 => (i.val, 0)) ++
  #[(16, 1), (18, 1), (20, 1), (22, 1), (24, 2), (28, 2), (32, 3), (40, 3), (48, 4), (64, 6),
    (128, 7), (256, 8), (512, 9), (1024, 10), (2048, 11), (4096, 12), (8192, 13), (16384, 14),
    (32768, 15), (65536, 16)]

/-- The base and the number of extra bits of each match length code. -/
def matchLengthCodes : Array (Nat × Nat) :=
  (Array.ofFn fun i : Fin 32 => (i.val + 3, 0)) ++
  #[(35, 1), (37, 1), (39, 1), (41, 1), (43, 2), (47, 2), (51, 3), (59, 3), (67, 4), (83, 4),
    (99, 5), (131, 7), (259, 8), (515, 9), (1027, 10), (2051, 11), (4099, 12), (8195, 13),
    (16387, 14), (32771, 15), (65539, 16)]

/-- The greatest distance code. -/
def maxOffsetCode : Nat := 30

/-- The counts of the literal length table that needs no description. -/
def defaultLiteralLengths : Array Int :=
  #[4, 3, 2, 2, 2, 2, 2, 2, 2, 2, 2, 2, 2, 1, 1, 1, 2, 2, 2, 2, 2, 2, 2, 2, 2, 3, 2, 1, 1, 1, 1, 1,
    -1, -1, -1, -1]

/-- The counts of the match length table that needs no description. -/
def defaultMatchLengths : Array Int :=
  #[1, 4, 3, 2, 2, 2, 2, 2, 2, 1, 1, 1, 1, 1, 1, 1, 1, 1, 1, 1, 1, 1, 1, 1, 1, 1, 1, 1, 1, 1, 1, 1,
    1, 1, 1, 1, 1, 1, 1, 1, 1, 1, 1, 1, 1, 1, -1, -1, -1, -1, -1, -1, -1]

/-- The counts of the distance table that needs no description. -/
def defaultOffsets : Array Int :=
  #[1, 1, 1, 1, 1, 1, 2, 2, 2, 1, 1, 1, 1, 1, 1, 1, 1, 1, 1, 1, 1, 1, 1, 1, -1, -1, -1, -1, -1]

/-- The tables of the last block that had any; none before the first. -/
structure SequenceTables where
  literalLengths : Option Fse := none
  offsets : Option Fse := none
  matchLengths : Option Fse := none
deriving Repr, Inhabited

/-- How the tables of a block are given. -/
structure TableKind where
  standard : Nat × Array Int
  maxSymbol : Nat

/-- Reads one of the three tables. The mode says whether it is standard, a single symbol, described
here, or the one used before. -/
def readSequenceTable (data : ByteArray) (stop : Nat) (kind : TableKind) (mode start : Nat)
    (before : Option Fse) : Except Error (Fse × Nat) :=
  match mode with
  | 0 => .ok (Fse.build kind.standard.1 kind.standard.2, start)
  | 1 => do
    let symbol := byteAt data stop start
    check (start < stop && symbol ≤ kind.maxSymbol)
    return (Fse.single symbol, start + 1)
  | 2 => do
    let (t, behind) ← Fse.readCounts data start stop 9 kind.maxSymbol
    check (t.states.all (·.symbol ≤ kind.maxSymbol))
    return (t, behind)
  | _ =>
    match before with
    | some t => .ok (t, start)
    | none => .error .corrupt

/-! ### Distances -/

/-- The last three distances, most recent first. -/
structure Offsets where
  first : Nat := 1
  second : Nat := 4
  third : Nat := 8
deriving Repr, Inhabited

/-- The distance that a coded value means. Values above three are distances themselves; the others
name a recent distance, shifted by one when no literals precede. -/
def Offsets.resolve (o : Offsets) (value literals : Nat) : Nat × Offsets :=
  if 3 < value then (value - 3, ⟨value - 3, o.first, o.second⟩)
  else
    let k := if literals = 0 then value + 1 else value
    match k with
    | 1 => (o.first, o)
    | 2 => (o.second, ⟨o.second, o.first, o.third⟩)
    | 3 => (o.third, ⟨o.third, o.first, o.second⟩)
    | _ =>
      let d := max (o.first - 1) 1
      (d, ⟨d, o.first, o.second⟩)

/-! ### Execution -/

/-- Appends `n` bytes of `source` from an offset on. -/
def copyFrom (source : ByteArray) : (n i : Nat) → ByteArray → ByteArray
  | 0, _, out => out
  | n + 1, i, out => copyFrom source n (i + 1) (out.push (source.get! i))

/-- Appends the `n` bytes that stand `distance` back, which may overlap what is appended. -/
def repeatBack (distance : Nat) : (n : Nat) → ByteArray → ByteArray
  | 0, out => out
  | n + 1, out => repeatBack distance n (out.push (out.get! (out.size - distance)))

/-- The limits of a block: where its frame and the block itself begin in the output, how far back
it may refer, and how long it may be. -/
structure Limits where
  frameStart : Nat
  blockStart : Nat
  window : Nat
  maxBlock : Nat

/-- What remains to be done in a block. -/
structure Progress where
  out : ByteArray
  literal : Nat
  stream : Backward
  states : Nat × Nat × Nat
  offsets : Offsets

/-- Executes `n` sequences. The states move on after each but the last. -/
def executeLoop (data literals : ByteArray) (ll of ml : Fse) (lim : Limits) :
    (n : Nat) → Progress → Except Error Progress
  | 0, p => .ok p
  | n + 1, p => do
    let (sl, so, sm) := p.states
    let el := ll.get sl
    let eo := of.get so
    let em := ml.get sm
    let (ov, s) := p.stream.read data eo.symbol
    let (mbase, mbits) := matchLengthCodes.getD em.symbol (0, 0)
    let (mv, s) := s.read data mbits
    let (lbase, lbits) := literalLengthCodes.getD el.symbol (0, 0)
    let (lv, s) := s.read data lbits
    let literalLength := lbase + lv
    let matchLength := mbase + mv
    let (distance, offsets) := p.offsets.resolve ((1 <<< eo.symbol) + ov) literalLength
    check (p.literal + literalLength ≤ literals.size)
    check (p.out.size + literalLength + matchLength ≤ lim.blockStart + lim.maxBlock)
    let out := copyFrom literals literalLength p.literal p.out
    check (distance ≤ out.size - lim.frameStart && distance ≤ lim.window)
    let out := repeatBack distance matchLength out
    let p := { p with out, literal := p.literal + literalLength, offsets }
    if n = 0 then executeLoop data literals ll of ml lim n { p with stream := s }
    else
      let (vl, s) := s.read data el.bits
      let (vm, s) := s.read data em.bits
      let (vo, s) := s.read data eo.bits
      check (0 ≤ s.left)
      executeLoop data literals ll of ml lim n
        { p with stream := s, states := (el.base + vl, eo.base + vo, em.base + vm) }

/-- Executes the sequences of a block, which end with the stream, and appends the literals that are
left. -/
def execute (data literals : ByteArray) (ll of ml : Fse) (lim : Limits) (n start stop : Nat)
    (offsets : Offsets) (out : ByteArray) : Except Error (ByteArray × Offsets) := do
  let s ← Backward.ofBytes data start stop
  let (sl, s) := s.read data ll.log
  let (so, s) := s.read data of.log
  let (sm, s) := s.read data ml.log
  let p ← executeLoop data literals ll of ml lim n
    { out, literal := 0, stream := s, states := (sl, so, sm), offsets }
  check (p.stream.left = 0)
  let rest := literals.size - p.literal
  check (p.out.size + rest ≤ lim.blockStart + lim.maxBlock)
  return (copyFrom literals rest p.literal p.out, p.offsets)

end Lanewise.Zstd
