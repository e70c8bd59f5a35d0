import Lanewise.Zstd.Huffman
import Lanewise.Zstd.Sequence

/-!
# Blocks

A block is stored as it is, or is one byte repeated, or is compressed: a section of literals and a
section of sequences. Compressed blocks may reuse the tables of the blocks before them.

## Main definitions

* `Zstd.Context`: what later blocks of a frame may reuse.
* `Zstd.readLiterals`, `Zstd.readCompressed`: the sections of a compressed block.
-/

namespace Lanewise.Zstd

/-- The greatest size of a block. -/
def maxBlockSize : Nat := 131072

/-- What later blocks of a frame may reuse. -/
structure Context where
  huffman : Option Huffman := none
  tables : SequenceTables := {}
  offsets : Offsets := {}
deriving Repr, Inhabited

/-- The literals of a block from one offset up to another. -/
def slice (data : ByteArray) (start stop : Nat) : ByteArray :=
  data.extract start stop

/-- The kind of a literals section, the size of its output and of its input, the number of header
bytes, and whether there are four streams. -/
structure LiteralsHeader where
  kind : Nat
  size : Nat
  packed : Nat
  length : Nat
  four : Bool

/-- Reads the header of a literals section. -/
def LiteralsHeader.read (data : ByteArray) (start stop : Nat) : Except Error LiteralsHeader := do
  check (start + 2 ≤ stop)
  let b := byteAt data stop start
  let kind := b % 4
  let form := b / 4 % 4
  if kind < 2 then
    match form with
    | 1 => return ⟨kind, numberAt data stop start 2 / 16, 0, 2, false⟩
    | 3 =>
      check (start + 3 ≤ stop)
      return ⟨kind, numberAt data stop start 3 / 16, 0, 3, false⟩
    | _ => return ⟨kind, b / 8, 0, 1, false⟩
  else
    let (bytes, width) := match form with
      | 2 => (4, 14)
      | 3 => (5, 18)
      | _ => (3, 10)
    check (start + bytes ≤ stop)
    let n := numberAt data stop start bytes / 16
    return ⟨kind, n % (1 <<< width), (n >>> width) % (1 <<< width), bytes, form ≠ 0⟩

/-- Decodes Huffman coded literals. -/
def decodeLiterals (data : ByteArray) (t : Huffman) (h : LiteralsHeader) (start stop : Nat) :
    Except Error ByteArray :=
  if h.four then t.decode4 data start stop h.size else t.decode1 data start stop h.size .empty

/-- Reads the literals section at an offset; returns the literals and the offset behind them. -/
def readLiterals (data : ByteArray) (window start stop : Nat) (ctx : Context) :
    Except Error (ByteArray × Nat × Context) := do
  let h ← LiteralsHeader.read data start stop
  if window < h.size ∨ maxBlockSize < h.size then throw .tooLarge
  let start := start + h.length
  match h.kind with
  | 0 =>
    check (start + h.size ≤ stop)
    return (slice data start (start + h.size), start + h.size, ctx)
  | 1 =>
    check (start + 1 ≤ stop)
    return (⟨Array.replicate h.size (data.get! start)⟩, start + 1, ctx)
  | 2 =>
    let behind := start + h.packed
    check (behind ≤ stop)
    let (t, start) ← Huffman.readTable data start behind
    return (← decodeLiterals data t h start behind, behind, { ctx with huffman := some t })
  | _ =>
    let behind := start + h.packed
    check (behind ≤ stop)
    match ctx.huffman with
    | none => throw .corrupt
    | some t => return (← decodeLiterals data t h start behind, behind, ctx)

/-- Reads the number of sequences at an offset; returns it with the offset behind it. -/
def readSequenceCount (data : ByteArray) (start stop : Nat) : Except Error (Nat × Nat) := do
  check (start < stop)
  let b := byteAt data stop start
  if b < 128 then return (b, start + 1)
  else if b < 255 then
    check (start + 2 ≤ stop)
    return ((b - 128) * 256 + byteAt data stop (start + 1), start + 2)
  else
    check (start + 3 ≤ stop)
    return (0x7F00 + numberAt data stop (start + 1) 2, start + 3)

/-- Decompresses the compressed block between two offsets and appends its output. -/
def readCompressed (data : ByteArray) (window frameStart start stop : Nat) (ctx : Context)
    (out : ByteArray) : Except Error (ByteArray × Context) := do
  let (literals, start, ctx) ← readLiterals data window start stop ctx
  let (n, start) ← readSequenceCount data start stop
  if n = 0 then
    check (start = stop)
    return (out ++ literals, ctx)
  else
    check (start < stop)
    let modes := byteAt data stop start
    check (modes % 4 = 0)
    let start := start + 1
    let (ll, start) ← readSequenceTable data stop ⟨(6, defaultLiteralLengths), 35⟩ (modes / 64)
      start ctx.tables.literalLengths
    let (of, start) ← readSequenceTable data stop ⟨(5, defaultOffsets), maxOffsetCode⟩
      (modes / 16 % 4) start ctx.tables.offsets
    let (ml, start) ← readSequenceTable data stop ⟨(6, defaultMatchLengths), 52⟩ (modes / 4 % 4)
      start ctx.tables.matchLengths
    let lim : Limits :=
      { frameStart, blockStart := out.size, window, maxBlock := min window maxBlockSize }
    let (out, offsets) ← execute data literals ll of ml lim n start stop ctx.offsets out
    return (out, { ctx with
      tables := ⟨some ll, some of, some ml⟩
      offsets })

end Lanewise.Zstd
