import Lanewise.Digest.XxHash64
import Lanewise.Zstd.Block

/-!
# Frames

Compressed data is a sequence of frames. A frame has a header, blocks, and possibly a checksum of
its output; a skippable frame has no output. Decompression is given a limit on the size of the
output, which also bounds how far back a frame may refer.

## Main definitions

* `Zstd.decompress`: the output of all frames.
* `Zstd.store`: a frame of stored blocks for given output.
-/

namespace Lanewise.Zstd

/-- The least distance that every frame may refer back to. -/
def minWindow : Nat := 1024

/-- The greatest distance that any frame may refer back to. -/
def maxWindow : Nat := 0x20000000

/-- What the header of a frame says. -/
structure FrameHeader where
  window : Nat
  /-- The size of the output, if it is stated. -/
  size : Option Nat
  dictionary : Nat
  checksum : Bool
deriving Repr, Inhabited

/-- Reads the header of a frame behind its mark; returns it with the offset behind it. -/
def FrameHeader.read (data : ByteArray) (start limit : Nat) : Except Error (FrameHeader × Nat) := do
  let stop := data.size
  check (start < stop)
  let b := byteAt data stop start
  let single := b / 32 % 2 = 1
  check (b / 8 % 2 = 0)
  let start := start + 1
  check (single || start < stop)
  let descriptor := byteAt data stop start
  let base := 1 <<< (10 + descriptor / 8)
  let window := if single then 0 else base + base / 8 * (descriptor % 8)
  let start := if single then start else start + 1
  let dictionaryBytes := match b % 4 with
    | 3 => 4
    | n => n
  check (start + dictionaryBytes ≤ stop)
  let dictionary := numberAt data stop start dictionaryBytes
  let start := start + dictionaryBytes
  let sizeBytes := match b / 64 with
    | 0 => if single then 1 else 0
    | n => 1 <<< n
  check (start + sizeBytes ≤ stop)
  let n := numberAt data stop start sizeBytes
  let size := match sizeBytes with
    | 0 => none
    | 2 => some (n + 256)
    | _ => some n
  let window := if single then max (size.getD 0) minWindow else window
  if (if single then limit else min limit maxWindow) < window then throw .tooLarge
  return (⟨window, size, dictionary, b / 4 % 2 = 1⟩, start + sizeBytes)

/-- Decompresses the blocks of a frame. Each has at least three bytes, so the number of bytes bounds
the number of blocks. -/
def readBlocks (data : ByteArray) (h : FrameHeader) (limit frameStart : Nat) :
    (fuel : Nat) → (start : Nat) → Context → ByteArray → Except Error (ByteArray × Nat)
  | 0, _, _, _ => .error .corrupt
  | fuel + 1, start, ctx, out => do
    check (start + 3 ≤ data.size)
    let b := numberAt data data.size start 3
    let size := b / 8
    let start := start + 3
    let (out, behind, ctx) ← match b / 2 % 4 with
      | 0 => do
        if maxBlockSize < size ∨ h.window < size then throw Error.tooLarge
        check (start + size ≤ data.size)
        pure (out ++ slice data start (start + size), start + size, ctx)
      | 1 => do
        if maxBlockSize < size ∨ h.window < size then throw Error.tooLarge
        check (start < data.size)
        pure (out ++ ⟨Array.replicate size (data.get! start)⟩, start + 1, ctx)
      | 2 => do
        check (size ≤ maxBlockSize && size ≤ h.window && 2 ≤ size && start + size ≤ data.size)
        let (out, ctx) ← readCompressed data h.window frameStart start (start + size) ctx out
        pure (out, start + size, ctx)
      | _ => throw Error.corrupt
    if limit < out.size - frameStart ∨ h.size.any (· < out.size - frameStart) then throw .tooLarge
    if b % 2 = 1 then return (out, behind)
    else readBlocks data h limit frameStart fuel behind ctx out

/-- Decompresses the frame behind its mark and appends its output. -/
def readFrame (data : ByteArray) (start limit : Nat) (out : ByteArray) :
    Except Error (ByteArray × Nat) := do
  let (h, start) ← FrameHeader.read data start limit
  check (h.dictionary = 0)
  if h.size.any (limit < out.size + ·) then throw .tooLarge
  let frameStart := out.size
  let (out, start) ← readBlocks data h limit frameStart data.size start {} out
  check (h.size.all (· = out.size - frameStart))
  if h.checksum then
    check (start + 4 ≤ data.size)
    check ((XxHash64.checksum out frameStart).toNat % 0x100000000 = numberAt data data.size start 4)
    return (out, start + 4)
  else return (out, start)

/-- Decompresses frames up to the end of the data. Each takes at least four bytes, so the number of
bytes bounds their number. -/
def readFrames (data : ByteArray) (limit : Nat) :
    (fuel : Nat) → (start : Nat) → ByteArray → Except Error ByteArray
  | 0, _, out => .ok out
  | fuel + 1, start, out =>
    if data.size ≤ start then .ok out
    else do
      check (start + 4 ≤ data.size)
      let mark := numberAt data data.size start 4
      if mark / 16 = 0x184D2A5 then
        check (start + 8 ≤ data.size)
        let behind := start + 8 + numberAt data data.size (start + 4) 4
        check (behind ≤ data.size)
        readFrames data limit fuel behind out
      else
        check (mark = 0xFD2FB528)
        let (out, start) ← readFrame data (start + 4) limit out
        if limit < out.size then throw .tooLarge
        readFrames data limit fuel start out

/-- The output of all frames, which may not be longer than the limit. -/
def decompress (data : ByteArray) (limit : Nat) : Except Error ByteArray :=
  readFrames data (max limit 1) (data.size + 1) 0 .empty

/-! ### Storing -/

/-- Appends the `n` low bytes of a number, least significant first. -/
def pushNumber (out : ByteArray) (v : Nat) : (n : Nat) → ByteArray
  | 0 => out
  | n + 1 => pushNumber (out.push (UInt8.ofNat v)) (v / 256) n

/-- Appends `n` bytes from an offset on as stored blocks. -/
def storeBlocks (data : ByteArray) : (fuel : Nat) → (start : Nat) → ByteArray → ByteArray
  | 0, _, out => out
  | fuel + 1, start, out =>
    let size := min maxBlockSize (data.size - start)
    let last := start + size = data.size
    let out :=
      pushNumber out (8 * size + if last then 1 else 0) 3 ++ slice data start (start + size)
    if last then out else storeBlocks data fuel (start + size) out

/-- A frame of stored blocks whose output is the data. Empty data needs no frame. -/
def store (data : ByteArray) : ByteArray :=
  if data.size = 0 then .empty
  else
    let header := pushNumber (pushNumber (pushNumber .empty 0xFD2FB528 4) 0xA0 1) data.size 4
    storeBlocks data (data.size / maxBlockSize + 1) 0 header

end Lanewise.Zstd
