import Lanewise.Zstd.Fse

/-!
# Huffman coded literals

A table gives each symbol a weight; the weight of the last symbol is not written, since the weights
make up a power of two. The weights are written plainly or coded by a state table of their own.
Literals are one backward stream, or four of nearly equal length.

## Main definitions

* `Zstd.Huffman`, `Zstd.Huffman.readTable`: tables.
* `Zstd.Huffman.decode1`, `Zstd.Huffman.decode4`: literals.
-/

namespace Lanewise.Zstd

/-- For each group of `log` bits, the symbol at its front and the number of bits that code it. -/
structure Huffman where
  log : Nat
  entries : Array (Nat × Nat)
deriving Repr, Inhabited

namespace Huffman

/-- The greatest length of a code. -/
def maxLog : Nat := 11

/-! ### Tables -/

/-- The table with the given weights, of which the last is not written. -/
def ofWeights (ws : Array Nat) : Except Error Huffman := do
  check (ws.all (· ≤ maxLog) && ws.size ≤ 255)
  let total := ws.foldl (fun t w => t + (1 <<< w) / 2) 0
  check (total ≠ 0)
  let log := Nat.log2 total + 1
  check (log ≤ maxLog)
  let rest := (1 <<< log) - total
  check (1 <<< Nat.log2 rest = rest)
  let ws := ws.push (Nat.log2 rest + 1)
  let ones := (ws.filter (· == 1)).size
  check (2 ≤ ones && ones % 2 = 0)
  let entries := (List.range' 1 log).foldl (fun entries w =>
    ws.size.fold (fun s _ entries =>
      if ws.getD s 0 = w then entries ++ Array.replicate (1 <<< (w - 1)) (s, log + 1 - w)
      else entries) entries) #[]
  return ⟨log, entries⟩

/-- Decodes weights by two states that take turns, until the stream is used up. -/
def weightsLoop (data : ByteArray) (t : Fse) :
    (fuel : Nat) → Array Nat → Backward → (a b : Nat) → Except Error (Array Nat)
  | 0, _, _, _, _ => .error .corrupt
  | fuel + 1, ws, s, a, b =>
    let e := t.get a
    let ws := ws.push e.symbol
    let (v, s) := s.read data e.bits
    if s.left < 0 then .ok (ws.push (t.get b).symbol)
    else weightsLoop data t fuel ws s b (e.base + v)

/-- The weights that stand as a state table and a backward stream between two offsets. -/
def codedWeights (data : ByteArray) (start stop : Nat) : Except Error (Array Nat) := do
  let (t, behind) ← Fse.readCounts data start stop 15 255
  let s ← Backward.ofBytes data behind stop
  let (a, s) := s.read data t.log
  let (b, s) := s.read data t.log
  check (0 ≤ s.left)
  weightsLoop data t 256 #[] s a b

/-- Reads a table at an offset; returns it with the offset behind it. -/
def readTable (data : ByteArray) (start stop : Nat) : Except Error (Huffman × Nat) := do
  check (start + 1 < stop)
  let head := byteAt data stop start
  if 128 ≤ head then
    let n := head - 127
    let behind := start + 1 + (n + 1) / 2
    check (behind ≤ stop)
    let ws := Array.ofFn fun i : Fin n =>
      let b := byteAt data stop (start + 1 + i.val / 2)
      if i.val % 2 = 0 then b / 16 else b % 16
    return (← ofWeights ws, behind)
  else
    let behind := start + 1 + head
    check (behind ≤ stop)
    let ws ← codedWeights data (start + 1) behind
    return (← ofWeights ws, behind)

/-! ### Literals -/

/-- Decodes `n` symbols; the stream has to end with the last. -/
def symbols (data : ByteArray) (t : Huffman) :
    (n : Nat) → Backward → ByteArray → Except Error ByteArray
  | 0, s, out => if s.left = 0 then .ok out else .error .corrupt
  | n + 1, s, out =>
    let (symbol, bits) := t.entries.getD (s.peek data t.log) (0, 0)
    let s := { s with left := s.left - bits }
    if s.left < 0 then .error .corrupt
    else symbols data t n s (out.push (UInt8.ofNat symbol))

/-- Decodes `n` literals from one stream, behind those already decoded. -/
def decode1 (data : ByteArray) (t : Huffman) (start stop n : Nat) (out : ByteArray) :
    Except Error ByteArray := do
  symbols data t n (← Backward.ofBytes data start stop) out

/-- Decodes `n` literals from four streams, of which the first three state their lengths. -/
def decode4 (data : ByteArray) (t : Huffman) (start stop n : Nat) : Except Error ByteArray := do
  check (start + 10 ≤ stop)
  let quarter := (n + 3) / 4
  check (3 * quarter ≤ n)
  let p₁ := start + 6
  let p₂ := p₁ + numberAt data stop start 2
  let p₃ := p₂ + numberAt data stop (start + 2) 2
  let p₄ := p₃ + numberAt data stop (start + 4) 2
  check (p₄ ≤ stop)
  let out ← decode1 data t p₁ p₂ quarter ByteArray.empty
  let out ← decode1 data t p₂ p₃ quarter out
  let out ← decode1 data t p₃ p₄ quarter out
  decode1 data t p₄ stop (n - 3 * quarter) out

end Huffman

end Lanewise.Zstd
