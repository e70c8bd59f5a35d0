/-!
# The XXH64 checksum

Four accumulators take 32 bytes at a time; what is left over is mixed in by words of eight and four
bytes and by single bytes.

## Main definitions

* `XxHash64.checksum`: the checksum of a byte sequence from a position on.
-/

namespace Lanewise.XxHash64

/-- The multipliers of the mixing steps. -/
def prime₁ : UInt64 := 0x9E3779B185EBCA87
@[inherit_doc prime₁] def prime₂ : UInt64 := 0xC2B2AE3D27D4EB4F
@[inherit_doc prime₁] def prime₃ : UInt64 := 0x165667B19E3779F9
@[inherit_doc prime₁] def prime₄ : UInt64 := 0x85EBCA77C2B2AE63
@[inherit_doc prime₁] def prime₅ : UInt64 := 0x27D4EB2F165667C5

/-- A rotation to the left by `k` bits, for `0 < k < 64`. -/
@[inline] def rotate (x k : UInt64) : UInt64 :=
  (x <<< k) ||| (x >>> (64 - k))

/-- Mixes a word into an accumulator. -/
def round (acc word : UInt64) : UInt64 :=
  rotate (acc + word * prime₂) 31 * prime₁

/-- Mixes an accumulator into the checksum. -/
def merge (h acc : UInt64) : UInt64 :=
  (h ^^^ round 0 acc) * prime₁ + prime₄

/-- The byte at an offset. -/
@[inline] def byteAt (data : ByteArray) (i : Nat) : UInt64 :=
  (data.get! i).toUInt64

/-- The little-endian word of `n` bytes at an offset. -/
def wordAt (data : ByteArray) (i : Nat) : (n : Nat) → UInt64
  | 0 => 0
  | n + 1 => wordAt data i n ||| (byteAt data (i + n) <<< UInt64.ofNat (8 * n))

/-- The four accumulators. -/
structure Lanes where
  a : UInt64
  b : UInt64
  c : UInt64
  d : UInt64

/-- Takes `n` stripes of 32 bytes from an offset on. -/
def stripes (data : ByteArray) : (n i : Nat) → Lanes → Lanes
  | 0, _, l => l
  | n + 1, i, l =>
    stripes data n (i + 32)
      ⟨round l.a (wordAt data i 8), round l.b (wordAt data (i + 8) 8),
        round l.c (wordAt data (i + 16) 8), round l.d (wordAt data (i + 24) 8)⟩

/-- Mixes `n` words of eight bytes. -/
def words8 (data : ByteArray) : (n i : Nat) → UInt64 → UInt64
  | 0, _, h => h
  | n + 1, i, h =>
    words8 data n (i + 8) (rotate (h ^^^ round 0 (wordAt data i 8)) 27 * prime₁ + prime₄)

/-- Mixes `n` words of four bytes. -/
def words4 (data : ByteArray) : (n i : Nat) → UInt64 → UInt64
  | 0, _, h => h
  | n + 1, i, h =>
    words4 data n (i + 4) (rotate (h ^^^ (wordAt data i 4 * prime₁)) 23 * prime₂ + prime₃)

/-- Mixes `n` single bytes. -/
def bytes (data : ByteArray) : (n i : Nat) → UInt64 → UInt64
  | 0, _, h => h
  | n + 1, i, h => bytes data n (i + 1) (rotate (h ^^^ (byteAt data i * prime₅)) 11 * prime₁)

/-- The final mixing. -/
def avalanche (h : UInt64) : UInt64 :=
  let h := (h ^^^ (h >>> 33)) * prime₂
  let h := (h ^^^ (h >>> 29)) * prime₃
  h ^^^ (h >>> 32)

/-- The checksum of the bytes from an offset on. -/
def checksum (data : ByteArray) (start : Nat) : UInt64 :=
  let n := data.size - start
  let k := n / 32
  let h :=
    if k = 0 then prime₅
    else
      let l := stripes data k start ⟨prime₁ + prime₂, prime₂, 0, 0 - prime₁⟩
      let h := rotate l.a 1 + rotate l.b 7 + rotate l.c 12 + rotate l.d 18
      merge (merge (merge (merge h l.a) l.b) l.c) l.d
  let h := h + UInt64.ofNat n
  let i := start + 32 * k
  let r := n % 32
  let h := words8 data (r / 8) i h
  let i := i + 8 * (r / 8)
  let h := words4 data (r % 8 / 4) i h
  let i := i + 4 * (r % 8 / 4)
  avalanche (bytes data (r % 4) i h)

end Lanewise.XxHash64
