/-!
# Bit streams

Compressed data holds two kinds of bit streams over little-endian bytes. A *forward* stream is read
from its first bit on. A *backward* stream is read from its end towards its beginning; its last byte
is not zero and the highest bit set in it marks the end. Bits outside a stream read as zero.

## Main definitions

* `Zstd.Error`: why data cannot be decompressed.
* `Zstd.bitsAt`: bits at a position.
* `Zstd.Backward`: backward streams.
-/

namespace Lanewise.Zstd

/-- Why data cannot be decompressed. -/
inductive Error
  /-- The data asks for more room than there is. -/
  | tooLarge
  /-- The data is not well formed. -/
  | corrupt
deriving DecidableEq, Repr, Inhabited

/-- Refuses data that is not well formed. -/
def check (ok : Bool) : Except Error Unit :=
  if ok then .ok () else .error .corrupt

/-- The byte at an offset, zero from `stop` on. -/
@[inline] def byteAt (data : ByteArray) (stop i : Nat) : Nat :=
  if i < stop then (data.get! i).toNat else 0

/-- The little-endian number of `n` bytes at an offset, with zeros from `stop` on. -/
def numberAt (data : ByteArray) (stop i : Nat) : (n : Nat) → Nat
  | 0 => 0
  | n + 1 => byteAt data stop i + 256 * numberAt data stop (i + 1) n

/-- The `n` bits at bit position `at_` of the bytes from `start` up to `stop`. -/
def bitsAt (data : ByteArray) (start stop at_ n : Nat) : Nat :=
  (numberAt data stop (start + at_ / 8) ((at_ % 8 + n + 7) / 8) >>> (at_ % 8)) % (1 <<< n)

/-- A backward stream: the bytes from `start` up to `stop`, of which `left` bits are not read yet.
Reading more bits than there are leaves a negative number. -/
structure Backward where
  start : Nat
  stop : Nat
  left : Int
deriving Repr, Inhabited

namespace Backward

/-- The stream over the bytes from `start` up to `stop`. -/
def ofBytes (data : ByteArray) (start stop : Nat) : Except Error Backward :=
  let last := byteAt data stop (stop - 1)
  if start < stop ∧ last ≠ 0 then
    .ok ⟨start, stop, ((stop - start - 1) * 8 + Nat.log2 last : Nat)⟩
  else .error .corrupt

/-- Reads `n` bits. -/
@[inline] def read (s : Backward) (data : ByteArray) (n : Nat) : Nat × Backward :=
  let left := s.left - n
  let v :=
    if 0 ≤ left then bitsAt data s.start s.stop left.toNat n
    else bitsAt data s.start s.stop 0 s.left.toNat <<< (n - s.left.toNat)
  (v % (1 <<< n), { s with left })

/-- Looks at the next `n` bits. -/
@[inline] def peek (s : Backward) (data : ByteArray) (n : Nat) : Nat :=
  (s.read data n).1

end Backward

end Lanewise.Zstd
