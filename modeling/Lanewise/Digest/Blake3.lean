/-!
# The BLAKE3 digest

The input is cut into chunks of 1024 bytes and each chunk into blocks of 64. A chunk is folded
block by block into a chaining value; chaining values are joined pairwise in a binary tree whose
left subtrees are complete. The digest is the first half of the output of the topmost node, which
alone is marked as the root.

## Main definitions

* `Blake3.digest`: the 32-byte digest of a byte sequence.
-/

namespace Lanewise.Blake3

/-- A block of sixteen words, and also the working state of the compression function. -/
abbrev Block := Vector UInt32 16

/-- A chaining value. -/
abbrev Chain := Vector UInt32 8

/-- The initial chaining value. -/
def start : Chain :=
  #v[0x6A09E667, 0xBB67AE85, 0x3C6EF372, 0xA54FF53A, 0x510E527F, 0x9B05688C, 0x1F83D9AB, 0x5BE0CD19]

/-- A rotation to the right by `k` bits, for `0 < k < 32`. -/
@[inline] def rotate (x : UInt32) (k : UInt32) : UInt32 :=
  (x >>> k) ||| (x <<< (32 - k))

/-- Mixes two message words into one column or diagonal of the state. -/
@[inline] def mix (s : Block) (a b c d : Fin 16) (x y : UInt32) : Block :=
  let va := s[a] + s[b] + x
  let vd := rotate (s[d] ^^^ va) 16
  let vc := s[c] + vd
  let vb := rotate (s[b] ^^^ vc) 12
  let va := va + vb + y
  let vd := rotate (vd ^^^ va) 8
  let vc := vc + vd
  let vb := rotate (vb ^^^ vc) 7
  (((s.set a va).set b vb).set c vc).set d vd

/-- One round: the four columns, then the four diagonals. -/
def round (s m : Block) : Block :=
  let s := mix s 0 4 8 12 m[0] m[1]
  let s := mix s 1 5 9 13 m[2] m[3]
  let s := mix s 2 6 10 14 m[4] m[5]
  let s := mix s 3 7 11 15 m[6] m[7]
  let s := mix s 0 5 10 15 m[8] m[9]
  let s := mix s 1 6 11 12 m[10] m[11]
  let s := mix s 2 7 8 13 m[12] m[13]
  mix s 3 4 9 14 m[14] m[15]

/-- The order of the message words in the next round. -/
def permute (m : Block) : Block :=
  #v[m[2], m[6], m[3], m[10], m[7], m[0], m[4], m[13],
     m[1], m[11], m[12], m[5], m[9], m[14], m[15], m[8]]

/-- The given number of rounds, permuting the message between them. -/
def rounds : Nat → (s m : Block) → Block
  | 0, s, _ => s
  | n + 1, s, m => rounds n (round s m) (permute m)

/-- A node of the tree: what the compression function is applied to. -/
structure Node where
  chain : Chain
  block : Block
  counter : UInt64
  length : UInt32
  flags : UInt32

/-- Marks of a node. -/
def flagChunkStart : UInt32 := 1
@[inherit_doc flagChunkStart] def flagChunkEnd : UInt32 := 2
@[inherit_doc flagChunkStart] def flagParent : UInt32 := 4
@[inherit_doc flagChunkStart] def flagRoot : UInt32 := 8

/-- The first half of the compression output under additional marks. -/
def Node.compress (n : Node) (marks : UInt32) : Chain :=
  let v := n.chain
  let s : Block := #v[v[0], v[1], v[2], v[3], v[4], v[5], v[6], v[7],
    0x6A09E667, 0xBB67AE85, 0x3C6EF372, 0xA54FF53A,
    n.counter.toUInt32, (n.counter >>> 32).toUInt32, n.length, n.flags ||| marks]
  let s := rounds 7 s n.block
  #v[s[0] ^^^ s[8], s[1] ^^^ s[9], s[2] ^^^ s[10], s[3] ^^^ s[11],
     s[4] ^^^ s[12], s[5] ^^^ s[13], s[6] ^^^ s[14], s[7] ^^^ s[15]]

/-- The byte at an offset; past the end there are zeros. -/
@[inline] def byteAt (data : ByteArray) (stop i : Nat) : UInt32 :=
  if i < stop then (data.get! i).toUInt32 else 0

/-- The little-endian word at an offset; bytes from `stop` on count as zero. -/
def wordAt (data : ByteArray) (stop i : Nat) : UInt32 :=
  byteAt data stop i ||| (byteAt data stop (i + 1) <<< 8) ||| (byteAt data stop (i + 2) <<< 16) |||
    (byteAt data stop (i + 3) <<< 24)

/-- The block at an offset; bytes from `stop` on count as zero. -/
def blockAt (data : ByteArray) (stop i : Nat) : Block :=
  Vector.ofFn fun k => wordAt data stop (i + 4 * k.val)

/-- The last block of the chunk that covers `lo` up to `hi`, after `n` earlier blocks. -/
def chunkFrom (data : ByteArray) (index lo hi : Nat) : (blocks : Nat) → Chain → Node
  | 0, chain =>
    let first := if hi ≤ lo + 64 then flagChunkStart else 0
    let at_ := lo + 64 * ((hi - lo - 1) / 64)
    { chain, block := blockAt data hi at_, counter := UInt64.ofNat index,
      length := UInt32.ofNat (hi - at_), flags := first ||| flagChunkEnd }
  | n + 1, chain =>
    let done := (hi - lo - 1) / 64 - (n + 1)
    let node : Node :=
      { chain, block := blockAt data hi (lo + 64 * done), counter := UInt64.ofNat index,
        length := 64, flags := if done = 0 then flagChunkStart else 0 }
    chunkFrom data index lo hi n (node.compress 0)

/-- The node of the chunk with a given index. -/
def chunkNode (data : ByteArray) (index : Nat) : Node :=
  let lo := 1024 * index
  let hi := min (lo + 1024) data.size
  chunkFrom data index lo hi ((hi - lo - 1) / 64) start

/-- The node that joins two chaining values. -/
def parentNode (l r : Chain) : Node :=
  { chain := start
    block := #v[l[0], l[1], l[2], l[3], l[4], l[5], l[6], l[7],
      r[0], r[1], r[2], r[3], r[4], r[5], r[6], r[7]]
    counter := 0, length := 64, flags := flagParent }

/-- The largest power of two below `n`, for `n ≥ 2`. -/
def leftSize (n : Nat) : Nat :=
  1 <<< Nat.log2 (n - 1)

theorem leftSize_pos (n : Nat) : 0 < leftSize n := by
  rw [leftSize, Nat.one_shiftLeft]
  exact Nat.two_pow_pos _

theorem leftSize_lt {n : Nat} (h : 1 < n) : leftSize n < n := by
  rw [leftSize, Nat.one_shiftLeft]
  exact Nat.lt_of_le_of_lt (Nat.log2_self_le (by omega)) (by omega)

/-- The topmost node over `n` chunks from a given index on. -/
def subtree (data : ByteArray) (index n : Nat) : Node :=
  if _h : 1 < n then
    let k := leftSize n
    let l := subtree data index k
    let r := subtree data (index + k) (n - k)
    parentNode (l.compress 0) (r.compress 0)
  else
    chunkNode data index
termination_by n
decreasing_by
  · exact leftSize_lt (by assumption)
  · have := leftSize_pos n; omega

/-- The four bytes of a word, least significant first. -/
def pushWord (out : ByteArray) (w : UInt32) : ByteArray :=
  (((out.push w.toUInt8).push (w >>> 8).toUInt8).push (w >>> 16).toUInt8).push (w >>> 24).toUInt8

/-- The 32-byte digest. -/
def digest (data : ByteArray) : ByteArray :=
  let root := subtree data 0 ((data.size + 1023) / 1024)
  (root.compress flagRoot).foldl pushWord ByteArray.empty

end Lanewise.Blake3
