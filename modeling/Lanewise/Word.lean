/-!
# Words

Programs, stacks and heaps hold signed 32-bit words. Arithmetic on words wraps around.

## Main definitions

* `Word`, `Word.bytes`, `Word.ofBytes`: words and their little-endian bytes.
-/

namespace Lanewise

/-- A signed 32-bit word. -/
abbrev Word := Int32

namespace Word

/-- The least word. -/
def least : Int := -0x80000000

/-- The greatest word. -/
def greatest : Int := 0x7fffffff

/-- The decimal text of a word. -/
def text (w : Word) : String :=
  toString w.toInt

/-- The texts of several words with a blank between neighbours. -/
def joined (ws : List Word) : String :=
  " ".intercalate (ws.map text)

/-- Appends the four bytes of a word, least significant first. -/
def pushBytes (out : ByteArray) (w : Word) : ByteArray :=
  let u := w.toUInt32
  (((out.push u.toUInt8).push (u >>> 8).toUInt8).push (u >>> 16).toUInt8).push (u >>> 24).toUInt8

/-- The word with the given bytes, least significant first. -/
def ofBytes (b₀ b₁ b₂ b₃ : UInt8) : Word :=
  (b₀.toUInt32 ||| (b₁.toUInt32 <<< 8) ||| (b₂.toUInt32 <<< 16) ||| (b₃.toUInt32 <<< 24)).toInt32

end Word

end Lanewise
