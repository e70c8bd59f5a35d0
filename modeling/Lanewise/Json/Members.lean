import Lanewise.Json.Basic
import Lanewise.Heap
import Lanewise.Text.Hex

/-!
# Members with defaults

Readers for objects in which everything may be left out: a member that is missing, or that is of
another type, has its zero value.

## Main definitions

* `Json.intAt`, `Json.natAt`, `Json.stringAt`, `Json.boolAt`, `Json.itemsAt`: members of plain
  types.
* `Json.wordsAt`, `Json.heapsAt`, `Json.bytesAt`: members that hold words, heaps and bytes.
* `Json.ofWords`, `Json.ofHeaps`: words and heaps as JSON.
-/

namespace Lanewise.Json

/-- A member, or `null`. -/
def valueAt (j : Json) (name : String) : Json :=
  (j.get? name).getD .null

/-- A whole number. -/
def intAt (j : Json) (name : String) : Int :=
  (j.valueAt name).int?.getD 0

/-- A whole number that is not negative; a negative one counts as zero. -/
def natAt (j : Json) (name : String) : Nat :=
  (j.intAt name).toNat

/-- A text. -/
def stringAt (j : Json) (name : String) : String :=
  (j.valueAt name).string?.getD ""

/-- A truth value. -/
def boolAt (j : Json) (name : String) : Bool :=
  (j.valueAt name).bool?.getD false

/-- The items of a list. -/
def itemsAt (j : Json) (name : String) : List Json :=
  (j.valueAt name).items?.getD []

/-- Whole numbers. -/
def intsAt (j : Json) (name : String) : List Int :=
  (j.itemsAt name).map fun x => x.int?.getD 0

/-- Texts. -/
def stringsAt (j : Json) (name : String) : List String :=
  (j.itemsAt name).map fun x => x.string?.getD ""

/-- A number of 64 bits. -/
def uint64At (j : Json) (name : String) : UInt64 :=
  UInt64.ofNat (j.natAt name)

/-- A word. -/
def wordAt (j : Json) (name : String) : Word :=
  Int32.ofInt (j.intAt name)

/-- The words of a list. -/
def toWords (j : Json) : Array Word :=
  ((j.items?.getD []).map fun x => Int32.ofInt (x.int?.getD 0)).toArray

/-- Words. -/
def wordsAt (j : Json) (name : String) : Array Word :=
  (j.valueAt name).toWords

/-- Heaps. -/
def heapsAt (j : Json) (name : String) : Array Heap :=
  ((j.itemsAt name).map toWords).toArray

/-- Bytes, written as hexadecimal digits. -/
def bytesAt (j : Json) (name : String) : ByteArray :=
  (Hex.decode? (j.stringAt name)).getD .empty

/-- A word as JSON. -/
def ofWord (w : Word) : Json :=
  .ofInt w.toInt

/-- Words as JSON. -/
def ofWords (ws : Array Word) : Json :=
  .array (ws.toList.map ofWord)

/-- Heaps as JSON. -/
def ofHeaps (hs : Array Heap) : Json :=
  .array (hs.toList.map ofWords)

/-- Texts as JSON. -/
def ofStrings (ss : List String) : Json :=
  .array (ss.map .string)

end Lanewise.Json
