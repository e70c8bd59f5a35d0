import Lanewise.Cbor.Parser
import Lanewise.Duration
import Lanewise.Json.Basic
import Lanewise.ProgramId
import Lanewise.Timestamp
import Lanewise.Word

/-!
# Records of runs

A record says which program ran, how, when, and what came of it. Mode and status are texts, because
a record that was stored elsewhere may use other words for them; every status except `ok` counts as
a fault.

## Main definitions

* `Run.Mode`, `Run.Status`: the words that this library stores.
* `Run.Record`: a record, with its CBOR and JSON forms.
* `Run.Record.reread`, `Run.Record.Legible`: what is left of a record that is written and read back.
-/

namespace Lanewise.Run

/-- The engine of a run. -/
inductive Mode
  | sequential
  | lanes
deriving DecidableEq, Repr, Inhabited

/-- The word for a mode. -/
def Mode.name : Mode → String
  | sequential => "sequential"
  | lanes => "lanes"

/-- The outcome of a run. -/
inductive Status
  | ok
  | faulted
  /-- The run was refused before any lane started. -/
  | failed
deriving DecidableEq, Repr, Inhabited

/-- The word for a status. -/
def Status.name : Status → String
  | ok => "ok"
  | faulted => "faulted"
  | failed => "failed"

/-- A row of printed words; a lane that printed nothing has no row. -/
abbrev Row := Option (List Word)

/-- The row of a lane. -/
def Row.ofPrinted (printed : Array Word) : Row :=
  if printed.isEmpty then none else some printed.toList

/-- The JSON form of a row. -/
def Row.json : Row → Json
  | none => .null
  | some ws => .array (ws.map fun w => .ofInt w.toInt)

/-- One stored run. -/
structure Record where
  id : String := ""
  /-- The position in the order of storing. -/
  seq : UInt64 := 0
  program : ProgramId := .zero
  mode : String := ""
  status : String := ""
  platform : String := ""
  placement : String := ""
  lanes : Int64 := 0
  groupSize : Int64 := 0
  started : Timestamp := .zero
  /-- How long the run took. -/
  elapsed : Duration := 0
  steps : UInt64 := 0
  printed : List Row := []
  error : String := ""
deriving DecidableEq, Repr, Inhabited

namespace Record

/-- Whether a record counts as a fault. -/
def isFault (r : Record) : Bool :=
  r.status != Status.ok.name

/-! ### CBOR -/

/-- The encoding of a row. -/
def rowCbor (r : Row) : Cbor :=
  .ofListOrNull (fun w => .ofInt w.toInt) r

/-- The encoding of a point in time. -/
def timeCbor (t : Timestamp) : Cbor :=
  if t.isZero then .null else .ofString t.text

/-- The encoding of a record. -/
def cbor (r : Record) : Cbor :=
  .ofFields [
    Cbor.present 1 (.ofString r.id),
    Cbor.present 2 (.uint r.seq.toNat),
    Cbor.present 3 (.bytes r.program.bytes),
    Cbor.present 4 (.ofString r.mode),
    Cbor.present 5 (.ofString r.status),
    Cbor.omitted r.platform.isEmpty 6 (.ofString r.platform),
    Cbor.omitted r.placement.isEmpty 7 (.ofString r.placement),
    Cbor.omitted (r.lanes == 0) 8 (.ofInt r.lanes.toInt),
    Cbor.omitted (r.groupSize == 0) 9 (.ofInt r.groupSize.toInt),
    Cbor.present 10 (timeCbor r.started),
    Cbor.present 11 (.ofInt r.elapsed.toInt),
    Cbor.present 12 (.uint r.steps.toNat),
    Cbor.omitted r.printed.isEmpty 13 (.array (r.printed.map rowCbor)),
    Cbor.omitted r.error.isEmpty 14 (.ofString r.error)]

/-- The value of a binary fraction with one sign bit and the given numbers of exponent and fraction
bits, if it is finite. -/
def finite? (exponentBits fractionBits bits : Nat) : Option Float :=
  let fraction := bits % (1 <<< fractionBits)
  let exponent := (bits >>> fractionBits) % (1 <<< exponentBits)
  let bias : Int := ((1 <<< (exponentBits - 1) : Nat) : Int) - 1
  if exponent = (1 <<< exponentBits) - 1 then none
  else
    let m := if exponent = 0 then fraction else (1 <<< fractionBits) + fraction
    let e : Int := (if exponent = 0 then 1 else exponent) - bias - fractionBits
    let magnitude := Float.scaleB (Float.ofNat m) e
    some (if (bits >>> (exponentBits + fractionBits)) % 2 = 1 then -magnitude else magnitude)

/-- The point in time that lies a number of seconds after the start of 1970. -/
def timeOfFloat (f : Float) : Timestamp :=
  let whole := if f < 0 then f.ceil else f.floor
  .ofNanos (whole.toInt64.toInt * Timestamp.second + ((f - whole) * 1e9).toInt64.toInt)

/-- A value without any tags around it. -/
def bare : Cbor → Cbor
  | .tag _ v => bare v
  | v => v

/-- Whether the outermost tag of a value, if it has one, fits what it stands around. -/
def fits : Cbor → Bool
  | .tag n v => Cbor.tagFits n v
  | _ => true

/-- A point in time: a text, or a number of seconds. Tags say nothing, but the outermost one has to
fit. -/
def time? (v : Cbor) : Option Timestamp :=
  if !fits v then none
  else match bare v with
    | .uint n => if n < 0x8000000000000000 then some (.ofSeconds n) else none
    | .nint n => if n < 0x8000000000000000 then some (.ofSeconds (.negSucc n)) else none
    | .float width bits =>
      let f? := if width = 2 then finite? 5 10 bits else if width = 4 then finite? 8 23 bits
        else finite? 11 52 bits
      some ((f?.map timeOfFloat).getD .zero)
    | .simple n =>
      if n = 22 ∨ n = 23 then some .zero
      else if n < 20 ∨ 32 ≤ n then some (.ofSeconds n)
      else none
    | v => v.string?.bind fun s => (Timestamp.parse s).toOption

/-- The record with a given encoding. -/
def ofCbor? (v : Cbor) : Option Record := do
  let ms ← v.message?
  return {
    id := ← Cbor.field ms 1 Cbor.string? ""
    seq := ← Cbor.field ms 2 Cbor.uint64? 0
    program := ← Cbor.field ms 3 (fun v => (v.bytesUpTo? (some 32)).map .ofFront) .zero
    mode := ← Cbor.field ms 4 Cbor.string? ""
    status := ← Cbor.field ms 5 Cbor.string? ""
    platform := ← Cbor.field ms 6 Cbor.string? ""
    placement := ← Cbor.field ms 7 Cbor.string? ""
    lanes := ← Cbor.field ms 8 Cbor.int64? 0
    groupSize := ← Cbor.field ms 9 Cbor.int64? 0
    started := ← Cbor.field ms 10 time? .zero
    elapsed := ← Cbor.field ms 11 Cbor.int64? 0
    steps := ← Cbor.field ms 12 Cbor.uint64? 0
    printed := ← Cbor.field ms 13 (Cbor.list? (Cbor.listOrNull? Cbor.word? 0) none) []
    error := ← Cbor.field ms 14 Cbor.string? "" }

/-! ### Reading back -/

/-- Whether the lists of a record have as many items as a message may have. The writer takes lists
of any length. -/
def short (r : Record) : Bool :=
  r.printed.length ≤ Cbor.maxItems && r.printed.all fun row => (row.getD []).length ≤ Cbor.maxItems

/-- Why a record that was written cannot be read back. -/
inductive Defect
  /-- A list has more items than a message may have. -/
  | tooMany
  /-- The text of the start is not the text of a point in time. -/
  | time (text : String) (e : Timestamp.Error)
deriving DecidableEq, Repr

/-- The wording of a defect. -/
def Defect.message : Defect → String
  | tooMany => Cbor.tooManyText
  | time text e => "cbor: cannot set " ++ text ++ " for time.Time: " ++ e.message text

/-- What a record is once it has been written and read back: the start may be lost, or not be the
same any more, as its text has to tell it. -/
def reread (r : Record) : Except Defect Record :=
  if !r.short then .error .tooMany
  else if r.started.isZero then .ok { r with started := .zero }
  else match Timestamp.parse r.started.text with
    | .ok t => .ok { r with started := t }
    | .error e => .error (.time r.started.text e)

/-- Why a record cannot be read back, if it cannot. -/
def defect? (r : Record) : Option Defect :=
  match r.reread with
  | .ok _ => none
  | .error why => some why

/-- A record that is the same once it has been written and read back. -/
structure Legible (r : Record) : Prop where
  short : r.short = true
  shown : r.started.Shown

instance (r : Record) : Decidable r.Legible :=
  decidable_of_iff (r.short = true ∧ r.started.Shown)
    ⟨fun ⟨h₁, h₂⟩ => ⟨h₁, h₂⟩, fun ⟨h₁, h₂⟩ => ⟨h₁, h₂⟩⟩

/-! ### JSON -/

/-- A field that is left out in a given case. -/
private def unlessEmpty (absent : Bool) (name : String) (v : Json) : List (String × Json) :=
  if absent then [] else [(name, v)]

/-- The JSON form of a record. -/
def json (r : Record) : Json :=
  .object (
    [("id", .string r.id), ("seq", .ofNat r.seq.toNat), ("program", .string r.program.text),
      ("mode", .string r.mode), ("status", .string r.status)] ++
    unlessEmpty r.platform.isEmpty "platform" (.string r.platform) ++
    unlessEmpty r.placement.isEmpty "placement" (.string r.placement) ++
    unlessEmpty (r.lanes == 0) "lanes" (.ofInt r.lanes.toInt) ++
    unlessEmpty (r.groupSize == 0) "groupSize" (.ofInt r.groupSize.toInt) ++
    [("started", .string r.started.text), ("elapsedNs", .ofInt r.elapsed.toInt),
      ("steps", .ofNat r.steps.toNat)] ++
    unlessEmpty r.printed.isEmpty "printed" (.array (r.printed.map Row.json)) ++
    unlessEmpty r.error.isEmpty "error" (.string r.error))

end Record

end Lanewise.Run
