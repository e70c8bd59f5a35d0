import Lanewise.Word

/-!
# Faults

A fault says why and where execution stopped. There are twelve kinds. A fault also carries what is
known about the instruction, the lane that raised it, and up to two remarks: a note that belongs to
the reason, and a detail that belongs to the place.

## Main definitions

* `Fault.Kind`, `Fault.Reason`, `Fault`: why execution stopped.
* `Fault.message`: the text of a fault.
-/

namespace Lanewise

namespace Fault

/-- The kinds of faults. -/
inductive Kind
  | unknownOpcode
  | opcodeNotAllowed
  | truncatedInstruction
  | ipOutOfRange
  | stepLimitExceeded
  | stackUnderflow
  | stackOverflow
  | stackIndexOutOfRange
  | heapIndexOutOfRange
  | heapSelectorOutOfRange
  | divisionByZero
  | malformedCallFrame
deriving DecidableEq, Repr, Inhabited

namespace Kind

/-- Every kind. -/
def all : List Kind :=
  [unknownOpcode, opcodeNotAllowed, truncatedInstruction, ipOutOfRange, stepLimitExceeded,
    stackUnderflow, stackOverflow, stackIndexOutOfRange, heapIndexOutOfRange,
    heapSelectorOutOfRange, divisionByZero, malformedCallFrame]

/-- The stable name of a kind. -/
def name : Kind → String
  | unknownOpcode => "unknown_opcode"
  | opcodeNotAllowed => "opcode_not_allowed"
  | truncatedInstruction => "truncated_instruction"
  | ipOutOfRange => "ip_out_of_range"
  | stepLimitExceeded => "step_limit_exceeded"
  | stackUnderflow => "stack_underflow"
  | stackOverflow => "stack_overflow"
  | stackIndexOutOfRange => "stack_index_out_of_range"
  | heapIndexOutOfRange => "heap_index_out_of_range"
  | heapSelectorOutOfRange => "heap_selector_out_of_range"
  | divisionByZero => "division_by_zero"
  | malformedCallFrame => "malformed_call_frame"

/-- The wording of a kind. -/
def text : Kind → String
  | unknownOpcode => "unknown opcode"
  | opcodeNotAllowed => "opcode not allowed in this mode"
  | truncatedInstruction => "truncated instruction"
  | ipOutOfRange => "instruction pointer out of range"
  | stepLimitExceeded => "step limit exceeded"
  | stackUnderflow => "stack underflow"
  | stackOverflow => "stack overflow"
  | stackIndexOutOfRange => "stack index out of range"
  | heapIndexOutOfRange => "heap index out of range"
  | heapSelectorOutOfRange => "heap selector out of range"
  | divisionByZero => "division by zero"
  | malformedCallFrame => "malformed call frame"

/-- The kind with a given name. -/
def ofName? (s : String) : Option Kind :=
  all.find? (·.name == s)

end Kind

/-- Why execution stopped: a kind, or a reason from elsewhere that has only a text. -/
inductive Reason
  | kind (k : Kind)
  | other (text : String)
deriving DecidableEq, Repr, Inhabited

namespace Reason

/-- The wording of a reason. -/
def text : Reason → String
  | kind k => k.text
  | other t => t

/-- The name of the kind, or the name that stands for all reasons from elsewhere. -/
def kindName : Reason → String
  | kind k => k.name
  | other _ => "unknown"

/-- The reason with a given kind name; a name that is no kind is its own text. -/
def ofName (s : String) : Reason :=
  match Kind.ofName? s with
  | some k => kind k
  | none => other s

end Reason

/-- The lane number of a machine that runs alone. -/
def noLane : Word := -1

end Fault

/-- Where and why execution stopped. -/
structure Fault where
  reason : Fault.Reason
  /-- What the reason adds to its wording. -/
  note : String := ""
  /-- The word of the opcode, zero when none was read. -/
  opcode : Word := 0
  mnemonic : String := ""
  ip : Int := 0
  lane : Word := Fault.noLane
  detail : String := ""
deriving DecidableEq, Repr, Inhabited

namespace Fault

/-- The reason with its note. -/
def reasonText (f : Fault) : String :=
  if f.note.isEmpty then f.reason.text else f.reason.text ++ ": " ++ f.note

/-- The name of the kind of a fault. -/
def kindName (f : Fault) : String :=
  f.reason.kindName

/-- The text of a fault: the lane if there is one, the reason, the place, and the detail. -/
def message (f : Fault) : String :=
  let place := if f.mnemonic.isEmpty then "ip " else f.mnemonic ++ " at ip "
  let core := f.reasonText ++ " (" ++ place ++ toString f.ip ++ ")"
  let core := if f.detail.isEmpty then core else core ++ ": " ++ f.detail
  if f.lane = noLane then core else "lane " ++ f.lane.text ++ ": " ++ core

end Fault

end Lanewise
