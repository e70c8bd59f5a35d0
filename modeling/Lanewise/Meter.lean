/-!
# Step meters

A meter counts executed steps against an optional budget. A limit of zero means that there is no
budget. A request that the budget does not cover is refused and uses the budget up.

## Main definitions

* `Meter`, `Meter.ofLimit`, `Meter.consume`, `Meter.reset`.
-/

namespace Lanewise

/-- A count of steps and what is left of the budget. -/
structure Meter where
  limit : UInt64
  remaining : UInt64
  consumed : UInt64
deriving DecidableEq, Repr, Inhabited

namespace Meter

/-- The wording of a refusal. -/
def refusal : String := "step limit exceeded"

/-- A fresh meter. -/
def ofLimit (limit : UInt64) : Meter :=
  { limit, remaining := limit, consumed := 0 }

/-- Whether the meter has no budget. -/
def unlimited (m : Meter) : Bool :=
  m.limit == 0

/-- Records `n` steps. The flag says whether the budget covers them. -/
def consume (m : Meter) (n : UInt64) : Meter × Bool :=
  if m.unlimited then ({ m with consumed := m.consumed + n }, true)
  else if m.remaining < n then ({ m with remaining := 0 }, false)
  else ({ m with remaining := m.remaining - n, consumed := m.consumed + n }, true)

/-- The meter as it was at the start. -/
def reset (m : Meter) : Meter :=
  ofLimit m.limit

end Meter

end Lanewise
