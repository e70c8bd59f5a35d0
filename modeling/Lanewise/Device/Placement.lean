import Lanewise.Text.Quoted

/-!
# Placement of lane stacks

The stacks of the lanes live in one slab for all lanes, in one slab for each group, or each on its
own. Results do not depend on the placement.

## Main definitions

* `Placement`, `Placement.parse`: placements and their names.
-/

namespace Lanewise

/-- Where the stacks of the lanes live. -/
inductive Placement
  /-- One slab for all lanes. -/
  | shared
  /-- One slab for each group. -/
  | grouped
  /-- Each stack on its own. -/
  | separate
deriving DecidableEq, Repr, Inhabited

namespace Placement

/-- Every placement, in the order of the numbering, which starts at zero. -/
def all : List Placement :=
  [shared, grouped, separate]

/-- The name of a placement. -/
def name : Placement → String
  | shared => "global"
  | grouped => "local"
  | separate => "private"

/-- The number of a placement. -/
def number : Placement → Int
  | shared => 0
  | grouped => 1
  | separate => 2

/-- The placement with a given number. -/
def ofNumber? (n : Int) : Option Placement :=
  all.find? (·.number == n)

/-- The name of a number; a number that is no placement is shown as it is. -/
def nameOf (n : Int) : String :=
  match ofNumber? n with
  | some p => p.name
  | none => s!"placement({n})"

/-- The placement with a given name, in any case. -/
def ofName? (s : String) : Option Placement :=
  all.find? (·.name == s.map Char.toLower)

/-- What is said about a name that is no placement. -/
def unknown (s : String) : String :=
  "unknown placement " ++ Text.quote s

/-- The placement with a given name, or what is wrong with the name. -/
def parse (s : String) : Except String Placement :=
  match ofName? s with
  | some p => .ok p
  | none => .error (unknown s)

end Placement

end Lanewise
