import Lanewise.Toml.Statement

/-!
# Documents of TOML

The statements of a text build one table. A table that came about only because a longer key passed
through it may be given a heading once; anything else is defined at most once, except that a list
takes the place of what was there before.

## Main definitions

* `Toml.Value`, `Toml.Table`: values and tables.
* `Toml.Builder`: a table under construction.
* `Toml.parse?`: the table of a text.
-/

namespace Lanewise.Toml

/-- A value. Numbers with a fraction and points in time are not told apart. -/
inductive Value
  | text (s : String)
  | integer (n : Int)
  | flag (b : Bool)
  | other
  | list (items : List Value)
  | table (members : List (String × Value))
  /-- A list of tables that was made by headings. -/
  | tables (items : List (List (String × Value)))
deriving Repr, Inhabited

/-- A table. -/
abbrev Table := List (String × Value)

namespace Table

/-- A table with a member changed, or added at the end. -/
def set (t : Table) (name : String) (v : Value) : Table :=
  if t.any (·.1 == name) then t.map fun m => if m.1 == name then (name, v) else m
  else t ++ [(name, v)]

/-- Changes the table that a key leads to; in a list of tables it leads to the last. Nothing is
changed if the key leads elsewhere. -/
def updateAt (f : Table → Option Table) : Key → Table → Option Table
  | [], t => f t
  | name :: key, t =>
    match t.lookup name with
    | some (.table inner) => (updateAt f key inner).map fun inner => t.set name (.table inner)
    | some (.tables ts) =>
      match ts.getLast? with
      | some inner =>
        (updateAt f key inner).map fun inner => t.set name (.tables (ts.dropLast ++ [inner]))
      | none => none
    | _ => none

end Table

/-- A table under construction. -/
structure Builder where
  root : Table := []
  /-- The tables that no statement has named by themselves. -/
  implicit : List Key := []
  /-- The keys whose last value was a list. -/
  lists : List Key := []
deriving Inhabited

namespace Builder

/-- Notes that a table has not been named by itself. -/
def addImplicit (b : Builder) (key : Key) : Builder :=
  { b with implicit := key :: b.implicit }

/-- Notes whether the value of a key is a list. -/
def noteKind (b : Builder) (key : Key) (isList : Bool) : Builder :=
  let lists := b.lists.filter (· != key)
  { b with lists := if isList then key :: lists else lists }

/-- Whether a key has a value. -/
def holds (b : Builder) (context : Key) (name : String) : Bool :=
  (b.root.updateAt (fun t => if t.any (·.1 == name) then some t else none) context).isSome

/-- The table with a member set, whatever was there before. -/
def assign (b : Builder) (context : Key) (name : String) (v : Value) : Option Builder :=
  (b.root.updateAt (fun t => some (Table.set t name v)) context).map fun root => { b with root }

/-- Gives a key a value. -/
def define (b : Builder) (key : Key) (v : Value) : Option Builder :=
  let context := key.dropLast
  let name := key.getLast?.getD ""
  let named := { b with implicit := b.implicit.filter (· != key) }
  if !b.holds context name then b.assign context name v
  else if b.lists.contains key then named.assign context name v
  else if b.implicit.contains key then some named
  else none

/-- Makes sure that every key in front of a key leads to a table. -/
def openParents (b : Builder) : (done rest : Key) → Option Builder
  | _, [] | _, [_] => some b
  | done, name :: rest => do
    let here := done ++ [name]
    let b ← if b.holds done name then some b else (b.addImplicit here).assign done name (.table [])
    let _ ← b.root.updateAt some here
    openParents b here rest

/-- Opens a table, or a further element of a list of tables. -/
def openTable (b : Builder) (key : Key) (element : Bool) : Option Builder := do
  let b ← b.openParents [] key
  if element then
    let name := key.getLast?.getD ""
    let root ← b.root.updateAt (fun t =>
      match t.lookup name with
      | none => some (t.set name (.tables [[]]))
      | some (.tables ts) => some (t.set name (.tables (ts ++ [[]])))
      | some _ => none) key.dropLast
    return { b with root }
  else b.define key (.table [])

/-- Opens the tables that the parts of a key in front of its last pass through. -/
def passThrough (b : Builder) (context : Key) : Key → Option Builder
  | [] | [_] => some b
  | name :: rest => do
    let here := context ++ [name]
    let b ← (b.addImplicit here).openTable here false
    passThrough b here rest

/-- A table in braces with a member added; the parts of the key in front of the last are tables. -/
def addMember (t : Table) : Key → Value → Option Table
  | [], _ => some t
  | [name], v => some (t.set name v)
  | name :: rest, v =>
    match t.lookup name with
    | none => (addMember [] rest v).map fun inner => t.set name (.table inner)
    | some (.table inner) => (addMember inner rest v).map fun inner => t.set name (.table inner)
    | some _ => none

mutual

/-- The value of an expression that stands at a key, or in a list there. -/
def evaluate (b : Builder) (key : Key) (inList : Bool) : Expr → Option (Value × Builder)
  | .text s => some (.text s, b)
  | .integer n => some (.integer n, b)
  | .flag v => some (.flag v, b)
  | .float | .time => some (.other, b)
  | .list items => do
    let (vs, b) ← evaluateItems (b.noteKind key true) key items
    return (.list vs, b)
  | .table members => do
    let b ← (b.addImplicit key).openTable key inList
    let (t, b) ← evaluateMembers b key [] members
    return (.table t, b)

/-- The values of the items of a list. -/
def evaluateItems (b : Builder) (key : Key) : List Expr → Option (List Value × Builder)
  | [] => some ([], b)
  | x :: xs => do
    let (v, b) ← evaluate b key true x
    let (vs, b) ← evaluateItems b key xs
    return (v :: vs, b)

/-- The members of a table in braces, after those done so far. -/
def evaluateMembers (b : Builder) (context : Key) (done : Table) :
    List (Key × Expr) → Option (Table × Builder)
  | [] => some (done, b)
  | (key, x) :: ms => do
    let here := context ++ key
    let b ← b.passThrough context key
    let (v, b) ← evaluate b here false x
    let b ← b.define here v
    let b := b.noteKind here (v matches .list _)
    evaluateMembers b context (← addMember done key v) ms

end

/-- The effect of one statement below the last heading; the answer has the heading in force after
it. -/
def apply (b : Builder) (heading : Key) : Statement → Option (Builder × Key)
  | .table key => do
    let b ← b.openTable key false
    return (b.noteKind key false, key)
  | .element key => do
    let b ← b.openTable key true
    return (b.noteKind key false, key)
  | .member key x => do
    let here := heading ++ key
    let b ← b.passThrough heading key
    let (v, b) ← b.evaluate here false x
    let b ← b.define here v
    return (b.noteKind here (v matches .list _), heading)

/-- The effect of statements one after another. -/
def applyAll (b : Builder) (heading : Key) : List Statement → Option Builder
  | [] => some b
  | s :: ss => do
    let (b, heading) ← b.apply heading s
    applyAll b heading ss

end Builder

/-- The table of a text. -/
def parse? (text : String) : Option Table := do
  let b ← Builder.applyAll {} [] (← statements? text)
  return b.root

end Lanewise.Toml
