import Lanewise.Yaml.Token

/-!
# Nodes

The tokens of a document describe one node: a scalar, a sequence or a mapping. Where a node may be
left out, an empty bare text stands for it.

## Main definitions

* `Yaml.Node`: the nodes.
* `Yaml.parse?`: the node of the first document of a text.
-/

namespace Lanewise.Yaml

/-- The nodes. -/
inductive Node
  /-- A text, whether it is bare, and its tag. -/
  | scalar (text : String) (bare : Bool) (tag : String)
  | sequence (items : List Node)
  | mapping (members : List (Node × Node))
  /-- Another name for a node. -/
  | alias (name : String) (target : Node)
deriving Repr, Inhabited

/-- What stands for a node that is left out. -/
def Node.empty (tag : String := "") : Node :=
  .scalar "" true tag

/-- The nodes that have been given a name. -/
abbrev Anchors := List (String × Node)

/-- A node with the tokens behind it and the names given so far. -/
abbrev Parsed := Node × List Token × Anchors

/-- The anchor and the tag in front of a node, in either order. -/
def properties? : List Token → Option (String × String × List Token)
  | .anchor a :: .tag t :: ts => some (a, t, ts)
  | .tag t :: .anchor a :: ts => some (a, t, ts)
  | .anchor a :: ts => some (a, "", ts)
  | .tag t :: ts => some ("", t, ts)
  | _ => none

/-- Whether a part of a mapping ends before a token. -/
def endsPart : Token → Bool
  | .key | .value | .blockEnd => true
  | _ => false

/-- Whether an item of a sequence that is not indented ends before a token. -/
def endsItem (t : Token) : Bool :=
  t == .item || endsPart t

mutual

/-- A node. By indentation a collection may start only if `block` says so, and a sequence may stand
at the indentation of its mapping only if `flush` says so. -/
def node? (block flush : Bool) : (fuel : Nat) → Anchors → List Token → Option Parsed
  | 0, _, _ => none
  | _, env, .alias name :: ts => (env.lookup name).map fun n => (.alias name n, ts, env)
  | fuel + 1, env, ts =>
    match properties? ts with
    | some (anchor, tag, ts) => do
      let (n, ts, env) ← match content? block flush fuel env tag ts with
        | some r => some r
        | none => if startsContent block flush ts then none else some (.empty tag, ts, env)
      return (n, ts, if anchor == "" then env else (anchor, n) :: env)
    | none => content? block flush fuel env "" ts

/-- The content of a node behind its properties. -/
def content? (block flush : Bool) :
    (fuel : Nat) → Anchors → (tag : String) → List Token → Option Parsed
  | 0, _, _, _ => none
  | fuel + 1, env, tag, ts =>
    match ts with
    | .scalar text bare :: ts => some (.scalar text bare tag, ts, env)
    | .flowSequence :: ts => flowItems? fuel env true [] ts
    | .flowMapping :: ts => flowMembers? fuel env true [] ts
    | .blockSequence :: ts => if block then blockItems? fuel env [] ts else none
    | .blockMapping :: ts => if block then blockMembers? fuel env [] ts else none
    | .item :: _ => if flush then flushItems? fuel env [] ts else none
    | _ => none

/-- Whether tokens start the content of a node. -/
def startsContent (block flush : Bool) : List Token → Bool
  | .scalar .. :: _ | .flowSequence :: _ | .flowMapping :: _ | .unreadable :: _ | [] => true
  | .blockSequence :: _ | .blockMapping :: _ => block
  | .item :: _ => flush
  | _ => false

/-- The items of a sequence by indentation. -/
def blockItems? : (fuel : Nat) → Anchors → List Node → List Token → Option Parsed
  | 0, _, _, _ => none
  | _, env, done, .blockEnd :: ts => some (.sequence done.reverse, ts, env)
  | fuel + 1, env, done, .item :: ts => do
    let (n, ts, env) ← match ts with
      | .item :: _ | .blockEnd :: _ => some (.empty, ts, env)
      | _ => node? true false fuel env ts
    blockItems? fuel env (n :: done) ts
  | _, _, _, _ => none

/-- The items of a sequence that is not indented. -/
def flushItems? : (fuel : Nat) → Anchors → List Node → List Token → Option Parsed
  | 0, _, _, _ => none
  | fuel + 1, env, done, .item :: ts => do
    let (n, ts, env) ← if ts.head?.any endsItem then some (.empty, ts, env)
      else node? true false fuel env ts
    flushItems? fuel env (n :: done) ts
  | _, env, done, ts => some (.sequence done.reverse, ts, env)

/-- A key or a value of a mapping by indentation. -/
def part? : (fuel : Nat) → Anchors → List Token → Option Parsed
  | 0, _, _ => none
  | fuel + 1, env, ts =>
    if ts.head?.any endsPart then some (.empty, ts, env) else node? true true fuel env ts

/-- The members of a mapping by indentation. -/
def blockMembers? : (fuel : Nat) → Anchors → List (Node × Node) → List Token → Option Parsed
  | 0, _, _, _ => none
  | _, env, done, .blockEnd :: ts => some (.mapping done.reverse, ts, env)
  | fuel + 1, env, done, .key :: ts => do
    let (k, ts, env) ← part? fuel env ts
    let (v, ts, env) ← match ts with
      | .value :: ts => part? fuel env ts
      | ts => some (.empty, ts, env)
    blockMembers? fuel env ((k, v) :: done) ts
  | _, _, _, _ => none

/-- A node within brackets, which may be left out before a token that ends it. -/
def flowPart? (ends : Token → Bool) : (fuel : Nat) → Anchors → List Token → Option Parsed
  | 0, _, _ => none
  | fuel + 1, env, ts =>
    if ts.head?.any ends then some (.empty, ts, env) else node? false false fuel env ts

/-- The items of a sequence in brackets. A key with a value is a mapping of its own. -/
def flowItems? : (fuel : Nat) → Anchors → (first : Bool) → List Node → List Token → Option Parsed
  | 0, _, _, _, _ => none
  | _, env, _, done, .flowSequenceEnd :: ts => some (.sequence done.reverse, ts, env)
  | fuel + 1, env, first, done, ts => do
    let ts ← if first then some ts
      else match ts with
        | .comma :: ts => some ts
        | _ => none
    match ts with
    | .flowSequenceEnd :: ts => return (.sequence done.reverse, ts, env)
    | .key :: ts =>
      let stops (t : Token) := t == .comma || t == .flowSequenceEnd
      let (k, ts, env) ← flowPart? (fun t => t == .value || stops t) fuel env ts
      let (v, ts, env) ← match ts with
        | .value :: ts => flowPart? stops fuel env ts
        | ts => some (.empty, ts, env)
      flowItems? fuel env false (.mapping [(k, v)] :: done) ts
    | ts =>
      let (n, ts, env) ← node? false false fuel env ts
      flowItems? fuel env false (n :: done) ts

/-- The members of a mapping in brackets. -/
def flowMembers? :
    (fuel : Nat) → Anchors → (first : Bool) → List (Node × Node) → List Token → Option Parsed
  | 0, _, _, _, _ => none
  | _, env, _, done, .flowMappingEnd :: ts => some (.mapping done.reverse, ts, env)
  | fuel + 1, env, first, done, ts => do
    let ts ← if first then some ts
      else match ts with
        | .comma :: ts => some ts
        | _ => none
    match ts with
    | .flowMappingEnd :: ts => return (.mapping done.reverse, ts, env)
    | .key :: ts =>
      let stops (t : Token) := t == .comma || t == .flowMappingEnd
      let (k, ts, env) ← flowPart? (fun t => t == .value || stops t) fuel env ts
      let (v, ts, env) ← match ts with
        | .value :: ts => flowPart? stops fuel env ts
        | ts => some (.empty, ts, env)
      flowMembers? fuel env false ((k, v) :: done) ts
    | ts =>
      let (k, ts, env) ← node? false false fuel env ts
      flowMembers? fuel env false ((k, .empty) :: done) ts

end

/-- The node of the first document, if there is a document. What follows the node counts only as far
as it can be divided into tokens. -/
def document? (ts : List Token) : Option (Option Node) :=
  let body (ts : List Token) : Option (Option Node) := do
    let (n, ts, _) ← node? true false (4 * ts.length + 4) [] ts
    match ts with
    | .unreadable :: _ | [] => none
    | _ => some n
  match ts with
  | .finish :: _ => some none
  | .directive :: _ | .documentStart :: _ =>
    match ts.dropWhile (· == .directive) with
    | .documentStart :: ts =>
      match ts with
      | .directive :: _ | .documentStart :: _ | .documentEnd :: _ | .finish :: _ =>
        some (some .empty)
      | ts => body ts
    | _ => none
  | ts => body ts

/-- The node of the first document of a text, if there is one. -/
def parse? (text : String) : Option (Option Node) :=
  document? (tokens text).toList

end Lanewise.Yaml
