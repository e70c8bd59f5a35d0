import Lanewise.Config.Basic
import Lanewise.Yaml.Meaning

/-!
# Configurations in YAML

Names are found exactly as they are written. Unknown names are passed over, and nothing at all
leaves a setting as it is; a value of the wrong type, or a name that occurs twice, makes the text
unreadable. A mapping may take over members of others with the merge key.

## Main definitions

* `Config.setYaml?`: a configuration with the settings of a text.
-/

namespace Lanewise

namespace Yaml

/-- What an alias stands for. -/
def Node.target : Node → Node
  | .alias _ n => n.target
  | n => n

mutual

/-- How deep a node is nested. -/
def Node.depth : Node → Nat
  | .scalar .. => 0
  | .sequence ns => depthOfItems ns + 1
  | .mapping ms => depthOfMembers ms + 1
  | .alias _ n => n.depth + 1

/-- How deep the deepest of some nodes is nested. -/
def depthOfItems : List Node → Nat
  | [] => 0
  | n :: ns => max n.depth (depthOfItems ns)

/-- How deep the deepest of some members is nested. -/
def depthOfMembers : List (Node × Node) → Nat
  | [] => 0
  | (k, v) :: ms => max (max k.depth v.depth) (depthOfMembers ms)

end

/-- What two keys of a mapping may not have in common: their form, and their text or name. -/
def Node.identity : Node → Nat × String
  | .scalar text .. => (0, text)
  | .sequence _ => (1, "")
  | .mapping _ => (2, "")
  | .alias name _ => (3, name)

/-- Whether no two keys are the same. -/
def distinctKeys : List (Node × Node) → Bool
  | [] => true
  | (k, _) :: ms => !(ms.any fun m => m.1.identity == k.identity) && distinctKeys ms

/-- Whether a key says that the members of other mappings are taken over. -/
def Node.isMerge : Node → Bool
  | .scalar text bare tag =>
    text == "<<" && ((bare && (tag == "" || tag == "!")) || tag == "!!merge")
  | _ => false

/-- The text of a scalar. The answer is empty if the scalar stands for nothing, and there is none if
the node is no scalar. -/
def Node.text? (n : Node) : Option (Option String) :=
  match n.target with
  | .scalar text bare tag => (meaning? text bare tag).map fun m =>
      match m with
      | .nothing => none
      | .text s => some s
      | _ => some text
  | _ => none

/-- Reads the value of a field into a state. -/
abbrev FieldReader (σ : Type) := String → Option (Node → σ → Option σ)

/-- Reads members one after another; no field may be set twice. -/
def readMembers {σ : Type} (fields : FieldReader σ) (seen : Option (List String))
    (done : List String) :
    List (Node × Node) → σ → Option (Option (List String) × σ)
  | [], s => some (seen, s)
  | (k, v) :: ms, s =>
    match k.text? with
    | none => none
    | some none => readMembers fields seen done ms s
    | some (some name) =>
      if (seen.getD []).contains name then readMembers fields seen done ms s
      else
        let seen := seen.map (name :: ·)
        match fields name with
        | none => readMembers fields seen done ms s
        | some read =>
          if done.contains name then none
          else match read v s with
            | some s => readMembers fields seen (name :: done) ms s
            | none => none

mutual

/-- Reads a mapping into a state. Names in `seen` have been set by a mapping that takes this one
over. -/
def readMapping {σ : Type} (fields : FieldReader σ) :
    (fuel : Nat) → (seen : Option (List String)) → Node → σ → Option (Option (List String) × σ)
  | 0, _, _, _ => none
  | fuel + 1, seen, n, s =>
    match n.target with
    | .scalar text bare tag =>
      match meaning? text bare tag with
      | some .nothing => some (seen, s)
      | _ => none
    | .mapping ms => do
      if !distinctKeys ms then none
      let (seen', s) ← readMembers fields seen [] (ms.filter (!·.1.isMerge)) s
      match (ms.filter (·.1.isMerge)).getLast? with
      | none => return (seen', s)
      | some (_, m) =>
        let own := (ms.filterMap fun m => (m.1.text?).join)
        let s ← takeOver fields fuel (seen'.getD own) m s
        return (seen', s)
    | _ => none

/-- Reads the mappings that a merge key names, the first of which comes first. -/
def takeOver {σ : Type} (fields : FieldReader σ) :
    (fuel : Nat) → (seen : List String) → Node → σ → Option σ
  | 0, _, _, _ => none
  | fuel + 1, seen, n, s =>
    match n with
    | .sequence ns => do
      let r ← ns.foldlM (fun (r : Option (List String) × σ) n =>
        match n.target with
        | .mapping _ => readMapping fields fuel r.1 n r.2
        | _ => none) (some seen, s)
      return r.2
    | n =>
      match n.target with
      | .mapping _ => (readMapping fields fuel (some seen) n s).map (·.2)
      | _ => none

end

end Yaml

namespace Config

open Yaml (Node Meaning)

/-- Reads a scalar, unless it stands for nothing. -/
def readScalar {α : Type} (read : Meaning → Option α) (set : Config → α → Config) (n : Node)
    (c : Config) : Option Config :=
  match n.target with
  | .scalar text bare tag =>
    match Yaml.meaning? text bare tag with
    | some .nothing => some c
    | some m => (read m).map (set c)
    | none => none
  | _ => none

/-- Reads a value into a setting. -/
def Slot.setYaml? (s : Slot) (n : Node) (c : Config) : Option Config :=
  match s with
  | .text _ set => n.text?.map fun t => (t.map (set c)).getD c
  | .int _ set => readScalar Meaning.int64? set n c
  | .uint64 _ set => readScalar Meaning.uint64? set n c
  | .flag _ set => readScalar Meaning.bool? set n c
  | .texts _ set =>
    match n.target with
    | .sequence ns => (ns.mapM Node.text?).map fun ts => set c (some (ts.filterMap id))
    | .scalar .. =>
      match n.text? with
      | some none => some (set c none)
      | _ => none
    | _ => none

/-- Reads the settings of a group. -/
def groupFields (group : String) : Yaml.FieldReader Config := fun name =>
  ((settingsOf group).find? (·.name == name)).map fun s => s.slot.setYaml?

/-- Reads the settings and the groups. -/
def allFields : Yaml.FieldReader Config := fun name =>
  match groupFields "" name with
  | some read => some read
  | none =>
    if groups.contains name then
      some fun n c => (Yaml.readMapping (groupFields name) (2 * n.depth + 2) none n c).map (·.2)
    else none

/-- A configuration with the settings of the first document of a text. -/
def setYaml? (c : Config) (text : String) : Option Config := do
  match ← Yaml.parse? text with
  | none => return c
  | some n => return (← Yaml.readMapping allFields (2 * n.depth + 2) none n c).2

end Config

end Lanewise
