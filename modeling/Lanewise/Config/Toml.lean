import Lanewise.Config.Basic
import Lanewise.Json.Fields
import Lanewise.Toml.Document

/-!
# Configurations in TOML

Names of settings and groups are found in any case, though the exact name comes first. Unknown names
are passed over; a value of the wrong type makes the text unreadable.

## Main definitions

* `Config.setToml?`: a configuration with the settings of a text.
* `Config.toml`: the text of a configuration.
-/

namespace Lanewise.Config

/-! ### Reading -/

/-- The text of a value. -/
def tomlText? : Toml.Value → Option String
  | .text s => some s
  | _ => none

/-- Changes a setting. A negative number for an unsigned setting wraps around. -/
def Slot.setToml? (s : Slot) (v : Toml.Value) (c : Config) : Option Config :=
  match s, v with
  | .text _ set, .text t => some (set c t)
  | .int _ set, .integer n => some (set c n)
  | .uint64 _ set, .integer n => some (set c (Int64.ofInt n).toUInt64)
  | .flag _ set, .flag b => some (set c b)
  | .texts _ set, .list vs => (vs.mapM tomlText?).map fun ts => set c (some ts)
  | _, _ => none

/-- The entry with a name, or else the first whose name differs only in case. -/
def findName {α : Type} (nameOf : α → String) (entries : List α) (name : String) : Option α :=
  (entries.find? fun e => nameOf e == name) <|>
    (entries.find? fun e => Json.sameName (nameOf e) name)

/-- Changes the setting with a name. -/
def setMember? (entries : List Setting) (c : Config) (m : String × Toml.Value) : Option Config :=
  match findName (·.name) entries m.1 with
  | some s => s.slot.setToml? m.2 c
  | none => some c

/-- Changes the setting or the group with a name. -/
def setEntry? (c : Config) (m : String × Toml.Value) : Option Config :=
  match findName (·.name) (settingsOf "") m.1 with
  | some s => s.slot.setToml? m.2 c
  | none =>
    match findName id groups m.1, m.2 with
    | some g, .table ms => ms.foldlM (setMember? (settingsOf g)) c
    | some _, _ => none
    | none, _ => some c

/-- A configuration with the settings of a text. -/
def setToml? (c : Config) (text : String) : Option Config := do
  (← Toml.parse? text).foldlM setEntry? c

/-! ### Writing -/

/-- A character within double quotes. -/
def quoteChar (c : Char) : List Char :=
  if c == '"' || c == '\\' then ['\\', c]
  else if c == '\x08' then ['\\', 'b']
  else if c == '\t' then ['\\', 't']
  else if c == '\n' then ['\\', 'n']
  else if c == '\x0c' then ['\\', 'f']
  else if c == '\r' then ['\\', 'r']
  else if c.toNat < 0x20 || c.toNat = 0x7F then '\\' :: 'u' :: Text.hexDigits 4 c.toNat
  else [c]

/-- A text in double quotes. -/
def quoteToml (s : String) : String :=
  "\"" ++ String.ofList (s.toList.flatMap quoteChar) ++ "\""

/-- The text of the value of a setting; a list that has not been set has none. -/
def Slot.toml? (s : Slot) (c : Config) : Option String :=
  match s with
  | .text get _ => some (quoteToml (get c))
  | .int get _ => some (toString (get c))
  | .uint64 get _ => some (toString (get c).toNat)
  | .flag get _ => some (if get c then "true" else "false")
  | .texts get _ => (get c).map fun ts => "[" ++ ", ".intercalate (ts.map quoteToml) ++ "]"

/-- The line of a setting. -/
def Setting.line (s : Setting) (indent : String) (c : Config) : String :=
  match s.slot.toml? c with
  | some v => indent ++ s.name ++ " = " ++ v ++ "\n"
  | none => ""

/-- The text of a configuration. -/
def toml (c : Config) : String :=
  String.join ((settingsOf "").map (·.line "" c)) ++
    String.join (groups.map fun g =>
      "\n[" ++ g ++ "]\n" ++ String.join ((settingsOf g).map (·.line "  " c)))

end Lanewise.Config
