import Lanewise.Config.Toml
import Lanewise.Config.Yaml

/-!
# Files of configurations

The extension of its name says what a file is written in. What a file does not set keeps its initial
value, and the values have to be in their ranges.

## Main definitions

* `Config.load`: the configuration in a file.
-/

namespace Lanewise.Config

/-- Why there is no configuration in a file. -/
inductive LoadError
  | missing (path : String)
  | unknownFormat (path : String)
  | unreadable (path : String)
  | invalid (path : String) (why : Invalid)
deriving DecidableEq, Repr

/-- The wording of an error. -/
def LoadError.message : LoadError → String
  | missing path => "cannot read " ++ path ++ ": open " ++ path ++ ": no such file or directory"
  | unknownFormat path => "unknown config format: " ++ path
  | unreadable path => "parse error in " ++ path
  | invalid path why => path ++ ": " ++ why.message

/-- How the settings of a text are read, by the extension of the name of the file. -/
def reader? (extension : String) : Option (Config → String → Option Config) :=
  if extension = ".toml" then some setToml?
  else if extension = ".yaml" ∨ extension = ".yml" then some setYaml?
  else none

/-- The configuration in a file with the given path and contents; a file that does not exist has
none. -/
def load (home path : String) (contents : Option ByteArray) : Except LoadError Config :=
  match contents with
  | none => .error (.missing path)
  | some data =>
    match reader? (Path.extension path) with
    | none => .error (.unknownFormat path)
    | some read =>
      match (String.fromUTF8? data).bind (read (initial home)) with
      | none => .error (.unreadable path)
      | some c =>
        match c.check with
        | .ok _ => .ok c
        | .error why => .error (.invalid path why)

end Lanewise.Config
