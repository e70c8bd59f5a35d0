import Lanewise.Cli.Program
import Lanewise.Cli.Service

/-!
# The command line

A command line has flags for all commands, the name of a command, and the words of the command.

## Main definitions

* `Cli.Outcome`: the status, the output and the complaints of a command line.
* `Cli.execute`: runs a command line.
-/

namespace Lanewise.Cli

/-- What a command line leaves. -/
structure Outcome where
  status : UInt32 := 0
  output : String := ""
  /-- The lines of complaint. -/
  complaints : List String := []
deriving Repr, Inhabited

/-- The flags for all commands. -/
def globalFlags : List Flag :=
  [⟨"config", .text⟩, ⟨"log-level", .text⟩, ⟨"log-file", .text⟩, ⟨"version", .switch⟩]

/-- The outcome if a command does not start. -/
def Stop.outcome : Stop → Outcome
  | help => {}
  | misuse => { status := 2 }

/-- The outcome of a command. -/
def Report.outcome (name : String) (r : Report) : Outcome :=
  let output := r.lines.foldl (fun t l => t ++ l ++ "\n") ""
  match r.failure with
  | none => { output }
  | some why => { status := 1, output, complaints := ["lanevm " ++ name ++ ": " ++ why] }

variable {m : Type → Type} [Monad m]

/-- Reads the flags of a command and runs it. -/
def withFlags (name : String) (known : List Flag) (words : List String)
    (run : Given → List String → m Report) : m Outcome := do
  match parseFlags known words with
  | .error stop => return stop.outcome
  | .ok (g, words) => return (← run g words).outcome name

/-- Runs the command with a name. -/
def dispatch (w : World m) (c : Config) (name : String) (words : List String) : m Outcome :=
  match name with
  | "run" => withFlags name runFlags words (runCommand w c)
  | "lanes" => withFlags name lanesFlags words (lanesCommand w c)
  | "bench" => withFlags name benchFlags words fun g _ => benchCommand w c g
  | "asm" => withFlags name asmFlags words (asmCommand w)
  | "disasm" => do return (← disasmCommand w words).outcome name
  | "platforms" => do return (← platformsCommand w c).outcome name
  | "serve" => withFlags name serveFlags words fun g _ => serveCommand w c g
  | "device" => withFlags name deviceFlags words fun g _ => pure (deviceCommand c g)
  | _ => pure { status := 2, complaints := ["lanevm: unknown command " ++ Text.quote name] }

/-- The configuration in a file, or the initial one if no file has been named. -/
def configOf (w : World m) (path : String) : m (Except Config.LoadError Config) := do
  if path = "" then return .ok (Config.initial w.home)
  return Config.load w.home path (← w.read path)

/-- Opens the log file, which is made if it does not exist; false if that cannot be done. No path
stands for no file. -/
def openLog (w : World m) (path : String) : m Bool := do
  if path = "" then return true
  w.write path ((← w.read path).getD .empty)

/-- The outcome if the log file cannot be opened. -/
def noLog (path : String) : Outcome :=
  { status := 1, complaints := ["log file error: open " ++ path ++ ": no such file or directory"] }

/-- Runs a command line. -/
def execute (w : World m) (words : List String) : m Outcome := do
  match parseFlags globalFlags words with
  | .error stop => return stop.outcome
  | .ok (g, words) =>
    if g.switch "version" false then
      return { output := "lanevm " ++ version ++ " (dev)\n" }
    match words with
    | [] => return { status := 2 }
    | name :: words =>
      match ← configOf w (g.text "config" "") with
      | .error e => return { status := 1, complaints := ["lanevm: " ++ e.message] }
      | .ok c =>
        let log := match g.text "log-file" "" with
          | "" => c.logFile
          | path => path
        if ← openLog w log then dispatch w c name words else return noLog log

end Lanewise.Cli
