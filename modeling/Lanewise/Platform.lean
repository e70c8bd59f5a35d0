import Lanewise.Cpu.Basic
import Lanewise.Remote.Pool

/-!
# Platforms

The devices that a process can work with: its own processor, the processor behind a device server,
and a pool of such servers.

## Main definitions

* `Platform`: one of these devices.
-/

namespace Lanewise

/-- A device. -/
inductive Platform
  | cpu (c : Cpu)
  | remote (c : Remote.Client Cpu)
  | pool (p : Remote.Pool Cpu)
deriving Inhabited

namespace Platform

/-- The name of a device. -/
def name : Platform → String
  | cpu _ => Cpu.name
  | remote c => c.name
  | pool _ => Remote.Pool.name

/-- Compiles a kernel for launches. -/
def prepare (d : Platform) (ctx : Context) (k : Kernel) : Except Device.Error Handle × Platform :=
  match d with
  | cpu c => (c.prepare ctx k).map id cpu
  | remote c => (c.prepare ctx k).map id remote
  | pool p => (p.prepare ctx k).map id pool

/-- Runs one launch of a prepared kernel. -/
def execute (d : Platform) (ctx : Context) (h : Handle) (l : Launch) :
    Except Device.Error Completion × Platform :=
  match d with
  | cpu c => (c.execute ctx h l, cpu c)
  | remote c => (c.execute ctx h l).map id remote
  | pool p => (p.execute ctx h l).map id pool

/-- Forgets a prepared kernel. -/
def release (d : Platform) (h : Handle) : Except Device.Error Unit × Platform :=
  match d with
  | cpu c => (c.release h).map id cpu
  | remote c => (c.release h).map id remote
  | pool p => (p.release h).map id pool

instance : Backend Platform where
  name := name
  prepare := prepare
  execute := execute
  release := release

/-- The processors at the end of a device. -/
def processors : Platform → List Cpu
  | cpu c => [c]
  | remote c => [c.server.device]
  | pool p => p.endpoints.toList.map (·.client.server.device)

/-- Changes the client with a given number. -/
def modifyClient (d : Platform) (i : Nat) (f : Remote.Client Cpu → Remote.Client Cpu) : Platform :=
  match d with
  | cpu c => cpu c
  | remote c => remote (f c)
  | pool p =>
    pool { p with endpoints := p.endpoints.modify i fun e => { e with client := f e.client } }

/-- The clients of a device. -/
def clients : Platform → List (Remote.Client Cpu)
  | cpu _ => []
  | remote c => [c]
  | pool p => p.endpoints.toList.map (·.client)

end Platform

end Lanewise
