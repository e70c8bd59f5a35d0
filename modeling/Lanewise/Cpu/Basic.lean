import Lanewise.Cpu.Stacks
import Lanewise.Device.Backend
import Lanewise.Machine.Run

/-!
# The host processor as a device

A host processor runs the groups of a launch on its workers, as many groups at the same time as it
has workers, and every group runs its lanes in order. All lanes share the heaps and write to one
trace. If any lane faults, the launch yields the faults and no heaps, but the other lanes are not
stopped. The heaps of a launch are copied, so a launch never changes what it was given.

`Cpu` is a host processor with one worker: groups run one after another, so a lane sees what the
lanes before it have written. A processor has as many workers as there are threads, unless a
configuration asks for another number. If there are several, it is a matter of luck what a lane
finds in cells that lanes of other groups write, what is left in cells that several groups write,
and in which order the lines of a trace stand. So what is said about launches in lane order
(`Lanewise.Proofs.Device.LaneOrder`) is said about one worker. Lanes that keep to themselves the
cells that they write come out the same in every order, up to the trace
(`Lanewise.Proofs.Device.Interleaving`); a launch with a single lane has but one order. What
servers, clients and pools do with a device is said about all processors, whatever the number of
their workers (`Lanewise.Proofs.Device.Processor`).

## Main definitions

* `Cpu`: the device and its prepared kernels.
* `Cpu.runLane`, `Cpu.runGroup`, `Cpu.runGroups`: the lanes of a launch.
* `Cpu.execute`: a launch.
-/

namespace Lanewise

/-- The host processor with its prepared kernels. -/
structure Cpu where
  /-- The group size of launches that leave it open. -/
  defaultGroup : Int := 64
  /-- The largest group size; none when it is not positive. -/
  maxGroup : Int := 1024
  /-- The largest number of steps that a lane may take. -/
  fuel : Nat
  kernels : List (String × Compiled) := []
  /-- The number of handles given out so far. -/
  issued : Nat := 0
deriving Inhabited

namespace Cpu

/-- The name of the platform. -/
def name : String := "cpu"

/-- The kernel with a given handle. -/
def kernel? (c : Cpu) (id : String) : Option Compiled :=
  c.kernels.lookup id

/-! ### Lanes -/

/-- What the lanes that ran so far have left behind. -/
structure Progress where
  heaps : Array Heap
  storage : Stacks
  printed : Array (Array Word) := #[]
  steps : UInt64 := 0
  faults : Array Fault := #[]
  trace : Array TraceRecord := #[]

/-- The machine of a lane. -/
def laneMachine (k : Compiled) (stack : Array Word) (heaps : Array Heap) (lane : Nat) :
    Except Machine.Error Machine :=
  match k.engine with
  | .sequential =>
    Machine.create k.program k.entry
      { stack := some stack, heap := some (heaps.getD 0 #[]), tracing := k.trace,
        maxSteps := k.maxSteps }
  | .lane =>
    Machine.create k.program k.entry
      { stack := some stack, lane := some ⟨Int32.ofNat lane, heaps⟩, tracing := k.trace,
        maxSteps := k.maxSteps }

/-- Runs one lane. -/
def runLane (k : Compiled) (fuel lane inGroup : Nat) (p : Progress) :
    Except Device.Error Progress :=
  match laneMachine k (p.storage.take lane inGroup) p.heaps lane with
  | .error e => .error (.launchFailure (s!"lane {lane}: " ++ e.message))
  | .ok m =>
    let (m, outcome) := m.run fuel
    let p : Progress :=
      { p with
        heaps := m.heaps
        storage := p.storage.put lane inGroup m.stack
        steps := p.steps + m.steps
        trace := p.trace ++ m.trace }
    match outcome with
    | .halted r => .ok { p with printed := p.printed.push r.printed }
    | .faulted f => .ok { p with printed := p.printed.push #[], faults := p.faults.push f }
    | .notRunnable =>
      .error (.launchFailure (s!"lane {lane}: " ++ Machine.Error.notRunnable.message))
    | .unfinished => .error .unfinished

/-- Runs `n` lanes of a group of which `done` have run; the group starts at lane `first`. -/
def runGroup (k : Compiled) (fuel first : Nat) :
    (n done : Nat) → Progress → Except Device.Error Progress
  | 0, _, p => .ok p
  | n + 1, done, p =>
    match runLane k fuel (first + done) done p with
    | .error e => .error e
    | .ok p => runGroup k fuel first n (done + 1) p

/-- Runs `n` groups of which `done` have run. -/
def runGroups (k : Compiled) (fuel group : Nat) :
    (n done : Nat) → Progress → Except Device.Error Progress
  | 0, _, p => .ok p
  | n + 1, done, p =>
    match runGroup k fuel (done * group) group 0 { p with storage := p.storage.enterGroup } with
    | .error e => .error e
    | .ok p => runGroups k fuel group n (done + 1) p

/-- Runs all lanes of a launch in groups of the given size. -/
def launch (k : Compiled) (fuel : Nat) (heaps : Array Heap) (lanes group : Nat) :
    Except Device.Error Completion := do
  let p ← runGroups k fuel group (lanes / group) 0
    { heaps, storage := Stacks.create k.placement k.stackSize lanes group }
  if p.faults.isEmpty then
    return { heaps := p.heaps, printed := p.printed, steps := p.steps, groups := lanes / group,
             trace := p.trace.map TraceRecord.text }
  else throw (.laneFault p.faults.toList)

/-! ### Operations -/

/-- Compiles a kernel and keeps it under a new handle. -/
def prepare (c : Cpu) (ctx : Context) (k : Kernel) : Except Device.Error Handle × Cpu :=
  if ctx.cancelled then (.error (.unavailable Context.cancelledText), c)
  else match k.compile with
    | .error e => (.error (.compileFailure e.message), c)
    | .ok compiled =>
      let id := Handle.idOf c.issued
      (.ok ⟨id, name⟩,
        { c with kernels := c.kernels ++ [(id, compiled)], issued := c.issued + 1 })

/-- What is said about a handle that names no kernel. -/
def unknownHandle (id : String) : Device.Error :=
  .launchFailure ("unknown handle " ++ id)

/-- Runs one launch of a prepared kernel. -/
def execute (c : Cpu) (ctx : Context) (h : Handle) (l : Launch) : Except Device.Error Completion :=
  if ctx.cancelled then .error (.launchFailure Context.cancelledText)
  else match c.kernel? h.id with
    | none => .error (unknownHandle h.id)
    | some k =>
      match l.validate k.kernel c.defaultGroup c.maxGroup with
      | .error e => .error (.launchFailure e.message)
      | .ok group => launch k c.fuel l.heaps l.lanes.toNat group.toNat

/-- Forgets a prepared kernel. -/
def release (c : Cpu) (h : Handle) : Except Device.Error Unit × Cpu :=
  match c.kernel? h.id with
  | none => (.error (unknownHandle h.id), c)
  | some _ => (.ok (), { c with kernels := c.kernels.filter (·.1 != h.id) })

instance : Backend Cpu where
  name _ := name
  prepare := prepare
  execute c ctx h l := (c.execute ctx h l, c)
  release := release

end Cpu

end Lanewise
