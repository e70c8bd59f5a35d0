import Lanewise.Proofs.Machine.Bounds

/-!
# What a machine keeps beside its work

A machine counts its steps, knows its phase, and may keep a trace. Instructions neither read nor
change any of this: whatever is done to it before an instruction can as well be done afterwards.
Only the step around the instruction pays for it and appends to the trace.

## Main definitions

* `Machine.Ledger`, `Machine.mapLedger`: what instructions leave alone, and a machine with a change
  to it.

## Main results

* `Machine.exec_mapLedger`: an instruction after such a change.
-/

namespace Lanewise.Machine

/-- What a machine keeps beside the state that its instructions work on. -/
structure Ledger where
  meter : Meter
  phase : Phase
  tracing : Bool
  trace : Array TraceRecord

/-- The ledger of a machine. -/
def ledger (m : Machine) : Ledger :=
  ⟨m.meter, m.phase, m.tracing, m.trace⟩

/-- The machine with a change to its ledger. -/
def mapLedger (m : Machine) (f : Ledger → Ledger) : Machine :=
  { m with
    meter := (f m.ledger).meter
    phase := (f m.ledger).phase
    tracing := (f m.ledger).tracing
    trace := (f m.ledger).trace }

/-- The effect with a change to the ledger. -/
def Effect.mapLedger : Effect → (Ledger → Ledger) → Effect
  | next m, f => next (m.mapLedger f)
  | halt m, f => halt (m.mapLedger f)
  | fail m kind note, f => fail (m.mapLedger f) kind note

/-- The step with a change to the ledger. -/
def Step.mapLedger : Step → (Ledger → Ledger) → Step
  | next m, f => next (m.mapLedger f)
  | halt m, f => halt (m.mapLedger f)
  | fault m e, f => fault (m.mapLedger f) e

section Effects

variable (m : Machine) (f : Ledger → Ledger)

theorem Effect.ite_mapLedger {f : Ledger → Ledger} (p : Prop) [Decidable p] {e₁ e₂ e₁' e₂' : Effect}
    (h₁ : p → e₁' = e₁.mapLedger f) (h₂ : ¬p → e₂' = e₂.mapLedger f) :
    (if p then e₁' else e₂') = (if p then e₁ else e₂).mapLedger f := by
  by_cases hp : p
  · rw [if_pos hp, if_pos hp]
    exact h₁ hp
  · rw [if_neg hp, if_neg hp]
    exact h₂ hp

theorem push_mapLedger (v : Word) : (m.mapLedger f).push v = (m.push v).mapLedger f :=
  Effect.ite_mapLedger (m.height < m.stack.size) (fun _ => rfl) fun _ => rfl

theorem popThen_mapLedger {k : Machine → Word → Effect}
    (hk : ∀ m v, k (m.mapLedger f) v = (k m v).mapLedger f) :
    (m.mapLedger f).popThen k = (m.popThen k).mapLedger f :=
  Effect.ite_mapLedger (m.height = 0) (fun _ => rfl) fun _ => hk { m with height := m.height - 1 } _

theorem pop2Then_mapLedger {k : Machine → Word → Word → Effect}
    (hk : ∀ m a b, k (m.mapLedger f) a b = (k m a b).mapLedger f) :
    (m.mapLedger f).pop2Then k = (m.pop2Then k).mapLedger f :=
  Effect.ite_mapLedger (m.height < 2) (fun _ => rfl) fun _ =>
    hk { m with height := m.height - 2 } _ _

theorem binary_mapLedger (g : Word → Word → Word) :
    (m.mapLedger f).binary g = (m.binary g).mapLedger f :=
  pop2Then_mapLedger m f fun m _ _ => push_mapLedger m f _

theorem mapTop_mapLedger (g : Word → Word) : (m.mapLedger f).mapTop g = (m.mapTop g).mapLedger f :=
  Effect.ite_mapLedger (m.height = 0) (fun _ => rfl) fun _ => rfl

theorem localThen_mapLedger (offset : Word) {k k' : Nat → Effect}
    (hk : ∀ i, k' i = (k i).mapLedger f) :
    (match (m.mapLedger f).localIndex? offset with
      | some i => k' i
      | none => .fail (m.mapLedger f) .stackIndexOutOfRange ((m.mapLedger f).localNote offset)) =
    (match m.localIndex? offset with
      | some i => k i
      | none => .fail m .stackIndexOutOfRange (m.localNote offset)).mapLedger f := by
  have hsame : (m.mapLedger f).localIndex? offset = m.localIndex? offset := rfl
  rw [hsame]
  cases m.localIndex? offset with
  | none => rfl
  | some i => exact hk i

theorem loadCell_mapLedger (heap : Nat) (i : Int) :
    (m.mapLedger f).loadCell heap i = (m.loadCell heap i).mapLedger f := by
  have hsame : (m.mapLedger f).heaps = m.heaps := rfl
  unfold loadCell
  rw [hsame]
  dsimp only
  cases (m.heaps.getD heap #[]).load? i with
  | none => rfl
  | some v => exact push_mapLedger m f v

theorem storeCell_mapLedger (heap : Nat) (i : Int) (v : Word) :
    (m.mapLedger f).storeCell heap i v = (m.storeCell heap i v).mapLedger f :=
  Effect.ite_mapLedger ((m.heaps.getD heap #[]).holds i = true) (fun _ => rfl) fun _ => rfl

theorem selectThen_mapLedger (selector : Word) {k k' : Nat → Effect}
    (hk : ∀ heap, k' heap = (k heap).mapLedger f) :
    (m.mapLedger f).selectThen selector k' = (m.selectThen selector k).mapLedger f :=
  Effect.ite_mapLedger (0 ≤ selector.toInt ∧ selector.toInt < m.heaps.size) (fun _ => hk _)
    fun _ => rfl

theorem call_mapLedger (target numArgs : Word) :
    (m.mapLedger f).call target numArgs = (m.call target numArgs).mapLedger f := by
  refine Effect.ite_mapLedger (numArgs.toInt < 0 ∨ (m.height : Int) < numArgs.toInt)
    (fun _ => rfl) fun _ => ?_
  exact Effect.ite_mapLedger (m.stack.size < m.height + 3) (fun _ => rfl) fun _ => rfl

theorem leave_mapLedger (v : Word) : (m.mapLedger f).leave v = (m.leave v).mapLedger f := by
  refine Effect.ite_mapLedger (m.fp < 2 ∨ m.height ≤ m.fp) (fun _ => rfl) fun _ => ?_
  refine Effect.ite_mapLedger _ (fun _ => rfl) fun _ => ?_
  refine Effect.ite_mapLedger _ (fun _ => rfl) fun _ => ?_
  exact Effect.ite_mapLedger _ (fun _ => rfl) fun _ => rfl

theorem ret_mapLedger : (m.mapLedger f).ret = m.ret.mapLedger f := by
  refine Effect.ite_mapLedger (m.depth = 0) (fun _ => rfl) fun _ => ?_
  exact popThen_mapLedger m f fun m v => leave_mapLedger m f v

/-- An instruction after a change to the ledger. -/
theorem exec_mapLedger (op : Opcode) (arg arg₂ : Word) :
    (m.mapLedger f).exec op arg arg₂ = (m.exec op arg arg₂).mapLedger f := by
  unfold exec
  cases op with
  | iadd | isub | imul | ilt | ieq => exact binary_mapLedger m f _
  | idiv =>
    refine pop2Then_mapLedger m f fun m a b => ?_
    exact Effect.ite_mapLedger _ (fun _ => rfl) fun _ => push_mapLedger m f _
  | br | halt => rfl
  | brt | brf =>
    refine popThen_mapLedger m f fun m v => ?_
    split
    · rfl
    · rfl
  | iconst | iconst1 | threadId => exact push_mapLedger m f _
  | dup => exact Effect.ite_mapLedger (m.height = 0) (fun _ => rfl) fun _ => push_mapLedger m f _
  | pop | print => exact popThen_mapLedger m f fun _ _ => rfl
  | lshift | rshift => exact mapTop_mapLedger m f _
  | load => exact localThen_mapLedger m f arg fun _ => push_mapLedger m f _
  | store =>
    refine popThen_mapLedger m f fun m v => ?_
    exact localThen_mapLedger m f arg fun _ => rfl
  | gload => exact loadCell_mapLedger m f 0 _
  | gstore => exact popThen_mapLedger m f fun m v => storeCell_mapLedger m f 0 _ v
  | gloadIndexed => exact popThen_mapLedger m f fun m _ => loadCell_mapLedger m f 0 _
  | gstoreIndexed => exact pop2Then_mapLedger m f fun m v _ => storeCell_mapLedger m f 0 _ v
  | parallelGloadIndexed =>
    refine selectThen_mapLedger m f arg fun heap => ?_
    exact popThen_mapLedger m f fun m _ => loadCell_mapLedger m f heap _
  | parallelGstoreIndexed =>
    refine selectThen_mapLedger m f arg fun heap => ?_
    exact pop2Then_mapLedger m f fun m v _ => storeCell_mapLedger m f heap _ v
  | call => exact call_mapLedger m f arg arg₂
  | ret => exact ret_mapLedger m f

end Effects

end Lanewise.Machine
