import Lanewise.Proofs.Device.Histories

/-!
# Processors with any number of workers

A host processor may run the groups of a launch at the same time. What lanes of different groups
leave in cells that they share, and in which order their steps stand in a trace, is then up to the
workers, and the answer of one worker is one answer among others. Kernels are kept and released in
the same way by all processors, since there is one table of them. So a processor is a device that
keeps its kernels as `Cpu` does. Its launches change nothing, and they complete, fault or fail, as
it happens.

## Main definitions

* `Processor`: the devices that are host processors.
* `Processor.OneWorker`: the launches are those of one worker.
* `Racing`: a processor whose launches are decided by races.
-/

namespace Lanewise

open Backend

/-- A host processor with states in `σ`, whatever the number of its workers. -/
class Processor (σ : Type) extends Backend σ where
  /-- A processor with one worker that has the same kernels and settings. -/
  host : σ → Cpu
  prepare_host (d : σ) (ctx : Context) (k : Kernel) :
    (prepare d ctx k).map id host = (host d).prepare ctx k
  release_host (d : σ) (h : Handle) : (release d h).map id host = (host d).release h
  /-- A launch changes neither kernels nor settings. -/
  execute_host (d : σ) (ctx : Context) (h : Handle) (l : Launch) :
    host (execute d ctx h l).2 = host d
  /-- A launch needs a kernel. -/
  execute_unknown {d : σ} {h : Handle} (hk : (host d).kernel? h.id = none) (ctx : Context)
    (l : Launch) : ∃ why, (execute d ctx h l).1 = .error (.launchFailure why)
  /-- A launch completes, or lanes fault, or it fails, or it does not end. -/
  execute_cases (d : σ) (ctx : Context) (h : Handle) (l : Launch) :
    (∃ r, (execute d ctx h l).1 = .ok r) ∨
      (∃ fs ≠ [], (execute d ctx h l).1 = .error (.laneFault fs)) ∨
      (∃ why, (execute d ctx h l).1 = .error (.launchFailure why)) ∨
        (execute d ctx h l).1 = .error .unfinished

namespace Cpu

/-- A launch through a handle without a kernel fails. -/
theorem execute_of_unknown {c : Cpu} {h : Handle} (hk : c.kernel? h.id = none) (ctx : Context)
    (l : Launch) : ∃ why, c.execute ctx h l = .error (.launchFailure why) := by
  unfold Cpu.execute
  split
  · exact ⟨_, rfl⟩
  · rw [hk]
    exact ⟨_, rfl⟩

end Cpu

/-- One worker is enough for a processor. -/
instance : Processor Cpu where
  host c := c
  prepare_host _ _ _ := rfl
  release_host _ _ := rfl
  execute_host _ _ _ _ := rfl
  execute_unknown hk := Cpu.execute_of_unknown hk
  execute_cases c := c.execute_cases

namespace Processor

variable {σ : Type} [Processor σ]

/-- The launches of a kind of processor are those of one worker. -/
def OneWorker (σ : Type) [Processor σ] : Prop :=
  ∀ (d : σ) (ctx : Context) (h : Handle) (l : Launch),
    (Backend.execute d ctx h l).1 = (host d).execute ctx h l

theorem oneWorker_cpu : OneWorker Cpu :=
  fun _ _ _ _ => rfl

theorem prepare_fst (d : σ) (ctx : Context) (k : Kernel) :
    (Backend.prepare d ctx k).1 = ((host d).prepare ctx k).1 :=
  congrArg Prod.fst (prepare_host d ctx k)

theorem prepare_snd (d : σ) (ctx : Context) (k : Kernel) :
    host (Backend.prepare d ctx k).2 = ((host d).prepare ctx k).2 :=
  congrArg Prod.snd (prepare_host d ctx k)

theorem release_snd (d : σ) (h : Handle) :
    host (Backend.release d h).2 = ((host d).release h).2 :=
  congrArg Prod.snd (release_host d h)

end Processor

/-! ### Races -/

/-- A processor whose workers race. The launches that would complete with one worker have the
outcomes of a list, as long as there are any. -/
structure Racing where
  host : Cpu
  outcomes : List Completion := []

namespace Racing

/-- A launch that would complete takes the next outcome. -/
def execute (r : Racing) (ctx : Context) (h : Handle) (l : Launch) :
    Except Device.Error Completion × Racing :=
  match r.host.execute ctx h l, r.outcomes with
  | .ok _, c :: outcomes => (.ok c, { r with outcomes })
  | answer, _ => (answer, r)

/-- With other workers, a launch that completes may complete otherwise, and no other launch
changes. -/
theorem execute_eq (r : Racing) (ctx : Context) (h : Handle) (l : Launch) :
    r.execute ctx h l = (r.host.execute ctx h l, r) ∨
      ∃ c outcomes, r.execute ctx h l = (.ok c, { r with outcomes }) ∧
        ∃ c', r.host.execute ctx h l = .ok c' := by
  unfold Racing.execute
  split
  · next c' c outcomes hanswer _ => exact .inr ⟨c, outcomes, rfl, c', hanswer⟩
  · exact .inl rfl

instance : Processor Racing where
  name r := Backend.name r.host
  prepare r ctx k := (r.host.prepare ctx k).map id fun host => { r with host }
  execute := execute
  release r h := (r.host.release h).map id fun host => { r with host }
  host := host
  prepare_host _ _ _ := rfl
  release_host _ _ := rfl
  execute_host r ctx h l := by
    rcases r.execute_eq ctx h l with heq | ⟨c, outcomes, heq, -⟩
    · rw [heq]
    · rw [heq]
  execute_unknown := by
    intro r h hk ctx l
    obtain ⟨why, hwhy⟩ := Cpu.execute_of_unknown hk ctx l
    rcases r.execute_eq ctx h l with heq | ⟨c, outcomes, -, c', hc'⟩
    · exact ⟨why, (congrArg Prod.fst heq).trans hwhy⟩
    · cases hwhy.symm.trans hc'
  execute_cases r ctx h l := by
    rcases r.execute_eq ctx h l with heq | ⟨c, outcomes, heq, -⟩
    · rw [heq]
      exact r.host.execute_cases ctx h l
    · rw [heq]
      exact .inl ⟨c, rfl⟩

end Racing

end Lanewise
