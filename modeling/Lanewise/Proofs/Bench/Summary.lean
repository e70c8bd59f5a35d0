import Lanewise.Bench.Summary
import Mathlib.Data.List.GetD

/-!
# What a summary says about the samples

The median goes by the samples in order, and there is only one order in which they do not fall, so
it does not matter in which order they were taken. The shortest and the longest sample are found as
the samples come in: a fold keeps the better one of two, and what it ends with is one of them and
bounds all of them. The longest sample is looked for from zero on, which need not be a sample; but
as no sample is negative, the fold ends with zero only if all samples are zero.

The median of an even number of samples is computed from the sum of two. Samples below `2 ^ 62`
nanoseconds have sums that do not wrap around.

## Main definitions

* `Bench.Moderate`: the samples whose sums do not wrap around.
* `Bench.Middle`: the middle of samples in order.
* `Bench.handOut`: a measurement whose samples are given.

## Main results

* `Bench.median_eq`: the median goes by the samples in order.
* `Bench.foldl_best`: what a fold that keeps the better one of two ends with.
* `Bench.run_handOut`: a run takes the samples as they come.
* `Bench.run_summarizes`: the median, the shortest and the longest sample of a run.
-/

namespace Lanewise.Bench

/-- A sample that is not negative and below `2 ^ 62` nanoseconds. -/
def Moderate (d : Duration) : Prop :=
  0 ≤ d.toInt ∧ d.toInt < 0x4000000000000000

instance : DecidablePred Moderate := fun d =>
  inferInstanceAs (Decidable (0 ≤ d.toInt ∧ d.toInt < 0x4000000000000000))

/-- The middle of samples in order: the one in the middle if their number is odd, and the mean of
the two in the middle, cut towards zero, if it is even. -/
structure Middle (sorted : List Duration) (m : Duration) : Prop where
  odd : sorted.length % 2 = 1 → sorted[sorted.length / 2]? = some m
  even : sorted.length % 2 = 0 → ∃ a b, sorted[sorted.length / 2 - 1]? = some a ∧
    sorted[sorted.length / 2]? = some b ∧ m.toInt = (a.toInt + b.toInt).tdiv 2

/-! ### Order -/

theorem pairwise_inOrder (samples : List Duration) :
    (samples.mergeSort fun a b => decide (a ≤ b)).Pairwise (· ≤ ·) := by
  have htrans (a b c : Duration) (hab : decide (a ≤ b) = true) (hbc : decide (b ≤ c) = true) :
      decide (a ≤ c) = true :=
    decide_eq_true (Int64.le_trans (of_decide_eq_true hab) (of_decide_eq_true hbc))
  have htotal (a b : Duration) : (decide (a ≤ b) || decide (b ≤ a)) = true := by
    simpa using Int64.le_total a b
  exact (List.pairwise_mergeSort htrans htotal samples).imp of_decide_eq_true

/-- There is only one order in which samples do not fall. -/
theorem mergeSort_eq {samples sorted : List Duration} (hperm : sorted.Perm samples)
    (hsorted : sorted.Pairwise (· ≤ ·)) : samples.mergeSort (fun a b => decide (a ≤ b)) = sorted :=
  List.Perm.eq_of_pairwise (fun _ _ _ _ => Int64.le_antisymm) (pairwise_inOrder samples) hsorted
    ((List.mergeSort_perm _ _).trans hperm.symm)

/-! ### The median -/

section

variable {samples sorted : List Duration}

/-- The median goes by the samples in order. -/
theorem median_eq (hperm : sorted.Perm samples) (hsorted : sorted.Pairwise (· ≤ ·)) :
    median samples =
      if sorted.length % 2 = 0 then
        (sorted.getD (sorted.length / 2 - 1) 0 + sorted.getD (sorted.length / 2) 0) / 2
      else sorted.getD (sorted.length / 2) 0 := by
  rw [median, mergeSort_eq hperm hsorted]

theorem median_perm {other : List Duration} (hperm : other.Perm samples) :
    median other = median samples := by
  have hsorted := pairwise_inOrder samples
  have hsamples := List.mergeSort_perm samples fun a b => decide (a ≤ b)
  rw [median_eq (hsamples.trans hperm.symm) hsorted, median_eq hsamples hsorted]

/-- The sum of two moderate samples does not wrap around. -/
theorem toInt_mean {a b : Duration} (ha : Moderate a) (hb : Moderate b) :
    ((a + b) / 2).toInt = (a.toInt + b.toInt).tdiv 2 := by
  obtain ⟨ha, ha'⟩ := ha
  obtain ⟨hb, hb'⟩ := hb
  have hsum : (a + b).toInt = a.toInt + b.toInt := by
    rw [Int64.toInt_add]
    exact Int.bmod_eq_of_le (by omega) (by omega)
  have hne : a + b ≠ Int64.minValue := by
    intro h
    rw [h] at hsum
    have hmin : Int64.minValue.toInt < 0 := by decide
    omega
  rw [Int64.toInt_div_of_ne_left _ _ hne, hsum]
  rfl

theorem middle_median (hperm : sorted.Perm samples) (hsorted : sorted.Pairwise (· ≤ ·))
    (hne : samples ≠ []) (hmoderate : ∀ d ∈ samples, Moderate d) :
      Middle sorted (median samples) := by
  have hpos : 0 < sorted.length := List.length_pos_iff.2 fun h => hne (h ▸ hperm).nil_eq.symm
  have hget {i : Nat} (hi : i < sorted.length) :
      sorted[i]? = some (sorted.getD i 0) ∧ Moderate (sorted.getD i 0) := by
    rw [List.getD_eq_getElem _ _ hi]
    exact ⟨List.getElem?_eq_getElem hi, hmoderate _ (hperm.mem_iff.1 (List.getElem_mem hi))⟩
  rw [median_eq hperm hsorted]
  refine ⟨fun hodd => ?_, fun heven => ?_⟩
  · rw [if_neg (by omega)]
    exact (hget (by omega)).1
  · rw [if_pos heven]
    obtain ⟨hleft, hsmall⟩ := hget (show sorted.length / 2 - 1 < sorted.length by omega)
    obtain ⟨hright, hsmall'⟩ := hget (show sorted.length / 2 < sorted.length by omega)
    exact ⟨_, _, hleft, hright, toInt_mean hsmall hsmall'⟩

/-- The middle of samples lies between their bounds. -/
theorem Middle.between {m lo hi : Duration} (h : Middle sorted m) (hlo : ∀ d ∈ sorted, lo ≤ d)
    (hhi : ∀ d ∈ sorted, d ≤ hi) (hmoderate : ∀ d ∈ sorted, Moderate d) : lo ≤ m ∧ m ≤ hi := by
  rcases Nat.mod_two_eq_zero_or_one sorted.length with heven | hodd
  · obtain ⟨a, b, ha, hb, hmean⟩ := h.even heven
    have ha := List.mem_of_getElem? ha
    have hb := List.mem_of_getElem? hb
    have hloa := Int64.le_iff_toInt_le.1 (hlo a ha)
    have hlob := Int64.le_iff_toInt_le.1 (hlo b hb)
    have hhia := Int64.le_iff_toInt_le.1 (hhi a ha)
    have hhib := Int64.le_iff_toInt_le.1 (hhi b hb)
    have hposa := (hmoderate a ha).1
    have hposb := (hmoderate b hb).1
    rw [Int.tdiv_eq_ediv_of_nonneg (by omega)] at hmean
    rw [Int64.le_iff_toInt_le, Int64.le_iff_toInt_le]
    omega
  · have hm := List.mem_of_getElem? (h.odd hodd)
    exact ⟨hlo m hm, hhi m hm⟩

end

/-! ### The shortest and the longest sample -/

/-- A fold that keeps the better one of two ends with the best one: it is there, and bounds all
others. By induction on the samples. -/
theorem foldl_best (better le : Duration → Duration → Prop) [DecidableRel better]
    (hrefl : ∀ d, le d d) (htrans : ∀ a b c, le a b → le b c → le a c)
    (hbetter : ∀ a b, better a b → le a b) (hworse : ∀ a b, ¬better a b → le b a)
    (ds : List Duration) (d : Duration) :
    let best := ds.foldl (fun best d => if better d best then d else best) d
    best ∈ d :: ds ∧ ∀ x ∈ d :: ds, le best x := by
  induction ds generalizing d with
  | nil => simpa using hrefl d
  | cons e ds ih =>
    intro best
    obtain ⟨hmem, hle⟩ := ih (if better e d then e else d)
    change best ∈ _ at hmem
    change ∀ x ∈ _, le best x at hle
    have hfirst : le (if better e d then e else d) e ∧ le (if better e d then e else d) d := by
      by_cases h : better e d
      · rw [if_pos h]
        exact ⟨hrefl e, hbetter e d h⟩
      · rw [if_neg h]
        exact ⟨hworse e d h, hrefl d⟩
    have hbest := hle _ (List.mem_cons_self ..)
    refine ⟨?_, fun x hx => ?_⟩
    · rcases List.mem_cons.1 hmem with h | h
      · rw [h]
        by_cases hed : better e d
        · simp [hed]
        · simp [hed]
      · exact List.mem_cons_of_mem _ (List.mem_cons_of_mem _ h)
    · rcases List.mem_cons.1 hx with rfl | hx
      · exact htrans _ _ _ hbest hfirst.2
      · rcases List.mem_cons.1 hx with rfl | hx
        · exact htrans _ _ _ hbest hfirst.1
        · exact hle x (List.mem_cons_of_mem _ hx)

section

variable {samples : List Duration}

/-- The shortest sample is one of them, and none is shorter. -/
theorem shortest_isLeast (hne : samples ≠ []) :
    shortest samples ∈ samples ∧ ∀ d ∈ samples, shortest samples ≤ d := by
  obtain ⟨d, ds, rfl⟩ := List.exists_cons_of_ne_nil hne
  exact foldl_best (fun a b => a < b) (fun a b => a ≤ b) Int64.le_refl (fun _ _ _ => Int64.le_trans)
    (fun _ _ => Int64.le_of_lt) (fun _ _ => Int64.not_lt.1) ds d

/-- The longest sample is one of them, and none is longer, if they are not negative. -/
theorem longest_isGreatest (hne : samples ≠ []) (hpos : ∀ d ∈ samples, 0 ≤ d) :
    longest samples ∈ samples ∧ ∀ d ∈ samples, d ≤ longest samples := by
  obtain ⟨hmem, hle⟩ := foldl_best (fun a b => b < a) (fun a b => b ≤ a) Int64.le_refl
    (fun _ _ _ hab hbc => Int64.le_trans hbc hab) (fun _ _ => Int64.le_of_lt)
    (fun _ _ => Int64.not_lt.1)
    samples 0
  change longest samples ∈ 0 :: samples at hmem
  change ∀ d ∈ 0 :: samples, d ≤ longest samples at hle
  have hbound : ∀ d ∈ samples, d ≤ longest samples := fun d hd => hle d (List.mem_cons_of_mem _ hd)
  refine ⟨?_, hbound⟩
  rcases List.mem_cons.1 hmem with hzero | h
  · -- All samples are zero, and so is the first one.
    obtain ⟨d, ds, rfl⟩ := List.exists_cons_of_ne_nil hne
    have hd := List.mem_cons_self (a := d) (l := ds)
    have hd' : d = 0 := Int64.le_antisymm (hzero ▸ hbound d hd) (hpos d hd)
    rw [hzero, ← hd']
    exact hd
  · exact h

end

/-! ### Runs -/

/-- Hands out samples one after another, and fails when there are none left. -/
def handOut : StateM (List Duration) (Except Unit Duration) := do
  match ← get with
  | [] => return .error ()
  | d :: rest =>
    set rest
    return .ok d

/-- The samples that are taken are those that are handed out. By induction on them. -/
theorem takeSamples_handOut (name : String) (i : Nat) (done ds rest : List Duration) :
    (takeSamples name (pure false) handOut ds.length i done).run (ds ++ rest) =
      (.ok (done.reverse ++ ds), rest) := by
  induction ds generalizing i done with
  | nil => simp [takeSamples]; rfl
  | cons d ds ih =>
    have hstep :
        (takeSamples name (pure false) handOut (ds.length + 1) i done).run (d :: (ds ++ rest)) =
        (takeSamples name (pure false) handOut ds.length (i + 1) (d :: done)).run (ds ++ rest) :=
        rfl
    rw [List.length_cons, List.cons_append, hstep, ih, List.reverse_cons, List.append_assoc]
    rfl

/-- A run takes the samples as they come. -/
theorem run_handOut {samples : List Duration} (hne : samples ≠ []) {iterations : Int}
    (hcount : iterations = samples.length ∨ iterations = 0 ∧ samples.length = defaultIterations)
    (name : String) (rest : List Duration) :
    (run name iterations (pure false) handOut).run (samples ++ rest) =
      (.ok (.ofSamples name samples), rest) := by
  have hlength : 0 < samples.length := List.length_pos_iff.2 hne
  have hiterations : ¬iterations < 0 := by omega
  have hn : (if iterations = 0 then defaultIterations else iterations.toNat) = samples.length := by
    split <;> omega
  have htake := takeSamples_handOut name 0 [] samples rest
  unfold run
  rw [if_neg hiterations, hn]
  simp only [StateT.run_bind, htake]
  rfl

/-- A run over moderate samples reports their middle, whatever their order, the shortest and the
longest of them, and the median lies between these. -/
theorem run_summarizes {samples : List Duration} (hne : samples ≠ [])
    (hmoderate : ∀ d ∈ samples, Moderate d) {iterations : Int}
    (hcount : iterations = samples.length ∨ iterations = 0 ∧ samples.length = defaultIterations)
    (name : String) (rest : List Duration) :
    (∀ other : List Duration, other.Perm samples → median other = median samples) ∧
      (∀ sorted : List Duration, sorted.Perm samples → sorted.Pairwise (· ≤ ·) →
        Middle sorted (median samples)) ∧
      ∃ r, (run name iterations (pure false) handOut).run (samples ++ rest) = (.ok r, rest) ∧
        r.name = name ∧ r.samples = samples ∧ r.median = median samples ∧
        r.min ∈ samples ∧ r.max ∈ samples ∧ (∀ d ∈ samples, r.min ≤ d ∧ d ≤ r.max) ∧
        r.min ≤ r.median ∧ r.median ≤ r.max := by
  have hpos : ∀ d ∈ samples, 0 ≤ d := fun d hd => Int64.le_iff_toInt_le.2 (hmoderate d hd).1
  obtain ⟨hmin, hleast⟩ := shortest_isLeast hne
  obtain ⟨hmax, hgreatest⟩ := longest_isGreatest hne hpos
  have hmiddle {sorted : List Duration} (hperm : sorted.Perm samples)
      (hsorted : sorted.Pairwise (· ≤ ·)) :=
    middle_median hperm hsorted hne hmoderate
  have hinOrder := List.mergeSort_perm samples fun a b => decide (a ≤ b)
  have hbetween := (hmiddle hinOrder (pairwise_inOrder samples)).between
    (fun d hd => hleast d (hinOrder.mem_iff.1 hd)) (fun d hd => hgreatest d (hinOrder.mem_iff.1 hd))
    fun d hd => hmoderate d (hinOrder.mem_iff.1 hd)
  exact ⟨fun _ => median_perm, fun _ => hmiddle, _, run_handOut hne hcount name rest, rfl, rfl, rfl,
    hmin, hmax, fun d hd => ⟨hleast d hd, hgreatest d hd⟩, hbetween.1, hbetween.2⟩

/-- Four samples out of order: the mean of the two in the middle is cut down to the smaller one. -/
theorem fourSamples_summary :
    median [4, 1, 3, 2] = 2 ∧ median [1, 2, 3, 4] = median [4, 1, 3, 2] ∧
      Middle [1, 2, 3, 4] (median [4, 1, 3, 2]) ∧
      ∃ r, (run "add" 4 (pure false) handOut).run ([4, 1, 3, 2] ++ [7]) = (.ok r, [7]) ∧
        r.min ∈ [4, 1, 3, 2] ∧ r.max ∈ [4, 1, 3, 2] ∧ r.min ≤ r.median ∧ r.median ≤ r.max := by
  have hperm : [1, 2, 3, 4].Perm ([4, 1, 3, 2] : List Duration) := by decide
  have hne : ([4, 1, 3, 2] : List Duration) ≠ [] := by decide
  have hall : ([4, 1, 3, 2] : List Duration).all (decide <| Moderate ·) = true := by decide
  have hmoderate : ∀ d ∈ ([4, 1, 3, 2] : List Duration), Moderate d :=
    fun d hd => of_decide_eq_true (List.all_eq_true.1 hall d hd)
  obtain ⟨horder, hmiddle, r, hrun, -, -, -, hmin, hmax, -, hlower, hupper⟩ :=
    run_summarizes hne hmoderate (.inl rfl) "add" [7]
  refine ⟨?_, horder _ hperm, hmiddle _ hperm (by decide), r, hrun, hmin, hmax, hlower, hupper⟩
  rw [median_eq hperm (by decide)]
  decide

end Lanewise.Bench
