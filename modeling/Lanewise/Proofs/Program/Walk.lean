import Lanewise.Instruction

/-!
# Walking through a program

A program is read from its start, each instruction right after the one before, until the end or
until a word that begins no instruction. A program is accepted for a set of engines exactly if this
walk covers it and meets only instructions of these engines. Conversely, words that are put together
from whole instructions are walked through in the same order.

## Main definitions

* `Instruction.words`: an instruction as words.
* `Program.walk`: the instructions of a program, in order.
* `Program.Placed`: instructions that stand one after another.
* `Program.Visits`: the positions that a walk looks at.

## Main results

* `Instruction.decode_eq_ok_iff`: where an instruction can be read.
* `Program.verify_eq_ok_iff`: accepted programs are the ones that are covered by their walk.
* `Program.verify_eq_ok_iff_visits`: they are those in which the walk never gets stuck.
* `Program.walkFrom_eq`: the walk through words that are put together from instructions.
-/

namespace Lanewise

/-- The words of an instruction: its opcode and its operands. -/
def Instruction.words (i : Instruction) : List Word :=
  i.op.code :: i.args

theorem Instruction.length_words (i : Instruction) : i.words.length = i.size := by
  rw [words, List.length_cons, size, Nat.add_comm]

theorem Opcode.ofWord?_code (op : Opcode) : ofWord? op.code = some op := by
  cases op <;> rfl

theorem Opcode.mem_all (op : Opcode) : op ∈ all := by
  have hop := ofWord?_code op
  unfold ofWord? at hop
  split at hop
  · exact Array.mem_of_getElem? hop
  · cases hop

/-- A word stands for an opcode only if it is its number. -/
theorem Opcode.ofWord?_eq_some_iff {w : Word} {op : Opcode} :
    ofWord? w = some op ↔ w = op.code := by
  constructor
  · intro h
    unfold ofWord? at h
    split at h
    · next hpos =>
      obtain ⟨hlt, hget⟩ := Array.getElem?_eq_some_iff.1 h
      have hsize : all.size = 28 := rfl
      have hcode : ∀ n (h : n < all.size), (all[n]).code = Int32.ofNat (n + 1) := by decide
      rw [← hget, hcode _ hlt, Nat.sub_add_cancel (by omega)]
      apply Int32.toInt_inj.1
      rw [Int32.toInt_ofNat_of_lt (by omega), Int.toNat_of_nonneg (by omega)]
    · cases h
  · rintro rfl
    exact ofWord?_code op

/-! ### Reading -/

theorem Program.at?_natCast (p : Program) (ip : Nat) : p.at? ip = p.words.toList[ip]? := by
  rw [at?, if_pos (Int.natCast_nonneg ip), Int.toNat_natCast, Array.getElem?_toList]

theorem Instruction.operandsAt_eq (p : Program) (ip n : Nat) :
    operandsAt p ip n = (p.words.toList.drop (ip + 1)).take n := by
  rw [operandsAt, Array.toList_extract, List.extract_eq_drop_take', List.drop_take]
  congr 1
  omega

/-- An instruction can be read where its words stand. -/
theorem Instruction.decode_eq_ok_iff {p : Program} {ip : Nat} {i : Instruction} :
    decode p ip = .ok i ↔
      i.ip = ip ∧ i.args.length = i.op.operands ∧ i.words <+: p.words.toList.drop ip := by
  unfold decode
  rw [Program.at?_natCast, Int.toNat_natCast]
  cases hword : p.words.toList[ip]? with
  | none =>
    simp only [reduceCtorEq, false_iff, not_and]
    rintro - - hprefix
    rw [List.drop_eq_nil_of_le (List.getElem?_eq_none_iff.1 hword), List.prefix_nil] at hprefix
    cases hprefix
  | some w =>
    obtain ⟨hlt, hget⟩ := List.getElem?_eq_some_iff.1 hword
    rw [List.drop_eq_getElem_cons hlt, hget, words, List.cons_prefix_cons]
    dsimp only
    cases hop : Opcode.ofWord? w with
    | none =>
      simp only [reduceCtorEq, false_iff, not_and]
      rintro - - rfl
      rw [Opcode.ofWord?_code] at hop
      cases hop
    | some op =>
      obtain rfl := Opcode.ofWord?_eq_some_iff.1 hop
      dsimp only
      rw [operandsAt_eq]
      constructor
      · intro h
        split at h
        · next hlength =>
          obtain rfl := Except.ok.inj h
          exact ⟨rfl, hlength, rfl, List.take_prefix _ _⟩
        · cases h
      · rintro ⟨rfl, hlength, hcode, hprefix⟩
        have hop := Opcode.ofWord?_code i.op
        rw [hcode, Opcode.ofWord?_code] at hop
        obtain rfl := Option.some.inj hop
        have htake := List.prefix_iff_eq_take.1 hprefix
        rw [hlength] at htake
        rw [← htake, if_pos hlength]

theorem Opcode.modes_meets_any (op : Opcode) : op.modes.meets .any = true := by
  cases op <;> rfl

namespace Program

variable {p : Program} {modes : Modes} {ip : Nat} {i : Instruction}

/-! ### The walk -/

/-- The instructions from a position on, each right after the one before. -/
def walkFrom (p : Program) (ip : Nat) : List Instruction :=
  if ip < p.size then
    match Instruction.decode p ip with
    | .error _ => []
    | .ok i => i :: walkFrom p (ip + i.size)
  else []
termination_by p.size - ip
decreasing_by simp only [Instruction.size]; omega

/-- The instructions of a program, from its start on. -/
def walk (p : Program) : List Instruction :=
  p.walkFrom 0

/-- Whole instructions that stand one after another, from a position on. -/
inductive Placed : Nat → List Instruction → Prop
  | nil (ip : Nat) : Placed ip []
  | cons {ip : Nat} {i : Instruction} {rest : List Instruction} (hip : i.ip = ip)
    (hargs : i.args.length = i.op.operands) (hrest : Placed i.next rest) : Placed ip (i :: rest)

theorem placed_walkFrom (p : Program) (ip : Nat) : Placed ip (p.walkFrom ip) := by
  fun_induction p.walkFrom ip with
  | case1 ip hlt e hdecode => exact .nil ip
  | case2 ip hlt i hdecode ih =>
    obtain ⟨rfl, hargs, -⟩ := Instruction.decode_eq_ok_iff.1 hdecode
    exact .cons rfl hargs ih
  | case3 ip hge => exact .nil ip

/-- Words that are put together from whole instructions are walked through in the same order. -/
theorem walkFrom_eq {is : List Instruction} (hplaced : Placed ip is)
    (hwords : p.words.toList.drop ip = is.flatMap Instruction.words) : p.walkFrom ip = is := by
  induction hplaced with
  | nil ip =>
    rw [List.flatMap_nil, List.drop_eq_nil_iff, Array.length_toList] at hwords
    rw [walkFrom, if_neg (show ¬ip < p.size from Nat.not_lt.2 hwords)]
  | @cons _ i rest hip hargs _ ih =>
    subst hip
    rw [List.flatMap_cons] at hwords
    have hdecode : Instruction.decode p i.ip = .ok i :=
      Instruction.decode_eq_ok_iff.2 ⟨rfl, hargs, hwords ▸ List.prefix_append _ _⟩
    have hlt : i.ip < p.size := by
      have hlength := congrArg List.length hwords
      rw [List.length_drop, List.length_append, Instruction.length_words, Instruction.size,
        Array.length_toList] at hlength
      rw [size]
      omega
    have hrest : p.words.toList.drop i.next = rest.flatMap Instruction.words := by
      rw [Instruction.next, ← List.drop_drop, hwords, ← Instruction.length_words, List.drop_left]
    rw [walkFrom, if_pos hlt, hdecode]
    exact congrArg (i :: ·) (ih hrest)

/-! ### Accepted programs -/

theorem verifyFrom_eq_ok_iff :
    p.verifyFrom modes ip = .ok () ↔
      p.words.toList.drop ip = (p.walkFrom ip).flatMap Instruction.words ∧
        ∀ i ∈ p.walkFrom ip, i.op.modes.meets modes = true := by
  fun_induction p.walkFrom ip with
  | case1 ip hlt e hdecode =>
    rw [verifyFrom, if_pos hlt, hdecode, List.flatMap_nil, List.drop_eq_nil_iff,
      Array.length_toList]
    simp only [reduceCtorEq, false_iff, not_and]
    exact fun hle => absurd hlt (Nat.not_lt.2 hle)
  | case2 ip hlt i hdecode ih =>
    obtain ⟨rfl, -, rest, hrest⟩ := Instruction.decode_eq_ok_iff.1 hdecode
    have hdrop : p.words.toList.drop (i.ip + i.size) = rest := by
      rw [← List.drop_drop, ← hrest, ← Instruction.length_words, List.drop_left]
    rw [verifyFrom, if_pos hlt, hdecode, List.flatMap_cons, List.forall_mem_cons, ← hrest,
      List.append_cancel_left_eq, ← hdrop]
    dsimp only
    split
    · next hmeets => rw [ih, and_iff_right hmeets]
    · next hmeets => simp [hmeets]
  | case3 ip hge =>
    have hnil : p.words.toList.drop ip = [] :=
      List.drop_eq_nil_of_le (by rw [Array.length_toList]; exact Nat.not_lt.1 hge)
    rw [verifyFrom, if_neg hge, hnil]
    simp

/-- A program is accepted if it is not empty, its walk covers it, and it has no other instructions
than those of the given engines. -/
theorem verify_eq_ok_iff :
    p.verify modes = .ok () ↔
      p.size ≠ 0 ∧ p.words.toList = p.walk.flatMap Instruction.words ∧
        ∀ i ∈ p.walk, i.op.modes.meets modes = true := by
  unfold verify
  split
  · next h => simp [h]
  · next h => rw [verifyFrom_eq_ok_iff, List.drop_zero, and_iff_right h, walk]

/-- The positions that a linear walk looks at from a given one on: this one, and behind an
instruction that can be read those from the end of the instruction on, as long as they lie inside
the program. -/
inductive Visits (p : Program) : Nat → Nat → Prop
  | here {ip : Nat} (hlt : ip < p.size) : Visits p ip ip
  | behind {ip pos : Nat} {i : Instruction} (hlt : ip < p.size)
    (hdecode : Instruction.decode p ip = .ok i)
      (h : Visits p (ip + i.size) pos) : Visits p ip pos

theorem verifyFrom_eq_ok_iff_visits :
    p.verifyFrom modes ip = .ok () ↔
      ∀ pos, p.Visits ip pos → ∃ i, Instruction.decode p pos = .ok i ∧
        i.op.modes.meets modes = true := by
  fun_induction verifyFrom p modes ip with
  | case1 ip hlt e hdecode =>
    refine iff_of_false (fun h => by cases h) fun h => ?_
    obtain ⟨i, hi, -⟩ := h ip (.here hlt)
    rw [hdecode] at hi
    cases hi
  | case2 ip hlt i hdecode hmeets ih =>
    rw [ih]
    constructor
    · intro h pos hpos
      cases hpos with
      | here => exact ⟨i, hdecode, hmeets⟩
      | behind _ hi hrest =>
        rw [hdecode] at hi
        cases hi
        exact h pos hrest
    · exact fun h pos hpos => h pos (.behind hlt hdecode hpos)
  | case3 ip hlt i hdecode hmeets =>
    refine iff_of_false (fun h => by cases h) fun h => ?_
    obtain ⟨j, hj, hmeets'⟩ := h ip (.here hlt)
    rw [hdecode] at hj
    cases hj
    exact hmeets hmeets'
  | case4 ip hge =>
    refine iff_of_true rfl fun pos hpos => ?_
    cases hpos with
    | here hlt => exact absurd hlt hge
    | behind hlt => exact absurd hlt hge

/-- A program is accepted if it is not empty and an instruction of the given engines can be read at
each position that the walk from its start looks at. -/
theorem verify_eq_ok_iff_visits :
    p.verify modes = .ok () ↔
      p.size ≠ 0 ∧
        ∀ pos, p.Visits 0 pos →
          ∃ i, Instruction.decode p pos = .ok i ∧ i.op.modes.meets modes = true := by
  unfold verify
  split
  · next h => exact iff_of_false (fun h => by cases h) fun h' => h'.1 h
  · next h => rw [verifyFrom_eq_ok_iff_visits, and_iff_right h]

/-- Execution may start at each position of a program. -/
theorem checkEntry_eq_ok_iff {entry : Int} :
    p.checkEntry entry = .ok () ↔ 0 ≤ entry ∧ entry < p.size := by
  unfold checkEntry
  constructor
  · intro h
    split at h
    · cases h
    · split at h
      · next hin => exact hin
      · cases h
  · intro h
    rw [if_neg (by omega), if_pos h]

theorem Placed.ip_eq {is : List Instruction} {n : Nat} (h : Placed ip is) (hi : is[n]? = some i) :
    i.ip = ip + ((is.take n).flatMap Instruction.words).length := by
  induction h generalizing n with
  | nil ip => cases hi
  | @cons ip j rest hip hargs hrest ih =>
    cases n with
    | zero =>
      obtain rfl := Option.some.inj hi
      exact hip
    | succ n =>
      rw [ih hi, List.take_succ_cons, List.flatMap_cons, List.length_append,
        Instruction.length_words, Instruction.next, hip, Nat.add_assoc]

/-- Where the walk meets the instruction with the given number, or the end if there are not so
many. -/
def startOf (p : Program) (n : Nat) : Nat :=
  match p.walk[n]? with
  | some i => i.ip
  | none => p.size

theorem startOf_eq (h : p.verify modes = .ok ()) (n : Nat) :
    p.startOf n = ((p.walk.take n).flatMap Instruction.words).length := by
  rw [startOf]
  split
  · next i hi => rw [(p.placed_walkFrom 0).ip_eq hi, Nat.zero_add, walk]
  · next hnone =>
    rw [List.take_of_length_le (List.getElem?_eq_none_iff.1 hnone), ← (verify_eq_ok_iff.1 h).2.1,
      Array.length_toList, size]

/-- The words of an opcode and its operands. -/
def codeWords (code : Opcode × List Word) : List Word :=
  code.1.code :: code.2

/-- Opcodes and their operands as instructions that stand one after another, from a position on. -/
def placeFrom : (ip : Nat) → List (Opcode × List Word) → List Instruction
  | _, [] => []
  | ip, (op, args) :: rest => ⟨ip, op, args⟩ :: placeFrom (ip + (1 + args.length)) rest

theorem placed_placeFrom (ip : Nat) {code : List (Opcode × List Word)}
    (h : ∀ c ∈ code, c.2.length = c.1.operands) : Placed ip (placeFrom ip code) := by
  induction code generalizing ip with
  | nil => exact .nil ip
  | cons c rest ih =>
    obtain ⟨hc, hrest⟩ := List.forall_mem_cons.1 h
    exact .cons rfl hc (ih _ hrest)

theorem flatMap_words_placeFrom (ip : Nat) (code : List (Opcode × List Word)) :
    (placeFrom ip code).flatMap Instruction.words = code.flatMap codeWords := by
  induction code generalizing ip with
  | nil => rfl
  | cons c rest ih =>
    rw [placeFrom, List.flatMap_cons, List.flatMap_cons, ih, Instruction.words, codeWords]

theorem map_placeFrom (ip : Nat) (code : List (Opcode × List Word)) :
    (placeFrom ip code).map (fun i => (i.op, i.args)) = code := by
  induction code generalizing ip with
  | nil => rfl
  | cons c rest ih => rw [placeFrom, List.map_cons, ih]

theorem walk_eq_placeFrom {code : List (Opcode × List Word)}
    (hargs : ∀ c ∈ code, c.2.length = c.1.operands)
    (hwords : p.words.toList = code.flatMap codeWords) :
    p.walk = placeFrom 0 code :=
  walkFrom_eq (placed_placeFrom 0 hargs) (by rw [List.drop_zero, flatMap_words_placeFrom, hwords])

/-! ### Boundaries -/

/-- A position at which the walk finds an instruction. -/
def Boundary (p : Program) (ip : Int) : Prop :=
  ∃ i ∈ p.walk, (i.ip : Int) = ip

/-- A position at which the walk finds an instruction, or the end of the program. -/
def Landing (p : Program) (ip : Int) : Prop :=
  p.Boundary ip ∨ ip = p.size

theorem decode_of_mem_walkFrom (h : i ∈ p.walkFrom ip) : Instruction.decode p i.ip = .ok i := by
  fun_induction p.walkFrom ip with
  | case1 ip hlt e hdecode => cases h
  | case2 ip hlt j hdecode ih =>
    rcases List.mem_cons.1 h with rfl | h
    · obtain ⟨rfl, -, -⟩ := Instruction.decode_eq_ok_iff.1 hdecode
      exact hdecode
    · exact ih h
  | case3 ip hge => cases h

/-- After each of several instructions that stand one after another, the next one stands or the last
one has ended. -/
theorem Placed.next_eq {is : List Instruction} (h : Placed ip is) (hi : i ∈ is) :
    (∃ j ∈ is, j.ip = i.next) ∨ i.next = ip + (is.flatMap Instruction.words).length := by
  induction h with
  | nil ip => cases hi
  | @cons ip j rest hip hargs hrest ih =>
    have hend : ip + ((j :: rest).flatMap Instruction.words).length =
        j.next + (rest.flatMap Instruction.words).length := by
      rw [List.flatMap_cons, List.length_append, Instruction.length_words, Instruction.next, hip,
        Nat.add_assoc]
    rw [hend]
    rcases List.mem_cons.1 hi with rfl | hi
    · cases hrest with
      | nil => exact .inr rfl
      | cons hnext => exact .inl ⟨_, List.mem_cons_of_mem _ List.mem_cons_self, hnext⟩
    · rcases ih hi with ⟨k, hk, hip⟩ | hnext
      · exact .inl ⟨k, List.mem_cons_of_mem _ hk, hip⟩
      · exact .inr hnext

/-- Behind an instruction of an accepted program there is another one, or the program ends. -/
theorem landing_next (h : p.verify modes = .ok ()) (hi : i ∈ p.walk) : p.Landing i.next := by
  have hcovered := congrArg List.length (verify_eq_ok_iff.1 h).2.1
  rw [Array.length_toList] at hcovered
  rcases (p.placed_walkFrom 0).next_eq hi with ⟨j, hj, hip⟩ | hnext
  · exact .inl ⟨j, hj, congrArg Nat.cast hip⟩
  · refine .inr (congrArg Nat.cast ?_)
    rw [hnext, Nat.zero_add, size, hcovered, walk]

end Program

end Lanewise
