import Lanewise.Proofs.Assembly.Items
import Lanewise.Proofs.Program.Walk
import Lanewise.Proofs.Text.Lines
import Mathlib.Data.List.Forall2

/-!
# The layout of assembled programs

The second reading of a program text writes the instructions one after another and replaces each
operand by the word that it denotes: its value if it is a literal, and otherwise the position of the
label that it names. No label looks like a literal, so the name of a label always denotes the label,
in front of it as well as behind it.

The positions of the labels have been counted before any word is written. They are right
nevertheless: the walk through the words that are written meets one instruction after another as
they stand in the text, and the position of a label is where the walk meets the next instruction.

## Main definitions

* `Assembly.Denotes`: the word that an operand stands for.
* `Assembly.Encodes`: the operands of an instruction are replaced by what they denote.
* `Assembly.Means`: the program that items stand for, and where it starts.
* `Assembly.LaidOut`: how the walk through a program follows a text.

## Main results

* `Assembly.parse?_label`: no label looks like a literal.
* `Assembly.assemble_eq_ok_iff`: which texts have a program, and which program.
* `Assembly.assemble_laidOut`: how it follows the text.
-/

namespace Lanewise

namespace Assembly

/-- The word that an operand stands for. -/
inductive Denotes (items : List Item) (f : Field) : Word → Prop
  | literal {v : Int} (hv : Numeral.parseIn? Word.least Word.greatest f.chars = some v) :
    Denotes items f (Int32.ofInt v)
  | label {position : Nat} (hlabel : LabelAt items f.name position) :
    Denotes items f (Int32.ofNat position)

/-- An instruction as written, and with its operands replaced by what they denote. -/
def Encodes (items : List Item) (written : Opcode × List Field)
    (code : Opcode × List Word) : Prop :=
  code.1 = written.1 ∧ List.Forall₂ (Denotes items) written.2 code.2

/-- The program that items stand for, and where it starts. -/
structure Means (items : List Item) (x : Executable) : Prop where
  words_eq : ∃ code, List.Forall₂ (Encodes items) (instructions items) code ∧
    x.program.words.toList = code.flatMap Program.codeWords
  entry_denoted : ∃ w, Denotes items (entryField items) w ∧ w.toInt = x.entry
  entry_lt : x.entry < x.program.size

/-- Labels are well-formed, and instructions have all of their operands. -/
def Item.WellFormed : Item → Prop
  | label f => isLabel f.chars = true
  | entry _ => True
  | instruction op operands => operands.length = op.operands

variable {items : List Item} {d : Draft}

/-! ### Labels and literals -/

theorem isLabelStart_iff {c : Char} :
    isLabelStart c = true ↔ c = '_' ∨ c = '.' ∨ ('a' ≤ c ∧ c ≤ 'z') ∨ ('A' ≤ c ∧ c ≤ 'Z') := by
  simp only [isLabelStart, Bool.or_eq_true, Bool.and_eq_true, beq_iff_eq, decide_eq_true_eq,
    or_assoc]

/-- The first character of a label is no decimal digit. -/
theorem digits?_of_isLabelStart {c : Char} (h : isLabelStart c = true) (hc : c ≠ '_')
    (rest : List Char) : Numeral.digits? 10 0 (c :: rest) = none := by
  have hle (a b : Char) : a ≤ b ↔ a.toNat ≤ b.toNat := Iff.rfl
  have hdigit : ∀ n, Numeral.digit? c = some n → ¬n < 10 := by
    intro n hn
    rcases isLabelStart_iff.1 h with rfl | rfl | hletter | hletter
    · exact absurd rfl hc
    · cases hn
    all_goals
      simp only [Numeral.digit?, hle, Char.reduceToNat] at hn hletter
      split_ifs at hn <;> (cases hn; omega)
  rw [Numeral.digits?, if_neg hc]
  split
  · next n hn => exact if_neg (hdigit n hn)
  · rfl

/-- No label looks like a literal. -/
theorem parse?_label {cs : List Char} (h : isLabel cs = true) : Numeral.parse? cs = none := by
  cases cs with
  | nil => cases h
  | cons c rest =>
    have hstart : isLabelStart c = true := (Bool.and_eq_true_iff.1 h).1
    have hnone : Numeral.unsigned? (c :: rest) = none := by
      have hzero : c ≠ '0' := by rintro rfl; cases hstart
      unfold Numeral.unsigned?
      split
      · rfl
      · next heq => exact absurd (List.cons.inj heq).1 hzero
      · next heq => exact absurd (List.cons.inj heq).1 hzero
      · by_cases hc : c = '_'
        · subst hc
          rfl
        · rw [digits?_of_isLabelStart hstart hc, ite_self]
    unfold Numeral.parse?
    split
    · next heq => exact absurd (List.cons.inj heq).1 (by rintro rfl; cases hstart)
    · next heq => exact absurd (List.cons.inj heq).1 (by rintro rfl; cases hstart)
    · rw [hnone]
      rfl

theorem parseIn?_label {cs : List Char} (h : isLabel cs = true) (lo hi : Int) :
    Numeral.parseIn? lo hi cs = none := by
  rw [Numeral.parseIn?, parse?_label h]

theorem Says.wellFormed {fields : List Field} {line : List Item} (h : Says fields line) :
    ∀ item ∈ line, item.WellFormed := by
  induction h with
  | blank => exact fun _ hitem => by cases hitem
  | label hlabel _ ih => exact List.forall_mem_cons.2 ⟨hlabel, ih⟩
  | entry => exact List.forall_mem_singleton.2 trivial
  | instruction _ _ _ hlength => exact List.forall_mem_singleton.2 hlength

theorem TextSays.wellFormed {lines : List Source.Line} (h : TextSays lines items) :
    ∀ item ∈ items, item.WellFormed := by
  induction h with
  | nil => exact fun _ hitem => by cases hitem
  | cons hline _ ih => exact List.forall_mem_append.2 ⟨hline.wellFormed, ih⟩

/-! ### The second reading -/

/-- What is named like a label is well-formed like it. -/
theorem isLabel_of_labelAt (hwell : ∀ item ∈ items, item.WellFormed) {f : Field} {position : Nat}
    (h : LabelAt items f.name position) : isLabel f.chars = true := by
  obtain ⟨k, g, hk, hname, -⟩ := h
  rw [← String.ofList_injective hname]
  exact hwell _ (List.mem_of_getElem? hk)

theorem resolve_eq_ok_iff (h : Collected items d) (hwell : ∀ item ∈ items, item.WellFormed)
    {f : Field} {w : Word} : resolve d.labels f = .ok w ↔ Denotes items f w := by
  unfold resolve
  constructor
  · intro hw
    split at hw
    · next v hv =>
      obtain rfl := Except.ok.inj hw
      exact .literal hv
    · split at hw
      · next position hposition =>
        obtain rfl := Except.ok.inj hw
        exact .label ((h.labels_iff _ _).1 hposition)
      · cases hw
  · intro hw
    cases hw with
    | literal hv => rw [hv]
    | label hlabel =>
      rw [parseIn?_label (isLabel_of_labelAt hwell hlabel), (h.labels_iff _ _).2 hlabel]

/-- A fold that appends something for each element. -/
theorem foldlM_append_eq_ok_iff {α β γ ε : Type} {f : Array γ → α → Except ε (Array γ)}
    {R : α → β → Prop} {g : β → List γ}
    (hf : ∀ out a out', f out a = .ok out' ↔ ∃ b, R a b ∧ out'.toList = out.toList ++ g b)
    {xs : List α} {out out' : Array γ} :
    xs.foldlM f out = .ok out' ↔
      ∃ ys, List.Forall₂ R xs ys ∧ out'.toList = out.toList ++ ys.flatMap g := by
  induction xs generalizing out with
  | nil =>
    simp only [List.foldlM_nil, List.forall₂_nil_left_iff, exists_eq_left, List.flatMap_nil,
      List.append_nil, Array.toList_inj]
    exact ⟨fun h => (Except.ok.inj h).symm, fun h => congrArg _ h.symm⟩
  | cons a xs ih =>
    rw [List.foldlM_cons]
    constructor
    · intro h
      cases hstep : f out a with
      | error e => rw [hstep] at h; cases h
      | ok mid =>
        rw [hstep] at h
        obtain ⟨b, hb, hmid⟩ := (hf _ _ _).1 hstep
        obtain ⟨ys, hys, hout⟩ := ih.1 h
        exact ⟨b :: ys, .cons hb hys, by rw [hout, hmid, List.flatMap_cons, List.append_assoc]⟩
    · rintro ⟨_, hall, hout⟩
      obtain ⟨b, ys, hb, hys, rfl⟩ := List.forall₂_cons_left_iff.1 hall
      have hstep : f out a = .ok (out ++ (g b).toArray) :=
        (hf _ _ _).2 ⟨b, hb, by rw [Array.toList_append]⟩
      rw [hstep]
      refine ih.2 ⟨ys, hys, ?_⟩
      rw [hout, Array.toList_append, List.flatMap_cons, List.append_assoc]

theorem emitStatement_eq_ok_iff (h : Collected items d) (hwell : ∀ item ∈ items, item.WellFormed)
    {words words' : Array Word} {s : Statement} :
    emitStatement d.labels words s = .ok words' ↔
      ∃ code, Encodes items (s.op, s.operands) code ∧
        words'.toList = words.toList ++ Program.codeWords code := by
  rw [emitStatement]
  refine (foldlM_append_eq_ok_iff (R := Denotes items) (g := fun w => [w]) ?_).trans ?_
  · intro out f out'
    simp only [← resolve_eq_ok_iff h hwell, ← Array.toList_push, Array.toList_inj]
    cases resolve d.labels f with
    | error c => simp
    | ok w => simp [eq_comm]
  · simp only [List.flatMap_singleton', Array.toList_push, List.append_assoc, List.singleton_append]
    constructor
    · rintro ⟨args, hargs, hwords⟩
      exact ⟨(s.op, args), ⟨rfl, hargs⟩, hwords⟩
    · rintro ⟨⟨op, args⟩, ⟨hop, hargs⟩, hwords⟩
      obtain rfl : op = s.op := hop
      exact ⟨args, hargs, hwords⟩

theorem emit_eq_ok_iff (h : Collected items d) (hwell : ∀ item ∈ items, item.WellFormed)
    {words : Array Word} :
    emit d = .ok words ↔
      ∃ code, List.Forall₂ (Encodes items) (instructions items) code ∧
        words.toList = code.flatMap Program.codeWords := by
  rw [emit, ← Array.foldlM_toList, ← h.statements_eq]
  simp only [List.forall₂_map_left_iff]
  exact foldlM_append_eq_ok_iff (fun _ s _ => emitStatement_eq_ok_iff h hwell (s := s))

theorem finish_eq_ok_iff (h : Collected items d) (hwell : ∀ item ∈ items, item.WellFormed)
    {x : Executable} : finish d = .ok x ↔ Means items x := by
  unfold finish
  constructor
  · intro hx
    cases hemit : emit d with
    | error e => rw [hemit] at hx; cases hx
    | ok words =>
      rw [hemit] at hx
      dsimp only [bind, Except.bind, throw, throwThe, MonadExceptOf.throw, pure, Except.pure] at hx
      split at hx
      · cases hx
      · next e he =>
        split at hx
        · cases hx
        · next hentry =>
          obtain rfl := Except.ok.inj hx
          obtain ⟨hnonneg, hlt⟩ := Program.checkEntry_eq_ok_iff.1 hentry
          rw [h.entry_eq, resolve_eq_ok_iff h hwell] at he
          refine ⟨(emit_eq_ok_iff h hwell).1 hemit, ⟨e, he, (Int.toNat_of_nonneg hnonneg).symm⟩, ?_⟩
          exact (Int.toNat_lt hnonneg).2 hlt
  · rintro ⟨hwords, ⟨w, hw, hentry⟩, hlt⟩
    have hcheck : x.program.checkEntry w.toInt = .ok () :=
      Program.checkEntry_eq_ok_iff.2 ⟨by omega, by omega⟩
    rw [(emit_eq_ok_iff h hwell).2 hwords, h.entry_eq]
    dsimp only [bind, Except.bind]
    rw [(resolve_eq_ok_iff h hwell).2 hw]
    dsimp only
    rw [hcheck, hentry, Int.toNat_natCast]
    rfl

/-- Which texts have a program, and which program: labels are well-formed and set once, instructions
and directives have the operands that they need, operands denote something, and the entry lies
inside. -/
theorem assemble_eq_ok_iff {source : List UInt8} {x : Executable} :
    assemble source = .ok x ↔
      ∃ items, TextSays (Source.lines source).toList items ∧ Distinct items ∧ Means items x := by
  have hempty : Distinct [] := List.nodup_nil
  unfold assemble
  constructor
  · intro h
    cases hread : readLines 0 {} (Source.lines source).toList with
    | error e => rw [hread] at h; cases h
    | ok d =>
      rw [hread] at h
      obtain ⟨items, hsaid, hdistinct, hcollected⟩ :=
        exists_items_of_readLines Collected.empty hempty hread
      exact ⟨items, hsaid, hdistinct, (finish_eq_ok_iff hcollected hsaid.wellFormed).1 h⟩
  · rintro ⟨items, hsaid, hdistinct, hmeans⟩
    obtain ⟨d, hread, hcollected⟩ := readLines_of_textSays hsaid Collected.empty hdistinct
    rw [hread]
    exact (finish_eq_ok_iff hcollected hsaid.wellFormed).2 hmeans

/-! ### The layout -/

/-- How an executable follows the items of a text, given the positions of the labels. -/
structure LaidOut (items : List Item) (labels : Std.HashMap String Nat) (x : Executable) : Prop
    extends Means items x where
  /-- The walk through the program meets the instructions in their order. -/
  walk_encodes :
    List.Forall₂ (Encodes items) (instructions items) (x.program.walk.map fun i => (i.op, i.args))
  /-- A label stands for the place where the walk meets the next instruction. -/
  label_eq {k : Nat} {f : Field} (hk : items[k]? = some (.label f)) :
    labels[f.name]? = some (x.program.startOf (instructions (items.take k)).length)
  /-- The name of a label denotes the place for which the label stands, wherever it is used. -/
  denotes_iff {k : Nat} {f : Field} (hk : items[k]? = some (.label f)) (w : Word) :
    Denotes items f w ↔ w = Int32.ofNat (x.program.startOf (instructions (items.take k)).length)
  verify_eq : x.program.verify .any = .ok ()

variable {x : Executable}

/-- Instructions have as many words as have been counted. -/
theorem extent_eq_of_encodes {rest : List Item} {code : List (Opcode × List Word)}
    (hwell : ∀ item ∈ rest, item.WellFormed)
    (hcode : List.Forall₂ (Encodes items) (instructions rest) code) :
    extent rest = (code.flatMap Program.codeWords).length := by
  induction rest generalizing code with
  | nil =>
    cases hcode
    rfl
  | cons item rest ih =>
    obtain ⟨hitem, hrest⟩ := List.forall_mem_cons.1 hwell
    cases item with
    | label f => exact (Nat.zero_add _).trans (ih hrest hcode)
    | entry e => exact (Nat.zero_add _).trans (ih hrest hcode)
    | instruction op operands =>
      obtain ⟨⟨op', args⟩, code, ⟨rfl, hargs⟩, hbehind, rfl⟩ := List.forall₂_cons_left_iff.1 hcode
      have hlength : operands.length = op'.operands := hitem
      rw [extent, ih hrest hbehind, List.flatMap_cons, List.length_append, Program.codeWords,
        List.length_cons, ← hargs.length_eq, hlength, Item.size, Opcode.size, Nat.add_comm 1]

theorem length_args_of_encodes {written : List (Opcode × List Field)}
    {code : List (Opcode × List Word)} (hwritten : ∀ s ∈ written, s.2.length = s.1.operands)
    (hcode : List.Forall₂ (Encodes items) written code) :
    ∀ c ∈ code, c.2.length = c.1.operands := by
  induction hcode with
  | nil => exact fun _ hc => by cases hc
  | cons hc _ ih =>
    obtain ⟨hs, hrest⟩ := List.forall_mem_cons.1 hwritten
    refine List.forall_mem_cons.2 ⟨?_, ih hrest⟩
    rw [hc.1, ← hc.2.length_eq, hs]

theorem length_operands_of_wellFormed (hwell : ∀ item ∈ items, item.WellFormed) :
    ∀ s ∈ instructions items, s.2.length = s.1.operands := by
  intro s hs
  obtain ⟨item, hitem, hsome⟩ := List.mem_filterMap.1 hs
  cases item with
  | label f => cases hsome
  | entry e => cases hsome
  | instruction op operands =>
    obtain rfl := Option.some.inj hsome
    exact hwell _ hitem

theorem Means.laidOut (h : Means items x) (hcollected : Collected items d)
    (hwell : ∀ item ∈ items, item.WellFormed) : LaidOut items d.labels x := by
  obtain ⟨code, hcode, hwords⟩ := h.words_eq
  have hargs := length_args_of_encodes (length_operands_of_wellFormed hwell) hcode
  have hplaced := Program.walk_eq_placeFrom hargs hwords
  have hwalk : (x.program.walk.map fun i => (i.op, i.args)) = code := by
    rw [hplaced, Program.map_placeFrom]
  have hverify : x.program.verify .any = .ok () := by
    refine Program.verify_eq_ok_iff.2 ⟨?_, ?_, fun i _ => i.op.modes_meets_any⟩
    · exact Nat.ne_of_gt (Nat.zero_lt_of_lt h.entry_lt)
    · rw [hplaced, Program.flatMap_words_placeFrom, hwords]
  -- The words in front of an item are those of the instructions in front of it.
  have hstart (k : Nat) :
      extent (items.take k) = x.program.startOf (instructions (items.take k)).length := by
    have happend :
        instructions items = instructions (items.take k) ++ instructions (items.drop k) := by
      rw [instructions, instructions, instructions, ← List.filterMap_append, List.take_append_drop]
    have htake := List.forall₂_take (instructions (items.take k)).length hcode
    rw [happend, List.take_left] at htake
    rw [Program.startOf_eq hverify, extent_eq_of_encodes (fun item hitem =>
      hwell item (List.mem_of_mem_take hitem)) htake, ← hwalk, ← List.map_take, List.flatMap_map]
    rfl
  have hlabel {k : Nat} {f : Field} (hk : items[k]? = some (.label f)) :
      d.labels[f.name]? = some (x.program.startOf (instructions (items.take k)).length) :=
    (hcollected.labels_iff _ _).2 ⟨k, f, hk, rfl, (hstart k).symm⟩
  refine ⟨h, hwalk ▸ hcode, hlabel, fun {k f} hk w => ?_, hverify⟩
  have hat := (hcollected.labels_iff _ _).1 (hlabel hk)
  constructor
  · rintro (hv | hother)
    · rw [parseIn?_label (isLabel_of_labelAt hwell hat)] at hv
      cases hv
    · have heq := (hcollected.labels_iff _ _).2 hother
      rw [hlabel hk] at heq
      rw [Option.some.inj heq]
  · rintro rfl
    exact .label hat

/-- An assembled program follows its text. The text says one thing. The words are those of its
instructions, one after another, with the operands replaced by what they denote, and all engines
together accept them. Each label stands for the place where the walk through the program meets the
next instruction, or for its end, and its name denotes that place, wherever it is used: no label
looks like a literal. The entry is what the last directive denotes, and lies inside the program. -/
theorem assemble_laidOut {source : List UInt8} {x : Executable} (h : assemble source = .ok x) :
    (∃ items d, (∀ items', TextSays (Source.lines source).toList items' ↔ items' = items) ∧
      Distinct items ∧ readLines 0 {} (Source.lines source).toList = .ok d ∧
      LaidOut items d.labels x) ∧
    ∀ cs, isLabel cs = true → Numeral.parse? cs = none := by
  obtain ⟨items, hsaid, hdistinct, hmeans⟩ := assemble_eq_ok_iff.1 h
  obtain ⟨d, hread, hcollected⟩ := readLines_of_textSays hsaid Collected.empty hdistinct
  refine ⟨⟨items, d, fun items' => ⟨fun hsaid' => hsaid'.unique hsaid, ?_⟩, hdistinct, hread, ?_⟩,
    ?_⟩
  · rintro rfl
    exact hsaid
  · exact hmeans.laidOut hcollected hsaid.wellFormed
  · exact fun cs => parse?_label

/-- A program text whose operands refer to a label behind them and to one in front of them. -/
def referringText : List UInt8 :=
  Text.asciiBytes
    ".entry start\nloop: again: ICONST 010 ; eight\nstart: CALL end loop\nend:\n".toList

/-- What the text says. -/
def referringItems : List Item :=
  [Item.entry (Text.runes "start")] ++
  ([Item.label (Text.runes "loop"), Item.label (Text.runes "again"),
    Item.instruction .iconst [Text.runes "010"]] ++
  ([Item.label (Text.runes "start"),
    Item.instruction .call [Text.runes "end", Text.runes "loop"]] ++
  ([Item.label (Text.runes "end")] ++ [])))

theorem textSays_referringItems :
    TextSays (Source.lines referringText).toList referringItems := by
  have hlines : (Source.lines referringText).toList =
      [".entry start", "loop: again: ICONST 010 ; eight", "start: CALL end loop", "end:"].map
        fun s => .text (Text.asciiBytes s.toList) := by
    decide +kernel
  have hfirst : Source.fields (Text.asciiBytes ".entry start".toList) =
      [Text.runes ".entry", Text.runes "start"] := by
    decide +kernel
  have hsecond : Source.fields (Text.asciiBytes "loop: again: ICONST 010 ; eight".toList) =
      [Text.runes "loop" ++ [.char ':'], Text.runes "again" ++ [.char ':'], Text.runes "ICONST",
        Text.runes "010"] := by
    decide +kernel
  have hthird : Source.fields (Text.asciiBytes "start: CALL end loop".toList) =
      [Text.runes "start" ++ [.char ':'], Text.runes "CALL", Text.runes "end",
        Text.runes "loop"] := by
    decide +kernel
  have hfourth : Source.fields (Text.asciiBytes "end:".toList) =
      [Text.runes "end" ++ [.char ':']] := by
    decide +kernel
  rw [hlines]
  refine .cons ?_ (.cons ?_ (.cons ?_ (.cons ?_ .nil)))
  · rw [hfirst]
    exact .entry (by decide +kernel) (by decide +kernel)
  · rw [hsecond]
    refine .label (by decide +kernel) (.label (by decide +kernel) ?_)
    exact .instruction (by decide +kernel) (by decide +kernel) (by decide +kernel) rfl
  · rw [hthird]
    refine .label (by decide +kernel) ?_
    exact .instruction (by decide +kernel) (by decide +kernel) (by decide +kernel) rfl
  · rw [hfourth]
    exact .label (by decide +kernel) .blank

theorem labelAt_referringItems :
    LabelAt referringItems (Field.name (Text.runes "loop")) 0 ∧
      LabelAt referringItems (Field.name (Text.runes "start")) 2 ∧
      LabelAt referringItems (Field.name (Text.runes "end")) 5 :=
  ⟨⟨1, _, rfl, rfl, rfl⟩, ⟨4, _, rfl, rfl, rfl⟩, ⟨6, _, rfl, rfl, rfl⟩⟩

theorem assemble_referringText :
    assemble referringText = .ok ⟨⟨#[9, 8, 17, 5, 0]⟩, 2⟩ := by
  obtain ⟨hloop, hstart, hend⟩ := labelAt_referringItems
  have hdistinct : (labelNames referringItems).Nodup := by decide +kernel
  refine assemble_eq_ok_iff.2 ⟨referringItems, textSays_referringItems, hdistinct, ?_, ?_, ?_⟩
  · refine ⟨[(.iconst, [Int32.ofInt 8]), (.call, [Int32.ofNat 5, Int32.ofNat 0])], ?_, rfl⟩
    refine .cons ⟨rfl, .cons (.literal ?_) .nil⟩ (.cons ⟨rfl, ?_⟩ .nil)
    · decide +kernel
    · exact .cons (.label hend) (.cons (.label hloop) .nil)
  · exact ⟨_, .label hstart, rfl⟩
  · decide

theorem referringText_laidOut :
    assemble referringText = .ok ⟨⟨#[9, 8, 17, 5, 0]⟩, 2⟩ ∧
      (∃ items d, (∀ items', TextSays (Source.lines referringText).toList items' ↔ items' = items) ∧
        Distinct items ∧ readLines 0 {} (Source.lines referringText).toList = .ok d ∧
        LaidOut items d.labels ⟨⟨#[9, 8, 17, 5, 0]⟩, 2⟩) ∧
      ∀ cs, isLabel cs = true → Numeral.parse? cs = none :=
  ⟨assemble_referringText, assemble_laidOut assemble_referringText⟩

end Assembly

end Lanewise
