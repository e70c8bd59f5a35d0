import Lanewise.Proofs.Assembly.Layout
import Lanewise.Proofs.Text.Numerals

/-!
# Transcripts

The transcript of an accepted program has the text of each of its instructions on a line of its own,
and then the directive that sets the entry. Assembled, it gives the program back, word for word: the
mnemonic of an opcode names this opcode, and the decimal text of a word is a literal for this word.

## Main definitions

* `Program.transcript`: the transcript of a program.

## Main results

* `Program.assemble_transcript`: printing and assembling are inverse to each other.
-/

namespace Lanewise

/-- The instructions of a program in their order, one on each line, and then its entry. -/
def Program.transcript (p : Program) (entry : Word) : String :=
  p.walk.foldl (fun s i => s ++ i.text ++ "\n") "" ++ ".entry " ++ entry.text ++ "\n"

namespace Assembly

open Source

/-! ### Mnemonics and words -/

theorem whole_mnemonic (op : Opcode) : Whole op.mnemonic.toList := by
  have hall : ∀ op ∈ Opcode.all, Whole op.mnemonic.toList := by decide +kernel
  exact hall op op.mem_all

theorem length_mnemonic_le (op : Opcode) : op.mnemonic.toList.length ≤ 23 := by
  have hall : ∀ op ∈ Opcode.all, op.mnemonic.toList.length ≤ 23 := by decide +kernel
  exact hall op op.mem_all

/-- A mnemonic names its opcode, and is neither a label nor a directive. -/
theorem says_mnemonic {op : Opcode} {operands : List Field} (h : operands.length = op.operands) :
    Says (Text.runes op.mnemonic :: operands) [.instruction op operands] := by
  have hall : ∀ op ∈ Opcode.all, labelName? (Text.runes op.mnemonic) = none ∧
      isEntryDirective (Text.runes op.mnemonic) = false ∧
      Opcode.ofMnemonic? (Field.chars (Text.runes op.mnemonic)) = some op := by
    decide +kernel
  obtain ⟨hlabel, hentry, hop⟩ := hall op op.mem_all
  exact .instruction hlabel hentry hop h

theorem plain_of_isDigit {c : Char} (h : c.isDigit = true) : Plain c := by
  obtain ⟨hlow, hhigh⟩ := Numeral.isDigit_iff.1 h
  have hlow : 48 ≤ c.toNat := hlow
  have hhigh : c.toNat ≤ 57 := hhigh
  refine ⟨by omega, by omega, ?_, ?_⟩
  · rintro rfl
    cases h
  · rintro rfl
    cases h

theorem whole_text (w : Word) : Whole w.text.toList := by
  have hread := w.parseIn?_text
  refine ⟨fun hnil => ?_, fun c hc => ?_⟩
  · rw [hnil] at hread
    cases hread
  · rcases Numeral.isDigit_or_eq_of_mem_toString hc with hdigit | rfl
    · exact plain_of_isDigit hdigit
    · decide

theorem chars_runes (s : String) : Field.chars (Text.runes s) = s.toList := by
  rw [Field.chars, Text.runes, List.map_map]
  exact List.map_id _

theorem denotes_text (items : List Item) (w : Word) : Denotes items (Text.runes w.text) w := by
  have hread := w.parseIn?_text
  rw [← chars_runes] at hread
  have hw : Denotes items (Text.runes w.text) (Int32.ofInt w.toInt) := .literal hread
  rwa [Int32.ofInt_toInt] at hw

/-! ### Lines -/

/-- The words of the line of an instruction. -/
def instructionRow (i : Instruction) : List Char × List (List Char) :=
  (i.op.mnemonic.toList, i.args.map fun w => w.text.toList)

/-- The words of the line of an entry. -/
def entryRow (entry : Word) : List Char × List (List Char) :=
  (".entry".toList, [entry.text.toList])

/-- What the transcript of instructions says. -/
def transcribed (is : List Instruction) (entry : Word) : List Item :=
  is.map (fun i => Item.instruction i.op (i.args.map fun w => Text.runes w.text)) ++
    [Item.entry (Text.runes entry.text)]

theorem toList_textOf (mnemonic : String) (args : List Word) :
    (Instruction.textOf mnemonic args).toList =
      spaced mnemonic.toList (args.map fun w => w.text.toList) := by
  rw [Instruction.textOf, spaced]
  induction args generalizing mnemonic with
  | nil => simp
  | cons w args ih =>
    rw [List.foldl_cons, ih, List.map_cons, List.flatMap_cons, String.toList_append,
      String.toList_append]
    simp

theorem toList_lines (s : String) (is : List Instruction) :
    (is.foldl (fun s i => s ++ i.text ++ "\n") s).toList =
      s.toList ++ (is.map instructionRow).flatMap fun r => spaced r.1 r.2 ++ ['\n'] := by
  induction is generalizing s with
  | nil => simp
  | cons i is ih =>
    rw [List.foldl_cons, ih, List.map_cons, List.flatMap_cons, String.toList_append,
      String.toList_append, Instruction.text, toList_textOf, List.append_assoc, List.append_assoc,
      List.append_assoc]
    rfl

theorem toList_transcript (p : Program) (entry : Word) :
    (p.transcript entry).toList =
      (p.walk.map instructionRow ++ [entryRow entry]).flatMap fun r =>
        spaced r.1 r.2 ++ ['\n'] := by
  have hblank : ".entry ".toList = ".entry".toList ++ [' '] := by decide
  have hentry :
      spaced (entryRow entry).1 (entryRow entry).2 = ".entry ".toList ++ entry.text.toList :=
    calc ".entry".toList ++ [entry.text.toList].flatMap (' ' :: ·)
      _ = ".entry".toList ++ [' '] ++ entry.text.toList := by
        rw [List.flatMap_singleton, List.append_assoc, List.singleton_append]
      _ = ".entry ".toList ++ entry.text.toList := congrArg (· ++ entry.text.toList) hblank.symm
  rw [Program.transcript, String.toList_append, String.toList_append, String.toList_append,
    toList_lines, List.flatMap_append, List.flatMap_singleton, hentry, List.append_assoc,
    List.append_assoc]
  rfl

/-! ### Assembling -/

theorem whole_instructionRow (i : Instruction) :
    ∀ w ∈ (instructionRow i).1 :: (instructionRow i).2, Whole w := by
  refine List.forall_mem_cons.2 ⟨whole_mnemonic i.op, fun w hw => ?_⟩
  obtain ⟨a, -, rfl⟩ := List.mem_map.1 hw
  exact whole_text a

theorem whole_entryRow (entry : Word) :
    ∀ w ∈ (entryRow entry).1 :: (entryRow entry).2, Whole w := by
  have hdirective : Whole ".entry".toList := by decide
  exact List.forall_mem_cons.2 ⟨hdirective, List.forall_mem_singleton.2 (whole_text entry)⟩

theorem length_instructionRow {i : Instruction} (h : i.args.length = i.op.operands) :
    (spaced (instructionRow i).1 (instructionRow i).2).length < lineLimit := by
  have hargs : ∀ w ∈ (instructionRow i).2, w.length ≤ 11 := by
    intro w hw
    obtain ⟨a, -, rfl⟩ := List.mem_map.1 hw
    exact a.length_text_le
  have hlength : (spaced (instructionRow i).1 (instructionRow i).2).length ≤ _ :=
    length_spaced_le hargs
  have hmnemonic : (instructionRow i).1.length ≤ 23 := length_mnemonic_le i.op
  have hoperands : (instructionRow i).2.length ≤ 2 := by
    rw [instructionRow, List.length_map, h]
    cases i.op <;> decide
  rw [lineLimit]
  omega

theorem length_entryRow (entry : Word) :
    (spaced (entryRow entry).1 (entryRow entry).2).length < lineLimit := by
  have hdirective : (".entry".toList).length = 6 := by decide
  have hlength : (spaced (entryRow entry).1 (entryRow entry).2).length ≤ 6 + 1 * 12 := by
    rw [← hdirective]
    exact length_spaced_le (List.forall_mem_singleton.2 entry.length_text_le)
  rw [lineLimit]
  omega

theorem textSays_transcribed {is : List Instruction}
    (hargs : ∀ i ∈ is, i.args.length = i.op.operands) (entry : Word) :
    TextSays ((is.map instructionRow ++ [entryRow entry]).map fun r =>
      .text (Text.asciiBytes (spaced r.1 r.2))) (transcribed is entry) := by
  induction is with
  | nil =>
    refine @TextSays.cons _ _ [_] _ ?_ .nil
    have hlabel : labelName? (Text.runes ".entry") = none := by decide
    have hdirective : isEntryDirective (Text.runes ".entry") = true := by decide
    rw [fields_spaced (whole_entryRow entry)]
    exact .entry hlabel hdirective
  | cons i is ih =>
    obtain ⟨hi, hrest⟩ := List.forall_mem_cons.1 hargs
    refine @TextSays.cons _ _ [_] _ ?_ (ih hrest)
    rw [fields_spaced (whole_instructionRow i), instructionRow, List.map_cons, List.map_map]
    exact says_mnemonic (by rw [List.length_map, hi])

theorem distinct_transcribed (is : List Instruction) (entry : Word) :
    Distinct (transcribed is entry) := by
  have hnames : labelNames (transcribed is entry) = [] := by
    rw [labelNames, List.filterMap_eq_nil_iff, transcribed, List.forall_mem_append]
    exact ⟨List.forall_mem_map.2 fun _ _ => rfl, List.forall_mem_singleton.2 rfl⟩
  rw [Distinct, hnames]
  exact List.nodup_nil

theorem means_transcribed {p : Program} {entry : Word} (hverify : p.verify .any = .ok ())
    (hentry : p.checkEntry entry.toInt = .ok ()) :
    Means (transcribed p.walk entry) ⟨p, entry.toInt.toNat⟩ := by
  obtain ⟨hnonneg, hlt⟩ := Program.checkEntry_eq_ok_iff.1 hentry
  have hinstructions : instructions (transcribed p.walk entry) =
      p.walk.map fun i => (i.op, i.args.map fun w => Text.runes w.text) := by
    rw [instructions, transcribed, List.filterMap_append, List.filterMap_map]
    exact (List.append_nil _).trans (congrFun List.filterMap_eq_map' _)
  have hfield : entryField (transcribed p.walk entry) = Text.runes entry.text := by
    rw [entryField, transcribed, List.filterMap_append]
    simp [Item.entry?]
  refine ⟨⟨p.walk.map fun i => (i.op, i.args), ?_, ?_⟩, ⟨entry, ?_, ?_⟩, ?_⟩
  · rw [hinstructions, List.forall₂_map_left_iff, List.forall₂_map_right_iff, List.forall₂_same]
    intro i hi
    refine ⟨rfl, ?_⟩
    rw [List.forall₂_map_left_iff, List.forall₂_same]
    exact fun w _ => denotes_text _ w
  · rw [(Program.verify_eq_ok_iff.1 hverify).2.1, List.flatMap_map]
    rfl
  · rw [hfield]
    exact denotes_text _ entry
  · exact (Int.toNat_of_nonneg hnonneg).symm
  · exact (Int.toNat_lt hnonneg).2 hlt

end Assembly

namespace Program

open Assembly

/-- Assembling the transcript of an accepted program gives back its words and the entry. Every entry
that lies inside the program is allowed; entries are words, like all positions that a program refers
to. -/
theorem assemble_transcript {p : Program} {entry : Word} (hverify : p.verify .any = .ok ())
    (hentry : p.checkEntry entry.toInt = .ok ()) :
    assemble (p.transcript entry).toUTF8.toList = .ok ⟨p, entry.toInt.toNat⟩ := by
  have hargs : ∀ i ∈ p.walk, i.args.length = i.op.operands :=
    fun i hi => (Instruction.decode_eq_ok_iff.1 (decode_of_mem_walkFrom hi)).2.1
  have hwhole :
      ∀ r ∈ p.walk.map instructionRow ++ [entryRow entry], ∀ w ∈ r.1 :: r.2, Source.Whole w :=
    List.forall_mem_append.2 ⟨List.forall_mem_map.2 fun i _ => whole_instructionRow i,
      List.forall_mem_singleton.2 (whole_entryRow entry)⟩
  have hshort : ∀ r ∈ p.walk.map instructionRow ++ [entryRow entry],
      (Source.spaced r.1 r.2).length < Source.lineLimit :=
    List.forall_mem_append.2 ⟨List.forall_mem_map.2 fun i hi => length_instructionRow (hargs i hi),
      List.forall_mem_singleton.2 (length_entryRow entry)⟩
  have hlines := Source.lines_spaced (toList_transcript p entry) hwhole hshort
  have hsaid := textSays_transcribed hargs entry
  rw [← hlines] at hsaid
  exact assemble_eq_ok_iff.2 ⟨_, hsaid, distinct_transcribed _ _, means_transcribed hverify hentry⟩

/-- A program whose operands are the least word, a number that is an opcode too, and zero. -/
def extremes : Program :=
  ⟨#[Opcode.iconst.code, -2147483648, Opcode.call.code, 9, 0, Opcode.halt.code]⟩

example :
    extremes.transcript 2 = "ICONST -2147483648\nCALL 9 0\nHALT\n.entry 2\n" := by
  decide +kernel

theorem assemble_extremes :
    extremes.verify .any = .ok () ∧ extremes.checkEntry (Int32.toInt 2) = .ok () ∧
      assemble (extremes.transcript 2).toUTF8.toList = .ok ⟨extremes, 2⟩ := by
  have hverify : extremes.verify .any = .ok () := by decide +kernel
  have hentry : extremes.checkEntry (Int32.toInt 2) = .ok () := by decide +kernel
  exact ⟨hverify, hentry, assemble_transcript hverify hentry⟩

end Program

end Lanewise
