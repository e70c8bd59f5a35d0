import Lanewise.Proofs.Assembly.Transcript
import Lanewise.Proofs.Text.Integers

/-!
# Listings

The listing of a program has a line for each instruction, and a line for each word where none can be
read. Here a listing is read again without a program: a line is a position and either a word as it
is, or a mnemonic with operands. The lines stand one right after another from the first position to
the end, and their words are the words of the program, whether it is accepted or not. So a listing
is the listing of one program only.

## Main definitions

* `Listing.Row`, `Listing.read?`: what is read from a line and from a listing.
* `Listing.Tiles`: rows that cover positions without gap and overlap.

## Main results

* `Program.tiles_lines`: the lines of a program cover it and show its words.
* `Listing.Row.read?_text`: what a line says is read from it.
* `Program.listing_lossless`: a listing shows the words of its program, and of no other one.
-/

namespace Lanewise

namespace Listing

/-- What a line shows: a position, and the words that stand from there on. -/
structure Row where
  ip : Nat
  words : List Word
deriving DecidableEq, Repr

/-- Rows that cover the positions from a start up to an end, each right behind the one before. -/
inductive Tiles : (start : Nat) → List Row → (stop : Nat) → Prop
  | nil (stop : Nat) : Tiles stop [] stop
  | cons {start stop : Nat} {r : Row} {rows : List Row} (hip : r.ip = start)
    (hrest : Tiles (start + r.words.length) rows stop) : Tiles start (r :: rows) stop

/-- The word with a decimal text. -/
def word? (field : List Char) : Option Word :=
  (Numeral.parseIn? Word.least Word.greatest field).map Int32.ofInt

/-- The words that are shown behind a position: a single one as it is, or an opcode by its mnemonic
and as many operands as it has. -/
def words? (name : List Char) (args : List Word) : Option (List Word) :=
  if name = ".word".toList then if args.length = 1 then some args else none
  else (Opcode.ofMnemonic? name).bind fun op =>
    if args.length = op.operands then some (op.code :: args) else none

/-- What a line shows. -/
def Row.read? (line : List Char) : Option Row :=
  match line.splitOn ' ' with
  | position :: name :: fields => do
    let ip ← Numeral.decimalDigits? position
    let args ← fields.mapM word?
    let words ← words? name args
    return { ip, words }
  | _ => none

/-- What the lines of a listing show. Each of them is ended, so nothing stands behind the last. -/
def read? (listing : String) : Option (List Row) :=
  (listing.toList.splitOn '\n').dropLast.mapM Row.read?

end Listing

open Assembly Listing

/-- What a line is about. -/
def Program.Line.row : Program.Line → Row
  | .instruction i => ⟨i.ip, i.words⟩
  | .word ip w => ⟨ip, [w]⟩

/-- A line with as many operands as its opcode has. -/
def Program.Line.Complete : Program.Line → Prop
  | .instruction i => i.args.length = i.op.operands
  | .word _ _ => True

namespace Program

/-! ### The lines of a program -/

/-- By induction on what is left of the program, whatever lines have been listed before. -/
theorem linesFrom_tiles (p : Program) (acc : Array Line) {ip : Nat} (hip : ip ≤ p.size) :
    ∃ ls, (p.linesFrom acc ip).toList = acc.toList ++ ls ∧ (∀ l ∈ ls, l.Complete) ∧
      Tiles ip (ls.map Line.row) p.size ∧
      (ls.map Line.row).flatMap Row.words = p.words.toList.drop ip := by
  fun_induction p.linesFrom acc ip with
  | case1 acc ip hlt e hdecode ih =>
    obtain ⟨ls, hlines, hcomplete, htiles, hwords⟩ := ih hlt
    refine ⟨.word ip p.words[ip] :: ls, by simp [hlines],
      List.forall_mem_cons.2 ⟨trivial, hcomplete⟩, .cons rfl htiles, ?_⟩
    have hlength : ip < p.words.toList.length := hlt
    rw [List.map_cons, List.flatMap_cons, hwords, List.drop_eq_getElem_cons hlength]
    rfl
  | case2 acc ip hlt i hdecode ih =>
    obtain ⟨rfl, hargs, rest, hrest⟩ := Instruction.decode_eq_ok_iff.1 hdecode
    have hdrop : p.words.toList.drop (i.ip + i.size) = rest := by
      rw [← List.drop_drop, ← hrest, ← Instruction.length_words, List.drop_left]
    have hinside : i.ip + i.size ≤ p.size := by
      have hlength := congrArg List.length hrest
      simp only [List.length_append, List.length_drop, Instruction.length_words,
        Array.length_toList] at hlength
      have hsize : p.size = p.words.size := rfl
      omega
    obtain ⟨ls, hlines, hcomplete, htiles, hwords⟩ := ih hinside
    rw [← Instruction.length_words] at htiles
    refine ⟨.instruction i :: ls, by simp [hlines],
      List.forall_mem_cons.2 ⟨hargs, hcomplete⟩, .cons rfl htiles, ?_⟩
    rw [List.map_cons, List.flatMap_cons, hwords, hdrop, ← hrest]
    rfl
  | case3 acc ip hge =>
    have hend : ip = p.size := Nat.le_antisymm hip (Nat.le_of_not_lt hge)
    subst hend
    exact ⟨[], by simp, List.forall_mem_nil _, .nil _, by simp [size]⟩

/-- The lines of a program cover it and show its words. -/
theorem tiles_lines (p : Program) :
    (∀ l ∈ p.lines.toList, l.Complete) ∧ Tiles 0 (p.lines.toList.map Line.row) p.size ∧
      (p.lines.toList.map Line.row).flatMap Row.words = p.words.toList := by
  obtain ⟨ls, hlines, hcomplete, htiles, hwords⟩ := p.linesFrom_tiles #[] (Nat.zero_le _)
  rw [lines, hlines]
  exact ⟨hcomplete, htiles, hwords⟩

end Program

/-! ### Texts -/

section

variable {first : List Char} {rest ls : List (List Char)}

/-- Words with a blank between neighbours are found again. -/
theorem splitOn_spaced (h : ∀ w ∈ first :: rest, ' ' ∉ w) :
    (Source.spaced first rest).splitOn ' ' = first :: rest := by
  have hjoined : Source.spaced first rest = [' '].intercalate (first :: rest) := by
    clear h
    induction rest generalizing first with
    | nil => simp [Source.spaced]
    | cons w rest ih =>
      rw [List.intercalate_cons_cons, ← ih, Source.spaced, Source.spaced, List.flatMap_cons,
        List.append_assoc]
      rfl
  rw [hjoined, List.splitOn_intercalate ' ' h (List.cons_ne_nil first rest)]

/-- Lines that are ended are found again, with nothing behind them. -/
theorem splitOn_ended (h : ∀ l ∈ ls, '\n' ∉ l) :
    (ls.flatMap (· ++ ['\n'])).splitOn '\n' = ls ++ [[]] := by
  have hjoined : ls.flatMap (· ++ ['\n']) = ['\n'].intercalate (ls ++ [[]]) := by
    clear h
    induction ls with
    | nil => simp
    | cons l ls ih =>
      obtain ⟨next, rest, hnext⟩ : ∃ next rest, ls ++ [[]] = next :: rest :=
        List.exists_cons_of_ne_nil (by simp)
      rw [List.flatMap_cons, ih, List.cons_append, hnext, List.intercalate_cons_cons]
  rw [hjoined, List.splitOn_intercalate '\n' ?_ (by simp)]
  exact List.forall_mem_append.2 ⟨h, by simp⟩

end

/-- The words on a line. -/
def Program.Line.fields : Program.Line → List Char × List (List Char)
  | .instruction i =>
    ((Numeral.padded 4 i.ip).toList, i.op.mnemonic.toList :: i.args.map fun w => w.text.toList)
  | .word ip w => ((Numeral.padded 4 ip).toList, [".word".toList, w.text.toList])

namespace Program.Line

variable {l : Line}

theorem toList_text (l : Line) : l.text.toList = Source.spaced l.fields.1 l.fields.2 := by
  cases l with
  | instruction i =>
    have hblank : " ".toList = [' '] := by decide +kernel
    rw [text, String.toList_append, String.toList_append, Instruction.text, toList_textOf, hblank,
      fields]
    simp only [Source.spaced, List.flatMap_cons, List.append_assoc, List.cons_append,
      List.nil_append]
  | word ip w =>
    have hword : " .word ".toList = ' ' :: ".word".toList ++ [' '] := by decide +kernel
    rw [text, String.toList_append, String.toList_append, hword, fields, Source.spaced]
    simp

theorem whole_fields (l : Line) : ∀ w ∈ l.fields.1 :: l.fields.2, Source.Whole w := by
  have hposition (ip : Nat) : Source.Whole (Numeral.padded 4 ip).toList :=
    ⟨Numeral.padded_ne_nil 4 ip, fun _ hc => plain_of_isDigit (Numeral.isDigit_of_mem_padded hc)⟩
  cases l with
  | instruction i =>
    have hrow : ∀ w ∈ i.op.mnemonic.toList :: i.args.map fun w => w.text.toList, Source.Whole w :=
      whole_instructionRow i
    simp only [fields]
    exact List.forall_mem_cons.2 ⟨hposition i.ip, hrow⟩
  | word ip w =>
    have hdata : Source.Whole ".word".toList := by decide +kernel
    simp only [fields]
    exact List.forall_mem_cons.2 ⟨hposition ip, List.forall_mem_cons.2 ⟨hdata,
      List.forall_mem_singleton.2 (whole_text w)⟩⟩

theorem splitOn_text (l : Line) : l.text.toList.splitOn ' ' = l.fields.1 :: l.fields.2 := by
  rw [l.toList_text, splitOn_spaced]
  intro w hw hblank
  obtain ⟨hlow, -⟩ := (l.whole_fields w hw).2 ' ' hblank
  exact absurd hlow (by decide)

theorem not_mem_text (l : Line) : '\n' ∉ l.text.toList := by
  rw [l.toList_text]
  intro hend
  obtain ⟨hlow, -⟩ := Source.spaced_ascii l.whole_fields '\n' hend
  exact absurd hlow (by decide)

end Program.Line

/-! ### Reading -/

namespace Listing

theorem word?_text (w : Word) : word? w.text.toList = some w := by
  rw [word?, w.parseIn?_text, Option.map_some, Int32.ofInt_toInt]

theorem mapM_word?_text (args : List Word) :
    (args.map fun w => w.text.toList).mapM word? = some args := by
  induction args with
  | nil => rfl
  | cons w args ih => simp [word?_text, ih]

/-- A mnemonic is not taken for the mark of a word, and names its opcode. -/
theorem words?_mnemonic {op : Opcode} {args : List Word} (h : args.length = op.operands) :
    words? op.mnemonic.toList args = some (op.code :: args) := by
  have hall : ∀ op ∈ Opcode.all, op.mnemonic.toList ≠ ".word".toList ∧
      Opcode.ofMnemonic? op.mnemonic.toList = some op := by decide +kernel
  obtain ⟨hname, hop⟩ := hall op op.mem_all
  rw [words?, if_neg hname, hop, Option.bind_some, if_pos h]

/-- What a line says is read from it. -/
theorem Row.read?_text {l : Program.Line} (h : l.Complete) :
    Row.read? l.text.toList = some l.row := by
  rw [Row.read?, l.splitOn_text]
  cases l with
  | instruction i =>
    simp only [Program.Line.fields,
      Numeral.decimalDigits?_eq_some_iff.2 (Numeral.spells_padded 4 i.ip), mapM_word?_text,
      words?_mnemonic h, Option.bind_eq_bind, Option.bind_some]
    rfl
  | word ip w =>
    simp only [Program.Line.fields,
      Numeral.decimalDigits?_eq_some_iff.2 (Numeral.spells_padded 4 ip), List.mapM_cons,
      List.mapM_nil, word?_text, words?, Option.bind_eq_bind, Option.bind_some]
    rfl

end Listing

namespace Program

theorem toList_listing (p : Program) :
    p.listing.toList = (p.lines.toList.map fun l => l.text.toList).flatMap (· ++ ['\n']) := by
  have hfold (ls : List Line) (s : String) :
      (ls.foldl (fun s l => s ++ l.text ++ "\n") s).toList =
        s.toList ++ (ls.map fun l => l.text.toList).flatMap (· ++ ['\n']) := by
    induction ls generalizing s with
    | nil => simp
    | cons l ls ih => simp [ih]
  rw [listing, ← Array.foldl_toList, hfold]
  rfl

theorem read?_listing (p : Program) : read? p.listing = some (p.lines.toList.map Line.row) := by
  have hended : ∀ l ∈ p.lines.toList.map fun l => l.text.toList, '\n' ∉ l :=
    List.forall_mem_map.2 fun l _ => l.not_mem_text
  rw [read?, toList_listing, splitOn_ended hended, List.dropLast_concat]
  have hcomplete := p.tiles_lines.1
  generalize p.lines.toList = ls at hcomplete
  induction ls with
  | nil => rfl
  | cons l ls ih =>
    obtain ⟨hl, hls⟩ := List.forall_mem_cons.1 hcomplete
    simp only [List.map_cons, List.mapM_cons, Row.read?_text hl, ih hls]
    rfl

/-- A listing is read as rows that cover the program and show its words, and no other program has
it. -/
theorem listing_lossless (p : Program) :
    ∃ rows, read? p.listing = some rows ∧ Tiles 0 rows p.size ∧
      rows.flatMap Row.words = p.words.toList ∧ ∀ q : Program, q.listing = p.listing ↔ q = p := by
  obtain ⟨-, htiles, hwords⟩ := p.tiles_lines
  refine ⟨_, p.read?_listing, htiles, hwords, fun q => ⟨fun h => ?_, fun h => h ▸ rfl⟩⟩
  have hrows := q.read?_listing
  rw [h, p.read?_listing] at hrows
  have hsame : q.words.toList = p.words.toList := by
    rw [← hwords, Option.some.inj hrows, q.tiles_lines.2.2]
  exact congrArg Program.mk (Array.toList_inj.1 hsame)

/-- An instruction, a word that is no opcode, and an instruction without all of its operands. -/
example :
    listing ⟨#[Opcode.iconst.code, -5, 99, Opcode.call.code, 1]⟩ =
      "0000 ICONST -5\n0002 .word 99\n0003 .word 17\n0004 IADD\n" := by
  decide +kernel

end Program

end Lanewise
