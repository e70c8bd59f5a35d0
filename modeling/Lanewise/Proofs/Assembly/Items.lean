import Lanewise.Assembly
import Std.Data.HashMap.Lemmas

/-!
# What program texts say

A line of a program text says a number of labels and then at most one entry directive or
instruction; a text says what its lines say, one after another. The first reading of a text succeeds
exactly if each line says something and no label is set twice, and then it has collected what the
text says. In particular the position that it enters for a label is the extent of all that stands
before the label.

## Main definitions

* `Assembly.Item`: a label, an entry directive or an instruction.
* `Assembly.Says`, `Assembly.TextSays`: what the fields of a line, and lines, say.
* `Assembly.extent`, `Assembly.LabelAt`: the number of words that items stand for, and where a label
  stands.
* `Assembly.Collected`: a draft that has collected given items.

## Main results

* `Assembly.readFields_eq_ok_iff`: what the first reading does with the fields of a line.
* `Assembly.exists_items_of_readLines`, `Assembly.readLines_of_textSays`: and with lines.
-/

namespace Lanewise.Assembly

/-- What stands in a program text. -/
inductive Item
  | label (name : Field)
  | entry (value : Field)
  | instruction (op : Opcode) (operands : List Field)
deriving DecidableEq, Repr

namespace Item

/-- The number of words that an item stands for. -/
def size : Item → Nat
  | instruction op _ => op.size
  | _ => 0

/-- The name of a label. -/
def labelName? : Item → Option String
  | label f => some f.name
  | _ => none

/-- The operand of an entry directive. -/
def entry? : Item → Option Field
  | entry e => some e
  | _ => none

/-- The opcode and the operands of an instruction. -/
def instruction? : Item → Option (Opcode × List Field)
  | instruction op operands => some (op, operands)
  | _ => none

end Item

/-- The number of words that items stand for. -/
def extent : List Item → Nat
  | [] => 0
  | i :: rest => i.size + extent rest

/-- The instructions among items. -/
def instructions (items : List Item) : List (Opcode × List Field) :=
  items.filterMap Item.instruction?

/-- The operand of the last entry directive among items, zero if there is none. -/
def entryField (items : List Item) : Field :=
  (items.filterMap Item.entry?).getLast?.getD [.char '0']

/-- The names of the labels among items. -/
def labelNames (items : List Item) : List String :=
  items.filterMap Item.labelName?

/-- No label is set twice. -/
def Distinct (items : List Item) : Prop :=
  (labelNames items).Nodup

/-- A label of the given name stands among items, behind items that stand for so many words. -/
def LabelAt (items : List Item) (name : String) (position : Nat) : Prop :=
  ∃ k f, items[k]? = some (.label f) ∧ f.name = name ∧ position = extent (items.take k)

/-- What the fields of a line say: labels, each of which ends in a colon, and then nothing more, an
entry directive, or an instruction with all of its operands. -/
inductive Says : List Field → List Item → Prop
  | blank : Says [] []
  | label {name : Field} {rest : List Field} {items : List Item}
    (hlabel : isLabel name.chars = true)
    (hrest : Says rest items) : Says ((name ++ [.char ':']) :: rest) (.label name :: items)
  | entry {f e : Field} (hlabel : labelName? f = none) (hentry : isEntryDirective f = true) :
    Says [f, e] [.entry e]
  | instruction {f : Field} {op : Opcode} {operands : List Field} (hlabel : labelName? f = none)
    (hentry : isEntryDirective f = false) (hop : Opcode.ofMnemonic? f.chars = some op)
    (hlength : operands.length = op.operands) :
    Says (f :: operands) [.instruction op operands]

/-- What lines say, one after another. A line that is too long says nothing, not even that it is
blank. -/
inductive TextSays : List Source.Line → List Item → Prop
  | nil : TextSays [] []
  | cons {bytes : List UInt8} {lines : List Source.Line} {items rest : List Item}
    (hline : Says (Source.fields bytes) items) (hrest : TextSays lines rest) :
    TextSays (.text bytes :: lines) (items ++ rest)

/-! ### Items -/

theorem extent_append (items rest : List Item) :
    extent (items ++ rest) = extent items + extent rest := by
  induction items with
  | nil => rw [List.nil_append, extent, Nat.zero_add]
  | cons i items ih => rw [List.cons_append, extent, extent, ih, Nat.add_assoc]

theorem labelName?_eq_some_iff {f name : Field} :
    labelName? f = some name ↔ f = name ++ [.char ':'] := by
  unfold labelName?
  constructor
  · intro h
    split at h
    · next rest hreverse =>
      rw [← Option.some.inj h, ← List.reverse_cons, ← hreverse, List.reverse_reverse]
    · cases h
  · rintro rfl
    simp

/-! ### The first reading -/

/-- A draft that has collected items: it has the position behind them, their instructions, their
entry and the positions of their labels. -/
structure Collected (items : List Item) (d : Draft) : Prop where
  position_eq : d.position = extent items
  statements_eq : d.statements.toList.map (fun s => (s.op, s.operands)) = instructions items
  entry_eq : d.entry = entryField items
  labels_iff (name : String) (position : Nat) :
    d.labels[name]? = some position ↔ LabelAt items name position

theorem Collected.empty : Collected [] {} := by
  refine ⟨rfl, rfl, rfl, fun name position => ?_⟩
  simp [LabelAt]

/-- The draft after another item, which stands on the line with the given number. -/
def Draft.enter (number : Nat) (d : Draft) : Item → Draft
  | .label f => { d with labels := d.labels.insert f.name d.position }
  | .entry e => { d with entry := e, entryLine := number }
  | .instruction op operands =>
    { d with
      statements := d.statements.push ⟨number, op, operands⟩
      position := d.position + op.size }

section

variable {items : List Item} {item : Item} {d d' : Draft} {number : Nat} {name : String}

theorem mem_labels_of_labelAt {position : Nat} (h : LabelAt items name position) :
    name ∈ labelNames items := by
  obtain ⟨k, f, hk, hname, -⟩ := h
  exact List.mem_filterMap.2 ⟨_, List.mem_of_getElem? hk, congrArg some hname⟩

theorem exists_labelAt_of_mem (h : name ∈ labelNames items) :
    ∃ position, LabelAt items name position := by
  obtain ⟨item, hitem, hname⟩ := List.mem_filterMap.1 h
  obtain ⟨k, hk⟩ := List.mem_iff_getElem?.1 hitem
  cases item with
  | label f => exact ⟨_, k, f, hk, Option.some.inj hname, rfl⟩
  | entry e => cases hname
  | instruction op operands => cases hname

/-- Where the labels stand after another item. -/
theorem labelAt_append_singleton_iff {position : Nat} :
    LabelAt (items ++ [item]) name position ↔
      LabelAt items name position ∨ (item.labelName? = some name ∧ position = extent items) := by
  constructor
  · rintro ⟨k, f, hk, hname, rfl⟩
    rcases Nat.lt_or_ge k items.length with hlt | hge
    · rw [List.getElem?_append_left hlt] at hk
      rw [List.take_append_of_le_length (Nat.le_of_lt hlt)]
      exact .inl ⟨k, f, hk, hname, rfl⟩
    · rw [List.getElem?_append_right hge] at hk
      obtain ⟨hlt, hitem⟩ := List.getElem?_eq_some_iff.1 hk
      obtain rfl : k = items.length := by
        rw [List.length_singleton] at hlt
        omega
      rw [List.take_left]
      refine .inr ⟨?_, rfl⟩
      simp only [Nat.sub_self, List.getElem_singleton] at hitem
      rw [hitem, Item.labelName?, hname]
  · rintro (⟨k, f, hk, hname, rfl⟩ | ⟨hitem, rfl⟩)
    · have hlt := (List.getElem?_eq_some_iff.1 hk).1
      refine ⟨k, f, ?_, hname, ?_⟩
      · rw [List.getElem?_append_left hlt, hk]
      · rw [List.take_append_of_le_length (Nat.le_of_lt hlt)]
    · cases item with
      | label f =>
        refine ⟨items.length, f, ?_, Option.some.inj hitem, ?_⟩
        · rw [List.getElem?_append_right (Nat.le_refl _), Nat.sub_self]
          rfl
        · rw [List.take_left]
      | entry e => cases hitem
      | instruction op operands => cases hitem

/-- A label has been entered if it is among the items. -/
theorem Collected.contains_iff (h : Collected items d) :
    d.labels.contains name = true ↔ name ∈ labelNames items := by
  rw [Std.HashMap.contains_eq_isSome_getElem?, Option.isSome_iff_exists]
  constructor
  · rintro ⟨position, hposition⟩
    exact mem_labels_of_labelAt ((h.labels_iff name position).1 hposition)
  · intro hmem
    obtain ⟨position, hat⟩ := exists_labelAt_of_mem hmem
    exact ⟨position, (h.labels_iff name position).2 hat⟩

theorem Distinct.of_append {rest : List Item} (h : Distinct (items ++ rest)) : Distinct items := by
  have hnames : labelNames (items ++ rest) = labelNames items ++ labelNames rest :=
    List.filterMap_append
  rw [Distinct, hnames, List.nodup_append] at h
  exact h.1

theorem distinct_append_label_iff {f : Field} :
    Distinct (items ++ [.label f]) ↔
      Distinct items ∧ f.name ∉ labelNames items := by
  have hnames : labelNames (items ++ [.label f]) = labelNames items ++ [f.name] :=
    List.filterMap_append
  have hsingle : [f.name].Nodup := List.nodup_cons.2 ⟨List.not_mem_nil, List.nodup_nil⟩
  rw [Distinct, hnames, List.nodup_append, and_iff_right hsingle]
  refine and_congr_right fun _ => ⟨fun h hmem => ?_, fun h a ha b hb => ?_⟩
  · exact h _ hmem _ (List.mem_singleton.2 rfl) rfl
  · rw [List.mem_singleton.1 hb]
    exact fun heq => h (heq ▸ ha)

/-- A draft goes on to collect. -/
theorem Collected.enter (h : Collected items d) (hdistinct : Distinct (items ++ [item]))
    (number : Nat) : Collected (items ++ [item]) (d.enter number item) := by
  have hposition := h.position_eq
  have hstatements := h.statements_eq
  cases item with
  | label f =>
    obtain ⟨-, hfresh⟩ := distinct_append_label_iff.1 hdistinct
    refine ⟨?_, ?_, ?_, fun name position => ?_⟩
    · rw [extent_append]
      exact hposition
    · rw [instructions, List.filterMap_append]
      exact hstatements.trans (List.append_nil _).symm
    · rw [entryField, List.filterMap_append]
      exact h.entry_eq.trans (by simp [entryField, Item.entry?])
    · rw [labelAt_append_singleton_iff, Draft.enter, Std.HashMap.getElem?_insert,
        Item.labelName?, Option.some.injEq]
      split
      · next heq =>
        obtain rfl := beq_iff_eq.1 heq
        have hnone : ¬LabelAt items f.name position := fun hat => hfresh (mem_labels_of_labelAt hat)
        simp [hnone, hposition, eq_comm]
      · next hne =>
        rw [h.labels_iff, or_iff_left fun hand => hne (beq_iff_eq.2 hand.1)]
  | entry e =>
    refine ⟨?_, ?_, ?_, fun name position => ?_⟩
    · rw [extent_append]
      exact hposition
    · rw [instructions, List.filterMap_append]
      exact hstatements.trans (List.append_nil _).symm
    · rw [entryField, List.filterMap_append]
      simp [Draft.enter, Item.entry?]
    · rw [labelAt_append_singleton_iff, or_iff_left fun hand => by cases hand.1]
      exact h.labels_iff name position
  | instruction op operands =>
    refine ⟨?_, ?_, ?_, fun name position => ?_⟩
    · rw [extent_append, Draft.enter, hposition]
      rfl
    · rw [instructions, List.filterMap_append, Draft.enter, Array.toList_push, List.map_append,
        hstatements]
      rfl
    · rw [entryField, List.filterMap_append]
      exact h.entry_eq.trans (by simp [entryField, Item.entry?])
    · rw [labelAt_append_singleton_iff, or_iff_left fun hand => by cases hand.1]
      exact h.labels_iff name position

theorem Collected.foldl_enter (h : Collected items d) {rest : List Item}
    (hdistinct : Distinct (items ++ rest)) (number : Nat) :
    Collected (items ++ rest) (rest.foldl (Draft.enter number) d) := by
  induction rest generalizing items d with
  | nil => rwa [List.append_nil]
  | cons item rest ih =>
    rw [List.append_cons] at hdistinct ⊢
    exact ih (h.enter hdistinct.of_append number) hdistinct

/-! ### Lines -/

theorem distinct_append_of_unlabelled {rest : List Item} (hrest : labelNames rest = []) :
    Distinct (items ++ rest) ↔ Distinct items := by
  have hnames : labelNames (items ++ rest) = labelNames items ++ labelNames rest :=
    List.filterMap_append
  rw [Distinct, hnames, hrest, List.append_nil, Distinct]

/-- Only a label can be said by a field that ends in a colon. -/
theorem says_label_iff {name : Field} {rest : List Field} {line : List Item} :
    Says ((name ++ [.char ':']) :: rest) line ↔
      isLabel name.chars = true ∧ ∃ line', Says rest line' ∧ line = .label name :: line' := by
  constructor
  · intro hsaid
    have hlabel := labelName?_eq_some_iff.2 (rfl : name ++ [Rune.char ':'] = _)
    generalize hf : name ++ [Rune.char ':'] = f at hsaid hlabel
    cases hsaid with
    | label hname hrest =>
      obtain rfl := List.append_cancel_right hf
      exact ⟨hname, _, hrest, rfl⟩
    | entry hnone =>
      rw [hnone] at hlabel
      cases hlabel
    | instruction hnone =>
      rw [hnone] at hlabel
      cases hlabel
  · rintro ⟨hname, line', hrest, rfl⟩
    exact .label hname hrest

/-- A line says one thing only. -/
theorem Says.unique {fields : List Field} {line line' : List Item} (h : Says fields line)
    (h' : Says fields line') : line = line' := by
  induction h generalizing line' with
  | blank =>
    cases h'
    rfl
  | label _ _ ih =>
    obtain ⟨-, rest', hrest', rfl⟩ := says_label_iff.1 h'
    rw [ih hrest']
  | entry hlabel hentry =>
    cases h' with
    | label => rw [labelName?_eq_some_iff.2 rfl] at hlabel; cases hlabel
    | entry => rfl
    | instruction _ hno => rw [hentry] at hno; cases hno
  | instruction hlabel hentry hop =>
    cases h' with
    | label => rw [labelName?_eq_some_iff.2 rfl] at hlabel; cases hlabel
    | entry _ hyes => rw [hentry] at hyes; cases hyes
    | instruction _ _ hop' =>
      rw [hop] at hop'
      obtain rfl := Option.some.inj hop'
      rfl

/-- Lines say one thing only. -/
theorem TextSays.unique {lines : List Source.Line} {rest rest' : List Item}
    (h : TextSays lines rest) (h' : TextSays lines rest') : rest = rest' := by
  induction h generalizing rest' with
  | nil =>
    cases h'
    rfl
  | cons hline _ ih =>
    cases h' with
    | cons hline' hrest' => rw [hline.unique hline', ih hrest']

/-- What follows the labels of a line. -/
theorem readStatement_eq_ok_iff {f : Field} (hlabel : labelName? f = none) (rest : List Field) :
    readStatement number d (f :: rest) = .ok d' ↔
      ∃ line, Says (f :: rest) line ∧ labelNames line = [] ∧
        d' = line.foldl (Draft.enter number) d := by
  constructor
  · intro h
    unfold readStatement at h
    dsimp only at h
    split at h
    · next hentry =>
      split at h
      · next e =>
        exact ⟨[.entry e], .entry hlabel hentry, rfl, (Except.ok.inj h).symm⟩
      · cases h
    · next hentry =>
      split at h
      · cases h
      · next op hop =>
        split at h
        · next hlength =>
          exact ⟨[.instruction op rest],
            .instruction hlabel (Bool.eq_false_iff.2 hentry) hop hlength, rfl,
            (Except.ok.inj h).symm⟩
        · cases h
  · rintro ⟨line, hsaid, hnames, rfl⟩
    cases hsaid with
    | label hlabel' hrest => cases hnames
    | entry _ hentry =>
      unfold readStatement
      dsimp only
      rw [if_pos hentry]
      rfl
    | instruction _ hentry hop hlength =>
      unfold readStatement
      dsimp only
      rw [if_neg (Bool.eq_false_iff.1 hentry), hop]
      dsimp only
      rw [if_pos hlength]
      rfl

/-- A label is read if its name is well formed and new, and then it has been entered. -/
theorem readLabels_label_iff {name : Field} {rest : List Field}
    {next : Draft × List Field → Except Error Draft} :
    (readLabels number d ((name ++ [.char ':']) :: rest) >>= next) = .ok d' ↔
      isLabel name.chars = true ∧ d.labels.contains name.name = false ∧
        (readLabels number (d.enter number (.label name)) rest >>= next) = .ok d' := by
  rw [readLabels, labelName?_eq_some_iff.2 rfl]
  dsimp only
  cases isLabel name.chars with
  | false => exact ⟨(nomatch ·), fun h => nomatch h.1⟩
  | true =>
    cases d.labels.contains name.name with
    | true => exact ⟨(nomatch ·), fun h => nomatch h.2.1⟩
    | false => exact ⟨fun h => ⟨rfl, rfl, h⟩, fun h => h.2.2⟩

/-- Reading the fields of a line succeeds if they say something and set no label twice, and then it
has entered what they say. -/
theorem readFields_eq_ok_iff (h : Collected items d) (hdistinct : Distinct items)
    (fields : List Field) :
    (readLabels number d fields >>= fun x => readStatement number x.1 x.2) = .ok d' ↔
      ∃ line, Says fields line ∧ Distinct (items ++ line) ∧
        d' = line.foldl (Draft.enter number) d := by
  induction fields generalizing items d with
  | nil =>
    constructor
    · intro hread
      exact ⟨[], .blank, by rwa [List.append_nil], (Except.ok.inj hread).symm⟩
    · rintro ⟨line, hsaid, -, rfl⟩
      cases hsaid
      rfl
  | cons f rest ih =>
    cases hlabel : labelName? f with
    | none =>
      have hread : readLabels number d (f :: rest) = .ok (d, f :: rest) := by
        rw [readLabels, hlabel]
      rw [hread]
      refine (readStatement_eq_ok_iff hlabel rest).trans ⟨?_, ?_⟩
      · rintro ⟨line, hsaid, hnames, rfl⟩
        exact ⟨line, hsaid, (distinct_append_of_unlabelled hnames).2 hdistinct, rfl⟩
      · rintro ⟨line, hsaid, -, rfl⟩
        refine ⟨line, hsaid, ?_, rfl⟩
        cases hsaid with
        | label => rw [labelName?_eq_some_iff.2 rfl] at hlabel; cases hlabel
        | entry => rfl
        | instruction => rfl
    | some name =>
      obtain rfl := labelName?_eq_some_iff.1 hlabel
      rw [readLabels_label_iff]
      simp only [says_label_iff]
      constructor
      · rintro ⟨hname, hnew, hread⟩
        have hfresh := mt h.contains_iff.2 (Bool.eq_false_iff.1 hnew)
        have hdistinct' := distinct_append_label_iff.2 ⟨hdistinct, hfresh⟩
        obtain ⟨line, hsaid, hall, rfl⟩ := (ih (h.enter hdistinct' number) hdistinct').1 hread
        exact ⟨_, ⟨hname, line, hsaid, rfl⟩, by rwa [List.append_cons], rfl⟩
      · rintro ⟨_, ⟨hname, line, hsaid, rfl⟩, hall, rfl⟩
        rw [List.append_cons] at hall
        have hdistinct' := hall.of_append
        have hfresh := (distinct_append_label_iff.1 hdistinct').2
        refine ⟨hname, Bool.eq_false_iff.2 (mt h.contains_iff.1 hfresh), ?_⟩
        exact (ih (h.enter hdistinct' number) hdistinct').2 ⟨line, hsaid, hall, rfl⟩

/-- Lines that are read say something that sets no label twice, and this is what is collected. -/
theorem exists_items_of_readLines (h : Collected items d) (hdistinct : Distinct items)
    {lines : List Source.Line} (hread : readLines number d lines = .ok d') :
    ∃ rest, TextSays lines rest ∧ Distinct (items ++ rest) ∧ Collected (items ++ rest) d' := by
  induction lines generalizing items d number with
  | nil =>
    obtain rfl := Except.ok.inj hread
    exact ⟨[], .nil, by rwa [List.append_nil], by rwa [List.append_nil]⟩
  | cons line lines ih =>
    unfold readLines at hread
    split at hread
    · cases hread
    · next d₁ hline =>
      cases line with
      | tooLong => cases hline
      | text bytes =>
        obtain ⟨new, hsaid, hnew, rfl⟩ := (readFields_eq_ok_iff h hdistinct _).1 hline
        obtain ⟨rest, hrest, hall, hcollected⟩ := ih (h.foldl_enter hnew _) hnew hread
        rw [List.append_assoc] at hall hcollected
        exact ⟨new ++ rest, .cons hsaid hrest, hall, hcollected⟩

/-- Lines that say something without setting a label twice are read, and this is what is
collected. -/
theorem readLines_of_textSays {lines : List Source.Line} {rest : List Item}
    (hsaid : TextSays lines rest) (h : Collected items d) (hdistinct : Distinct (items ++ rest)) :
    ∃ d', readLines number d lines = .ok d' ∧ Collected (items ++ rest) d' := by
  induction hsaid generalizing items d number with
  | nil => exact ⟨d, rfl, by rwa [List.append_nil]⟩
  | @cons bytes lines new rest hline _ ih =>
    rw [← List.append_assoc] at hdistinct ⊢
    have hnew := hdistinct.of_append
    have hread :
        readLine (number + 1) d (.text bytes) = .ok (new.foldl (Draft.enter (number + 1)) d) :=
      (readFields_eq_ok_iff h hnew.of_append _).2 ⟨new, hline, hnew, rfl⟩
    rw [readLines, hread]
    exact ih (h.foldl_enter hnew _) hdistinct

end

end Lanewise.Assembly
