import Lanewise.Assembly
import Lanewise.Proofs.Image.Bytes
import Mathlib.Data.List.TakeWhile

/-!
# Lines of words

A text of ASCII characters is a byte for each character, and each byte is read as its character
again. If such a text consists of lines that are not too long, these are its lines; and if a line
consists of words with blanks between them, these are its fields, as long as no word begins a
comment.

## Main definitions

* `Text.asciiBytes`: the bytes of ASCII characters.
* `Source.Plain`, `Source.Whole`: words, and their characters, which neither separate fields nor
  begin a comment.
* `Source.spaced`: words with a blank between neighbours.

## Main results

* `Text.toUTF8_toList_of_ascii`, `Rune.decode_asciiBytes`: the bytes of an ASCII text and its runes.
* `Source.lines_eq`, `Source.lines_spaced`: the lines of a text that is put together from lines.
* `Source.fields_spaced`: the fields of a line that is put together from words.
-/

namespace Lanewise

/-! ### ASCII -/

namespace Text

/-- The bytes of ASCII characters, one each. -/
def asciiBytes (cs : List Char) : List UInt8 :=
  cs.map fun c => c.val.toUInt8

theorem toNat_asciiByte {c : Char} (h : c.toNat < 128) : c.val.toUInt8.toNat = c.toNat :=
  Nat.mod_eq_of_lt (Nat.lt_trans h (by omega))

/-- The encoding of an ASCII text. -/
theorem toUTF8_toList_of_ascii {s : String} (h : ∀ c ∈ s.toList, c.toNat < 128) :
    s.toUTF8.toList = asciiBytes s.toList := by
  have hencode {cs : List Char} (hcs : ∀ c ∈ cs, c.toNat < 128) :
      cs.flatMap String.utf8EncodeChar = asciiBytes cs := by
    induction cs with
    | nil => rfl
    | cons c cs ih =>
      obtain ⟨hc, hrest⟩ := List.forall_mem_cons.1 hcs
      have hsize : c.utf8Size = 1 := Char.utf8Size_eq_one_iff.2 (Nat.le_of_lt_succ hc)
      rw [List.flatMap_cons, String.utf8EncodeChar_eq_singleton hsize, ih hrest]
      rfl
  rw [← hencode h, Bytes.toList_eq, String.toUTF8_eq_toByteArray]
  conv => lhs; rw [← String.ofList_toList (s := s), String.toByteArray_ofList]
  rw [List.utf8Encode, List.data_toByteArray]

end Text

/-- Each byte of an ASCII text is read as its character. -/
theorem Rune.decode_asciiBytes {cs : List Char} (h : ∀ c ∈ cs, c.toNat < 128) :
    decode (Text.asciiBytes cs) = cs.map char := by
  unfold decode
  induction cs with
  | nil => rfl
  | cons c cs ih =>
    obtain ⟨hc, hrest⟩ := List.forall_mem_cons.1 h
    have hfront : front? (c.val.toUInt8 :: Text.asciiBytes cs) = some (c, 1) := by
      unfold front?
      dsimp only
      rw [Text.toNat_asciiByte hc, if_pos hc, Char.ofNat_toNat]
    have hcons : Text.asciiBytes (c :: cs) = c.val.toUInt8 :: Text.asciiBytes cs := rfl
    rw [hcons, decodeAfter, hfront]
    exact congrArg (char c :: ·) (ih hrest)

namespace Source

/-! ### Lines -/

theorem linesFrom_append {acc : Array Line} {line bs rest : List UInt8} {length : Nat}
    (hbs : ∀ b ∈ bs, b ≠ 10) (hlength : length + bs.length < lineLimit) :
    linesFrom acc line length (bs ++ rest) =
      linesFrom acc (bs.reverse ++ line) (length + bs.length) rest := by
  induction bs generalizing line length with
  | nil => rfl
  | cons b bs ih =>
    obtain ⟨hb, hrest⟩ := List.forall_mem_cons.1 hbs
    rw [List.length_cons] at hlength
    rw [List.cons_append, linesFrom, if_neg hb, if_pos (by omega), ih hrest (by omega),
      List.reverse_cons, List.append_assoc, List.singleton_append, List.length_cons]
    congr 1
    omega

/-- A line that has no end of line in it and is not too long. -/
structure Closed (bs : List UInt8) : Prop where
  noEnd : ∀ b ∈ bs, b ≠ 10 ∧ b ≠ 13
  short : bs.length < lineLimit

theorem Closed.finish_eq {bs : List UInt8} (h : Closed bs) : finish bs.reverse = .text bs := by
  unfold finish
  split
  · next rest heq =>
    have hmem : 13 ∈ bs := List.mem_reverse.1 (heq ▸ List.mem_cons_self)
    exact absurd rfl (h.noEnd _ hmem).2
  · rw [List.reverse_reverse]

theorem linesFrom_eq {acc : Array Line} {ls : List (List UInt8)} (h : ∀ bs ∈ ls, Closed bs) :
    linesFrom acc [] 0 (ls.flatMap (· ++ [10])) = acc ++ (ls.map Line.text).toArray := by
  induction ls generalizing acc with
  | nil => simp [linesFrom]
  | cons bs ls ih =>
    obtain ⟨hbs, hrest⟩ := List.forall_mem_cons.1 h
    rw [List.flatMap_cons, List.append_assoc,
      linesFrom_append (fun b hb => (hbs.noEnd b hb).1) (by rw [Nat.zero_add]; exact hbs.short),
      List.append_nil, List.singleton_append, linesFrom, if_pos rfl, hbs.finish_eq, ih hrest]
    simp

/-- The lines of a text that is put together from lines. -/
theorem lines_eq {ls : List (List UInt8)} (h : ∀ bs ∈ ls, Closed bs) :
    (lines (ls.flatMap (· ++ [10]))).toList = ls.map Line.text := by
  rw [lines, linesFrom_eq h, Array.empty_append, List.toList_toArray]

/-! ### Fields -/

/-- A character that neither separates fields nor begins a comment, and is no control character. -/
def Plain (c : Char) : Prop :=
  32 < c.toNat ∧ c.toNat < 127 ∧ c ≠ ';' ∧ c ≠ '#'

instance (c : Char) : Decidable (Plain c) :=
  inferInstanceAs (Decidable (_ ∧ _))

/-- Characters that are one word of a line. -/
def Whole (w : List Char) : Prop :=
  w ≠ [] ∧ ∀ c ∈ w, Plain c

instance (w : List Char) : Decidable (Whole w) :=
  decidable_of_iff ((!w.isEmpty && w.all fun c => decide (Plain c)) = true) (by simp [Whole])

/-- Words with a blank between neighbours. -/
def spaced (first : List Char) (rest : List (List Char)) : List Char :=
  first ++ rest.flatMap (' ' :: ·)

variable {first : List Char} {rest : List (List Char)}

theorem Plain.isSpace_eq {c : Char} (h : Plain c) : Rune.isSpace (.char c) = false := by
  obtain ⟨hlow, hhigh, -⟩ := h
  simp only [Rune.isSpace, Text.isSpace, Bool.or_eq_false_iff, Bool.and_eq_false_iff,
    decide_eq_false_iff_not, beq_eq_false_iff_ne]
  omega

theorem Plain.startsComment_eq {c : Char} (h : Plain c) : startsComment (.char c) = false := by
  obtain ⟨-, -, hsemicolon, hhash⟩ := h
  simp [startsComment, hsemicolon, hhash]

theorem mem_spaced {c : Char} (h : c ∈ spaced first rest) :
    c = ' ' ∨ ∃ w ∈ first :: rest, c ∈ w := by
  rcases List.mem_append.1 h with h | h
  · exact .inr ⟨first, List.mem_cons_self, h⟩
  · obtain ⟨w, hw, hc⟩ := List.mem_flatMap.1 h
    rcases List.mem_cons.1 hc with rfl | hc
    · exact .inl rfl
    · exact .inr ⟨w, List.mem_cons_of_mem _ hw, hc⟩

theorem length_spaced_le {n : Nat} (h : ∀ w ∈ rest, w.length ≤ n) :
    (spaced first rest).length ≤ first.length + rest.length * (n + 1) := by
  rw [spaced, List.length_append]
  refine Nat.add_le_add_left ?_ _
  induction rest with
  | nil => exact Nat.zero_le _
  | cons w rest ih =>
    obtain ⟨hw, hrest⟩ := List.forall_mem_cons.1 h
    rw [List.flatMap_cons, List.length_append, List.length_cons, List.length_cons, Nat.succ_mul,
      Nat.add_comm]
    exact Nat.add_le_add (ih hrest) (Nat.succ_le_succ hw)

theorem fieldsFrom_cons {field rs : List Rune} {r : Rune} (h : r.isSpace = false) :
    fieldsFrom field (r :: rs) = fieldsFrom (r :: field) rs := by
  cases field <;> rw [fieldsFrom.eq_def] <;> simp [h]

theorem fieldsFrom_append {field : List Rune} {w : List Char} {rs : List Rune}
    (h : ∀ c ∈ w, Plain c) :
    fieldsFrom field (w.map Rune.char ++ rs) =
      fieldsFrom ((w.map Rune.char).reverse ++ field) rs := by
  induction w generalizing field with
  | nil => rfl
  | cons c w ih =>
    obtain ⟨hc, hw⟩ := List.forall_mem_cons.1 h
    rw [List.map_cons, List.cons_append, fieldsFrom_cons hc.isSpace_eq, ih hw, List.reverse_cons,
      List.append_assoc, List.singleton_append]

/-- A word is one field, up to the blank or the end behind it. -/
theorem fieldsFrom_word {w : List Char} (h : Whole w) :
    fieldsFrom [] (w.map Rune.char) = [w.map Rune.char] ∧
      ∀ rs, fieldsFrom [] (w.map Rune.char ++ .char ' ' :: rs) =
        w.map Rune.char :: fieldsFrom [] rs := by
  obtain ⟨hne, hplain⟩ := h
  have hfield : (w.map Rune.char).reverse ++ [] ≠ [] := by simpa using hne
  obtain ⟨r, field, hfield⟩ := List.exists_cons_of_ne_nil hfield
  have hback : (r :: field).reverse = w.map Rune.char := by
    rw [← hfield, List.append_nil, List.reverse_reverse]
  constructor
  · rw [← List.append_nil (w.map _), fieldsFrom_append hplain, hfield, fieldsFrom, hback,
      List.append_nil]
    exact nofun
  · intro rs
    rw [fieldsFrom_append hplain, hfield, fieldsFrom, if_pos (by decide), hback]
    exact nofun

theorem fieldsFrom_spaced (h : ∀ w ∈ first :: rest, Whole w) :
    fieldsFrom [] ((spaced first rest).map Rune.char) =
      (first :: rest).map fun w => w.map Rune.char := by
  induction rest generalizing first with
  | nil =>
    rw [spaced, List.flatMap_nil, List.append_nil, (fieldsFrom_word (h _ List.mem_cons_self)).1]
    rfl
  | cons w rest ih =>
    obtain ⟨hfirst, hrest⟩ := List.forall_mem_cons.1 h
    rw [spaced, List.flatMap_cons, List.map_append, List.cons_append, List.map_cons,
      (fieldsFrom_word hfirst).2]
    exact congrArg (first.map Rune.char :: ·) (ih hrest)

theorem spaced_ascii (h : ∀ w ∈ first :: rest, Whole w) :
    ∀ c ∈ spaced first rest, 32 ≤ c.toNat ∧ c.toNat < 127 := by
  intro c hc
  rcases mem_spaced hc with rfl | ⟨w, hw, hc⟩
  · decide
  · obtain ⟨hlow, hhigh, -⟩ := (h w hw).2 c hc
    exact ⟨Nat.le_of_lt hlow, hhigh⟩

/-- The fields of a line that is put together from words. -/
theorem fields_spaced (h : ∀ w ∈ first :: rest, Whole w) :
    fields (Text.asciiBytes (spaced first rest)) =
      (first :: rest).map fun w => w.map Rune.char := by
  have hascii : ∀ c ∈ spaced first rest, c.toNat < 128 :=
    fun c hc => Nat.lt_succ_of_lt (spaced_ascii h c hc).2
  have hcomment : ∀ r ∈ (spaced first rest).map Rune.char, (!startsComment r) = true := by
    intro r hr
    obtain ⟨c, hc, rfl⟩ := List.mem_map.1 hr
    rcases mem_spaced hc with rfl | ⟨w, hw, hc⟩
    · rfl
    · rw [((h w hw).2 c hc).startsComment_eq]
      rfl
  rw [fields, Rune.decode_asciiBytes hascii, List.takeWhile_eq_self_iff.2 hcomment,
    fieldsFrom_spaced h]

/-- The lines of a text that is put together from lines of words. -/
theorem lines_spaced {s : String} {rows : List (List Char × List (List Char))}
    (hs : s.toList = rows.flatMap fun r => spaced r.1 r.2 ++ ['\n'])
    (hwhole : ∀ r ∈ rows, ∀ w ∈ r.1 :: r.2, Whole w)
    (hshort : ∀ r ∈ rows, (spaced r.1 r.2).length < lineLimit) :
    (lines s.toUTF8.toList).toList =
      rows.map fun r => .text (Text.asciiBytes (spaced r.1 r.2)) := by
  have hascii : ∀ c ∈ s.toList, c.toNat < 128 := by
    rw [hs]
    intro c hc
    obtain ⟨r, hr, hc⟩ := List.mem_flatMap.1 hc
    rcases List.mem_append.1 hc with hc | hc
    · exact Nat.lt_succ_of_lt (spaced_ascii (hwhole r hr) c hc).2
    · rw [List.mem_singleton.1 hc]
      decide
  have hbytes : s.toUTF8.toList =
      (rows.map fun r => Text.asciiBytes (spaced r.1 r.2)).flatMap (· ++ [10]) := by
    rw [Text.toUTF8_toList_of_ascii hascii, hs, List.flatMap_map, Text.asciiBytes, List.map_flatMap]
    simp only [List.map_append]
    rfl
  have hclosed : ∀ bs ∈ rows.map fun r => Text.asciiBytes (spaced r.1 r.2), Closed bs := by
    intro bs hbs
    obtain ⟨r, hr, rfl⟩ := List.mem_map.1 hbs
    refine ⟨fun b hb => ?_, ?_⟩
    · obtain ⟨c, hc, rfl⟩ := List.mem_map.1 hb
      obtain ⟨hlow, hhigh⟩ := spaced_ascii (hwhole r hr) c hc
      have hbyte := Text.toNat_asciiByte (Nat.lt_succ_of_lt hhigh)
      have hne {n : UInt8} (hn : n.toNat < 32) : c.val.toUInt8 ≠ n := by
        rintro rfl
        omega
      exact ⟨hne (by decide), hne (by decide)⟩
    · rw [Text.asciiBytes, List.length_map]
      exact hshort r hr
  rw [hbytes, lines_eq hclosed, List.map_map]
  rfl

end Source

end Lanewise
