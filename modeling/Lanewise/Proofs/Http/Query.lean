import Lanewise.Http.Url
import Lanewise.Proofs.Text.Lines
import Mathlib.Data.List.Basic

/-!
# Targets that are put together

A target has a path, and after a mark the parameters of a query, each a name and a value. Characters
that mean nothing in a target stand for themselves in it: a target that is put together from texts
of such characters gives them back, the path as its path and the parameters as its parameters, in
their order.

## Main definitions

* `Http.Url.Safe`: a character that stands for itself.
* `Http.Url.target`: a target that is put together.

## Main results

* `Http.splitAt_intercalate`: parts that are joined come apart again.
* `Http.Url.ofTarget_target`: what a target that is put together leads to.
* `Http.Url.text_target`, `Http.Url.get_target`: its path and its parameters as texts.
-/

namespace Lanewise

/-- A text of ASCII characters is read as itself. -/
theorem Text.lossy_asciiBytes {cs : List Char} (h : ∀ c ∈ cs, c.toNat < 128) :
    lossy (asciiBytes cs) = String.ofList cs := by
  rw [lossy, Rune.decode_asciiBytes h, List.map_map]
  exact congrArg String.ofList (List.map_id cs)

namespace Http

/-! ### Parts -/

section

variable {α β : Type} {sep : List α} {parts : List (List α)}

theorem map_intercalate (f : α → β) :
    (sep.intercalate parts).map f = (sep.map f).intercalate (parts.map (·.map f)) := by
  induction parts with
  | nil => rfl
  | cons part parts ih =>
    cases parts with
    | nil => rw [List.intercalate_singleton, List.map_singleton, List.intercalate_singleton]
    | cons next parts =>
      rw [List.intercalate_cons_cons, List.map_append, List.map_append, ih, List.map_cons,
        List.map_cons, List.map_cons, List.intercalate_cons_cons]

theorem forall_mem_intercalate {p : α → Prop} (hsep : ∀ a ∈ sep, p a)
    (hparts : ∀ part ∈ parts, ∀ a ∈ part, p a) : ∀ a ∈ sep.intercalate parts, p a := by
  induction parts with
  | nil => exact List.forall_mem_nil _
  | cons part parts ih =>
    obtain ⟨hpart, hrest⟩ := List.forall_mem_cons.1 hparts
    cases parts with
    | nil =>
      rw [List.intercalate_singleton]
      exact hpart
    | cons next parts =>
      rw [List.intercalate_cons_cons]
      exact List.forall_mem_append.2 ⟨List.forall_mem_append.2 ⟨hpart, hsep⟩, ih hrest⟩

end

section

variable {sep : UInt8} {bs rest : List UInt8}

theorem splitAt_cons_self (sep : UInt8) (bs : List UInt8) :
    splitAt sep (sep :: bs) = [] :: splitAt sep bs := by
  rw [splitAt, splitAt, List.foldr_cons]
  generalize bs.foldr _ _ = done
  obtain ⟨parts, part⟩ := done
  dsimp only
  rw [if_pos rfl]

theorem splitAt_cons_of_ne {b : UInt8} (h : b ≠ sep) (bs : List UInt8) :
    splitAt sep (b :: bs) = (splitAt sep bs).modifyHead (b :: ·) := by
  rw [splitAt, splitAt, List.foldr_cons]
  generalize bs.foldr _ _ = done
  obtain ⟨parts, part⟩ := done
  dsimp only
  rw [if_neg h]
  rfl

theorem splitAt_of_forall_ne (h : ∀ b ∈ bs, b ≠ sep) : splitAt sep bs = [bs] := by
  induction bs with
  | nil => rfl
  | cons b bs ih =>
    obtain ⟨hb, hbs⟩ := List.forall_mem_cons.1 h
    rw [splitAt_cons_of_ne hb, ih hbs]
    rfl

theorem splitAt_append (h : ∀ b ∈ bs, b ≠ sep) :
    splitAt sep (bs ++ sep :: rest) = bs :: splitAt sep rest := by
  induction bs with
  | nil => exact splitAt_cons_self sep rest
  | cons b bs ih =>
    obtain ⟨hb, hbs⟩ := List.forall_mem_cons.1 h
    rw [List.cons_append, splitAt_cons_of_ne hb, ih hbs]
    rfl

/-- Parts that are joined come apart again. -/
theorem splitAt_intercalate {parts : List (List UInt8)} (hne : parts ≠ [])
    (h : ∀ part ∈ parts, ∀ b ∈ part, b ≠ sep) : splitAt sep ([sep].intercalate parts) = parts := by
  induction parts with
  | nil => exact absurd rfl hne
  | cons part parts ih =>
    obtain ⟨hpart, hparts⟩ := List.forall_mem_cons.1 h
    cases parts with
    | nil => rw [List.intercalate_singleton, splitAt_of_forall_ne hpart]
    | cons next parts =>
      rw [List.intercalate_cons_cons, List.append_assoc, List.singleton_append,
        splitAt_append hpart, ih (List.cons_ne_nil _ _) hparts]

/-- What stands in front of the first separator. -/
theorem takeWhile_bne_append (h : ∀ b ∈ bs, b ≠ sep) :
    (bs ++ sep :: rest).takeWhile (· != sep) = bs := by
  rw [List.takeWhile_append_of_pos fun b hb => bne_iff_ne.2 (h b hb),
    List.takeWhile_cons_of_neg (by simp), List.append_nil]

/-- Bytes without percent and plus signs stand for themselves. -/
theorem percentDecode?_of_forall {inQuery : Bool} (h : ∀ b ∈ bs, b ≠ 37 ∧ b ≠ 43) :
    percentDecode? inQuery bs = some bs := by
  induction bs with
  | nil => rfl
  | cons b bs ih =>
    obtain ⟨⟨hpercent, hplus⟩, hbs⟩ := List.forall_mem_cons.1 h
    unfold percentDecode?
    split
    · next heq => cases heq
    · next heq => exact absurd (List.cons.inj heq).1 hpercent
    · next heq =>
      obtain ⟨rfl, rfl⟩ := List.cons.inj heq
      rw [if_neg hpercent, ih hbs, if_neg fun hb => hplus hb.2]
      rfl

end

namespace Url

/-- The characters that mean something in a target. -/
def marks : List Char :=
  ['%', '&', '+', ';', '=', '?']

/-- Marks are ASCII characters, and no digits. -/
theorem toNat_of_mem_marks {mark : Char} (h : mark ∈ marks) :
    mark.toNat < 128 ∧ (mark.toNat < 48 ∨ 57 < mark.toNat) := by
  have hall : marks.all (fun c => c.toNat < 128 ∧ (c.toNat < 48 ∨ 57 < c.toNat)) = true := by decide
  exact of_decide_eq_true (List.all_eq_true.1 hall mark h)

/-- An ASCII character that means nothing in a target. -/
def Safe (c : Char) : Prop :=
  c.toNat < 128 ∧ c ∉ marks

instance (c : Char) : Decidable (Safe c) :=
  inferInstanceAs (Decidable (_ ∧ _))

/-- The members of a list are gone through, not all characters that there are. -/
theorem Safe.of_all {cs : List Char} (h : cs.all (fun c => Safe c) = true) : ∀ c ∈ cs, Safe c :=
  fun c hc => of_decide_eq_true (List.all_eq_true.1 h c hc)

/-- A path and the parameters of a query, put together. -/
def target (path : String) (parameters : List (String × String)) : String :=
  path ++ "?" ++ "&".intercalate (parameters.map fun p => p.1 ++ "=" ++ p.2)

variable {cs : List Char} {path : String} {parameters : List (String × String)}

theorem Safe.byte_ne {c mark : Char} (h : Safe c) (hmark : mark ∈ marks) :
    c.val.toUInt8 ≠ mark.val.toUInt8 := by
  intro heq
  have hnat : c.toNat = mark.toNat := by
    rw [← Text.toNat_asciiByte h.1, heq, Text.toNat_asciiByte (toNat_of_mem_marks hmark).1]
  exact h.2 (Char.toNat_inj.1 hnat ▸ hmark)

theorem asciiBytes_ne (h : ∀ c ∈ cs, Safe c) (mark : Char) (hmark : mark ∈ marks) :
    ∀ b ∈ Text.asciiBytes cs, b ≠ mark.val.toUInt8 := by
  intro b hb
  obtain ⟨c, hc, rfl⟩ := List.mem_map.1 hb
  exact (h c hc).byte_ne hmark

theorem toUTF8_of_safe {s : String} (h : ∀ c ∈ s.toList, Safe c) :
    s.toUTF8.toList = Text.asciiBytes s.toList :=
  Text.toUTF8_toList_of_ascii fun c hc => (h c hc).1

theorem percentDecode?_of_safe (h : ∀ c ∈ cs, Safe c) (inQuery : Bool) :
    percentDecode? inQuery (Text.asciiBytes cs) = some (Text.asciiBytes cs) :=
  percentDecode?_of_forall fun b hb =>
    ⟨asciiBytes_ne h '%' (by decide) b hb, asciiBytes_ne h '+' (by decide) b hb⟩

/-- A name and a value with an equals sign between them. -/
theorem parameter?_of_safe {name value : List Char} (hname : ∀ c ∈ name, Safe c)
    (hvalue : ∀ c ∈ value, Safe c) :
    parameter? (Text.asciiBytes name ++ 61 :: Text.asciiBytes value) =
      some (Text.asciiBytes name, Text.asciiBytes value) := by
  have hsemicolon : 59 ∉ Text.asciiBytes name ++ 61 :: Text.asciiBytes value := by
    intro hmem
    rcases List.mem_append.1 hmem with hmem | hmem
    · exact asciiBytes_ne hname ';' (by decide) _ hmem rfl
    · rcases List.mem_cons.1 hmem with heq | hmem
      · cases heq
      · exact asciiBytes_ne hvalue ';' (by decide) _ hmem rfl
  have hwhole : ¬((Text.asciiBytes name ++ 61 :: Text.asciiBytes value).isEmpty = true ∨
      (Text.asciiBytes name ++ 61 :: Text.asciiBytes value).contains 59 = true) := by
    rintro (hempty | hcontains)
    · exact List.append_ne_nil_of_right_ne_nil _ (List.cons_ne_nil _ _) (List.isEmpty_iff.1 hempty)
    · exact hsemicolon (List.contains_iff_mem.1 hcontains)
  have hfront : (Text.asciiBytes name ++ 61 :: Text.asciiBytes value).takeWhile (· != 61) =
      Text.asciiBytes name :=
    takeWhile_bne_append (asciiBytes_ne hname '=' (by decide))
  have hback : (Text.asciiBytes name ++ 61 :: Text.asciiBytes value).drop
      ((Text.asciiBytes name).length + 1) = Text.asciiBytes value := by
    rw [List.drop_append]
    simp
  rw [parameter?, if_neg hwhole, hfront]
  dsimp only
  rw [hback, percentDecode?_of_safe hname, percentDecode?_of_safe hvalue]
  rfl

theorem toList_target : (target path parameters).toList = path.toList ++ '?' ::
    ['&'].intercalate (parameters.map fun p => p.1.toList ++ '=' :: p.2.toList) := by
  have hparts : (parameters.map fun p => p.1 ++ "=" ++ p.2).map String.toList =
      parameters.map fun p => p.1.toList ++ '=' :: p.2.toList := by
    rw [List.map_map]
    refine List.map_congr_left fun p _ => ?_
    simp only [Function.comp_apply, String.toList_append, List.append_assoc]
    rfl
  rw [target, String.toList_append, String.toList_append, String.toList_intercalate, hparts,
    List.append_assoc]
  rfl

/-- The bytes of a target that is put together. -/
theorem toUTF8_target (hpath : ∀ c ∈ path.toList, Safe c)
    (hparameters : ∀ p ∈ parameters, (∀ c ∈ p.1.toList, Safe c) ∧ ∀ c ∈ p.2.toList, Safe c) :
    (target path parameters).toUTF8.toList = Text.asciiBytes path.toList ++ 63 ::
      [38].intercalate (parameters.map fun p => Text.asciiBytes p.1.toList ++ 61 ::
        Text.asciiBytes p.2.toList) := by
  have hparts : ∀ part ∈ parameters.map fun p => p.1.toList ++ '=' :: p.2.toList,
      ∀ c ∈ part, c.toNat < 128 := by
    intro part hpart
    obtain ⟨p, hp, rfl⟩ := List.mem_map.1 hpart
    exact List.forall_mem_append.2 ⟨fun c hc => ((hparameters p hp).1 c hc).1,
      List.forall_mem_cons.2 ⟨by decide, fun c hc => ((hparameters p hp).2 c hc).1⟩⟩
  have hascii : ∀ c ∈ (target path parameters).toList, c.toNat < 128 := by
    rw [toList_target]
    exact List.forall_mem_append.2 ⟨fun c hc => (hpath c hc).1,
      List.forall_mem_cons.2 ⟨by decide,
        forall_mem_intercalate (List.forall_mem_singleton.2 (by decide)) hparts⟩⟩
  rw [Text.toUTF8_toList_of_ascii hascii, toList_target, Text.asciiBytes, List.map_append,
    List.map_cons, map_intercalate, List.map_map]
  refine congrArg (Text.asciiBytes path.toList ++ 63 :: [38].intercalate ·)
    (List.map_congr_left fun p _ => ?_)
  rw [Function.comp_apply, List.map_append, List.map_cons]
  rfl

/-- The parts of a query give the parameters back. -/
theorem filterMap_parameter?
    (hparameters : ∀ p ∈ parameters, (∀ c ∈ p.1.toList, Safe c) ∧ ∀ c ∈ p.2.toList, Safe c) :
    (splitAt 38 ([38].intercalate (parameters.map fun p =>
      Text.asciiBytes p.1.toList ++ 61 :: Text.asciiBytes p.2.toList))).filterMap parameter? =
        parameters.map fun p => (p.1.toUTF8.toList, p.2.toUTF8.toList) := by
  by_cases hne : parameters = []
  · subst hne
    rfl
  · have hparts : ∀ part ∈ parameters.map fun p =>
        Text.asciiBytes p.1.toList ++ 61 :: Text.asciiBytes p.2.toList, ∀ b ∈ part, b ≠ 38 := by
      intro part hpart
      obtain ⟨p, hp, rfl⟩ := List.mem_map.1 hpart
      obtain ⟨hname, hvalue⟩ := hparameters p hp
      exact List.forall_mem_append.2 ⟨asciiBytes_ne hname '&' (by decide),
        List.forall_mem_cons.2 ⟨by decide, asciiBytes_ne hvalue '&' (by decide)⟩⟩
    rw [splitAt_intercalate (mt List.map_eq_nil_iff.1 hne) hparts, List.filterMap_map]
    refine (List.filterMap_congr fun p hp => ?_).trans (congrFun List.filterMap_eq_map' parameters)
    obtain ⟨hname, hvalue⟩ := hparameters p hp
    rw [Function.comp_apply, parameter?_of_safe hname hvalue, toUTF8_of_safe hname,
      toUTF8_of_safe hvalue]

/-- What a target that is put together leads to. -/
theorem ofTarget_target (hpath : ∀ c ∈ path.toList, Safe c)
    (hparameters : ∀ p ∈ parameters, (∀ c ∈ p.1.toList, Safe c) ∧ ∀ c ∈ p.2.toList, Safe c) :
    (ofTarget (target path parameters)).path = path.toUTF8.toList ∧
      (ofTarget (target path parameters)).parameters =
        parameters.map fun p => (p.1.toUTF8.toList, p.2.toUTF8.toList) := by
  have hfront (rest : List UInt8) :
      (Text.asciiBytes path.toList ++ 63 :: rest).takeWhile (· != 63) =
        Text.asciiBytes path.toList :=
    takeWhile_bne_append (asciiBytes_ne hpath '?' (by decide))
  rw [ofTarget, toUTF8_target hpath hparameters, hfront]
  dsimp only
  rw [List.drop_left, percentDecode?_of_safe hpath, toUTF8_of_safe hpath]
  exact ⟨rfl, filterMap_parameter? hparameters⟩

/-- The path of a target that is put together. -/
theorem text_target (hpath : ∀ c ∈ path.toList, Safe c)
    (hparameters : ∀ p ∈ parameters, (∀ c ∈ p.1.toList, Safe c) ∧ ∀ c ∈ p.2.toList, Safe c) :
    (ofTarget (target path parameters)).text = path := by
  rw [text, (ofTarget_target hpath hparameters).1, toUTF8_of_safe hpath,
    Text.lossy_asciiBytes fun c hc => (hpath c hc).1, String.ofList_toList]

/-- The first parameter with a given name. -/
theorem get_target (hpath : ∀ c ∈ path.toList, Safe c)
    (hparameters : ∀ p ∈ parameters, (∀ c ∈ p.1.toList, Safe c) ∧ ∀ c ∈ p.2.toList, Safe c)
    (name : String) :
    (ofTarget (target path parameters)).get name = (parameters.lookup name).getD "" := by
  have hlookup :
      (parameters.map fun p => (p.1.toUTF8.toList, p.2.toUTF8.toList)).lookup name.toUTF8.toList =
      (parameters.lookup name).map fun value => value.toUTF8.toList := by
    clear hparameters
    induction parameters with
    | nil => rfl
    | cons p parameters ih =>
      have hkey : (name.toUTF8.toList == p.1.toUTF8.toList) = (name == p.1) := by
        rw [Bool.eq_iff_iff, beq_iff_eq, beq_iff_eq, Bytes.toUTF8_toList_inj]
      rw [List.map_cons, List.lookup_cons, List.lookup_cons, hkey, ih]
      cases name == p.1 <;> rfl
  rw [get, bytes, (ofTarget_target hpath hparameters).2, hlookup]
  cases hvalue : parameters.lookup name with
  | none => rfl
  | some value =>
    obtain ⟨before, after, heq, -⟩ := List.lookup_eq_some_iff.1 hvalue
    have hsafe :=
      (hparameters (name, value) (heq ▸ List.mem_append_right before List.mem_cons_self)).2
    rw [Option.map_some, Option.getD_some, Option.getD_some, toUTF8_of_safe hsafe,
      Text.lossy_asciiBytes fun c hc => (hsafe c hc).1, String.ofList_toList]

end Url

end Http

end Lanewise
