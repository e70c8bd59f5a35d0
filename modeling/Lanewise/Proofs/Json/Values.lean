import Lanewise.Proofs.Json.Locality
import Mathlib.Data.List.DropRight

/-!
# What the reader of values takes

A value is read from the front of a text, and so are the items of an array and the members of an
object. Each of them takes a front that is read the same with any fuel that is enough for it, at any
depth that allows for more, and whatever follows. So the items of an array can be cut out of its
text and read one by one.

## Main definitions

* `Json.Takes`, `Json.TakesRest`: what a reader of values or of elements takes.
* `Json.Delimited`: values that hold elements between two marks, as arrays and objects do.
* `Json.Settled`: the readers of values, items and members take fronts.
* `Json.ArrayText`: the texts of the items in the text of an array.

## Main results

* `Json.Delimited.takes_rest`, `Json.Delimited.takes_value`: what is taken by elements and by what
  holds them.
* `Json.settled`: what the readers take, with any fuel.
* `Json.exists_arrayText`: the text of an array holds a text for each item.
* `Json.eq_array_of_parse?`: only arrays begin with a bracket.
-/

namespace Lanewise.Json

/-! ### Values -/

theorem skipBlanks_eq_cons {cs rest : List Char} {c : Char} (h : skipBlanks cs = c :: rest) :
    ∃ blanks, cs = blanks ++ c :: rest ∧
      ∀ other, skipBlanks (blanks ++ c :: other) = c :: other := by
  have hblanks : ∀ b ∈ cs.takeWhile isBlank, isBlank b = true :=
    fun b hb => List.mem_takeWhile_imp hb
  have hc : isBlank c = false := by
    have hfirst := List.head?_dropWhile_not isBlank cs
    rw [skipBlanks] at h
    rwa [h] at hfirst
  refine ⟨cs.takeWhile isBlank, ?_, fun other => ?_⟩
  · rw [← h, skipBlanks, List.takeWhile_append_dropWhile]
  · rw [skipBlanks, List.dropWhile_append_of_pos hblanks, List.dropWhile_cons_of_neg (by simp [hc])]

theorem afterWord?_eq_some_iff {word cs rest : List Char} :
    afterWord? word cs = some rest ↔ cs = word ++ rest := by
  induction word generalizing cs with
  | nil => simp [afterWord?]
  | cons w word ih =>
    cases cs with
    | nil => simp [afterWord?]
    | cons c cs =>
      rw [afterWord?, List.cons_append, List.cons.injEq, ← ih]
      split
      · next heq => simp [heq]
      · next hne => simp [Ne.symm hne]

/-- The words that stand for values: their first letter, the others, and the value. -/
def words : List (Char × String × Json) :=
  [('n', "ull", null), ('t', "rue", bool true), ('f', "alse", bool false)]

section

variable {fuel depth : Nat} {cs rest : List Char} {v : Json}

theorem value?_string (h : skipBlanks cs = '"' :: rest) :
    value? (fuel + 1) depth cs = (stringRest? fuel "" rest).map fun (s, rest) =>
      (string s, rest) := by
  rw [value?, h]
  rfl

theorem value?_word {c : Char} {word : String} (h : skipBlanks cs = c :: rest)
    (hword : (c, word, v) ∈ words) :
    value? (fuel + 1) depth cs = (afterWord? word.toList rest).map fun rest => (v, rest) := by
  simp only [words, List.mem_cons, Prod.mk.injEq, List.not_mem_nil, or_false] at hword
  rcases hword with ⟨rfl, rfl, rfl⟩ | ⟨rfl, rfl, rfl⟩ | ⟨rfl, rfl, rfl⟩
  all_goals
    rw [value?, h]
    rfl

theorem value?_number {c : Char} (h : skipBlanks cs = c :: rest)
    (hc : c ∉ ['"', 'n', 't', 'f', '[', leftBrace]) :
    value? (fuel + 1) depth cs = number? (c :: rest) := by
  simp only [List.mem_cons, List.not_mem_nil, or_false, not_or] at hc
  obtain ⟨hquote, hn, ht, hf, hbracket, hbrace⟩ := hc
  rw [value?, h]
  split
  · next heq => exact absurd (List.cons.inj heq).1 hquote
  · next heq => exact absurd (List.cons.inj heq).1 hn
  · next heq => exact absurd (List.cons.inj heq).1 ht
  · next heq => exact absurd (List.cons.inj heq).1 hf
  · next heq => exact absurd (List.cons.inj heq).1 hbracket
  · next heq =>
    obtain ⟨rfl, rfl⟩ := List.cons.inj heq
    exact if_neg hbrace
  · next heq => cases heq

theorem value?_end (h : skipBlanks cs = []) : value? fuel depth cs = none := by
  cases fuel with
  | zero => rw [value?]
  | succ fuel => rw [value?, h]

end

/-- A reader of values takes a front that is not empty, and reads the same from it with any fuel
that is enough for it, at any depth that allows for more, and whatever follows. -/
def Takes (read : (fuel depth : Nat) → List Char → Option (Json × List Char))
    (follows : List Char → Prop) (depth : Nat) (cs : List Char) (v : Json)
    (rest : List Char) : Prop :=
  ∃ taken, taken ≠ [] ∧ cs = taken ++ rest ∧ ∀ fuel deeper other, 2 * taken.length ≤ fuel →
    depth ≤ deeper → follows other → read fuel deeper (taken ++ other) = some (v, other)

section

variable {fuel depth : Nat} {cs rest : List Char} {v : Json}

/-- A value is read from its first character on, behind blanks. -/
theorem takes_of_front {blanks taken : List Char} {c : Char} {follows : List Char → Prop}
    (hblanks : ∀ other, skipBlanks (blanks ++ c :: other) = c :: other)
    (hread : ∀ {fuel deeper : Nat} {cs other : List Char}, 2 * taken.length < fuel →
      depth ≤ deeper →
      follows other → skipBlanks cs = c :: (taken ++ other) →
      value? (fuel + 1) deeper cs = some (v, other)) :
    Takes value? follows depth (blanks ++ c :: (taken ++ rest)) v rest := by
  refine ⟨blanks ++ c :: taken, by simp, by simp, fun fuel deeper other hfuel hdeeper hother => ?_⟩
  simp only [List.length_append, List.length_cons] at hfuel
  obtain ⟨fuel, rfl⟩ := Nat.exists_eq_succ_of_ne_zero (show fuel ≠ 0 by omega)
  refine hread (by omega) hdeeper hother ?_
  rw [List.append_assoc, List.cons_append, hblanks]

variable {r : List Char} {c : Char}

theorem takes_string (hskip : skipBlanks cs = '"' :: r)
    (hread : value? (fuel + 1) depth cs = some (v, rest)) :
      Takes value? (Follows rest) depth cs v rest := by
  obtain ⟨blanks, rfl, hblanks⟩ := skipBlanks_eq_cons hskip
  rw [value?_string hskip] at hread
  obtain ⟨⟨s, after⟩, hstring, heq⟩ := Option.map_eq_some_iff.1 hread
  cases heq
  obtain ⟨front, rfl, hfront⟩ := stringRest?_taken hstring
  have hend (other : List Char) : front ++ '"' :: other = (front ++ ['"']) ++ other := by simp
  rw [hend]
  refine takes_of_front hblanks fun hfuel _ _ hcs => ?_
  rw [List.length_append] at hfuel
  rw [value?_string hcs, ← hend, hfront _ _ (by omega)]
  rfl

theorem takes_word {word : String} {w : Json} (hskip : skipBlanks cs = c :: r)
    (hword : (c, word, w) ∈ words) (hread : value? (fuel + 1) depth cs = some (v, rest)) :
      Takes value? (Follows rest) depth cs v rest := by
  obtain ⟨blanks, rfl, hblanks⟩ := skipBlanks_eq_cons hskip
  rw [value?_word hskip hword] at hread
  obtain ⟨after, hafter, heq⟩ := Option.map_eq_some_iff.1 hread
  cases heq
  obtain rfl := afterWord?_eq_some_iff.1 hafter
  refine takes_of_front hblanks fun _ _ _ hcs => ?_
  rw [value?_word hcs hword, afterWord?_eq_some_iff.2 rfl]
  rfl

theorem takes_number (hskip : skipBlanks cs = c :: r)
    (hc : c ∉ ['"', 'n', 't', 'f', '[', leftBrace]) (hread : value? (fuel + 1) depth cs =
      some (v, rest)) : Takes value? (Follows rest) depth cs v rest := by
  obtain ⟨blanks, rfl, hblanks⟩ := skipBlanks_eq_cons hskip
  rw [value?_number hskip hc] at hread
  obtain ⟨taken, hne, htaken, hnumber⟩ := number?_taken hread
  obtain ⟨d, taken, rfl⟩ := List.exists_cons_of_ne_nil hne
  obtain ⟨rfl, rfl⟩ := List.cons.inj htaken
  refine takes_of_front hblanks fun _ _ hother hcs => ?_
  rw [value?_number hcs hc]
  exact hnumber _ hother

end

/-! ### Arrays and objects -/

/-- What a reader of elements takes with some fuel, after elements that have been read. -/
def TakesRest {α : Type}
    (read : (fuel depth : Nat) → List α → List Char → Option (Json × List Char))
    (fuel : Nat) : Prop :=
  ∀ {depth : Nat} {done : List α} {cs rest : List Char} {v : Json}, read fuel depth done cs =
    some (v, rest) → Takes (fun fuel depth => read fuel depth done) (fun _ => True) depth cs v rest

/-- Values that hold elements between two marks, with commas between them: how the elements are read
after those that have been read, how one is read, and what they make up. -/
structure Delimited {α : Type} (opening closing : Char)
    (read : (fuel depth : Nat) → List α → List Char → Option (Json × List Char))
    (element : (fuel depth : Nat) → List Char → α → List Char → Prop)
    (build : List α → Json) : Prop where
  /-- Behind the opening mark is the closing one, or an element. -/
  value {fuel depth : Nat} {cs r : List Char} (hopen : skipBlanks cs = opening :: r) :
    value? (fuel + 1) depth cs =
      if depth = 0 then none
      else match skipBlanks r with
        | [] => none
        | d :: after =>
          if d = closing then some (build [], after) else read fuel (depth - 1) [] (d :: after)
  more {fuel depth : Nat} {done : List α} {x : α} {cs after r : List Char}
    (helement : element fuel depth cs x after) (hafter : skipBlanks after = ',' :: r) :
    read (fuel + 1) depth done cs = read fuel depth (x :: done) r
  last {fuel depth : Nat} {done : List α} {x : α} {cs after r : List Char}
    (helement : element fuel depth cs x after) (hafter : skipBlanks after = closing :: r) :
    read (fuel + 1) depth done cs = some (build (x :: done).reverse, r)
  /-- Nothing but a comma and the closing mark may follow an element. -/
  cases {fuel depth : Nat} {done : List α} {cs rest : List Char} {v : Json}
    (hread : read (fuel + 1) depth done cs = some (v, rest)) :
    ∃ x after, element fuel depth cs x after ∧
      ((∃ r, skipBlanks after = ',' :: r ∧ read fuel depth (x :: done) r = some (v, rest)) ∨
        skipBlanks after = closing :: rest ∧ v = build (x :: done).reverse)

namespace Delimited

variable {α : Type} {opening closing : Char}
  {read : (fuel depth : Nat) → List α → List Char → Option (Json × List Char)}
  {element : (fuel depth : Nat) → List Char → α → List Char → Prop} {build : List α → Json}
  {fuel depth : Nat} {cs rest : List Char} {v : Json}

/-- The elements take a front if each of them does. -/
theorem takes_rest (h : Delimited opening closing read element build) (hrest : TakesRest read fuel)
    (helement : ∀ {depth : Nat} {cs after : List Char} {x : α}, element fuel depth cs x after →
      ∃ taken, cs = taken ++ after ∧ ∀ fuel deeper other, 2 * taken.length ≤ fuel → depth ≤ deeper →
        Follows after other → element fuel deeper (taken ++ other) x other) :
    TakesRest read (fuel + 1) := by
  intro depth done cs rest v hread
  obtain ⟨x, after, hx, hafter⟩ := h.cases hread
  obtain ⟨taken, rfl, htaken⟩ := helement hx
  -- An element is followed by a comma and other elements, or by the closing mark.
  obtain ⟨c, gap, back, rfl, hgap, hback⟩ : ∃ c gap back, after = gap ++ c :: (back ++ rest) ∧
      (∀ other, skipBlanks (gap ++ c :: other) = c :: other) ∧
      ∀ fuel deeper other, 2 * back.length ≤ fuel → depth ≤ deeper → ∀ cs,
        element fuel deeper cs x (gap ++ c :: (back ++ other)) →
          read (fuel + 1) deeper done cs = some (v, other) := by
    rcases hafter with ⟨r, hcomma, hmore⟩ | ⟨hclose, rfl⟩
    · obtain ⟨gap, rfl, hgap⟩ := skipBlanks_eq_cons hcomma
      obtain ⟨back, -, rfl, hback⟩ := hrest hmore
      refine ⟨',', gap, back, rfl, hgap, fun fuel deeper other hfuel hdeeper cs hcs => ?_⟩
      rw [h.more hcs (hgap _)]
      exact hback _ _ _ hfuel hdeeper trivial
    · obtain ⟨gap, rfl, hgap⟩ := skipBlanks_eq_cons hclose
      exact ⟨closing, gap, [], rfl, hgap, fun _ _ _ _ _ cs hcs => h.last hcs (hgap _)⟩
  refine ⟨taken ++ (gap ++ c :: back), by simp, by simp,
    fun fuel deeper other hfuel hdeeper _ => ?_⟩
  simp only [List.length_append, List.length_cons] at hfuel
  obtain ⟨fuel, rfl⟩ := Nat.exists_eq_succ_of_ne_zero (show fuel ≠ 0 by omega)
  simp only [List.append_assoc, List.cons_append]
  exact hback _ _ _ (by omega) hdeeper _
    (htaken _ _ _ (by omega) hdeeper ((Follows.cons c _ _).append gap))

/-- Behind the opening mark is the closing one, or the elements. -/
theorem takes_value (h : Delimited opening closing read element build) (hrest : TakesRest read fuel)
    {r : List Char} (hopen : skipBlanks cs = opening :: r)
    (hread : value? (fuel + 1) depth cs = some (v, rest)) :
      Takes value? (Follows rest) depth cs v rest := by
  obtain ⟨blanks, rfl, hblanks⟩ := skipBlanks_eq_cons hopen
  rw [h.value hopen] at hread
  by_cases hdepth : depth = 0
  · rw [if_pos hdepth] at hread
    cases hread
  rw [if_neg hdepth] at hread
  split at hread
  · cases hread
  next d after hfirst =>
  obtain ⟨gap, rfl, hgap⟩ := skipBlanks_eq_cons hfirst
  by_cases hclose : d = closing
  · rw [if_pos hclose] at hread
    cases hread
    have hend (other : List Char) : gap ++ d :: other = (gap ++ [d]) ++ other := by simp
    rw [hend]
    refine takes_of_front hblanks fun _ hdeeper _ hcs => ?_
    rw [h.value hcs, if_neg (by omega), ← hend, hgap]
    exact if_pos hclose
  · rw [if_neg hclose] at hread
    obtain ⟨taken, hne, htaken, hfront⟩ := hrest hread
    obtain ⟨e, taken, rfl⟩ := List.exists_cons_of_ne_nil hne
    rw [List.cons_append] at htaken
    obtain ⟨rfl, rfl⟩ := List.cons.inj htaken
    have hend (other : List Char) :
        gap ++ d :: (taken ++ other) = (gap ++ d :: taken) ++ other := by simp
    rw [hend]
    refine takes_of_front hblanks fun hfuel hdeeper _ hcs => ?_
    simp only [List.length_append, List.length_cons] at hfuel
    rw [h.value hcs, if_neg (by omega), ← hend, hgap]
    refine (if_neg hclose).trans (hfront _ _ _ ?_ ?_ trivial)
    · rw [List.length_cons]
      omega
    · omega

end Delimited

/-- The items of an array. -/
theorem arrays : Delimited '[' ']' arrayRest?
    (fun fuel depth cs x after => value? fuel depth cs = some (x, after)) array where
  value {fuel depth cs r} hopen := by
    rw [value?, hopen]
    by_cases hdepth : depth = 0
    · rw [if_pos hdepth]
      exact if_pos hdepth
    · rw [if_neg hdepth]
      refine (if_neg hdepth).trans ?_
      cases hfirst : skipBlanks r with
      | nil =>
        change arrayRest? fuel (depth - 1) [] [] = none
        cases fuel with
        | zero => rw [arrayRest?]
        | succ fuel => rw [arrayRest?, value?_end rfl]
      | cons d after =>
        by_cases hclose : d = ']'
        · rw [hclose]
          rfl
        · refine Eq.trans ?_ (if_neg hclose).symm
          split
          · next heq => exact absurd (List.cons.inj heq).1 hclose
          · rfl
  more hvalue hafter := by simp only [arrayRest?, hvalue, hafter]
  last hvalue hafter := by simp only [arrayRest?, hvalue, hafter]
  cases hread := by
    rw [arrayRest?] at hread
    split at hread
    · cases hread
    next x after hvalue =>
    refine ⟨x, after, hvalue, ?_⟩
    split at hread
    · next r hcomma => exact .inl ⟨r, hcomma, hread⟩
    · next r hclose =>
      cases hread
      exact .inr ⟨hclose, rfl⟩
    · cases hread

/-- A member is read from the front of a text: its name, a colon, and its value. -/
def Member (fuel depth : Nat) (cs : List Char) (m : String × Json) (after : List Char) : Prop :=
  ∃ name gap value, skipBlanks cs = '"' :: name ∧ stringRest? fuel "" name = some (m.1, gap) ∧
    skipBlanks gap = ':' :: value ∧ value? fuel depth value = some (m.2, after)

/-- The members of an object. -/
theorem objects : Delimited leftBrace rightBrace objectRest? Member object where
  value {fuel depth cs r} hopen := by
    rw [value?, hopen]
    refine (if_pos rfl).trans ?_
    cases skipBlanks r <;> rfl
  more := by
    rintro fuel depth done ⟨k, x⟩ cs after r ⟨name, gap, value, hopen, hname, hcolon, hvalue⟩ hafter
    simp only [objectRest?, hopen, hname, hcolon, hvalue, hafter]
  last := by
    rintro fuel depth done ⟨k, x⟩ cs after r ⟨name, gap, value, hopen, hname, hcolon, hvalue⟩ hafter
    simp only [objectRest?, hopen, hname, hcolon, hvalue, hafter]
    rfl
  cases hread := by
    rw [objectRest?] at hread
    split at hread
    · next name hopen =>
      split at hread
      · cases hread
      · next k gap hname =>
        split at hread
        · next value hcolon =>
          split at hread
          · cases hread
          · next x after hvalue =>
            refine ⟨(k, x), after, ⟨name, gap, value, hopen, hname, hcolon, hvalue⟩, ?_⟩
            split at hread
            · next r hcomma => exact .inl ⟨r, hcomma, hread⟩
            · next c r _ hclose =>
              by_cases hc : c = rightBrace
              · rw [if_pos hc] at hread
                cases hread
                exact .inr ⟨hc ▸ hclose, rfl⟩
              · rw [if_neg hc] at hread
                cases hread
            · cases hread
        · cases hread
    · cases hread

/-! ### All readers -/

/-- What the readers of values, items and members take with some fuel. -/
structure Settled (fuel : Nat) : Prop where
  value {depth : Nat} {cs rest : List Char} {v : Json} (h : value? fuel depth cs = some (v, rest)) :
    Takes value? (Follows rest) depth cs v rest
  items : TakesRest arrayRest? fuel
  members : TakesRest objectRest? fuel

namespace Settled

variable {fuel depth : Nat} {cs rest : List Char} {v : Json}

theorem value_succ (h : Settled fuel) (hread : value? (fuel + 1) depth cs = some (v, rest)) :
    Takes value? (Follows rest) depth cs v rest := by
  cases hskip : skipBlanks cs with
  | nil =>
    rw [value?_end hskip] at hread
    cases hread
  | cons c r =>
    by_cases hc : c ∉ ['"', 'n', 't', 'f', '[', leftBrace]
    · exact takes_number hskip hc hread
    · simp only [List.mem_cons, List.not_mem_nil, or_false, not_not] at hc
      rcases hc with rfl | rfl | rfl | rfl | rfl | rfl
      · exact takes_string hskip hread
      · exact takes_word hskip (List.mem_cons_self ..) hread
      · exact takes_word hskip (List.mem_cons_of_mem _ (List.mem_cons_self ..)) hread
      · exact takes_word hskip
          (List.mem_cons_of_mem _ (List.mem_cons_of_mem _ (List.mem_cons_self ..))) hread
      · exact arrays.takes_value h.items hskip hread
      · exact objects.takes_value h.members hskip hread

theorem items_succ (h : Settled fuel) : TakesRest arrayRest? (fuel + 1) :=
  arrays.takes_rest h.items fun hvalue =>
    let ⟨taken, _, hcs, htaken⟩ := h.value hvalue
    ⟨taken, hcs, htaken⟩

theorem member (h : Settled fuel) {m : String × Json} {after : List Char}
    (hmember : Member fuel depth cs m after) :
    ∃ taken, cs = taken ++ after ∧ ∀ fuel deeper other, 2 * taken.length ≤ fuel → depth ≤ deeper →
      Follows after other → Member fuel deeper (taken ++ other) m other := by
  obtain ⟨name, gap, value, hopen, hname, hcolon, hvalue⟩ := hmember
  obtain ⟨blanks, rfl, hblanks⟩ := skipBlanks_eq_cons hopen
  obtain ⟨front, rfl, hfront⟩ := stringRest?_taken hname
  obtain ⟨space, rfl, hspace⟩ := skipBlanks_eq_cons hcolon
  obtain ⟨taken, -, rfl, htaken⟩ := h.value hvalue
  refine ⟨blanks ++ '"' :: (front ++ '"' :: (space ++ ':' :: taken)), by simp,
    fun fuel deeper other hfuel hdeeper hother => ?_⟩
  simp only [List.length_append, List.length_cons] at hfuel
  simp only [List.append_assoc, List.cons_append]
  exact ⟨_, _, _, hblanks _, hfront _ _ (by omega), hspace _,
    htaken _ _ _ (by omega) hdeeper hother⟩

theorem members_succ (h : Settled fuel) : TakesRest objectRest? (fuel + 1) :=
  objects.takes_rest h.members h.member

end Settled

/-- What the readers take, with any fuel. By induction on the fuel. -/
theorem settled (fuel : Nat) : Settled fuel := by
  induction fuel with
  | zero =>
    refine ⟨fun h => ?_, fun h => ?_, fun h => ?_⟩
    · cases h
    · cases h
    · cases h
  | succ fuel ih => exact ⟨ih.value_succ, ih.items_succ, ih.members_succ⟩

/-! ### The texts of items -/

/-- A text with blanks around it. -/
def Spaced (cs : List Char) (t : String) : Prop :=
  ∃ before after, (∀ c ∈ before ++ after, isBlank c = true) ∧ cs = before ++ t.toList ++ after

theorem append_skipBlanks (cs : List Char) :
    ∃ blanks, (∀ c ∈ blanks, isBlank c = true) ∧ cs = blanks ++ skipBlanks cs :=
  ⟨cs.takeWhile isBlank, fun _ hc => List.mem_takeWhile_imp hc,
    List.takeWhile_append_dropWhile.symm⟩

section

variable {fuel depth : Nat} {cs rest : List Char} {v : Json}

/-- What a value is read from is read as the value on its own. -/
theorem exists_parse? (h : value? fuel depth cs = some (v, rest)) (hdepth : depth ≤ maxDepth) :
    ∃ t : String, cs = t.toList ++ rest ∧ parse? t = some v := by
  obtain ⟨taken, -, rfl, htaken⟩ := (settled fuel).value h
  refine ⟨String.ofList taken, by rw [String.toList_ofList], ?_⟩
  have hread := htaken (2 * taken.length + 2) maxDepth [] (by omega) hdepth (.inl rfl)
  rw [List.append_nil] at hread
  rw [parse?, String.toList_ofList, hread]
  rfl

/-- The items of an array stand between commas. By induction on the fuel. -/
theorem exists_items {done : List Json} (h : arrayRest? fuel depth done cs = some (v, rest))
    (hdepth : depth ≤ maxDepth) :
    ∃ part parts items xs, cs = [','].intercalate (part :: parts) ++ ']' :: rest ∧
      v = array (done.reverse ++ xs) ∧ List.Forall₂ Spaced (part :: parts) items ∧
      List.Forall₂ (fun t x => parse? t = some x) items xs := by
  induction fuel generalizing done cs with
  | zero => cases h
  | succ fuel ih =>
    obtain ⟨x, after, hvalue, hafter⟩ := arrays.cases h
    obtain ⟨t, rfl, hread⟩ := exists_parse? hvalue hdepth
    obtain ⟨gap, hgap, hskip⟩ := append_skipBlanks after
    have hpart : Spaced (t.toList ++ gap) t := ⟨[], gap, hgap, rfl⟩
    rcases hafter with ⟨r, hcomma, hothers⟩ | ⟨hclose, rfl⟩
    · obtain ⟨part, parts, items, xs, rfl, rfl, hspaced, hreads⟩ := ih hothers
      refine ⟨t.toList ++ gap, part :: parts, t :: items, x :: xs, ?_, by simp, .cons hpart hspaced,
        .cons hread hreads⟩
      rw [hskip, hcomma, List.intercalate_cons_cons]
      simp
    · refine ⟨t.toList ++ gap, [], [t], [x], ?_, by simp, .cons hpart .nil, .cons hread .nil⟩
      rw [hskip, hclose]
      simp

end

theorem value?_skipBlanks (fuel depth : Nat) (cs : List Char) :
    value? fuel depth (skipBlanks cs) = value? fuel depth cs := by
  have hskip : skipBlanks (skipBlanks cs) = skipBlanks cs := List.dropWhile_idempotent _ _
  cases fuel with
  | zero => rw [value?, value?]
  | succ fuel => rw [value?, value?, hskip]

/-- A text is read if a value can be read from its front, with any fuel, and nothing but blanks
follow. -/
theorem parse?_eq_some_iff {s : String} {v : Json} :
    parse? s = some v ↔ ∃ fuel rest, value? fuel maxDepth s.toList = some (v, rest) ∧
      skipBlanks rest = [] := by
  refine ⟨fun h => ?_, fun ⟨fuel, rest, hread, hend⟩ => ?_⟩
  · unfold parse? at h
    dsimp only at h
    split at h
    · next v' rest hread =>
      split at h
      · next hend =>
        cases h
        exact ⟨_, rest, hread, List.isEmpty_iff.1 hend⟩
      · cases h
    · cases h
  · -- The fuel of the whole text is enough for its front.
    obtain ⟨taken, -, htaken, hagain⟩ := (settled fuel).value hread
    have hfuel : 2 * taken.length ≤ 2 * s.toList.length + 2 := by
      rw [htaken, List.length_append]
      omega
    have hread' := hagain _ maxDepth rest hfuel (Nat.le_refl _) (.inr rfl)
    rw [← htaken] at hread'
    unfold parse?
    dsimp only
    rw [hread']
    exact if_pos (List.isEmpty_iff.2 hend)

/-- Blanks in front of a text do not matter. -/
theorem parse?_blanks_append {w : String} (hw : ∀ c ∈ w.toList, isBlank c = true) (s : String) :
    parse? (w ++ s) = parse? s := by
  have hskip : skipBlanks (w ++ s).toList = skipBlanks s.toList := by
    rw [String.toList_append, skipBlanks, List.dropWhile_append_of_pos hw]
    rfl
  have hvalue (fuel : Nat) :
      value? fuel maxDepth (w ++ s).toList = value? fuel maxDepth s.toList := by
    rw [← value?_skipBlanks, hskip, value?_skipBlanks]
  ext v
  simp only [parse?_eq_some_iff, hvalue]

theorem arrayRest?_skipBlanks (fuel depth : Nat) (done : List Json) (cs : List Char) :
    arrayRest? fuel depth done (skipBlanks cs) = arrayRest? fuel depth done cs := by
  cases fuel with
  | zero => rw [arrayRest?, arrayRest?]
  | succ fuel => rw [arrayRest?, arrayRest?, value?_skipBlanks]

/-- What is behind the bracket of an array. -/
theorem parse?_bracket {s : String} {r : List Char} {v : Json} (hs : s.toList = '[' :: r)
    (h : parse? s = some v) : ∃ after, skipBlanks after = [] ∧
      (v = array [] ∨ ∃ fuel, arrayRest? fuel (maxDepth - 1) [] r = some (v, after)) := by
  have hskip : skipBlanks ('[' :: r) = '[' :: r := rfl
  unfold parse? at h
  rw [hs] at h
  dsimp only at h
  rw [arrays.value hskip, if_neg (by decide)] at h
  split at h
  · next after hread =>
    split at h
    · next hend =>
      cases h
      refine ⟨after, List.isEmpty_iff.1 hend, ?_⟩
      split at hread
      · cases hread
      · next d front hfirst =>
        by_cases hclose : d = ']'
        · rw [if_pos hclose] at hread
          cases hread
          exact .inl rfl
        · rw [if_neg hclose, ← hfirst, arrayRest?_skipBlanks] at hread
          exact .inr ⟨_, hread⟩
    · cases h
  · cases h

/-- A text that begins with a bracket is read as an array. -/
theorem eq_array_of_parse? {s : String} {v : Json} (hs : s.startsWith "[" = true)
    (h : parse? s = some v) :
    ∃ xs, v = array xs := by
  obtain ⟨r, hr⟩ := String.startsWith_string_iff.1 hs
  obtain ⟨after, -, rfl | ⟨fuel, hread⟩⟩ := parse?_bracket hr.symm h
  · exact ⟨[], rfl⟩
  · obtain ⟨-, -, -, xs, -, rfl, -⟩ := exists_items hread (Nat.sub_le _ _)
    exact ⟨xs, rfl⟩

end Lanewise.Json
