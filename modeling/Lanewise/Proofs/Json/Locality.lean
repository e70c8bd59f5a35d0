import Lanewise.Json.Parser
import Mathlib.Data.List.Infix
import Mathlib.Data.List.TakeDrop
import Mathlib.Data.List.TakeWhile

/-!
# What a reader takes

A reader of JSON takes the front of a text. What it takes decides the answer: whatever follows
instead, the answer is the same, as long as it does not go on what has been taken. A number could be
gone on by a digit, so what may follow it is nothing, or a text that begins as the one before did. A
string ends with its mark, and anything may follow.

## Main definitions

* `Json.Follows`: the texts that may stand behind a taken front in place of another one.
* `Json.Local`: the readers whose answer depends on what they take alone.
* `Json.hexDigit?`: the value of a hexadecimal digit.

## Main results

* `Json.Local.bind`: one reader after another.
* `Json.number?_taken`: what the reader of numbers takes.
* `Json.stringRest?_taken`: what the reader of strings takes.
-/

namespace Lanewise.Json

/-! ### What may follow -/

/-- What may stand behind a taken front in place of `rest`: nothing, or a text that begins with the
same character. -/
def Follows (rest other : List Char) : Prop :=
  other = [] ∨ other.head? = rest.head?

theorem Follows.cons (c : Char) (rest other : List Char) : Follows (c :: rest) (c :: other) :=
  .inr rfl

theorem Follows.append {rest other : List Char} (h : Follows rest other) (cs : List Char) :
    Follows (cs ++ rest) (cs ++ other) := by
  cases cs with
  | nil => exact h
  | cons c cs => exact .cons c _ _

/-- A property of the first character is kept. -/
theorem Follows.front {rest other : List Char} {p : Char → Prop} (h : Follows rest other)
    (hrest : ∀ c ∈ rest.head?, p c) : ∀ c ∈ other.head?, p c := by
  rcases h with rfl | heq
  · exact fun c hc => by cases hc
  · rwa [heq]

/-- A reader whose answer depends on what it takes alone, whatever may follow. -/
def Local {α : Type} (read : List Char → Option (α × List Char)) : Prop :=
  ∀ cs a rest, read cs = some (a, rest) →
    ∃ taken, cs = taken ++ rest ∧ ∀ other, Follows rest other →
    read (taken ++ other) = some (a, other)

theorem Local.pure {α : Type} (a : α) : Local fun cs => some (a, cs) := by
  intro cs b rest h
  cases h
  exact ⟨[], rfl, fun _ _ => rfl⟩

/-- A reader after another one. -/
theorem Local.bind {α β : Type} {first : List Char → Option (α × List Char)}
    {second : α → List Char → Option (β × List Char)} (hfirst : Local first)
    (hsecond : ∀ a, Local (second a)) :
      Local fun cs => (first cs).bind fun r => second r.1 r.2 := by
  intro cs b rest h
  obtain ⟨⟨a, middle⟩, hread, hafter⟩ := Option.bind_eq_some_iff.1 h
  obtain ⟨front, rfl, hfront⟩ := hfirst cs a middle hread
  obtain ⟨back, rfl, hback⟩ := hsecond a middle b rest hafter
  refine ⟨front ++ back, by rw [List.append_assoc], fun other hother => ?_⟩
  rw [List.append_assoc]
  dsimp only
  rw [hfront _ (hother.append back), Option.bind_some]
  exact hback other hother

/-! ### Numbers -/

theorem spanDigits_append {ds rest : List Char} (hds : ∀ d ∈ ds, d.isDigit = true)
    (hrest : ∀ c ∈ rest.head?, c.isDigit = false) : spanDigits (ds ++ rest) = (ds, rest) := by
  rw [spanDigits, List.span_eq_takeWhile_dropWhile, List.takeWhile_append_of_pos hds,
    List.dropWhile_append_of_pos hds]
  cases rest with
  | nil => simp
  | cons c rest =>
    have hc := hrest c rfl
    simp [hc]

theorem spanDigits_eq {cs ds rest : List Char} (h : spanDigits cs = (ds, rest)) :
    cs = ds ++ rest ∧ (∀ d ∈ ds, d.isDigit = true) ∧ ∀ c ∈ rest.head?, c.isDigit = false := by
  rw [spanDigits, List.span_eq_takeWhile_dropWhile] at h
  obtain ⟨rfl, rfl⟩ := Prod.mk.inj h
  refine ⟨List.takeWhile_append_dropWhile.symm, fun d hd => List.mem_takeWhile_imp hd,
    fun c hc => ?_⟩
  have hfirst := List.head?_dropWhile_not Char.isDigit cs
  rwa [Option.mem_def.1 hc] at hfirst

/-- Digits and what follows them. -/
theorem spanDigits_eq_iff {cs ds rest : List Char} :
    spanDigits cs = (ds, rest) ↔
      cs = ds ++ rest ∧ (∀ d ∈ ds, d.isDigit = true) ∧ ∀ c ∈ rest.head?, c.isDigit = false :=
  ⟨spanDigits_eq, fun ⟨hcs, hds, hrest⟩ => hcs ▸ spanDigits_append hds hrest⟩

theorem wholePart?_zero (other : List Char) : wholePart? ('0' :: other) = some (['0'], other) := by
  obtain ⟨hother, hdigits, hrest⟩ := spanDigits_eq (Prod.eta (spanDigits other)).symm
  have hspan : spanDigits ('0' :: other) = ('0' :: (spanDigits other).1, (spanDigits other).2) :=
    spanDigits_eq_iff.2 ⟨congrArg ('0' :: ·) hother, List.forall_mem_cons.2 ⟨rfl, hdigits⟩, hrest⟩
  rw [wholePart?, hspan]
  exact congrArg (fun cs => some (['0'], cs)) hother.symm

theorem local_wholePart : Local wholePart? := by
  intro cs w rest h
  unfold wholePart? at h
  split at h
  · cases h
  · next more after hspan =>
    obtain ⟨rfl, -, -⟩ := spanDigits_eq hspan
    cases h
    exact ⟨['0'], rfl, fun other _ => wholePart?_zero other⟩
  · next hnone hzero =>
    have hspan := Option.some.inj h
    obtain ⟨rfl, hdigits, hrest⟩ := spanDigits_eq hspan
    refine ⟨w, rfl, fun other hother => ?_⟩
    have hother := spanDigits_append hdigits (hother.front hrest)
    unfold wholePart?
    split
    · next heq =>
      obtain ⟨rfl, -⟩ := Prod.mk.inj (heq.symm.trans hother)
      exact absurd hspan (hnone _)
    · next heq =>
      obtain ⟨rfl, -⟩ := Prod.mk.inj (heq.symm.trans hother)
      exact absurd hspan (hzero _ _)
    · rw [hother]

/-- A number has a digit. -/
theorem length_wholePart {cs w rest : List Char} (h : wholePart? cs = some (w, rest)) :
    rest.length < cs.length := by
  unfold wholePart? at h
  split at h
  · cases h
  · next hspan =>
    obtain ⟨rfl, -⟩ := spanDigits_eq hspan
    cases h
    simp
  · next hnone _ =>
    have hspan := Option.some.inj h
    obtain ⟨rfl, -⟩ := spanDigits_eq hspan
    have hne : w ≠ [] := fun hw => hnone rest (hw ▸ hspan)
    have hpos := List.length_pos_iff.2 hne
    rw [List.length_append]
    omega

theorem exponentDigits?_eq_some_iff {front cs e rest : List Char} :
    exponentDigits? front cs = some (e, rest) ↔
      ∃ ds, ds ≠ [] ∧ e = front ++ ds ∧ spanDigits cs = (ds, rest) := by
  unfold exponentDigits?
  split
  · next hspan => simp [hspan]
  · next ds after hds hspan =>
    simp only [hspan, Option.some.injEq, Prod.mk.injEq]
    constructor
    · rintro ⟨rfl, rfl⟩
      exact ⟨ds, fun hnil => hds hnil, rfl, rfl, rfl⟩
    · rintro ⟨ds, -, rfl, rfl, rfl⟩
      exact ⟨rfl, rfl⟩

theorem local_exponentDigits (front : List Char) : Local (exponentDigits? front) := by
  intro cs e rest h
  obtain ⟨ds, hne, rfl, hspan⟩ := exponentDigits?_eq_some_iff.1 h
  obtain ⟨rfl, hdigits, hrest⟩ := spanDigits_eq hspan
  exact ⟨ds, rfl, fun other hother =>
    exponentDigits?_eq_some_iff.2 ⟨ds, hne, rfl, spanDigits_append hdigits (hother.front hrest)⟩⟩

/-- A fraction is read like an exponent. -/
theorem fractionPart?_point (cs : List Char) :
    fractionPart? ('.' :: cs) = exponentDigits? ['.'] cs := by
  rw [fractionPart?, exponentDigits?]
  rfl

theorem fractionPart?_of_ne {cs : List Char} (h : ∀ c ∈ cs.head?, c ≠ '.') :
    fractionPart? cs = some ([], cs) := by
  unfold fractionPart?
  split
  · exact absurd rfl (h '.' rfl)
  · rfl

theorem local_fractionPart : Local fractionPart? := by
  intro cs f rest h
  by_cases hpoint : ∀ c ∈ cs.head?, c ≠ '.'
  · rw [fractionPart?_of_ne hpoint] at h
    cases h
    exact ⟨[], rfl, fun other hother => fractionPart?_of_ne (hother.front hpoint)⟩
  · push Not at hpoint
    obtain ⟨c, hc, rfl⟩ := hpoint
    obtain ⟨cs, rfl⟩ := List.head?_eq_some_iff.1 hc
    rw [fractionPart?_point] at h
    obtain ⟨taken, rfl, htaken⟩ := local_exponentDigits ['.'] cs f rest h
    refine ⟨'.' :: taken, rfl, fun other hother => ?_⟩
    rw [List.cons_append, fractionPart?_point, htaken other hother]

theorem exponentPart?_of_ne {cs : List Char} (h : ∀ c ∈ cs.head?, ¬(c = 'e' ∨ c = 'E')) :
    exponentPart? cs = some ([], cs) := by
  unfold exponentPart?
  split
  · next c cs => exact if_neg (h c rfl)
  · rfl

theorem exponentPart?_sign {c sign : Char} (hc : c = 'e' ∨ c = 'E')
    (hsign : sign = '+' ∨ sign = '-') (cs : List Char) :
      exponentPart? (c :: sign :: cs) = exponentDigits? [c, sign] cs := by
  rw [exponentPart?.eq_def]
  rcases hsign with rfl | rfl
  · exact if_pos hc
  · exact if_pos hc

theorem exponentPart?_unsigned {c : Char} {cs : List Char} (hc : c = 'e' ∨ c = 'E')
    (hcs : ∀ sign ∈ cs.head?, ¬(sign = '+' ∨ sign = '-')) :
    exponentPart? (c :: cs) = exponentDigits? [c] cs := by
  rw [exponentPart?.eq_def]
  dsimp only
  rw [if_pos hc]
  split
  · exact absurd (.inl rfl) (hcs '+' rfl)
  · exact absurd (.inr rfl) (hcs '-' rfl)
  · rfl

theorem local_exponentPart : Local exponentPart? := by
  intro cs e rest h
  by_cases hmark : ∀ c ∈ cs.head?, ¬(c = 'e' ∨ c = 'E')
  · rw [exponentPart?_of_ne hmark] at h
    cases h
    exact ⟨[], rfl, fun other hother => exponentPart?_of_ne (hother.front hmark)⟩
  push Not at hmark
  obtain ⟨c, hc, hmark⟩ := hmark
  obtain ⟨cs, rfl⟩ := List.head?_eq_some_iff.1 hc
  by_cases hsign : ∀ sign ∈ cs.head?, ¬(sign = '+' ∨ sign = '-')
  · rw [exponentPart?_unsigned hmark hsign] at h
    obtain ⟨taken, rfl, htaken⟩ := local_exponentDigits [c] cs e rest h
    refine ⟨c :: taken, rfl, fun other hother => ?_⟩
    rw [List.cons_append, exponentPart?_unsigned hmark ((hother.append taken).front hsign),
      htaken other hother]
  · push Not at hsign
    obtain ⟨sign, hfirst, hsign⟩ := hsign
    obtain ⟨cs, rfl⟩ := List.head?_eq_some_iff.1 hfirst
    rw [exponentPart?_sign hmark hsign] at h
    obtain ⟨taken, rfl, htaken⟩ := local_exponentDigits [c, sign] cs e rest h
    refine ⟨c :: sign :: taken, rfl, fun other hother => ?_⟩
    rw [List.cons_append, List.cons_append, exponentPart?_sign hmark hsign, htaken other hother]

theorem local_unsigned : Local unsigned? :=
  local_wholePart.bind fun w => local_fractionPart.bind fun f => local_exponentPart.bind fun e =>
    .pure (w ++ f ++ e)

/-- What is left is shorter or the same text. -/
theorem Local.length_le {α : Type} {read : List Char → Option (α × List Char)} (hread : Local read)
    {cs rest : List Char} {a : α} (h : read cs = some (a, rest)) : rest.length ≤ cs.length := by
  obtain ⟨taken, rfl, -⟩ := hread cs a rest h
  rw [List.length_append]
  exact Nat.le_add_left _ _

theorem length_unsigned {cs l rest : List Char} (h : unsigned? cs = some (l, rest)) :
    rest.length < cs.length := by
  obtain ⟨⟨w, afterWhole⟩, hwhole, h⟩ := Option.bind_eq_some_iff.1 h
  obtain ⟨⟨f, afterFraction⟩, hfraction, h⟩ := Option.bind_eq_some_iff.1 h
  obtain ⟨⟨e, afterExponent⟩, hexponent, h⟩ := Option.bind_eq_some_iff.1 h
  cases h
  have hlast := local_exponentPart.length_le hexponent
  have hmiddle := local_fractionPart.length_le hfraction
  have hfirst := length_wholePart hwhole
  omega

/-- A number is read from a front that is not empty. -/
theorem number?_taken {cs rest : List Char} {v : Json} (h : number? cs = some (v, rest)) :
    ∃ taken, taken ≠ [] ∧ cs = taken ++ rest ∧
      ∀ other, Follows rest other → number? (taken ++ other) = some (v, other) := by
  unfold number? at h
  split at h
  · next digits =>
    obtain ⟨⟨l, after⟩, hread, h⟩ := Option.map_eq_some_iff.1 h
    cases h
    obtain ⟨taken, rfl, htaken⟩ := local_unsigned digits l rest hread
    refine ⟨'-' :: taken, by simp, rfl, fun other hother => ?_⟩
    rw [List.cons_append, number?, htaken other hother]
    rfl
  · next hsign =>
    obtain ⟨⟨l, after⟩, hread, h⟩ := Option.map_eq_some_iff.1 h
    cases h
    have hlength := length_unsigned hread
    obtain ⟨taken, rfl, htaken⟩ := local_unsigned cs l rest hread
    have hne : taken ≠ [] := by
      rintro rfl
      exact Nat.lt_irrefl _ hlength
    refine ⟨taken, hne, rfl, fun other hother => ?_⟩
    obtain ⟨c, taken, rfl⟩ := List.exists_cons_of_ne_nil hne
    unfold number?
    split
    · next heq =>
      have hminus : c = '-' := (List.cons.inj heq).1
      exact (hsign (taken ++ rest) (by rw [hminus, List.cons_append])).elim
    · rw [htaken other hother]
      rfl

/-! ### Strings -/

/-- The value of a hexadecimal digit. -/
def hexDigit? (c : Char) : Option Nat :=
  if '0' ≤ c ∧ c ≤ '9' then some (c.toNat - 48)
  else if 'a' ≤ c ∧ c ≤ 'f' then some (c.toNat - 87)
  else if 'A' ≤ c ∧ c ≤ 'F' then some (c.toNat - 55)
  else none

theorem unit?_cons (a b c d : Char) (rest : List Char) :
    unit? (a :: b :: c :: d :: rest) = (hexDigit? a).bind fun w => (hexDigit? b).bind fun x =>
      (hexDigit? c).bind fun y => (hexDigit? d).bind fun z =>
        some ((w * 16 + x) * 256 + y * 16 + z, rest) :=
  rfl

/-- A code unit is four hexadecimal digits, and none of them closes a string. -/
theorem unit?_eq_some {cs rest : List Char} {n : Nat} (h : unit? cs = some (n, rest)) :
    ∃ ds, cs = ds ++ rest ∧ ds.length = 4 ∧ '"' ∉ ds ∧
      ∀ other, unit? (ds ++ other) = some (n, other) := by
  have hquote : hexDigit? '"' = none := rfl
  unfold unit? at h
  split at h
  · next a b c d after =>
    change unit? (a :: b :: c :: d :: after) = some (n, rest) at h
    rw [unit?_cons] at h
    obtain ⟨w, ha, h⟩ := Option.bind_eq_some_iff.1 h
    obtain ⟨x, hb, h⟩ := Option.bind_eq_some_iff.1 h
    obtain ⟨y, hc, h⟩ := Option.bind_eq_some_iff.1 h
    obtain ⟨z, hd, h⟩ := Option.bind_eq_some_iff.1 h
    cases h
    refine ⟨[a, b, c, d], rfl, rfl, ?_, fun other => ?_⟩
    · have hne {e : Char} {v : Nat} (he : hexDigit? e = some v) : '"' ≠ e := by
        rintro rfl
        rw [hquote] at he
        cases he
      simp [hne ha, hne hb, hne hc, hne hd]
    · simp only [List.cons_append, List.nil_append, unit?_cons, ha, hb, hc, hd, Option.bind_some]
  · cases h

/-- Whether a code unit stands at the end of a string does not depend on what follows the string. -/
theorem unit?_quote (front : List Char) :
    (∀ rest, unit? (front ++ '"' :: rest) = none) ∨
      ∃ n back, ∀ rest, unit? (front ++ '"' :: rest) = some (n, back ++ '"' :: rest) := by
  by_cases hsome : ∃ rest r, unit? (front ++ '"' :: rest) = some r
  · obtain ⟨rest, ⟨n, after⟩, hunit⟩ := hsome
    obtain ⟨ds, hsplit, -, hquote, hds⟩ := unit?_eq_some hunit
    have hfront : ∃ back, front = ds ++ back := by
      rcases List.append_eq_append_iff.1 hsplit with ⟨more, rfl, hmore⟩ | ⟨back, hback, -⟩
      · cases more with
        | nil => exact ⟨[], by simp⟩
        | cons c more =>
          rw [← (List.cons.inj hmore).1] at hquote
          simp at hquote
      · exact ⟨back, hback⟩
    obtain ⟨back, rfl⟩ := hfront
    exact .inr ⟨n, back, fun rest => by rw [List.append_assoc, hds]⟩
  · refine .inl fun rest => ?_
    cases hunit : unit? (front ++ '"' :: rest) with
    | none => rfl
    | some r => exact absurd ⟨rest, r, hunit⟩ hsome

theorem unitChar_of_whole {n : Nat} (h : ¬(0xD800 ≤ n ∧ n < 0xE000)) (cs : List Char) :
    unitChar n cs = (Char.ofNat n, cs) :=
  if_neg h

theorem unitChar_of_lone {n : Nat} (h : 0xD800 ≤ n ∧ n < 0xE000) {cs : List Char}
    (hcs : ∀ more, cs ≠ '\\' :: 'u' :: more) : unitChar n cs = (Char.ofNat 0xFFFD, cs) := by
  unfold unitChar
  rw [if_pos h]
  split
  · exact absurd rfl (hcs _)
  · rfl

theorem unitChar_of_half {n : Nat} (h : 0xD800 ≤ n ∧ n < 0xE000) (more : List Char) :
    unitChar n ('\\' :: 'u' :: more) = match unit? more with
      | some (m, after) =>
        if n < 0xDC00 ∧ 0xDC00 ≤ m ∧ m < 0xE000 then
          (Char.ofNat (0x10000 + (n - 0xD800) * 1024 + (m - 0xDC00)), after)
        else (Char.ofNat 0xFFFD, '\\' :: 'u' :: more)
      | none => (Char.ofNat 0xFFFD, '\\' :: 'u' :: more) :=
  if_pos h

/-- The character of a code unit does not depend on what follows the string. -/
theorem unitChar_quote (n : Nat) (front : List Char) :
    ∃ c back, ∀ rest, unitChar n (front ++ '"' :: rest) = (c, back ++ '"' :: rest) := by
  by_cases hhalf : 0xD800 ≤ n ∧ n < 0xE000
  · by_cases hescape : ∃ more, front = '\\' :: 'u' :: more
    · obtain ⟨more, rfl⟩ := hescape
      rcases unit?_quote more with hnone | ⟨m, back, hsome⟩
      · refine ⟨Char.ofNat 0xFFFD, '\\' :: 'u' :: more, fun rest => ?_⟩
        rw [List.cons_append, List.cons_append, unitChar_of_half hhalf, hnone]
      · by_cases hpair : n < 0xDC00 ∧ 0xDC00 ≤ m ∧ m < 0xE000
        · refine ⟨Char.ofNat (0x10000 + (n - 0xD800) * 1024 + (m - 0xDC00)), back, fun rest => ?_⟩
          rw [List.cons_append, List.cons_append, unitChar_of_half hhalf, hsome]
          exact if_pos hpair
        · refine ⟨Char.ofNat 0xFFFD, '\\' :: 'u' :: more, fun rest => ?_⟩
          rw [List.cons_append, List.cons_append, unitChar_of_half hhalf, hsome]
          exact if_neg hpair
    · refine ⟨_, front, fun rest => unitChar_of_lone hhalf fun more heq => hescape ?_⟩
      match front, heq with
      | x :: y :: front, heq =>
        simp only [List.cons_append, List.cons.injEq] at heq
        exact ⟨front, by rw [heq.1, heq.2.1]⟩
  · exact ⟨_, front, fun rest => unitChar_of_whole hhalf _⟩

theorem unitChar_suffix (n : Nat) (cs : List Char) : (unitChar n cs).2 <:+ cs := by
  by_cases hhalf : 0xD800 ≤ n ∧ n < 0xE000
  · by_cases hescape : ∃ more, cs = '\\' :: 'u' :: more
    · obtain ⟨more, rfl⟩ := hescape
      rw [unitChar_of_half hhalf]
      split
      · next m after hunit =>
        split
        · obtain ⟨ds, rfl, -⟩ := unit?_eq_some hunit
          exact ⟨'\\' :: 'u' :: ds, by simp⟩
        · exact List.suffix_refl _
      · exact List.suffix_refl _
    · rw [unitChar_of_lone hhalf fun more heq => hescape ⟨more, heq⟩]
  · rw [unitChar_of_whole hhalf]

theorem stringRest?_quote (fuel : Nat) (out : String) (cs : List Char) :
    stringRest? (fuel + 1) out ('"' :: cs) = some (out, cs) := by
  rw [stringRest?.eq_def]
  exact if_pos rfl

theorem stringRest?_control {fuel : Nat} {out : String} {c : Char} {cs : List Char}
    (hcontrol : c.toNat < 0x20) : stringRest? (fuel + 1) out (c :: cs) = none := by
  have hquote : c ≠ '"' := by
    rintro rfl
    exact absurd hcontrol (by decide)
  rw [stringRest?.eq_def]
  dsimp only
  rw [if_neg hquote, if_pos hcontrol]

theorem stringRest?_plain {fuel : Nat} {out : String} {c : Char} {cs : List Char} (hquote : c ≠ '"')
    (hcontrol : ¬c.toNat < 0x20) (hescape : c ≠ '\\') :
    stringRest? (fuel + 1) out (c :: cs) = stringRest? fuel (out.push c) cs := by
  rw [stringRest?.eq_def]
  dsimp only
  rw [if_neg hquote, if_neg hcontrol, if_neg hescape]

theorem stringRest?_unit {fuel : Nat} {out : String} {cs after : List Char} {n : Nat}
    (hunit : unit? cs = some (n, after)) :
    stringRest? (fuel + 1) out ('\\' :: 'u' :: cs) =
      stringRest? fuel (out.push (unitChar n after).1) (unitChar n after).2 := by
  rw [stringRest?.eq_def]
  dsimp only
  rw [if_neg (by decide), if_neg (by decide), if_pos rfl]
  simp only [hunit]

theorem stringRest?_letter {fuel : Nat} {out : String} {e c : Char} {cs : List Char}
    (hunit : e ≠ 'u') (hletter : escaped? e = some c) :
    stringRest? (fuel + 1) out ('\\' :: e :: cs) = stringRest? fuel (out.push c) cs := by
  rw [stringRest?.eq_def]
  dsimp only
  rw [if_neg (by decide), if_neg (by decide), if_pos rfl]
  split
  · next heq => exact absurd (List.cons.inj heq).1 hunit
  · next heq =>
    obtain ⟨rfl, rfl⟩ := List.cons.inj heq
    rw [hletter]
  · next heq => cases heq

/-- What a backslash stands in front of: the mark of a code unit with its digits, or a letter. -/
theorem stringRest?_escape {fuel : Nat} {out : String} {cs : List Char} {r : String × List Char}
    (h : stringRest? (fuel + 1) out ('\\' :: cs) = some r) :
    (∃ more n after, cs = 'u' :: more ∧ unit? more = some (n, after)) ∨
      ∃ e more c, cs = e :: more ∧ e ≠ 'u' ∧ escaped? e = some c := by
  rw [stringRest?.eq_def] at h
  dsimp only at h
  rw [if_neg (by decide), if_neg (by decide), if_pos rfl] at h
  split at h
  · next more =>
    split at h
    · next n after hunit => exact .inl ⟨more, n, after, rfl, hunit⟩
    · cases h
  · next e more hu =>
    split at h
    · next c hletter => exact .inr ⟨e, more, c, rfl, fun he => hu he, hletter⟩
    · cases h
  · cases h

/-- The rest of a string goes up to the mark that closes it. By induction on the fuel. -/
theorem stringRest?_taken {fuel : Nat} {out s : String} {cs rest : List Char}
    (h : stringRest? fuel out cs = some (s, rest)) :
    ∃ front, cs = front ++ '"' :: rest ∧ ∀ fuel other, front.length < fuel →
      stringRest? fuel out (front ++ '"' :: other) = some (s, other) := by
  induction fuel generalizing out cs with
  | zero => cases h
  | succ fuel ih =>
    cases cs with
    | nil => cases h
    | cons c cs =>
      by_cases hquote : c = '"'
      · subst hquote
        rw [stringRest?_quote] at h
        cases h
        refine ⟨[], rfl, fun fuel other hfuel => ?_⟩
        obtain ⟨fuel, rfl⟩ := Nat.exists_eq_succ_of_ne_zero (Nat.ne_zero_of_lt hfuel)
        exact stringRest?_quote fuel _ other
      by_cases hcontrol : c.toNat < 0x20
      · rw [stringRest?_control hcontrol] at h
        cases h
      by_cases hescape : c = '\\'
      · subst hescape
        rcases stringRest?_escape h with
            ⟨more, n, after, rfl, hunit⟩ | ⟨e, more, c, rfl, he, hletter⟩
        · rw [stringRest?_unit hunit] at h
          obtain ⟨ds, rfl, hlength, -, hds⟩ := unit?_eq_some hunit
          obtain ⟨front, hsplit, hfront⟩ := ih h
          obtain ⟨skipped, hskipped⟩ := unitChar_suffix n after
          -- The character is the same, whatever follows the string.
          obtain ⟨c, back, hchar⟩ := unitChar_quote n (skipped ++ front)
          rw [hsplit, ← List.append_assoc] at hskipped
          rw [← hskipped, hchar] at hsplit hfront
          obtain rfl : back = front := List.append_cancel_right hsplit
          refine ⟨'\\' :: 'u' :: (ds ++ (skipped ++ back)), by simp [← hskipped],
            fun fuel other hfuel => ?_⟩
          obtain ⟨fuel, rfl⟩ := Nat.exists_eq_succ_of_ne_zero (Nat.ne_zero_of_lt hfuel)
          rw [List.cons_append, List.cons_append, List.append_assoc, stringRest?_unit (hds _),
            hchar]
          simp only [List.length_cons, List.length_append] at hfuel
          exact hfront fuel other (by omega)
        · rw [stringRest?_letter he hletter] at h
          obtain ⟨front, rfl, hfront⟩ := ih h
          refine ⟨'\\' :: e :: front, rfl, fun fuel other hfuel => ?_⟩
          obtain ⟨fuel, rfl⟩ := Nat.exists_eq_succ_of_ne_zero (Nat.ne_zero_of_lt hfuel)
          rw [List.cons_append, List.cons_append, stringRest?_letter he hletter]
          rw [List.length_cons, List.length_cons] at hfuel
          exact hfront fuel other (by omega)
      rw [stringRest?_plain hquote hcontrol hescape] at h
      obtain ⟨front, rfl, hfront⟩ := ih h
      refine ⟨c :: front, rfl, fun fuel other hfuel => ?_⟩
      obtain ⟨fuel, rfl⟩ := Nat.exists_eq_succ_of_ne_zero (Nat.ne_zero_of_lt hfuel)
      rw [List.cons_append, stringRest?_plain hquote hcontrol hescape]
      exact hfront fuel other (Nat.lt_of_succ_lt_succ hfuel)

end Lanewise.Json
