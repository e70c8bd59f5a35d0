import Lanewise.Store.Bucket

/-!
# What buckets hold

Putting and erasing keep the entries of a bucket in the strict order of their keys, so a key occurs
at most once. A key that is new is added to the entries and changes no other, and a key that is
erased takes only its own entry away.

## Main definitions

* `Bucket.Sorted`: the entries stand in the strict order of their keys.

## Main results

* `Bucket.Sorted.put`, `Bucket.Sorted.erase`: this order is kept.
* `Bucket.get?_put`, `Bucket.get?_erase`: what a bucket maps afterwards.
* `Bucket.Sorted.startingWith_eq`, `Bucket.Sorted.below_eq`: the entries of a range.
* `Bucket.Sorted.startingWith_block`: a range is one block of the entries.
* `Bucket.put_perm`, `Bucket.erase_perm`: which entries a bucket has afterwards.
-/

namespace Lanewise

theorem Key.lt_irrefl (k : Key) : ¬k < k :=
  List.lt_irrefl k

theorem Key.lt_trans {k₁ k₂ k₃ : Key} (h₁ : k₁ < k₂) (h₂ : k₂ < k₃) : k₁ < k₃ :=
  List.lt_trans h₁ h₂

theorem Key.lt_of_not_lt {k₁ k₂ : Key} (h : ¬k₁ < k₂) (hne : k₂ ≠ k₁) : k₂ < k₁ :=
  Std.lt_of_le_of_ne (List.not_lt.1 h) hne

/-! ### Association lists -/

section Lookup

variable {κ α : Type} [BEq κ] [LawfulBEq κ] {entries : List (κ × α)} {a b : κ} {v : α}

/-- Where no key occurs twice, a key is looked up in the entry that has it. -/
theorem lookup_eq_some_iff_mem (h : (entries.map (·.1)).Nodup) :
    entries.lookup a = some v ↔ (a, v) ∈ entries := by
  induction entries with
  | nil => simp only [List.lookup_nil, reduceCtorEq, List.not_mem_nil]
  | cons e rest ih =>
    obtain ⟨key, value⟩ := e
    obtain ⟨hkey, hrest⟩ := List.nodup_cons.1 h
    rw [List.lookup_cons, List.mem_cons, Prod.mk.injEq]
    by_cases heq : a = key
    · subst heq
      have hnot : (a, v) ∉ rest := fun hmem => hkey (List.mem_map.2 ⟨_, hmem, rfl⟩)
      rw [beq_self_eq_true, Option.some.injEq, eq_self_iff_true, true_and, or_iff_left hnot,
        eq_comm]
    · rw [beq_eq_false_iff_ne.2 heq, ih hrest]
      simp only [heq, false_and, false_or]

/-- Removing one key leaves the others. -/
theorem lookup_filter_ne (h : b ≠ a) : (entries.filter (·.1 != a)).lookup b = entries.lookup b := by
  induction entries with
  | nil => rfl
  | cons p entries ih =>
    obtain ⟨key, value⟩ := p
    rw [List.filter_cons]
    split
    · rw [List.lookup_cons, List.lookup_cons, ih]
    · next hkey =>
      have hkey : key = a := by simpa using hkey
      have hne : (b == key) = false := beq_eq_false_iff_ne.2 (hkey ▸ h)
      rw [ih, List.lookup_cons, hne]

theorem lookup_filter_self : (entries.filter (·.1 != a)).lookup a = none := by
  refine List.lookup_eq_none_iff.2 fun p hp => ?_
  have hne : p.1 ≠ a := bne_iff_ne.1 (List.mem_filter.1 hp).2
  exact bne_iff_ne.2 hne.symm

end Lookup

namespace Bucket

variable {α : Type} {b : Bucket α} {k : Key} {v : α}

/-- The entries stand in the strict order of their keys. -/
def Sorted (b : Bucket α) : Prop :=
  b.entries.Pairwise fun e e' => e.1 < e'.1

theorem mem_insertInto {entries : List (Key × α)} {e : Key × α} (h : e ∈ insertInto k v entries) :
    e = (k, v) ∨ e ∈ entries := by
  induction entries with
  | nil => exact .inl (List.mem_singleton.1 h)
  | cons e' rest ih =>
    rw [insertInto] at h
    split at h
    · exact List.mem_cons.1 h
    · split at h
      · rcases List.mem_cons.1 h with h | h
        · exact .inl h
        · exact .inr (List.mem_cons_of_mem _ h)
      · rcases List.mem_cons.1 h with h | h
        · exact .inr (h ▸ List.mem_cons_self)
        · exact (ih h).imp_right (List.mem_cons_of_mem _)

theorem pairwise_insertInto {entries : List (Key × α)}
    (h : entries.Pairwise fun e e' => e.1 < e'.1) :
    (insertInto k v entries).Pairwise fun e e' => e.1 < e'.1 := by
  induction entries with
  | nil => exact List.pairwise_singleton _ _
  | cons e rest ih =>
    obtain ⟨hhead, hrest⟩ := List.pairwise_cons.1 h
    rw [insertInto]
    split
    · next hlt =>
      refine List.pairwise_cons.2 ⟨?_, h⟩
      intro e' he'
      rcases List.mem_cons.1 he' with rfl | he'
      · exact hlt
      · exact Key.lt_trans hlt (hhead e' he')
    · next hle =>
      split
      · next heq => exact List.pairwise_cons.2 ⟨fun e' he' => heq ▸ hhead e' he', hrest⟩
      · next hne =>
        refine List.pairwise_cons.2 ⟨?_, ih hrest⟩
        intro e' he'
        rcases mem_insertInto he' with rfl | he'
        · exact Key.lt_of_not_lt hle hne
        · exact hhead e' he'

theorem Sorted.put (h : b.Sorted) (k : Key) (v : α) : (b.put k v).Sorted :=
  pairwise_insertInto h

theorem Sorted.erase (h : b.Sorted) (k : Key) : (b.erase k).Sorted :=
  h.filter _

/-! ### Looking up -/

theorem get?_put (b : Bucket α) (k k' : Key) (v : α) :
    (b.put k v).get? k' = if k' = k then some v else b.get? k' := by
  obtain ⟨entries⟩ := b
  change (insertInto k v entries).lookup k' = if k' = k then some v else entries.lookup k'
  induction entries with
  | nil =>
    rw [insertInto, List.lookup_cons, List.lookup_nil]
    split
    · next heq => rw [if_pos (beq_iff_eq.1 heq)]
    · next hne => rw [if_neg (beq_eq_false_iff_ne.1 hne)]
  | cons e rest ih =>
    by_cases hk : k' = k
    · rw [if_pos hk]
      subst hk
      rw [insertInto]
      split
      · exact List.lookup_cons_self
      · split
        · exact List.lookup_cons_self
        · next hne =>
          rw [List.lookup_cons, beq_eq_false_iff_ne.2 (Ne.symm hne)]
          exact ih.trans (if_pos rfl)
    · rw [if_neg hk] at ih ⊢
      rw [insertInto]
      split
      · rw [List.lookup_cons, beq_eq_false_iff_ne.2 hk]
      · split
        · next heq => rw [List.lookup_cons, List.lookup_cons, beq_eq_false_iff_ne.2 hk, heq,
            beq_eq_false_iff_ne.2 hk]
        · rw [List.lookup_cons, List.lookup_cons, ih]

theorem get?_erase (b : Bucket α) (k k' : Key) :
    (b.erase k).get? k' = if k' = k then none else b.get? k' := by
  split
  · next heq => exact heq ▸ lookup_filter_self
  · next hne => exact lookup_filter_ne hne

theorem Sorted.nodup_keys (h : b.Sorted) : (b.entries.map (·.1)).Nodup := by
  refine List.pairwise_map.2 (h.imp ?_)
  rintro e e' hlt heq
  exact Key.lt_irrefl e.1 (heq ▸ hlt)

theorem Sorted.get?_eq_some_iff (h : b.Sorted) : b.get? k = some v ↔ (k, v) ∈ b.entries :=
  lookup_eq_some_iff_mem h.nodup_keys

theorem contains_iff : b.contains k = true ↔ ∃ e ∈ b.entries, e.1 = k := by
  rw [contains, get?, List.lookup_isSome_iff]
  refine exists_congr fun e => and_congr_right fun _ => ?_
  rw [beq_iff_eq, eq_comm]

/-! ### Ranges -/

theorem not_lt_of_startsWith {front k : Key} (h : k.startsWith front = true) : ¬k < front := by
  obtain ⟨rest, rfl⟩ := List.isPrefixOf_iff_prefix.1 h
  induction front with
  | nil => exact List.not_lt_nil _
  | cons a front ih =>
    rw [List.cons_append, List.cons_lt_cons_iff]
    rintro (hlt | ⟨-, hlt⟩)
    · exact UInt8.lt_irrefl a hlt
    · exact ih (List.isPrefixOf_iff_prefix.2 (List.prefix_append _ _)) hlt

/-- The keys that begin with a given one stand together: none comes after a greater key that does
not. -/
theorem not_startsWith_of_lt {front k k' : Key} (hfront : ¬k < front) (hnot : ¬k.startsWith front)
    (hlt : k < k') : ¬k'.startsWith front := by
  induction front generalizing k k' with
  | nil => exact absurd rfl hnot
  | cons a front ih =>
    cases k with
    | nil => exact absurd (List.nil_lt_cons a front) hfront
    | cons c k =>
      cases k' with
      | nil => exact absurd hlt (List.not_lt_nil _)
      | cons c' k' =>
        rw [Key.startsWith, List.isPrefixOf_cons_cons, Bool.and_eq_true, beq_iff_eq] at hnot ⊢
        rw [List.cons_lt_cons_iff] at hfront hlt
        rintro ⟨rfl, hstarts⟩
        rcases hlt with hlt | ⟨rfl, hlt⟩
        · exact hfront (.inl hlt)
        · exact ih (fun hless => hfront (.inr ⟨rfl, hless⟩)) (fun hold => hnot ⟨rfl, hold⟩) hlt
            hstarts

theorem takeWhile_startsWith {front : Key} {entries : List (Key × α)}
    (h : entries.Pairwise fun e e' => e.1 < e'.1) (hfront : ∀ e ∈ entries, ¬e.1 < front) :
    entries.takeWhile (·.1.startsWith front) = entries.filter (·.1.startsWith front) := by
  induction entries with
  | nil => rfl
  | cons e rest ih =>
    obtain ⟨hhead, hrest⟩ := List.pairwise_cons.1 h
    obtain ⟨he, hfrom⟩ := List.forall_mem_cons.1 hfront
    rw [List.takeWhile_cons, List.filter_cons]
    split
    · rw [ih hrest hfrom]
    · next hstarts =>
      refine (List.filter_eq_nil_iff.2 fun e' he' => ?_).symm
      exact not_startsWith_of_lt he hstarts (hhead e' he')

/-- In a sorted bucket a range consists of all entries whose keys begin as they should. -/
theorem Sorted.startingWith_eq (h : b.Sorted) (front : Key) :
    b.startingWith front = b.entries.filter (·.1.startsWith front) := by
  obtain ⟨entries⟩ := b
  change (entries.dropWhile fun e => decide (e.1 < front)).takeWhile (·.1.startsWith front) =
    entries.filter (·.1.startsWith front)
  change entries.Pairwise _ at h
  induction entries with
  | nil => rfl
  | cons e rest ih =>
    rw [List.dropWhile_cons]
    split
    · next hlt =>
      have hstarts : ¬e.1.startsWith front := fun hstarts =>
        not_lt_of_startsWith hstarts (of_decide_eq_true hlt)
      rw [List.filter_cons, if_neg hstarts, ih (List.pairwise_cons.1 h).2]
    · next hle =>
      have hle : ¬e.1 < front := fun hlt => hle (decide_eq_true hlt)
      refine takeWhile_startsWith h (List.forall_mem_cons.2 ⟨hle, fun e' he' hless => ?_⟩)
      exact hle (Key.lt_trans ((List.pairwise_cons.1 h).1 e' he') hless)

/-- Around a part that has all members with a property there are none left. -/
theorem not_mem_of_eq_filter {p : Key × α → Bool} {entries before block after : List (Key × α)}
    (h : entries = before ++ block ++ after) (hblock : block = entries.filter p) {e : Key × α}
    (he : e ∈ before ++ after) : ¬p e = true := by
  have hself : block.filter p = block := by simp only [hblock, List.filter_filter, Bool.and_self]
  have hsplit : block = before.filter p ++ block ++ after.filter p := by
    calc block = entries.filter p := hblock
      _ = before.filter p ++ block ++ after.filter p := by
        rw [h, List.filter_append, List.filter_append, hself]
  have hlength := congrArg List.length hsplit
  rw [List.length_append, List.length_append] at hlength
  have hbefore : before.filter p = [] := List.eq_nil_of_length_eq_zero (by omega)
  have hafter : after.filter p = [] := List.eq_nil_of_length_eq_zero (by omega)
  rcases List.mem_append.1 he with he | he
  · exact List.filter_eq_nil_iff.1 hbefore e he
  · exact List.filter_eq_nil_iff.1 hafter e he

/-- In a sorted bucket the entries whose keys begin as they should stand together. -/
theorem Sorted.startingWith_block (h : b.Sorted) (front : Key) :
    ∃ before after, b.entries = before ++ b.startingWith front ++ after ∧
      ∀ e ∈ before ++ after, ¬e.1.startsWith front := by
  let rest := b.entries.dropWhile fun e => decide (e.1 < front)
  have hsplit :
      b.entries = (b.entries.takeWhile fun e => decide (e.1 < front)) ++ b.startingWith front ++
      rest.dropWhile (·.1.startsWith front) := by
    rw [startingWith, List.append_assoc, List.takeWhile_append_dropWhile,
      List.takeWhile_append_dropWhile]
  exact ⟨_, _, hsplit, fun e he => not_mem_of_eq_filter hsplit (h.startingWith_eq front) he⟩

/-- In a sorted bucket, below a bound are all entries with lesser keys, the greatest first. -/
theorem Sorted.below_eq (h : b.Sorted) (bound : Key) :
    b.below bound = (b.entries.filter fun e => decide (e.1 < bound)).reverse := by
  have hdesc : b.descending.Pairwise fun e e' => e'.1 < e.1 := List.pairwise_reverse.2 h
  rw [below, ← List.filter_reverse]
  change _ = b.descending.filter _
  generalize b.descending = entries at hdesc
  induction entries with
  | nil => rfl
  | cons e rest ih =>
    obtain ⟨hhead, hrest⟩ := List.pairwise_cons.1 hdesc
    rw [List.dropWhile_cons, List.filter_cons]
    by_cases hlt : e.1 < bound
    · have hall : rest.filter (fun e => decide (e.1 < bound)) = rest :=
        List.filter_eq_self.2 fun e' he' => decide_eq_true (Key.lt_trans (hhead e' he') hlt)
      rw [decide_eq_true hlt, if_neg (by decide), if_pos rfl, hall]
    · rw [decide_eq_false hlt, if_neg Bool.false_ne_true]
      exact ih hrest

/-- Among descending keys below a bound, those that begin like the bound come first. -/
theorem takeWhile_startsWith_of_lt {front bound : Key} {entries : List (Key × α)}
    (h : entries.Pairwise fun e e' => e'.1 < e.1) (hbound : bound.startsWith front = true)
    (hlt : ∀ e ∈ entries, e.1 < bound) :
    entries.takeWhile (·.1.startsWith front) = entries.filter (·.1.startsWith front) := by
  induction entries with
  | nil => rfl
  | cons e rest ih =>
    obtain ⟨hhead, hrest⟩ := List.pairwise_cons.1 h
    obtain ⟨he, hbelow⟩ := List.forall_mem_cons.1 hlt
    rw [List.takeWhile_cons, List.filter_cons]
    split
    · rw [ih hrest hbelow]
    · next hstarts =>
      -- A key that does not begin like a greater one that does is less than all that do.
      have hless : e.1 < front := Decidable.by_contra fun hnot =>
        not_startsWith_of_lt hnot hstarts he hbound
      refine (List.filter_eq_nil_iff.2 fun e' he' hbegins => ?_).symm
      exact not_lt_of_startsWith hbegins (Key.lt_trans (hhead e' he') hless)

/-! ### Entries -/

/-- A new key adds its entry. -/
theorem put_perm (h : ∀ e ∈ b.entries, e.1 ≠ k) :
    (b.put k v).entries.Perm ((k, v) :: b.entries) := by
  obtain ⟨entries⟩ := b
  change (insertInto k v entries).Perm ((k, v) :: entries)
  induction entries with
  | nil => exact .refl _
  | cons e rest ih =>
    rw [insertInto]
    split
    · exact .refl _
    · rw [if_neg (h e List.mem_cons_self)]
      exact ((ih fun e' he' => h e' (List.mem_cons_of_mem _ he')).cons e).trans (.swap _ _ _)

/-- A key that is greater than all others is put at the end. -/
theorem entries_put_of_lt (h : ∀ e ∈ b.entries, e.1 < k) :
    (b.put k v).entries = b.entries ++ [(k, v)] := by
  obtain ⟨entries⟩ := b
  change insertInto k v entries = entries ++ [(k, v)]
  induction entries with
  | nil => rfl
  | cons e rest ih =>
    have hlt : e.1 < k := h e List.mem_cons_self
    have hne : e.1 ≠ k := fun heq => Key.lt_irrefl k (heq ▸ hlt)
    rw [insertInto, if_neg fun hgt => Key.lt_irrefl k (Key.lt_trans hgt hlt), if_neg hne,
      ih fun e' he' => h e' (List.mem_cons_of_mem _ he'), List.cons_append]

theorem filter_ne_cons {rest : List (Key × α)} (h : ∀ e ∈ rest, e.1 ≠ k) :
    ((k, v) :: rest).filter (·.1 != k) = rest := by
  rw [List.filter_cons_of_neg (by simp only [bne_self_eq_false, Bool.false_eq_true, not_false_iff])]
  exact List.filter_eq_self.2 fun e he => bne_iff_ne.2 (h e he)

/-- Erasing a key that occurs once takes its entry away. -/
theorem erase_perm {rest : List (Key × α)} (h : b.entries.Perm ((k, v) :: rest))
    (hrest : ∀ e ∈ rest, e.1 ≠ k) : (b.erase k).entries.Perm rest := by
  have hfilter := h.filter (·.1 != k)
  rwa [filter_ne_cons hrest] at hfilter

theorem entries_erase_head {rest : List (Key × α)} (h : b.entries = (k, v) :: rest)
    (hrest : ∀ e ∈ rest, e.1 ≠ k) : (b.erase k).entries = rest := by
  rw [erase, h]
  exact filter_ne_cons hrest

end Bucket

end Lanewise
