import Lanewise.Proofs.Cbor.RoundTrip

/-!
# Fields of messages

A message has the fields that are present, each under its number. Looking for a field passes over
the fields with other numbers, and a field that is left out has its default. What is written into a
field is read from it, one lemma for each kind of content.

## Main results

* `Cbor.message?_ofFields`: the members of a message that is written.
* `Cbor.field_present`, `Cbor.field_omitted`: the content of a field, or its default.
-/

namespace Lanewise.Cbor

/-- The members of a message. -/
def membersOf (fields : List (Option (Nat × Cbor))) : List (Cbor × Cbor) :=
  (fields.filterMap (·)).map fun f => (uint f.1, f.2)

theorem message?_ofFields (fields : List (Option (Nat × Cbor))) :
    (ofFields fields).message? = some (membersOf fields) := by
  have hkeys : (membersOf fields).all (keyOk ·.1) = true := by
    refine List.all_eq_true.2 fun m hm => ?_
    obtain ⟨f, -, rfl⟩ := List.mem_map.1 hm
    rfl
  change (if (membersOf fields).all (keyOk ·.1) then some (membersOf fields) else none) = _
  rw [if_pos hkeys]

/-- A reader goes on with the field that it has read. -/
theorem bind_of_some {α β : Type} {x : Option α} {a : α} {f : α → Option β} {y : Option β}
    (h : x = some a) (hf : f a = y) : (x >>= f) = y := by
  rw [h]
  exact hf

section

variable {α : Type} {fields : List (Option (Nat × Cbor))} {k n : Nat} {v : Cbor}
    {read : Cbor → Option α}
  {default : α}

@[simp] theorem field_nil : field (membersOf []) n read default = some default :=
  rfl

@[simp] theorem field_present : field (membersOf (present n v :: fields)) n read default =
    orDefault read default v := by
  have hfind : (membersOf (present n v :: fields)).find? (isKey n ·.1) = some (uint n, v) :=
    List.find?_cons_of_pos (beq_self_eq_true n)
  rw [field, hfind]

@[simp] theorem field_present_of_ne (h : k ≠ n) :
    field (membersOf (present k v :: fields)) n read default =
    field (membersOf fields) n read default := by
  have hfind : (membersOf (present k v :: fields)).find? (isKey n ·.1) =
      (membersOf fields).find? (isKey n ·.1) :=
    List.find?_cons_of_neg (Bool.eq_false_iff.1 (beq_eq_false_iff_ne.2 h))
  rw [field, hfind, field]

@[simp] theorem field_omitted (absent : Bool) :
    field (membersOf (omitted absent n v :: fields)) n read default =
    if absent then field (membersOf fields) n read default else orDefault read default v := by
  cases absent with
  | true => rfl
  | false => exact field_present

@[simp] theorem field_omitted_of_ne (absent : Bool) (h : k ≠ n) :
    field (membersOf (omitted absent k v :: fields)) n read default =
      field (membersOf fields) n read default := by
  cases absent with
  | true => rfl
  | false => exact field_present_of_ne h

end

/-! ### Contents -/

theorem fromUTF8?_toUTF8 (s : String) : String.fromUTF8? ⟨s.toUTF8.toList.toArray⟩ = some s := by
  have hbytes : (⟨s.toUTF8.toList.toArray⟩ : ByteArray) = s.toUTF8 := by
    refine ByteArray.ext ?_
    rw [Bytes.toList_eq]
  rw [hbytes]
  exact dif_pos s.isValidUTF8

@[simp] theorem string?_ofString (s default : String) :
    orDefault string? default (ofString s) = some s := by
  change (([s.toUTF8.toList].mapM fun c => String.fromUTF8? ⟨c.toArray⟩).map fun ss =>
    ss.foldl (· ++ ·) "") = some s
  rw [List.mapM_cons, List.mapM_nil, fromUTF8?_toUTF8]
  exact congrArg some (String.empty_append)

theorem orDefault_ofInt {α : Type} (read : Cbor → Option α) (default : α) (i : Int) :
    orDefault read default (ofInt i) = read (ofInt i) := by
  cases i <;> rfl

theorem intIn?_ofInt {lo hi i : Int} (hlo : lo ≤ i) (hhi : i ≤ hi) :
    (ofInt i).intIn? lo hi = some i := by
  have hinteger : (ofInt i).content?.bind integer? = some i := by
    cases i <;> rfl
  rw [intIn?, hinteger, Option.filter_some, if_pos (decide_eq_true ⟨hlo, hhi⟩)]

@[simp] theorem int64?_ofInt (i default : Int64) :
    orDefault int64? default (ofInt i.toInt) = some i := by
  have hlo : -0x8000000000000000 ≤ i.toInt := i.le_toInt
  have hhi : i.toInt ≤ 0x7fffffffffffffff := i.toInt_le
  rw [orDefault_ofInt, int64?, int?, intIn?_ofInt hlo hhi, Option.map_some, Int64.ofInt_toInt]

@[simp] theorem word?_ofInt (w default : Word) :
    orDefault word? default (ofInt w.toInt) = some w := by
  have hlo : -0x80000000 ≤ w.toInt := w.le_toInt
  have hhi : w.toInt ≤ 0x7fffffff := Int.le_of_lt_add_one w.toInt_lt
  rw [orDefault_ofInt, word?, intIn?_ofInt hlo hhi, Option.map_some, Int32.ofInt_toInt]

@[simp] theorem uint64?_uint (n default : UInt64) :
    orDefault uint64? default (uint n.toNat) = some n := by
  have hlt := n.toNat_lt
  have hint : uint n.toNat = ofInt (n.toNat : Int) := rfl
  rw [hint, orDefault_ofInt, uint64?, intIn?_ofInt (by omega) (by omega), Option.map_some,
    Int.toNat_natCast, UInt64.ofNat_toNat]

@[simp] theorem bytes?_bytes (b default : List UInt8) :
    orDefault bytes? default (bytes b) = some b :=
  rfl

@[simp] theorem bool?_ofBool (b default : Bool) : orDefault bool? default (ofBool b) = some b := by
  cases b <;> rfl

/-- A part of a message that is a message is read by its own reader. -/
@[simp] theorem orDefault_ofFields {α : Type} (read : Cbor → Option α) (default : α)
    (fields : List (Option (Nat × Cbor))) :
    orDefault read default (ofFields fields) = read (ofFields fields) :=
  rfl

section

variable {α : Type} {write : α → Cbor} {read : Cbor → Option α} {default : α}

/-- What is written item by item is read item by item. -/
theorem list?_array {xs : List α} (h : ∀ a ∈ xs, orDefault read default (write a) = some a) :
    list? read default (array (xs.map write)) = some xs := by
  change (xs.map write).mapM (orDefault read default) = some xs
  induction xs with
  | nil => rfl
  | cons x xs ih =>
    obtain ⟨hx, hxs⟩ := List.forall_mem_cons.1 h
    rw [List.map_cons, List.mapM_cons, hx, ih hxs]
    rfl

/-- A list that was never given differs from an empty one. -/
theorem listOrNull?_ofListOrNull {xs : Option (List α)}
    (h : ∀ a ∈ xs.getD [], orDefault read default (write a) = some a) :
    orDefault (listOrNull? read default) none (ofListOrNull write xs) = some xs := by
  cases xs with
  | none => rfl
  | some xs =>
    change (list? read default (array (xs.map write))).map some = _
    have hitems : list? read default (array (xs.map write)) = some xs := list?_array h
    rw [hitems]
    rfl

end

/-- Rows of words are read as they were written. -/
theorem rows?_array (rows : List (Option (List Word))) :
    list? (listOrNull? word? 0) none
      (array (rows.map (ofListOrNull fun w => ofInt w.toInt))) = some rows :=
  list?_array fun _ _ => listOrNull?_ofListOrNull fun w _ => word?_ofInt w 0

theorem texts?_array (ss : List String) :
    orDefault (list? string? "") [] (array (ss.map ofString)) = some ss :=
  list?_array fun s _ => string?_ofString s ""

/-! ### Messages as values -/

theorem written_ofString (d : Nat) (s : String) : Written d (ofString s) :=
  .text d s.toUTF8.toList

theorem written_ofInt {d : Nat} {i : Int} (hlo : -0x8000000000000000 ≤ i)
    (hhi : i < 0x8000000000000000) : Written d (ofInt i) := by
  cases i with
  | ofNat n =>
    change (n : Int) < 0x8000000000000000 at hhi
    exact .uint (by omega)
  | negSucc n => exact .nint (by omega)

theorem written_array {d : Nat} {α : Type} {write : α → Cbor} {xs : List α}
    (h : ∀ a ∈ xs, Written d (write a)) : Written (d + 1) (array (xs.map write)) := by
  refine .array fun v hv => ?_
  obtain ⟨a, ha, rfl⟩ := List.mem_map.1 hv
  exact h a ha

theorem written_ofListOrNull {d : Nat} {α : Type} {write : α → Cbor} {xs : Option (List α)}
    (h : ∀ a ∈ xs.getD [], Written d (write a)) : Written (d + 1) (ofListOrNull write xs) := by
  cases xs with
  | none => exact .simple (by decide)
  | some xs => exact written_array h

theorem written_word (d : Nat) (w : Word) : Written d (ofInt w.toInt) := by
  have hlo := w.le_toInt
  have hhi := w.toInt_lt
  exact written_ofInt (by omega) (by omega)

theorem written_rows (d : Nat) (rows : List (Option (List Word))) :
    Written (d + 2) (array (rows.map (ofListOrNull fun w => ofInt w.toInt))) :=
  written_array fun _ _ => written_ofListOrNull fun w _ => written_word d w

/-- A field whose number and content can be written. -/
inductive WrittenField (d : Nat) : Option (Nat × Cbor) → Prop
  | none : WrittenField d none
  | some {n : Nat} {v : Cbor} (hn : n < 0x10000000000000000) (hv : Written d v) :
    WrittenField d (some (n, v))

theorem WrittenField.present {d n : Nat} {v : Cbor} (hn : n < 0x10000000000000000)
    (hv : Written d v) : WrittenField d (Cbor.present n v) :=
  .some hn hv

theorem WrittenField.omitted {d n : Nat} {absent : Bool} {v : Cbor} (hn : n < 0x10000000000000000)
    (hv : Written d v) : WrittenField d (Cbor.omitted absent n v) := by
  cases absent with
  | true => exact .none
  | false => exact .some hn hv

theorem written_ofFields {d : Nat} {fields : List (Option (Nat × Cbor))}
    (h : ∀ f ∈ fields, WrittenField d f) : Written (d + 1) (ofFields fields) := by
  have hmembers : ∀ m ∈ membersOf fields, Written d m.1 ∧ Written d m.2 := by
    intro m hm
    obtain ⟨f, hf, rfl⟩ := List.mem_map.1 hm
    obtain ⟨f', hf', heq⟩ := List.mem_filterMap.1 hf
    obtain rfl : f' = some f := heq
    cases h _ hf' with
    | some hn hv => exact ⟨.uint hn, hv⟩
  exact .map (fun m hm => (hmembers m hm).1) fun m hm => (hmembers m hm).2

theorem short_uint (n : Nat) : (uint n).short = true :=
  rfl

theorem short_bytes (b : List UInt8) : (bytes b).short = true :=
  rfl

theorem short_ofString (s : String) : (ofString s).short = true :=
  rfl

theorem short_ofInt (i : Int) : (ofInt i).short = true := by
  cases i <;> rfl

theorem short_present (n : Nat) (v : Cbor) : (present n v).all (·.2.short) = v.short :=
  rfl

theorem short_omitted (absent : Bool) (n : Nat) (v : Cbor) :
    (omitted absent n v).all (·.2.short) = (absent || v.short) := by
  cases absent <;> rfl

/-- A message has no list that is too long if no field has one. -/
theorem short_ofFields {fields : List (Option (Nat × Cbor))} (hcount : fields.length ≤ maxItems) :
    (ofFields fields).short = fields.all fun f => f.all (·.2.short) := by
  have hmembers : shortMembers (membersOf fields) = fields.all fun f => f.all (·.2.short) := by
    clear hcount
    induction fields with
    | nil => rfl
    | cons f fields ih =>
      cases f with
      | none => exact ih
      | some f =>
        rw [List.all_cons, ← ih]
        rfl
  have hlength : (membersOf fields).length ≤ maxItems := by
    rw [membersOf, List.length_map]
    exact Nat.le_trans (List.length_filterMap_le _ _) hcount
  change (decide ((membersOf fields).length ≤ maxItems) && shortMembers (membersOf fields)) = _
  rw [decide_eq_true hlength, Bool.true_and, hmembers]

/-! ### Sizes -/

/-- A message with one field does not grow shorter by others behind it. -/
theorem size_field_le (n : Nat) (v : Cbor) (fields : List (Option (Nat × Cbor))) :
    (ofFields [present n v]).encode.size ≤ (ofFields (present n v :: fields)).encode.size := by
  have hshort : bytesOf (ofFields [present n v]) =
      headBytes 5 1 ++ (bytesOf (uint n) ++ (bytesOf v ++ [])) :=
    rfl
  have hlong : bytesOf (ofFields (present n v :: fields)) =
      headBytes 5 (membersOf fields).length.succ ++
        (bytesOf (uint n) ++ (bytesOf v ++ memberBytes (membersOf fields))) :=
    rfl
  have hhead : (headBytes 5 1).length ≤ (headBytes 5 (membersOf fields).length.succ).length :=
    headBytes_ne_nil 5 _
  rw [size_encode, size_encode, hshort, hlong]
  simp only [List.length_append, List.length_nil]
  omega

end Lanewise.Cbor
