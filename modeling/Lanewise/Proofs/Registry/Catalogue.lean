import Lanewise.Proofs.Registry.Entries
import Mathlib.Data.Finmap
import Mathlib.Data.Finset.Sort

/-!
# Registries as finite maps

Whatever keeps its programs, a registry is a finite map from identifiers to images. An image is
added if its identifier is new, and stays until the identifier is removed; to add it again changes
nothing. What lies in a file outlives the registry, everything else goes when the registry is
closed.

## Main definitions

* `Catalogue`: finite maps from identifiers to images.
* `Registry.Call`, `Registry.Answer`: what a registry and a catalogue can be asked, and what they
  say.
* `Registry.Keeps`: a registry keeps what a catalogue maps.

## Main results

* `Registry.Keeps.ask`: one call is answered in the same way, and the registry keeps what the
  catalogue maps afterwards.
* `Registry.refines_catalogue`: so is every sequence of calls.
-/

namespace Lanewise

/-! ### Catalogues -/

/-- The number of bytes of an image that is stored. -/
def Image.storedSize (img : Image) (z : Image.Compressor) : Nat :=
  (img.encode z img.compressed).toOption.elim 0 ByteArray.size

/-- A finite map from identifiers to images. -/
abbrev Catalogue := Finmap fun _ : ProgramId => Image

/-- Every image of a catalogue without its words, in the order of identifiers. -/
def Catalogue.entries (z : Image.Compressor) (c : Catalogue) : List Registry.Entry :=
  (c.keys.sort ProgramId.Le).filterMap fun id =>
    (c.lookup id).map fun img => .ofImage id img (img.storedSize z)

namespace Registry

/-! ### Calls -/

/-- A call of a registry. -/
inductive Call
  | put (img : Image)
  | get (id : ProgramId)
  | has (id : ProgramId)
  | delete (id : ProgramId)
  | list
  | count
  /-- The registry is closed and opened again. -/
  | restart

/-- The answer to a call. -/
inductive Answer
  | stored (id : ProgramId)
  | image (img : Image)
  | present (yes : Bool)
  | entries (es : List Entry)
  | number (n : UInt64)
  | done
  | refused (e : Error)

/-- A refusal is an answer that changes nothing. -/
def reply {α : Type} (r : Registry) (x : Except Error α) (k : α → Answer × Registry) :
    Answer × Registry :=
  match x with
  | .ok a => k a
  | .error e => (.refused e, r)

/-- What a registry answers, and the registry afterwards. -/
def ask (r : Registry) : Call → Answer × Registry
  | .put img => r.reply (r.put img) fun (id, r) => (.stored id, r)
  | .get id => r.reply (r.get id) fun img => (.image img, r)
  | .has id => r.reply (r.has id) fun yes => (.present yes, r)
  | .delete id => r.reply (r.delete id) fun r => (.done, r)
  | .list => r.reply r.list fun es => (.entries es, r)
  | .count => r.reply r.count fun n => (.number n, r)
  | .restart => r.reply r.close fun r => (.done, r.reopen)

end Registry

open Registry

/-- What a catalogue answers, and the catalogue afterwards. It may or may not outlive a restart. -/
def Catalogue.ask (z : Image.Compressor) (lasting : Bool) (c : Catalogue) :
    Call → Answer × Catalogue
  | .put img =>
    match img.encode z img.compressed with
    | .ok _ => (.stored img.id, if img.id ∈ c then c else c.insert img.id img)
    | .error e => (.refused (.image e), c)
  | .get id =>
    match c.lookup id with
    | some img => (.image img, c)
    | none => (.refused .notFound, c)
  | .has id => (.present (decide (id ∈ c)), c)
  | .delete id => (.done, c.erase id)
  | .list => (.entries (c.entries z), c)
  | .count => (.number (UInt64.ofNat c.keys.card), c)
  | .restart => (.done, if lasting then c else ∅)

namespace Catalogue

variable {z : Image.Compressor} {c : Catalogue} {id : ProgramId} {img : Image}

theorem keys_insert (c : Catalogue) (id : ProgramId) (img : Image) :
    (c.insert id img).keys = Insert.insert id c.keys := by
  ext id'
  rw [Finset.mem_insert, Finmap.mem_keys, Finmap.mem_keys, Finmap.mem_insert]

theorem mem_entries {e : Entry} :
    e ∈ c.entries z ↔
      ∃ img, c.lookup e.id = some img ∧ e = .ofImage e.id img (img.storedSize z) := by
  rw [entries, List.mem_filterMap]
  constructor
  · rintro ⟨id, -, he⟩
    obtain ⟨img, himg, rfl⟩ := Option.map_eq_some_iff.1 he
    exact ⟨img, himg, rfl⟩
  · rintro ⟨img, himg, he⟩
    refine ⟨e.id, ?_, Option.map_eq_some_iff.2 ⟨img, himg, he.symm⟩⟩
    rw [Finset.mem_sort, Finmap.mem_keys]
    exact Finmap.mem_of_lookup_eq_some himg

theorem entries_sorted (z : Image.Compressor) (c : Catalogue) :
    (c.entries z).Pairwise fun e e' => e.id.bytes < e'.id.bytes := by
  have hids : (c.keys.sort ProgramId.Le).Pairwise fun id id' => id.Le id' ∧ id ≠ id' :=
    (Finset.pairwise_sort _ _).and (Finset.sort_nodup _ _)
  refine List.pairwise_filterMap.2 (hids.imp ?_)
  rintro id id' ⟨hle, hne⟩ e he e' he'
  obtain ⟨img, -, rfl⟩ := Option.map_eq_some_iff.1 he
  obtain ⟨img', -, rfl⟩ := Option.map_eq_some_iff.1 he'
  exact Std.lt_of_le_of_ne hle fun heq => hne (ProgramId.bytes_inj.1 heq)

/-- An image stays until its identifier is removed or the catalogue is lost. -/
theorem lookup_ask {lasting : Bool} {call : Call} (hlookup : c.lookup id = some img)
    (hdelete : call ≠ .delete id) (hrestart : lasting = true ∨ call ≠ .restart) :
    (c.ask z lasting call).2.lookup id = some img := by
  have hmem : id ∈ c := Finmap.mem_of_lookup_eq_some hlookup
  cases call with
  | put img' =>
    rw [ask]
    cases img'.encode z img'.compressed with
    | error e => exact hlookup
    | ok data =>
      dsimp only
      split
      · exact hlookup
      · next hnew =>
        have hne : id ≠ img'.id := fun heq => hnew (heq ▸ hmem)
        rw [Finmap.lookup_insert_of_ne _ hne, hlookup]
  | get id' =>
    rw [ask]
    split <;> exact hlookup
  | has | list | count => exact hlookup
  | delete id' =>
    have hne : id ≠ id' := fun heq => hdelete (heq ▸ rfl)
    rw [ask, Finmap.lookup_erase_ne hne, hlookup]
  | restart =>
    rw [ask, if_pos (hrestart.resolve_right fun hne => hne rfl), hlookup]

theorem card_ask_le (z : Image.Compressor) (lasting : Bool) (c : Catalogue) (call : Call) :
    (c.ask z lasting call).2.keys.card ≤ c.keys.card + 1 := by
  cases call with
  | put img =>
    rw [ask]
    split
    · dsimp only
      split
      · exact Nat.le_succ _
      · rw [keys_insert]
        exact Finset.card_insert_le _ _
    · exact Nat.le_succ _
  | get id =>
    rw [ask]
    split <;> exact Nat.le_succ _
  | has | list | count => exact Nat.le_succ _
  | delete id =>
    rw [ask, Finmap.keys_erase]
    exact (Finset.card_erase_le).trans (Nat.le_succ _)
  | restart =>
    rw [ask]
    split
    · exact Nat.le_succ _
    · exact Nat.zero_le _

end Catalogue

namespace Registry

section Calls

variable {σ τ : Type} (ask : σ → Call → Answer × σ) (ask' : τ → Call → Answer × τ)

/-- The state after calls. -/
def after (s : σ) (calls : List Call) : σ :=
  calls.foldl (fun s call => (ask s call).2) s

/-- The answers to calls. -/
def answers (s : σ) : List Call → List Answer
  | [] => []
  | call :: calls => (ask s call).1 :: answers (ask s call).2 calls

variable {ask ask'}

theorem after_cons (s : σ) (call : Call) (calls : List Call) :
    after ask s (call :: calls) = after ask (ask s call).2 calls := rfl

theorem after_append (s : σ) (calls calls' : List Call) :
    after ask s (calls ++ calls') = after ask (after ask s calls) calls' :=
  List.foldl_append

/-- Where each call is answered in the same way, so are all. -/
theorem answers_eq_of_simulation {R : σ → τ → Prop}
    (hstep : ∀ s t call, R s t → (ask s call).1 = (ask' t call).1 ∧
      R (ask s call).2 (ask' t call).2)
    {s : σ} {t : τ} (h : R s t) (calls : List Call) :
    answers ask s calls = answers ask' t calls ∧ R (after ask s calls) (after ask' t calls) := by
  induction calls generalizing s t with
  | nil => exact ⟨rfl, h⟩
  | cons call calls ih =>
    obtain ⟨hanswer, hnext⟩ := hstep s t call h
    obtain ⟨hanswers, hafter⟩ := ih hnext
    exact ⟨by rw [answers, answers, hanswer, hanswers], hafter⟩

end Calls

/-! ### What registries keep -/

/-- An open registry, with a given compressor, keeps what a catalogue maps. -/
structure Keeps (z : Image.Compressor) (r : Registry) (c : Catalogue) : Prop where
  compressor_eq : r.compressor = z
  isOpen : r.isClosed = false
  bytesOf_eq :
    ∀ id, r.bytesOf id = (c.lookup id).bind fun img => (img.encode z img.compressed).toOption
  /-- Images are kept under their own identifiers, and none is kept that cannot be encoded. -/
  valid : ∀ id img, c.lookup id = some img →
    img.id = id ∧ ∃ data, img.encode z img.compressed = .ok data
  orderly : r.Orderly c.keys.card

variable {z : Image.Compressor} {r : Registry} {c : Catalogue} {id : ProgramId} {img : Image}

theorem fresh_keeps (z : Image.Compressor) (medium : Medium) : Keeps z (fresh z medium) ∅ where
  compressor_eq := by cases medium <;> rfl
  isOpen := by cases medium <;> rfl
  bytesOf_eq id := by
    rw [Finmap.lookup_empty]
    cases medium <;> rfl
  valid id img h := by
    rw [Finmap.lookup_empty] at h
    cases h
  orderly := by
    cases medium with
    | memory => exact List.nodup_nil
    | store onDisk =>
      exact ⟨.nil, fun _ h => absurd h List.not_mem_nil, rfl, rfl⟩

namespace Keeps

theorem bytesOf_of_lookup (h : r.Keeps z c) (hlookup : c.lookup id = some img) :
    ∃ data, img.encode z img.compressed = .ok data ∧ r.bytesOf id = some data := by
  obtain ⟨-, data, hdata⟩ := h.valid id img hlookup
  refine ⟨data, hdata, ?_⟩
  rw [h.bytesOf_eq, hlookup, Option.bind_some, hdata]
  rfl

theorem bytesOf_eq_none_iff (h : r.Keeps z c) : r.bytesOf id = none ↔ id ∉ c := by
  rw [← Finmap.lookup_eq_none]
  cases hlookup : c.lookup id with
  | none => simp only [h.bytesOf_eq, hlookup, Option.bind_none]
  | some img =>
    obtain ⟨data, -, hbytes⟩ := h.bytesOf_of_lookup hlookup
    rw [hbytes]
    simp only [reduceCtorEq]

theorem bytesOf_isSome (h : r.Keeps z c) : (r.bytesOf id).isSome = decide (id ∈ c) := by
  rw [Bool.eq_iff_iff, decide_eq_true_iff, Option.isSome_iff_ne_none, Ne, h.bytesOf_eq_none_iff,
    not_not]

/-- What is kept can be read back. -/
theorem get_eq (h : r.Keeps z c) :
    r.get id = (c.lookup id).elim (.error .notFound) .ok := by
  cases hlookup : c.lookup id with
  | some img =>
    obtain ⟨data, hencode, hbytes⟩ := h.bytesOf_of_lookup hlookup
    exact get_eq_ok_iff.2 ⟨h.isOpen, data, hbytes, Image.load_encode hencode⟩
  | none =>
    exact get_eq_notFound h.isOpen (h.bytesOf_eq_none_iff.2 (Finmap.lookup_eq_none.1 hlookup))

theorem has_eq (h : r.Keeps z c) : r.has id = .ok (decide (id ∈ c)) := by
  rw [← h.bytesOf_isSome]
  have hopen := h.isOpen
  cases r with
  | memory m => exact if_neg (Bool.eq_false_iff.1 hopen)
  | keyed k => exact if_neg (Bool.eq_false_iff.1 hopen)

theorem put_new {data : ByteArray} (h : r.Keeps z c)
    (hencode : img.encode z img.compressed = .ok data) (hnew : img.id ∉ c) :
    ∃ r', r.put img = .ok (img.id, r') ∧ r'.medium = r.medium ∧
      r'.Keeps z (c.insert img.id img) := by
  obtain rfl := h.compressor_eq
  have hnone := h.bytesOf_eq_none_iff.2 hnew
  obtain ⟨r', hput, hmedium, hcompressor, horderly⟩ := put_of_new h.isOpen hencode hnone h.orderly
  obtain ⟨data', hencode', -, hopen, hbytes⟩ := bytesOf_put hput
  obtain rfl : data = data' := Except.ok.inj (hencode.symm.trans hencode')
  refine ⟨r', hput, hmedium, hcompressor, hopen, ?_, ?_, ?_⟩
  · intro id
    rw [hbytes, hnone, Option.getD_none]
    split
    · next heq => rw [heq, Finmap.lookup_insert, Option.bind_some, hencode]; rfl
    · next hne => rw [Finmap.lookup_insert_of_ne _ hne, h.bytesOf_eq]
  · intro id img' hlookup
    by_cases heq : id = img.id
    · subst heq
      rw [Finmap.lookup_insert] at hlookup
      obtain rfl := Option.some.inj hlookup
      exact ⟨rfl, data, hencode⟩
    · rw [Finmap.lookup_insert_of_ne _ heq] at hlookup
      exact h.valid id img' hlookup
  · rw [Catalogue.keys_insert, Finset.card_insert_of_notMem (by rwa [Finmap.mem_keys])]
    exact horderly

/-- What is removed is gone, and what was not there is not missed. -/
theorem delete (h : r.Keeps z c) (id : ProgramId) :
    ∃ r', r.delete id = .ok r' ∧ r'.medium = r.medium ∧ r'.Keeps z (c.erase id) ∧
      (id ∉ c → r' = r) := by
  by_cases hmem : id ∈ c
  · have hcard : (c.erase id).keys.card + 1 = c.keys.card := by
      rw [Finmap.keys_erase, Finset.card_erase_add_one (by rwa [Finmap.mem_keys])]
    obtain ⟨r', hdelete, hopen, hmedium, hcompressor, horderly, hbytes⟩ :=
      delete_of_stored h.isOpen (by rw [h.bytesOf_isSome, decide_eq_true hmem]) (hcard ▸ h.orderly)
    refine ⟨r', hdelete, hmedium, ⟨hcompressor.trans h.compressor_eq, hopen, ?_, ?_, horderly⟩,
      fun hnot => absurd hmem hnot⟩
    · intro id'
      rw [hbytes]
      split
      · next heq => rw [heq, Finmap.lookup_erase, Option.bind_none]
      · next hne => rw [Finmap.lookup_erase_ne hne, h.bytesOf_eq]
    · intro id' img hlookup
      by_cases heq : id' = id
      · rw [heq, Finmap.lookup_erase] at hlookup
        cases hlookup
      · rw [Finmap.lookup_erase_ne heq] at hlookup
        exact h.valid id' img hlookup
  · have hsame : c.erase id = c := by
      refine Finmap.ext_lookup fun id' => ?_
      by_cases heq : id' = id
      · rw [heq, Finmap.lookup_erase, Finmap.lookup_eq_none.2 hmem]
      · exact Finmap.lookup_erase_ne heq
    rw [hsame]
    exact ⟨r, delete_of_absent h.isOpen (h.bytesOf_eq_none_iff.2 hmem), rfl, h, fun _ => rfl⟩

/-- The entries of a registry are the encoded images of the catalogue. -/
theorem lookup_of_mem_held (h : r.Keeps z c) {e : ProgramId × ByteArray} (he : e ∈ r.held) :
    ∃ img, c.lookup e.1 = some img ∧ img.encode z img.compressed = .ok e.2 := by
  have hbytes := (mem_held h.orderly).1 he
  have hmem : e.1 ∈ c := by
    rw [← decide_eq_true_iff (p := e.1 ∈ c), ← h.bytesOf_isSome, hbytes, Option.isSome_some]
  obtain ⟨img, himg⟩ := Finmap.mem_iff.1 hmem
  obtain ⟨data, hencode, hdata⟩ := h.bytesOf_of_lookup himg
  obtain rfl := Option.some.inj (hbytes.symm.trans hdata)
  exact ⟨img, himg, hencode⟩

theorem sort_keys_eq (h : r.Keeps z c) : c.keys.sort ProgramId.Le = r.held.map (·.1) := by
  have hsorted := held_sorted h.orderly
  have hkeys : (r.held.map (·.1)).toFinset = c.keys := by
    ext id
    rw [List.mem_toFinset, Finmap.mem_keys, List.mem_map]
    constructor
    · rintro ⟨e, he, rfl⟩
      obtain ⟨img, himg, -⟩ := h.lookup_of_mem_held he
      exact Finmap.mem_of_lookup_eq_some himg
    · intro hmem
      obtain ⟨img, himg⟩ := Finmap.mem_iff.1 hmem
      obtain ⟨data, -, hdata⟩ := h.bytesOf_of_lookup himg
      exact ⟨_, (mem_held h.orderly).2 hdata, rfl⟩
  have hnodup : (r.held.map (·.1)).Nodup := by
    refine List.pairwise_map.2 (hsorted.imp ?_)
    rintro e e' hlt heq
    rw [heq] at hlt
    exact Key.lt_irrefl _ hlt
  rw [← hkeys]
  exact (List.toFinset_sort ProgramId.Le hnodup).2
    (List.pairwise_map.2 (hsorted.imp fun hlt => Std.le_of_lt hlt))

/-- The list of a registry is that of the catalogue. -/
theorem list_eq (h : r.Keeps z c) : r.list = .ok (c.entries z) := by
  have hload : ∀ e ∈ r.held, Image.load e.2 = .ok ((c.lookup e.1).getD default) := by
    intro e he
    obtain ⟨img, himg, hencode⟩ := h.lookup_of_mem_held he
    rw [himg, Option.getD_some, Image.load_encode hencode]
  rw [Registry.list_eq h.isOpen hload, Catalogue.entries, h.sort_keys_eq, List.filterMap_map,
    ← List.filterMap_eq_map]
  refine congrArg Except.ok (List.filterMap_congr fun e he => ?_)
  obtain ⟨img, himg, hencode⟩ := h.lookup_of_mem_held he
  have hsize : img.storedSize z = e.2.size := by rw [Image.storedSize, hencode]; rfl
  simp only [Function.comp_apply, himg, Option.map_some, Option.getD_some, hsize]

theorem count_eq (h : r.Keeps z c) : r.count = .ok (UInt64.ofNat c.keys.card) := by
  have hopen := h.isOpen
  have horderly := h.orderly
  cases r with
  | memory m =>
    dsimp only [isClosed, Orderly] at hopen horderly
    have hkeys : (m.programs.map (·.1)).toFinset = c.keys := by
      ext id
      rw [List.mem_toFinset, Finmap.mem_keys, ← decide_eq_true_iff (p := id ∈ c),
        ← h.bytesOf_isSome, bytesOf, List.lookup_isSome_iff]
      simp only [List.mem_map, @eq_comm _ id, beq_iff_eq]
    rw [count, Memory.count, if_neg (Bool.eq_false_iff.1 hopen), ← hkeys,
      List.toFinset_card_of_nodup horderly, List.length_map]
  | keyed k =>
    dsimp only [isClosed] at hopen
    rw [count, Keyed.count, if_neg (Bool.eq_false_iff.1 hopen), horderly.2.2.1]

end Keeps

/-! ### Histories -/

theorem Keeps.restart (h : r.Keeps z c) :
    ∃ r', r.close = .ok r' ∧ r'.reopen.medium = r.medium ∧
      r'.reopen.Keeps z (if r.medium.lasting then c else ∅) := by
  obtain rfl := h.compressor_eq
  have hopen := h.isOpen
  cases r with
  | memory m => exact ⟨_, rfl, rfl, fresh_keeps _ .memory⟩
  | keyed k =>
    dsimp only [isClosed] at hopen
    have hclose : close (keyed k) = .ok (keyed { k with closed := true }) := by
      rw [close, Keyed.close, if_neg (Bool.eq_false_iff.1 hopen), Except.map]
    refine ⟨_, hclose, ?_⟩
    by_cases honDisk : k.onDisk = true
    · have hsame : reopen (keyed { k with closed := true }) = keyed k := by
        have hsaved := h.orderly.2.2.2
        obtain ⟨data, counted, onDisk, closed, compressor⟩ := k
        dsimp only [Keyed.saved] at hopen honDisk hsaved
        subst hopen honDisk
        rw [reopen, Keyed.reopen, if_pos rfl, hsaved]
      rw [hsame, medium, Medium.lasting, if_pos honDisk]
      exact ⟨rfl, h⟩
    · have hempty :
        reopen (keyed { k with closed := true }) = fresh k.compressor (.store k.onDisk) := by
        rw [reopen, Keyed.reopen, if_neg honDisk, fresh, Bool.eq_false_iff.2 honDisk]
      rw [hempty, medium, Medium.lasting, if_neg honDisk]
      exact ⟨rfl, fresh_keeps _ (.store k.onDisk)⟩

/-- A call is answered as by the catalogue, and the registry keeps what the catalogue maps
afterwards. -/
theorem Keeps.ask (h : r.Keeps z c) (call : Call) :
    (r.ask call).1 = (c.ask z r.medium.lasting call).1 ∧ (r.ask call).2.medium = r.medium ∧
      (r.ask call).2.Keeps z (c.ask z r.medium.lasting call).2 := by
  obtain rfl := h.compressor_eq
  cases call with
  | put img =>
    rw [Registry.ask, Catalogue.ask]
    cases hencode : img.encode r.compressor img.compressed with
    | error e =>
      rw [put_eq_error h.isOpen hencode]
      exact ⟨rfl, rfl, h⟩
    | ok data =>
      dsimp only
      by_cases hmem : img.id ∈ c
      · rw [put_of_stored h.isOpen hencode (by rw [h.bytesOf_isSome, decide_eq_true hmem]),
          if_pos hmem]
        exact ⟨rfl, rfl, h⟩
      · obtain ⟨r', hput, hmedium, hkeeps⟩ := h.put_new hencode hmem
        rw [hput, if_neg hmem]
        exact ⟨rfl, hmedium, hkeeps⟩
  | get id =>
    rw [Registry.ask, Catalogue.ask, h.get_eq]
    cases c.lookup id with
    | none => exact ⟨rfl, rfl, h⟩
    | some img => exact ⟨rfl, rfl, h⟩
  | has id =>
    rw [Registry.ask, h.has_eq]
    exact ⟨rfl, rfl, h⟩
  | delete id =>
    obtain ⟨r', hdelete, hmedium, hkeeps, -⟩ := h.delete id
    rw [Registry.ask, hdelete]
    exact ⟨rfl, hmedium, hkeeps⟩
  | list =>
    rw [Registry.ask, h.list_eq]
    exact ⟨rfl, rfl, h⟩
  | count =>
    rw [Registry.ask, h.count_eq]
    exact ⟨rfl, rfl, h⟩
  | restart =>
    obtain ⟨r', hclose, hmedium, hkeeps⟩ := h.restart
    rw [Registry.ask, hclose]
    exact ⟨rfl, hmedium, hkeeps⟩

theorem fresh_keeps_after (z : Image.Compressor) (m : Medium) (calls : List Call) :
    answers ask (fresh z m) calls = answers (Catalogue.ask z m.lasting) ∅ calls ∧
      (after ask (fresh z m) calls).medium = m ∧
      (after ask (fresh z m) calls).Keeps z (after (Catalogue.ask z m.lasting) ∅ calls) := by
  refine answers_eq_of_simulation (R := fun (r : Registry) c => r.medium = m ∧ r.Keeps z c) ?_ ?_
    calls
  · rintro r c call ⟨rfl, h⟩
    exact h.ask call
  · exact ⟨by cases m <;> rfl, fresh_keeps z m⟩

theorem lookup_after {lasting : Bool} {calls : List Call} (hlookup : c.lookup id = some img)
    (hdelete : .delete id ∉ calls) (hrestart : lasting = true ∨ .restart ∉ calls) :
    (after (Catalogue.ask z lasting) c calls).lookup id = some img := by
  induction calls generalizing c with
  | nil => exact hlookup
  | cons call calls ih =>
    rw [List.mem_cons, not_or] at hdelete hrestart
    refine ih ?_ hdelete.2 (hrestart.imp_right And.right)
    exact Catalogue.lookup_ask hlookup (Ne.symm hdelete.1) (hrestart.imp_right fun h => Ne.symm h.1)

theorem card_after_le (z : Image.Compressor) (lasting : Bool) (c : Catalogue) (calls : List Call) :
    (after (Catalogue.ask z lasting) c calls).keys.card ≤ c.keys.card + calls.length := by
  induction calls generalizing c with
  | nil => exact Nat.le_refl _
  | cons call calls ih =>
    have hcall := Catalogue.card_ask_le z lasting c call
    have hcalls := ih (c.ask z lasting call).2
    rw [List.length_cons]
    exact hcalls.trans (by omega)

/-- The image that is put first under an identifier is the one that is read, until the identifier is
removed. -/
theorem get_after_put {m : Medium} {before since : List Call} {data : ByteArray}
    (hencode : img.encode z img.compressed = .ok data)
    (hnew : (after ask (fresh z m) before).has img.id = .ok false)
    (hdelete : .delete img.id ∉ since) (hrestart : m.lasting = true ∨ .restart ∉ since) :
    (after ask (fresh z m) (before ++ .put img :: since)).get img.id = .ok img := by
  obtain ⟨-, -, hbefore⟩ := fresh_keeps_after z m before
  obtain ⟨-, -, hkeeps⟩ := fresh_keeps_after z m (before ++ .put img :: since)
  rw [hbefore.has_eq, Except.ok.injEq, decide_eq_false_iff_not] at hnew
  have hput :
      ((after (Catalogue.ask z m.lasting) ∅ before).ask z m.lasting (.put img)).2.lookup img.id =
      some img := by
    rw [Catalogue.ask, hencode]
    dsimp only
    rw [if_neg hnew, Finmap.lookup_insert]
  have hlookup : (after (Catalogue.ask z m.lasting) ∅ (before ++ .put img :: since)).lookup img.id =
      some img := by
    rw [after_append, after_cons]
    exact lookup_after hput hdelete hrestart
  rw [hkeeps.get_eq, hlookup, Option.elim_some]

/-- A registry that was closed refuses. -/
theorem closed_of_close {r' : Registry} (h : r.close = .ok r') :
    (∀ id, r'.get id = .error .closed ∧ r'.has id = .error .closed ∧
      r'.delete id = .error .closed) ∧
      r'.list = .error .closed ∧ r'.count = .error .closed := by
  cases r with
  | memory m =>
    cases h
    exact ⟨fun _ => ⟨rfl, rfl, rfl⟩, rfl, rfl⟩
  | keyed k =>
    rw [close, Keyed.close] at h
    split at h
    · cases h
    · cases h
      exact ⟨fun _ => ⟨rfl, rfl, rfl⟩, rfl, rfl⟩

/-- A registry is a finite map in which the first image stays. Whatever keeps its programs and
compresses its images, a new registry answers every sequence of calls as the empty catalogue does,
and afterwards

* reads the image that was put first since its identifier was last removed,
* has counted the programs that it keeps, in memory and where it writes the number down,
* lists them in the strict order of their identifiers,
* does not change when an image cannot be encoded or a program that is removed is not there, and
* refuses everything once it is closed. -/
theorem refines_catalogue (z : Image.Compressor) (m : Medium) (calls : List Call) :
    answers ask (fresh z m) calls = answers (Catalogue.ask z m.lasting) ∅ calls ∧
    (∀ before img data since, calls = before ++ .put img :: since →
      img.encode z img.compressed = .ok data → (after ask (fresh z m) before).has img.id =
      .ok false → .delete img.id ∉ since → m.lasting = true ∨ .restart ∉ since →
      (after ask (fresh z m) calls).get img.id = .ok img) ∧
    ∃ c, c = after (Catalogue.ask z m.lasting) ∅ calls ∧
      (∃ n, (after ask (fresh z m) calls).count = .ok n ∧ n = UInt64.ofNat c.keys.card ∧
        (calls.length < UInt64.size → n.toNat = c.keys.card) ∧
        ∀ k, after ask (fresh z m) calls = keyed k → k.counted = n ∧ k.saved = n) ∧
      (∃ es, (after ask (fresh z m) calls).list = .ok es ∧
        (es.Pairwise fun e e' => e.id.bytes < e'.id.bytes) ∧
        ∀ e, e ∈ es ↔ ∃ img, c.lookup e.id = some img ∧
          e = .ofImage e.id img (img.storedSize z)) ∧
      (∀ img e, img.encode z img.compressed = .error e →
        (after ask (fresh z m) calls).put img = .error (.image e) ∧
          after ask (fresh z m) (calls ++ [.put img]) = after ask (fresh z m) calls) ∧
      (∀ id, (after ask (fresh z m) calls).has id = .ok false →
        (after ask (fresh z m) calls).delete id = .ok (after ask (fresh z m) calls)) ∧
      ∃ r', (after ask (fresh z m) calls).close = .ok r' ∧
        (∀ id, r'.get id = .error .closed ∧ r'.has id = .error .closed ∧
          r'.delete id = .error .closed) ∧
        r'.list = .error .closed ∧ r'.count = .error .closed := by
  obtain ⟨hanswers, -, hkeeps⟩ := fresh_keeps_after z m calls
  refine ⟨hanswers, ?_, _, rfl, ?_, ?_, ?_, ?_, ?_⟩
  · rintro before img data since rfl hencode hnew hdelete hrestart
    exact get_after_put hencode hnew hdelete hrestart
  · refine ⟨_, hkeeps.count_eq, rfl, fun hfew => ?_, ?_⟩
    · have hcard := card_after_le z m.lasting ∅ calls
      rw [Finmap.keys_empty, Finset.card_empty, Nat.zero_add] at hcard
      exact UInt64.toNat_ofNat_of_lt' (Nat.lt_of_le_of_lt hcard hfew)
    · intro k hk
      have horderly := hkeeps.orderly
      rw [hk] at horderly
      obtain ⟨-, -, hcounted, hsaved⟩ := horderly
      exact ⟨hcounted, hsaved.trans hcounted⟩
  · exact ⟨_, hkeeps.list_eq, Catalogue.entries_sorted _ _, fun _ => Catalogue.mem_entries⟩
  · intro img e hencode
    rw [← hkeeps.compressor_eq] at hencode
    have hput := put_eq_error hkeeps.isOpen hencode
    refine ⟨hput, ?_⟩
    rw [after_append, after_cons, ask, hput]
    rfl
  · intro id habsent
    rw [hkeeps.has_eq, Except.ok.injEq, decide_eq_false_iff_not] at habsent
    exact delete_of_absent hkeeps.isOpen (hkeeps.bytesOf_eq_none_iff.2 habsent)
  · obtain ⟨r', hclose, -⟩ := hkeeps.restart
    exact ⟨r', hclose, closed_of_close hclose⟩

end Registry

end Lanewise
