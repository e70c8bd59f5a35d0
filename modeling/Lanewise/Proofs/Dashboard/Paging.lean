import Lanewise.Dashboard.Server
import Lanewise.Proofs.Http.Query
import Lanewise.Proofs.Run.Listing
import Lanewise.Proofs.Text.Base58
import Lanewise.Proofs.Text.Integers

/-!
# Paging through runs

A client that wants all runs asks the dashboard for one page after another. Each page that is full
names the number of its last run, and the next page has the runs before that number, so what is left
to show becomes less with every page. The pages together show every run that the client looks for
once, the newest first.

A run that cannot be read back stops the client at the page on which it stands.

## Main definitions

* `Dashboard.Search`: what a client looks for, and its requests.
* `Dashboard.readPage?`: what a client reads off an answer.
* `Dashboard.Browse`: a client that asks for one page after another.

## Main results

* `Dashboard.handle_request`: the answer to a request for a page.
* `Dashboard.nextBefore_of_full`: what is left behind a page.
* `Dashboard.browse_runs`: what a client sees.
-/

namespace Lanewise

/-- A text that names a program consists of digits and letters. -/
theorem ProgramId.safe_of_parse {text : String} {id : ProgramId} (h : parse text = .ok id) :
    text ≠ "" ∧ ∀ c ∈ text.toList, Http.Url.Safe c := by
  unfold parse at h
  split at h
  · cases h
  · next bs hdecode =>
    obtain ⟨hne, hmem⟩ := Base58.mem_alphabet_of_decode hdecode
    have hsafe : ∀ c ∈ Base58.alphabet, Http.Url.Safe c := .of_all (by decide +kernel)
    exact ⟨hne, fun c hc => hsafe c (hmem c hc)⟩

namespace Dashboard

/-! ### Requests -/

/-- What a client looks for: the runs of all programs or of one, so many on a page. -/
structure Search where
  limit : Nat
  /-- The text of the program. -/
  filter : Option String := none

namespace Search

/-- The number of runs on a page is in its range, and the text names a program. -/
structure Valid (q : Search) : Prop where
  limit_pos : 0 < q.limit
  limit_le : q.limit ≤ 1000
  filter_ok : ∀ text ∈ q.filter, ∃ id, ProgramId.parse text = .ok id

/-- The program. -/
def program (q : Search) : Option ProgramId :=
  q.filter.bind fun text => (ProgramId.parse text).toOption

/-- The runs before a number; all runs if the number is zero. -/
def query (q : Search) (before : UInt64) : Run.Store.Query :=
  { program := q.program, limit := q.limit, before }

/-- The parameters of a request for the page that begins before a number. -/
def parameters (q : Search) (before : UInt64) : List (String × String) :=
  ("limit", toString q.limit) :: (if before = 0 then [] else [("before", toString before.toNat)]) ++
    (q.filter.map fun text => ("program", text)).toList

/-- The request for the page that begins before a number. -/
def request (q : Search) (before : UInt64) : Http.Request :=
  { target := Http.Url.target "/api/runs" (q.parameters before) }

end Search

variable {s : Source} {q : Search} {before : UInt64}

theorem safe_of_isDigit {c : Char} (h : c.isDigit = true) : Http.Url.Safe c := by
  obtain ⟨hlow, hhigh⟩ := Numeral.isDigit_iff.1 h
  have hle : c.toNat ≤ 57 := hhigh
  have hge : 48 ≤ c.toNat := hlow
  refine ⟨by omega, fun hmark => ?_⟩
  have hother := (Http.Url.toNat_of_mem_marks hmark).2
  omega

theorem safe_toString (n : Nat) : ∀ c ∈ (toString n).toList, Http.Url.Safe c := fun c hc =>
  safe_of_isDigit ((Numeral.spells_toString n).isDigit c hc)

theorem toString_ne_empty (n : Nat) : toString n ≠ "" := fun h =>
  (Numeral.spells_toString n).ne_nil (by rw [h]; rfl)

theorem Search.Valid.filter_safe (h : q.Valid) {text : String} (htext : q.filter = some text) :
    text ≠ "" ∧ ∀ c ∈ text.toList, Http.Url.Safe c := by
  obtain ⟨id, hid⟩ := h.filter_ok text htext
  exact ProgramId.safe_of_parse hid

theorem Search.Valid.parameters_safe (h : q.Valid) (before : UInt64) :
    ∀ p ∈ q.parameters before,
      (∀ c ∈ p.1.toList, Http.Url.Safe c) ∧ ∀ c ∈ p.2.toList, Http.Url.Safe c := by
  have hlimit : ∀ c ∈ "limit".toList, Http.Url.Safe c := .of_all (by decide)
  have hbefore : ∀ c ∈ "before".toList, Http.Url.Safe c := .of_all (by decide)
  have hprogram : ∀ c ∈ "program".toList, Http.Url.Safe c := .of_all (by decide)
  refine List.forall_mem_cons.2 ⟨⟨hlimit, safe_toString q.limit⟩, List.forall_mem_append.2 ⟨?_, ?_⟩⟩
  · split
    · exact List.forall_mem_nil _
    · exact List.forall_mem_singleton.2 ⟨hbefore, safe_toString before.toNat⟩
  · cases hfilter : q.filter with
    | none => exact List.forall_mem_nil _
    | some text => exact List.forall_mem_singleton.2 ⟨hprogram, (h.filter_safe hfilter).2⟩

theorem number?_toString (n : UInt64) : number? (toString n.toNat) = some n := by
  have hdigits : Numeral.decimalDigits? (toString n.toNat).toList = some n.toNat :=
    Numeral.decimalDigits?_eq_some_iff.2 (Numeral.spells_toString n.toNat)
  have hlt : n.toNat < 0x10000000000000000 := n.toNat_lt
  rw [number?, hdigits, Option.filter_some, if_pos (decide_eq_true hlt), Option.map_some,
    UInt64.ofNat_toNat]

/-- The parameters of a request as they are read. -/
theorem get_request (h : q.Valid) (before : UInt64) :
    let url := Http.Url.ofTarget (q.request before).target
    url.text = "/api/runs" ∧ url.get "limit" = toString q.limit ∧
      url.get "before" = (if before = 0 then "" else toString before.toNat) ∧
      url.get "program" = q.filter.getD "" := by
  have hpath : ∀ c ∈ "/api/runs".toList, Http.Url.Safe c := .of_all (by decide)
  have hget := Http.Url.get_target hpath (h.parameters_safe before)
  refine ⟨Http.Url.text_target hpath (h.parameters_safe before), (hget "limit").trans ?_,
    (hget "before").trans ?_, (hget "program").trans ?_⟩
  · rfl
  · rw [Search.parameters]
    cases q.filter <;> split <;> rfl
  · rw [Search.parameters]
    cases q.filter <;> split <;> rfl

/-- The query of a request whose parameters can be read. An empty text counts as a parameter that is
missing. -/
theorem queryOf_eq_ok {url : Http.Url} {limit : Int} {program : Option ProgramId}
    (hlimit : url.get "limit" ≠ "" ∧
      (Numeral.int64? (url.get "limit").toList).filter (fun n => 0 < n ∧ n ≤ 1000) = some limit)
    (hbefore : url.get "before" = "" ∧ before = 0 ∨
      url.get "before" ≠ "" ∧ number? (url.get "before") = some before)
    (hprogram : url.get "program" = "" ∧ program = none ∨
      url.get "program" ≠ "" ∧ ∃ id, ProgramId.parse (url.get "program") = .ok id ∧
        program = some id) :
    queryOf url = .ok { program, limit, before } := by
  obtain ⟨hgiven, hlimit⟩ := hlimit
  unfold queryOf
  rcases hbefore with ⟨hnone, rfl⟩ | ⟨hsome, hbefore⟩ <;>
    rcases hprogram with ⟨hall, rfl⟩ | ⟨hone, id, hid, rfl⟩
  · simp only [bind, Except.bind, pure, Except.pure, hlimit, hnone, hall]
  · simp only [bind, Except.bind, pure, Except.pure, hlimit, hnone, hid]
  · simp only [bind, Except.bind, pure, Except.pure, hlimit, hbefore, hall]
  · simp only [bind, Except.bind, pure, Except.pure, hlimit, hbefore, hid]

theorem queryOf_request (h : q.Valid) (before : UInt64) :
    queryOf (Http.Url.ofTarget (q.request before).target) = .ok (q.query before) := by
  obtain ⟨-, hlimit, hbefore, hprogram⟩ := get_request h before
  have hpos := h.limit_pos
  have hle := h.limit_le
  have hread : Numeral.int64? (toString q.limit).toList = some (q.limit : Int) :=
    Numeral.int64?_eq_some_iff.2 ⟨Numeral.denotes_toString q.limit, by omega, by omega⟩
  refine queryOf_eq_ok ⟨?_, ?_⟩ ?_ ?_
  · rw [hlimit]
    exact toString_ne_empty q.limit
  · rw [hlimit, hread, Option.filter_some, if_pos (decide_eq_true ⟨by omega, by omega⟩)]
  · rw [hbefore]
    by_cases hzero : before = 0
    · exact .inl ⟨if_pos hzero, hzero⟩
    · rw [if_neg hzero]
      exact .inr ⟨toString_ne_empty before.toNat, number?_toString before⟩
  · rw [hprogram, Search.program]
    cases hfilter : q.filter with
    | none => exact .inl ⟨rfl, rfl⟩
    | some text =>
      obtain ⟨id, hid⟩ := h.filter_ok text hfilter
      exact .inr ⟨(h.filter_safe hfilter).1, id, hid, by rw [Option.bind_some, hid]; rfl⟩

/-- The answer that shows a page of runs. -/
def showPage (limit : Nat) (rs : List Run.Record) : Http.Response :=
  let next := (nextBefore limit rs).getD 0
  .json (.object ([("runs", .array (rs.map Run.Record.json))] ++
    if next = 0 then [] else [("nextBefore", .ofNat next.toNat)]))

/-- The answer to a request for a page. -/
theorem handle_request (s : Source) (h : q.Valid) (before : UInt64) :
    handle s (q.request before) = match s.list (q.query before) with
      | .error e => .jsonError 500 e.message
      | .ok rs => showPage q.limit rs := by
  obtain ⟨htext, -⟩ := get_request h before
  have hpath : (Http.Url.ofTarget (q.request before).target).path = "/api/runs".toUTF8.toList :=
    (Http.Url.ofTarget_target (.of_all (by decide)) (h.parameters_safe before)).1
  have hplace : Http.answeredAt (q.request before) folders "/api/runs".toUTF8.toList =
      "/api/runs".toUTF8.toList := by
    have hmethod : ¬(q.request before).method = "CONNECT" := by
      change ¬"GET" = "CONNECT"
      decide
    rw [Http.answeredAt, if_neg hmethod]
    decide +kernel
  have hstar : ¬(q.request before).target = "*" := by
    intro heq
    have hlength := congrArg (·.toList.length) heq
    rw [Search.request, Http.Url.toList_target, List.length_append, List.length_cons] at hlength
    have hfront : "/api/runs".toList.length = 9 := rfl
    have hone : "*".toList.length = 1 := rfl
    omega
  have hanswer : handle s (q.request before) =
      apiRuns s (Http.Url.ofTarget (q.request before).target) := by
    rw [handle, Http.atCleanPath]
    rw [hpath, hplace, if_neg hstar, if_pos rfl]
    simp only [route, htext]
    exact if_pos rfl
  rw [hanswer, apiRuns, queryOf_request h before]
  rfl

/-! ### Clients -/

/-- The number before which the next page begins. -/
def bound? : Json → Option UInt64
  | .number literal => number? literal
  | _ => none

/-- The runs on a page, and the number before which the next page begins; zero if there is none. -/
def readPage? (r : Http.Response) : Option (List Json × UInt64) :=
  match r.status, r.body with
  | 200, .json j => ((j.get? "runs").bind Json.items?).map fun runs =>
      (runs, ((j.get? "nextBefore").bind bound?).getD 0)
  | _, _ => none

/-- A client that asks for one page after another, from the one that begins before a number. It has
seen these pages when it comes to the last one, or when an answer is no page. -/
inductive Browse (s : Source) (q : Search) :
    (before : UInt64) → (pages : List (List Json)) → (ending : Option Http.Response) → Prop
  | last {before : UInt64} {page : List Json}
      (h : readPage? (handle s (q.request before)) = some (page, 0)) : Browse s q before [page] none
  | more {before next : UInt64} {page : List Json} {pages : List (List Json)}
      {ending : Option Http.Response}
        (h : readPage? (handle s (q.request before)) = some (page, next))
      (hnext : next ≠ 0) (rest : Browse s q next pages ending) :
        Browse s q before (page :: pages) ending
  | stopped {before : UInt64} (h : readPage? (handle s (q.request before)) = none) :
      Browse s q before [] (some (handle s (q.request before)))

/-- What a client sees does not depend on the client. -/
theorem Browse.unique {pages pages' : List (List Json)} {ending ending' : Option Http.Response}
    (h : Browse s q before pages ending) (h' : Browse s q before pages' ending') :
    pages = pages' ∧ ending = ending' := by
  induction h generalizing pages' ending' with
  | last hpage =>
    cases h' with
    | last hpage' =>
      obtain ⟨rfl, -⟩ := Prod.mk.inj (Option.some.inj (hpage.symm.trans hpage'))
      exact ⟨rfl, rfl⟩
    | more hpage' hnext _ =>
      exact absurd (Prod.mk.inj (Option.some.inj (hpage.symm.trans hpage'))).2.symm hnext
    | stopped hpage' => cases hpage.symm.trans hpage'
  | more hpage hnext _ ih =>
    cases h' with
    | last hpage' => exact absurd (Prod.mk.inj (Option.some.inj (hpage.symm.trans hpage'))).2 hnext
    | more hpage' _ rest' =>
      obtain ⟨rfl, rfl⟩ := Prod.mk.inj (Option.some.inj (hpage.symm.trans hpage'))
      obtain ⟨rfl, rfl⟩ := ih rest'
      exact ⟨rfl, rfl⟩
    | stopped hpage' => cases hpage.symm.trans hpage'
  | stopped hpage =>
    cases h' with
    | last hpage' => cases hpage.symm.trans hpage'
    | more hpage' _ _ => cases hpage.symm.trans hpage'
    | stopped _ => exact ⟨rfl, rfl⟩

theorem readPage?_showPage (limit : Nat) (rs : List Run.Record) :
    readPage? (showPage limit rs) =
      some (rs.map Run.Record.json, (nextBefore limit rs).getD 0) := by
  unfold showPage
  generalize (nextBefore limit rs).getD 0 = next
  dsimp only
  by_cases hnext : next = 0
  · rw [if_pos hnext, hnext]
    rfl
  · rw [if_neg hnext]
    change some (rs.map Run.Record.json, (number? (toString next.toNat)).getD 0) = _
    rw [number?_toString]
    rfl

/-! ### What is left behind a page -/

/-- The answer for a page with a run that cannot be read back. -/
def unreadablePage (why : Run.Record.Defect) : Http.Response :=
  .jsonError 500 (Run.Store.Error.unreadable "decode run: " why).message

/-- What a client that wants the given runs sees: all of them, as they are read back and so many on
a page, or the pages in front of the first one with a run that cannot be read back. -/
def Shows (limit : Nat) (rs : List Run.Record) (pages : List (List Json))
    (ending : Option Http.Response) : Prop :=
  match rs.mapM Run.Record.reread with
  | .ok shown =>
    pages.flatten = shown.map Run.Record.json ∧ pages.length = rs.length / limit + 1 ∧ ending = none
  | .error _ =>
    ∃ shown why, (rs.take (pages.length * limit)).mapM Run.Record.reread = .ok shown ∧
      pages.flatten = shown.map Run.Record.json ∧
      ((rs.drop (pages.length * limit)).take limit).mapM Run.Record.reread = .error why ∧
      ending = some (unreadablePage why)

section

variable {limit : Nat} {rs shown : List Run.Record} {pages : List (List Json)}
  {ending : Option Http.Response} {why : Run.Record.Defect}

/-- A page that is not full is the last one. -/
theorem Shows.last (hshort : rs.length < limit) (hshown : rs.mapM Run.Record.reread = .ok shown) :
    Shows limit rs [shown.map Run.Record.json] none := by
  rw [Shows, hshown, Nat.div_eq_of_lt hshort]
  exact ⟨List.flatten_singleton, rfl, rfl⟩

/-- A run that cannot be read back stands on the first page. -/
theorem Shows.stopped (hpage : (rs.take limit).mapM Run.Record.reread = .error why) :
    Shows limit rs [] (some (unreadablePage why)) := by
  have hall : rs.mapM Run.Record.reread = .error why := by
    rw [← List.take_append_drop limit rs, Run.Record.mapM_reread_append, hpage]
  rw [Shows, hall]
  refine ⟨[], why, ?_, rfl, ?_, rfl⟩
  · rw [List.length_nil, Nat.zero_mul, List.take_zero]
    rfl
  · rw [List.length_nil, Nat.zero_mul, List.drop_zero, hpage]

/-- One more page in front. -/
theorem Shows.cons (h : Shows limit (rs.drop limit) pages ending) (hpos : 0 < limit)
    (hfull : (rs.take limit).length = limit)
    (hshown : (rs.take limit).mapM Run.Record.reread = .ok shown) :
    Shows limit rs (shown.map Run.Record.json :: pages) ending := by
  have hle : limit ≤ rs.length := by
    rw [List.length_take] at hfull
    omega
  have hall : rs.mapM Run.Record.reread =
      ((rs.drop limit).mapM Run.Record.reread).map (shown ++ ·) := by
    conv_lhs => rw [← List.take_append_drop limit rs, Run.Record.mapM_reread_append, hshown]
  have hcount : (pages.length + 1) * limit = limit + pages.length * limit := by
    rw [Nat.succ_mul, Nat.add_comm]
  rw [Shows] at h ⊢
  rw [hall]
  cases hrest : (rs.drop limit).mapM Run.Record.reread with
  | ok behind =>
    rw [hrest] at h
    obtain ⟨hpages, hlength, hending⟩ := h
    refine ⟨?_, ?_, hending⟩
    · rw [List.flatten_cons, hpages, List.map_append]
    · rw [List.length_cons, hlength, List.length_drop, ← Nat.div_eq_sub_div hpos hle]
  | error _ =>
    rw [hrest] at h
    obtain ⟨behind, why, hbehind, hpages, hpage, hending⟩ := h
    refine ⟨shown ++ behind, why, ?_, ?_, ?_, hending⟩
    · rw [List.length_cons, hcount, List.take_add, Run.Record.mapM_reread_append, hshown, hbehind]
      rfl
    · rw [List.flatten_cons, hpages, List.map_append]
    · rw [List.length_cons, hcount, ← List.drop_drop, hpage]

/-- Legible runs are all shown as they are. -/
theorem Shows.of_legible (h : Shows limit rs pages ending) (hlegible : ∀ r ∈ rs, r.Legible) :
    pages.flatten = rs.map Run.Record.json ∧ pages.length = rs.length / limit + 1 ∧
      ending = none := by
  rwa [Shows, Run.Record.mapM_reread_of_legible hlegible] at h

/-- The numbers of runs are read back. -/
theorem nextBefore_of_reread (hshown : rs.mapM Run.Record.reread = .ok shown) :
    nextBefore limit shown = nextBefore limit rs := by
  have hseqs : shown.map (·.seq) = rs.map (·.seq) := by
    have hall := Run.Record.forall₂_of_mapM_reread hshown
    clear hshown
    induction hall with
    | nil => rfl
    | cons hr _ ih => rw [List.map_cons, List.map_cons, ih, Run.Record.started_of_reread hr]
  have hlength : shown.length = rs.length := by
    rw [← List.length_map (f := fun r : Run.Record => r.seq), hseqs, List.length_map]
  rw [nextBefore, nextBefore, hlength, ← List.getLast?_map, ← List.getLast?_map, hseqs]

end

/-! ### Page after page -/

variable {store : Run.Store}

/-- A page is shown, unless one of its runs cannot be read back. -/
theorem handle_page (hs : s.runs = some store) (hopen : store.closed = false) (hlists : store.Lists)
    (h : q.Valid) (before : UInt64) :
    handle s (q.request before) =
      match ((store.matching (q.query before)).take q.limit).mapM Run.Record.reread with
      | .ok shown => showPage q.limit shown
      | .error why => unreadablePage why := by
  have hcount : (q.query before).count = q.limit := by
    have hpos : ¬(q.limit : Int) ≤ 0 := by
      have := h.limit_pos
      omega
    exact if_neg hpos
  have hlist : s.list (q.query before) = store.list (q.query before) := by
    rw [Source.list, hs]
  rw [handle_request s h before, hlist, hlists.list_eq hopen, hcount]
  cases ((store.matching (q.query before)).take q.limit).mapM Run.Record.reread <;> rfl

/-- A full page names the number of its last run, and before that number there are the runs that are
left. -/
theorem nextBefore_of_full (hlists : store.Lists) (hnumbers : ∀ r ∈ store.records, r.seq ≠ 0)
    (h : q.Valid) (hfull : ((store.matching (q.query before)).take q.limit).length = q.limit) :
    ∃ next, nextBefore q.limit ((store.matching (q.query before)).take q.limit) = some next ∧
      next ≠ 0 ∧
      store.matching (q.query next) = (store.matching (q.query before)).drop q.limit := by
  have hpos := h.limit_pos
  obtain ⟨r, hlast⟩ : ∃ r, ((store.matching (q.query before)).take q.limit).getLast? = some r :=
    ⟨_, List.getLast?_eq_some_getLast (List.ne_nil_of_length_pos (by omega))⟩
  have hmem := List.mem_of_mem_take (List.mem_of_getLast? hlast)
  have hseq : r.seq ≠ 0 := hnumbers r (List.mem_filter.1 (List.mem_reverse.1 hmem)).1
  refine ⟨r.seq, ?_, hseq, Run.Store.matching_before_last (hlists.descending _) hlast hseq⟩
  rw [nextBefore, if_pos hfull, hlast, Option.map_some]

/-- By induction on the number of runs that are left, which a full page makes less. -/
theorem browse_from (hs : s.runs = some store) (hopen : store.closed = false) (hlists : store.Lists)
    (hnumbers : ∀ r ∈ store.records, r.seq ≠ 0) (h : q.Valid) (before : UInt64) :
    ∃ pages ending, Browse s q before pages ending ∧
      Shows q.limit (store.matching (q.query before)) pages ending := by
  induction hleft : (store.matching (q.query before)).length using Nat.strongRecOn generalizing
    before with
  | ind n ih =>
    have hpos := h.limit_pos
    cases hshown : ((store.matching (q.query before)).take q.limit).mapM Run.Record.reread with
    | ok shown =>
      have hanswer : handle s (q.request before) = showPage q.limit shown := by
        rw [handle_page hs hopen hlists h, hshown]
      have hpage := readPage?_showPage q.limit shown
      rw [← hanswer, nextBefore_of_reread hshown] at hpage
      by_cases hfull : ((store.matching (q.query before)).take q.limit).length = q.limit
      · obtain ⟨next, hnext, hne, hbehind⟩ := nextBefore_of_full hlists hnumbers h hfull
        have hless : (store.matching (q.query next)).length < n := by
          rw [hbehind, List.length_drop, ← hleft]
          rw [List.length_take] at hfull
          omega
        obtain ⟨pages, ending, hbrowse, hshows⟩ := ih _ hless next rfl
        rw [hnext, Option.getD_some] at hpage
        rw [hbehind] at hshows
        exact ⟨_, ending, .more hpage hne hbrowse, hshows.cons hpos hfull hshown⟩
      · rw [nextBefore, if_neg hfull] at hpage
        have hshort : (store.matching (q.query before)).length < q.limit := by
          rw [List.length_take] at hfull
          omega
        rw [List.take_of_length_le (Nat.le_of_lt hshort)] at hshown
        exact ⟨_, none, .last hpage, .last hshort hshown⟩
    | error why =>
      have hanswer : handle s (q.request before) = unreadablePage why := by
        rw [handle_page hs hopen hlists h, hshown]
      have hnone : readPage? (handle s (q.request before)) = none := by
        rw [hanswer]
        rfl
      refine ⟨[], _, .stopped hnone, ?_⟩
      rw [hanswer]
      exact .stopped hshown

/-- After every history of a new store that leaves the greatest number unused, a client that asks
for one page after another comes to an end. It has then seen the runs that it looks for, each once
and in the descending order of their numbers, on as many full pages as they fill and one more;
legible runs are shown as they are stored, others as they are read back. If one of these runs cannot
be read back, the client is stopped at the page on which the first of them stands. If the store is
closed, it is stopped at once. -/
theorem browse_runs {stamp : Nat → Run.Stamp} {size : Int} {events : List Run.Event}
    {j : Run.Journal} {given : List Run.Record}
    (h : Run.Journal.replay { store := { size }, stamp } events = (j, given))
    (hfew : given.length + 1 < UInt64.size) {s : Source} (hs : s.runs = some j.store) {q : Search}
    (hq : q.Valid) :
    ∃ pages ending, Browse s q 0 pages ending ∧
      (∀ pages' ending', Browse s q 0 pages' ending' → pages' = pages ∧ ending' = ending) ∧
      (j.store.matching (q.query 0)).Pairwise (fun r r' => r'.seq < r.seq) ∧
      if j.store.closed then
        pages = [] ∧ ending = some (.jsonError 500 Run.Store.Error.closed.message)
      else
        Shows q.limit (j.store.matching (q.query 0)) pages ending ∧
          ((∀ r ∈ j.store.matching (q.query 0), r.Legible) →
            pages.flatten = (j.store.matching (q.query 0)).map Run.Record.json ∧
              pages.length = (j.store.matching (q.query 0)).length / q.limit + 1 ∧
              ending = none) := by
  have hconsistent := Run.Journal.replay_consistent_from (j := { store := { size }, stamp })
    (Run.Store.Consistent.empty size) events (by rw [h, List.length_nil]; dsimp only; omega)
  rw [h, List.nil_append] at hconsistent
  have hlists := hconsistent.lists hfew
  have hunique : ∀ {pages ending}, Browse s q 0 pages ending →
      ∀ pages' ending', Browse s q 0 pages' ending' → pages' = pages ∧ ending' = ending :=
    fun hbrowse _ _ hbrowse' => hbrowse'.unique hbrowse
  cases hclosed : j.store.closed with
  | true =>
    have hlist : s.list (q.query 0) = .error .closed := by
      rw [Source.list, hs]
      exact (hlists.closed_refuses hclosed).1 _
    have hanswer : handle s (q.request 0) = .jsonError 500 Run.Store.Error.closed.message := by
      rw [handle_request s hq, hlist]
    have hnone : readPage? (handle s (q.request 0)) = none := by
      rw [hanswer]
      rfl
    exact ⟨[], _, .stopped hnone, hunique (.stopped hnone), hlists.descending _, rfl,
      congrArg some hanswer⟩
  | false =>
    obtain ⟨pages, ending, hbrowse, hshows⟩ :=
      browse_from hs hclosed hlists (fun r hr => hconsistent.seq_ne_zero hr) hq 0
    exact ⟨pages, ending, hbrowse, hunique hbrowse, hlists.descending _, hshows, hshows.of_legible⟩

/-- A search for the runs of the first program of all, two on a page. -/
def twoOnPage : Search :=
  { limit := 2, filter := some "11111111111111111111111111111111" }

theorem twoOnPage_valid : twoOnPage.Valid where
  limit_pos := by decide
  limit_le := by decide
  filter_ok := by
    rintro _ ⟨⟩
    exact ⟨.zero, ok_of_toOption_eq (by decide +kernel)⟩

/-- Three of four runs are runs of this program; they stand on two pages. -/
theorem twoPrograms_browse :
    ∃ j given pages,
      Run.Journal.replay { store := {}, stamp := fun _ => default } Run.Journal.twoPrograms =
        (j, given) ∧
      Browse { registry := .memory {}, runs := some j.store } twoOnPage 0 pages none ∧
      pages.length = 2 ∧
      pages.flatten.map (fun run => (run.get? "id").bind Json.string?) =
        [some "d", some "c", some "a"] := by
  have h : Run.Journal.replay { store := {}, stamp := fun _ => default } Run.Journal.twoPrograms =
      (_, _) :=
    (Prod.eta _).symm
  obtain ⟨pages, ending, hbrowse, -, -, hends⟩ := browse_runs h (by decide +kernel)
    (s := { registry := .memory {}, runs := some _ }) rfl twoOnPage_valid
  have hopen : (Run.Journal.replay { store := {}, stamp := fun _ => default }
      Run.Journal.twoPrograms).1.store.closed = false := by decide +kernel
  have hlegible : ∀ r ∈ (Run.Journal.replay { store := {}, stamp := fun _ => default }
      Run.Journal.twoPrograms).1.store.matching (twoOnPage.query 0), r.Legible := by decide +kernel
  have hids : (((Run.Journal.replay { store := {}, stamp := fun _ => default }
      Run.Journal.twoPrograms).1.store.matching (twoOnPage.query 0)).map Run.Record.json).map
        (fun run => (run.get? "id").bind Json.string?) = [some "d", some "c", some "a"] := by
    decide +kernel
  rw [hopen, if_neg Bool.false_ne_true] at hends
  obtain ⟨hpages, hlength, rfl⟩ := hends.2 hlegible
  refine ⟨_, _, pages, h, hbrowse, hlength.trans ?_, by rw [hpages, hids]⟩
  decide +kernel

/-- A run that cannot be read back is the only one, but no page shows it. -/
theorem longRow_browse :
    ∃ r j, Run.Journal.replay { store := {}, stamp := fun _ => default }
      [.put Run.Journal.longRow] =
        (j, [r]) ∧
      j.store.closed = false ∧ j.store.records = [r] ∧
      Browse { registry := .memory {}, runs := some j.store } { limit := 1 } 0 []
        (some (.jsonError 500
          "decode run: cbor: exceeded max number of elements 131072 for CBOR array")) := by
  obtain ⟨r, j, hreplay, hconsistent, hopen, hrecords, -, hreread⟩ := Run.Journal.longRow_stored
  refine ⟨r, j, hreplay, hopen, hrecords, ?_⟩
  have hvalid : Search.Valid { limit := 1 } := ⟨by decide, by decide, nofun⟩
  have hanswer := handle_page (s := { registry := .memory {}, runs := some j.store }) rfl hopen
    (hconsistent.lists (by rw [List.length_singleton]; decide)) hvalid 0
  have hpage : (j.store.matching (Search.query { limit := 1 } 0)).take 1 = [r] := by
    rw [Run.Store.matching, hrecords]
    rfl
  have hdefect : [r].mapM Run.Record.reread = .error .tooMany := by
    rw [Run.Record.mapM_reread_cons, hreread]
  rw [hpage, hdefect] at hanswer
  have hnone : readPage? (handle { registry := .memory {}, runs := some j.store }
      (Search.request { limit := 1 } 0)) = none := by
    rw [hanswer]
    rfl
  have hbrowse := Browse.stopped hnone
  rwa [hanswer] at hbrowse

end Dashboard

end Lanewise
