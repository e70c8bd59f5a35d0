import Lanewise.Dashboard.Assets
import Lanewise.Dashboard.Page
import Lanewise.Executor.Basic

/-!
# The dashboard

The dashboard shows the programs and the runs of a server as pages and as JSON. It changes neither.

## Main definitions

* `Dashboard.Config`, `Dashboard.address`: where the dashboard is found.
* `Dashboard.Source`: what it shows.
* `Dashboard.handle`: the answer to a request.
-/

namespace Lanewise.Dashboard

/-- The address of a dashboard; an empty host and a zero port stand for the defaults. -/
def address (host : String) (port : Int) : String :=
  let host := if host.isEmpty then "127.0.0.1" else host
  let port := if port = 0 then 8080 else port
  let host := if host.contains ':' || host.contains '%' then "[" ++ host ++ "]" else host
  host ++ s!":{port}"

/-- What a dashboard shows. -/
structure Source where
  registry : Registry
  runs : Option Run.Store
  backend : String := ""
  uptime : Duration := 0

/-- Runs on a page. -/
def runsPerPage : Nat := 25

/-- Runs on the overview. -/
def recentRuns : Nat := 10

namespace Source

/-- The runs that a query asks for; none if runs are not kept. -/
def list (s : Source) (q : Run.Store.Query) : Except Run.Store.Error (List Run.Record) :=
  match s.runs with
  | none => .ok []
  | some store => store.list q

/-- Figures about runs, if they can be had. -/
def stats? (s : Source) : Option Run.Store.Stats :=
  s.runs.bind fun store => store.stats.toOption

/-- The number of programs; zero if it cannot be had. -/
def programCount (s : Source) : UInt64 :=
  (s.registry.count.toOption).getD 0

end Source

/-- Where the next page begins, if this one is full. -/
def nextBefore (limit : Nat) (rs : List Run.Record) : Option UInt64 :=
  if rs.length = limit then rs.getLast?.map (·.seq) else none

/-! ### Programs -/

/-- Why there is no program to show. -/
inductive DetailError
  | id (e : ProgramId.Error)
  | registry (e : Registry.Error)

/-- The wording of an error. -/
def DetailError.message : DetailError → String
  | id e => e.message
  | registry e => e.message

/-- The program with a given identifier. -/
def detail (s : Source) (text : String) : Except DetailError ProgramDetail := do
  match ProgramId.parse text with
  | .error e => throw (.id e)
  | .ok id =>
    match s.registry.get id with
    | .error e => throw (.registry e)
    | .ok img =>
      let runs := (s.runs.bind fun store => (store.countOf id).toOption).getD 0
      return { id, words := img.program.size, entry := img.entry, compressed := img.compressed
               listing := img.program.listing, runs }

/-! ### Pages -/

/-- The overview. -/
def getOverview (s : Source) : Http.Response :=
  let recent := ((s.list { limit := recentRuns }).toOption).getD []
  .page (frame .overview (overview
    { backend := s.backend, programs := s.programCount, stats := s.stats?, uptime := s.uptime,
      recent }))

/-- An unsigned number in decimal digits. -/
def number? (text : String) : Option UInt64 :=
  ((Numeral.decimalDigits? text.toList).filter (· < 0x10000000000000000)).map UInt64.ofNat

/-- The list of runs. Parameters that make no sense are passed over. -/
def getRuns (s : Source) (url : Http.Url) : Http.Response :=
  let before := (number? (url.get "before")).getD 0
  let program := (ProgramId.parse (url.get "program")).toOption
  match s.list { program, limit := runsPerPage, before } with
  | .error e => .plain 500 e.message
  | .ok rs => .page (frame .runs (runsPage (url.bytes "program") rs (nextBefore runsPerPage rs)))

/-- One run. -/
def getRun (s : Source) (id : String) : Http.Response :=
  match s.runs with
  | none => .notFound
  | some store =>
    if id.isEmpty then .notFound
    else match store.find id with
      | .ok r => .page (frame .runs (runPage r))
      | .error .notFound => .notFound
      | .error e => .plain 500 e.message

/-- The list of programs. -/
def getPrograms (s : Source) : Http.Response :=
  match s.registry.list with
  | .ok es => .page (frame .programs (programsPage es))
  | .error e => .plain 500 e.message

/-- One program. -/
def getProgram (s : Source) (id : String) : Http.Response :=
  match detail s id with
  | .ok d => .page (frame .programs (programPage d))
  | .error (.registry .notFound) | .error (.id .length) => .notFound
  | .error e => .plain 400 e.message

/-- A static file. -/
def getStatic (name : String) : Http.Response :=
  match asset? name with
  | some (text, type) =>
    { headers := [("content-type", type), ("cache-control", "public, max-age=86400")]
      body := .text text }
  | none => .notFound

/-! ### JSON -/

/-- The figures of the overview. -/
def apiStatus (s : Source) : Http.Response :=
  let stats := s.stats?
  let figure (f : Run.Store.Stats → UInt64) : Json := .ofNat ((stats.map f).getD 0).toNat
  .json (.object (
    (if s.backend.isEmpty then [] else [("backend", .string s.backend)]) ++
    [("uptime", .string s.uptime.coarse), ("uptimeSeconds", .ofNat 0),
      ("programs", .ofNat s.programCount.toNat), ("runs", figure (·.runs)),
      ("faulted", figure (·.faulted)), ("latestSeq", figure (·.latest))]))

/-- The query in the parameters of a request, or what is wrong with them. -/
def queryOf (url : Http.Url) : Except String Run.Store.Query := do
  let limit ← match url.get "limit" with
    | "" => pure (runsPerPage : Int)
    | text =>
      match (Numeral.int64? text.toList).filter fun n => 0 < n ∧ n ≤ 1000 with
      | some n => pure n
      | none => throw "Invalid limit"
  let before ← match url.get "before" with
    | "" => pure 0
    | text =>
      match number? text with
      | some n => pure n
      | none => throw "Invalid before"
  let program ← match url.get "program" with
    | "" => pure none
    | text =>
      match ProgramId.parse text with
      | .ok id => pure (some id)
      | .error _ => throw "Invalid program id"
  return { program, limit, before }

/-- A page of runs, with the number before which the next page begins. -/
def apiRuns (s : Source) (url : Http.Url) : Http.Response :=
  match queryOf url with
  | .error e => .jsonError 400 e
  | .ok q =>
    match s.list q with
    | .error e => .jsonError 500 e.message
    | .ok rs =>
      let next := (nextBefore q.limit.toNat rs).getD 0
      .json (.object ([("runs", .array (rs.map Run.Record.json))] ++
        if next = 0 then [] else [("nextBefore", .ofNat next.toNat)]))

/-- One run. -/
def apiRun (s : Source) (id : String) : Http.Response :=
  match s.runs with
  | none => .jsonError 404 "Run not found"
  | some store =>
    match store.find id with
    | .ok r => .json r.json
    | .error .notFound => .jsonError 404 "Run not found"
    | .error e => .jsonError 500 e.message

/-- The list of programs. -/
def apiPrograms (s : Source) : Http.Response :=
  match s.registry.list with
  | .ok es => .json (.array (es.map Registry.Entry.json))
  | .error e => .jsonError 500 e.message

/-- One program. -/
def apiProgram (s : Source) (id : String) : Http.Response :=
  match detail s id with
  | .ok d => .json d.json
  | .error (.registry .notFound) => .jsonError 404 "Program not found"
  | .error _ => .jsonError 400 "Invalid program id"

/-- Figures about the process. The process does not measure itself, so most of them are zero. -/
def apiMetrics (s : Source) : Http.Response :=
  let size := (s.stats?.map (·.size)).getD 0
  .json (.object ([("memAlloc", .ofNat 0), ("memTotalAlloc", .ofNat 0), ("memSys", .ofNat 0),
    ("memHeapInuse", .ofNat 0), ("numGC", .ofNat 0), ("numGoroutine", .ofNat 0),
    ("numCPU", .ofNat 0), ("goVersion", .string ""), ("databaseSize", .ofInt size),
    ("uptimeSeconds", .ofNat 0)]))

/-! ### Requests -/

/-- A JSON answer, which only a request to get something is given. -/
def getOnly (r : Http.Request) (answer : Http.Response) : Http.Response :=
  if r.method = "GET" then answer else .jsonError 405 "Method not allowed"

/-- The text behind the front of a path, if the path has that front. -/
def behind? (path front : String) : Option String :=
  (path.dropPrefix? front).map (·.toString)

/-- Answers a request for something below a folder. -/
def routeBelow (s : Source) (r : Http.Request) (path : String) : Http.Response :=
  if let some name := behind? path "/static/" then getStatic name
  else if let some id := behind? path "/runs/" then getRun s id
  else if let some id := behind? path "/programs/" then getProgram s id
  else if let some id := behind? path "/api/runs/" then getOnly r (apiRun s id)
  else if let some id := behind? path "/api/programs/" then getOnly r (apiProgram s id)
  else .notFound

/-- Answers a request for a path. -/
def route (s : Source) (r : Http.Request) (url : Http.Url) : Http.Response :=
  match url.text with
  | "/" => getOverview s
  | "/runs" => getRuns s url
  | "/programs" => getPrograms s
  | "/api/status" => getOnly r (apiStatus s)
  | "/api/runs" => getOnly r (apiRuns s url)
  | "/api/programs" => getOnly r (apiPrograms s)
  | "/api/metrics" => getOnly r (apiMetrics s)
  | path => routeBelow s r path

/-- The paths that only have something below them. -/
def folders : List String := ["/static"]

/-- Answers a request. -/
def handle (s : Source) (r : Http.Request) : Http.Response :=
  (Http.atCleanPath r folders () fun url => (route s r url, ())).1

end Lanewise.Dashboard
