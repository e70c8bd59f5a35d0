import Lanewise.Dashboard.Format
import Lanewise.Http.Html
import Lanewise.Registry.Basic
import Lanewise.Run.Store

/-!
# Pages of the dashboard

Every page has the same frame. Text that comes from programs, runs and requests is escaped.

## Main definitions

* `Dashboard.frame`: the frame of a page.
* `Dashboard.overview`, `Dashboard.runsPage`, `Dashboard.runPage`, `Dashboard.programsPage`,
  `Dashboard.programPage`: the pages.
-/

namespace Lanewise.Dashboard

open Html (escape pathPart queryPart)

/-- Lines of a page. -/
def lines (ls : List String) : String :=
  "\n".intercalate ls

/-- A text that is shown under a condition. -/
def showIf (b : Bool) (s : String) : String :=
  if b then s else ""

/-! ### Frame -/

/-- The page that a page of the menu belongs to. -/
inductive Section
  | overview
  | runs
  | programs
deriving DecidableEq, Repr, Inhabited

/-- One entry of the menu. -/
def menuEntry (current : Bool) (href label : String) : String :=
  "                <a href=\"" ++ href ++ "\" class=\"nav-link " ++ showIf current "active" ++
    "\">" ++ label ++ "</a>"

/-- The frame of a page. -/
def frame (s : Section) (content : String) : String :=
  lines [
    "<!DOCTYPE html>",
    "<html lang=\"en\">",
    "<head>",
    "    <meta charset=\"UTF-8\">",
    "    <meta name=\"viewport\" content=\"width=device-width, initial-scale=1.0\">",
    "    <title>lanevm</title>",
    "    <script src=\"https://cdn.tailwindcss.com\"></script>",
    "    <link rel=\"stylesheet\" href=\"/static/style.css\">",
    "</head>",
    "<body class=\"bg-gray-900 text-gray-100 min-h-screen\">",
    "    <nav class=\"bg-gray-800 border-b border-gray-700 sticky top-0 z-50\">",
    "        <div class=\"container mx-auto px-4\">",
    "            <div class=\"flex items-center h-16 space-x-8\">",
    "                <a href=\"/\" class=\"text-xl font-bold text-white\">lanevm</a>",
    menuEntry (s == .overview) "/" "Overview",
    menuEntry (s == .runs) "/runs" "Runs",
    menuEntry (s == .programs) "/programs" "Programs",
    "            </div>",
    "        </div>",
    "    </nav>",
    "",
    "    <main class=\"container mx-auto px-4 py-6\">",
    "        " ++ content,
    "    </main>",
    "",
    "    <footer class=\"bg-gray-800 border-t border-gray-700 mt-8 py-4\">",
    "        <div class=\"container mx-auto px-4 text-center text-gray-400 text-sm\">",
    "            lanevm | <span id=\"current-time\"></span>",
    "        </div>",
    "    </footer>",
    "    <script src=\"/static/app.js\"></script>",
    "</body>",
    "</html>"]

/-- The heading of a page. -/
def heading (text : String) : String :=
  "<h1 class=\"text-2xl font-bold mb-6\">" ++ text ++ "</h1>"

/-! ### Runs -/

/-- One run in a table. -/
def runRow (r : Run.Record) : String :=
  lines [
    "",
    "        <tr class=\"border-t border-gray-700\">",
    "            <td>" ++ toString r.seq.toNat ++ "</td>",
    "            <td class=\"mono\"><a href=\"/runs/" ++ pathPart r.id ++ "\">" ++
      escape (shortened r.id 4) ++ "</a></td>",
    "            <td class=\"mono\"><a href=\"/programs/" ++ pathPart r.program.text ++ "\">" ++
      escape (shortened r.program.text 6) ++ "</a></td>",
    "            <td>" ++ escape r.mode ++ "</td>",
    "            <td>" ++ (if r.lanes = 0 then "-" else toString r.lanes) ++ "</td>",
    "            <td class=\"status-" ++ escape r.status ++ "\">" ++ escape r.status ++ "</td>",
    "            <td>" ++ count r.steps.toInt64 ++ "</td>",
    "            <td>" ++ elapsed r.elapsed ++ "</td>",
    "            <td>" ++ time r.started ++ "</td>",
    "        </tr>",
    "    "]

/-- A table of runs. -/
def runTable (rs : List Run.Record) : String :=
  lines [
    "",
    "<table class=\"w-full text-sm\">",
    "    <thead class=\"text-gray-400 text-left\">",
    "        <tr><th>Seq</th><th>Run</th><th>Program</th><th>Mode</th><th>Lanes</th>" ++
      "<th>Status</th><th>Steps</th><th>Elapsed</th><th>Started</th></tr>",
    "    </thead>",
    "    <tbody>",
    "    " ++ (if rs.isEmpty then lines [
      "",
      "        <tr><td colspan=\"9\" class=\"text-gray-400 py-4\">No runs recorded</td></tr>",
      "    "] else String.join (rs.map runRow)),
    "    </tbody>",
    "</table>",
    ""]

/-- The figures of the overview. -/
structure Overview where
  backend : String
  programs : UInt64 := 0
  /-- Figures about runs, if they can be had. -/
  stats : Option Run.Store.Stats := none
  uptime : Duration := 0
  recent : List Run.Record := []

/-- A figure about runs; zero if there is none. -/
def Overview.figure (o : Overview) (f : Run.Store.Stats → UInt64) : Int64 :=
  ((o.stats.map f).getD 0).toInt64

/-- One figure. -/
def card (label value : String) : String :=
  "    <div class=\"card\"><div class=\"label\">" ++ label ++ "</div><div class=\"value\">" ++
    value ++ "</div></div>"

/-- The share of faults in percent, if there are any runs. -/
def faultRate (s : Run.Store.Stats) : Float :=
  if s.runs = 0 then 0 else 100 * s.faulted.toFloat / s.runs.toFloat

/-- The share of faults, behind a blank; nothing if it is zero. -/
def rateText (s : Run.Store.Stats) : String :=
  let x := faultRate s
  showIf (x != 0) (" (" ++ rate x ++ "%)")

/-- The overview. -/
def overview (o : Overview) : String :=
  lines [
    heading "Overview",
    "<div class=\"grid grid-cols-2 md:grid-cols-4 gap-4 mb-8\">",
    card "Backend" (if o.backend.isEmpty then "none" else escape o.backend),
    card "Programs" (count o.programs.toInt64),
    card "Runs" (count (o.figure (·.runs))),
    card "Faulted" (count (o.figure (·.faulted)) ++ (o.stats.map rateText).getD ""),
    card "Uptime" o.uptime.coarse,
    card "History size" (match o.stats with
      | some s => if s.size = 0 then "-" else size (Int64.ofInt s.size)
      | none => "-"),
    "</div>",
    "<h2 class=\"text-xl font-bold mb-4\">Recent runs</h2>",
    runTable o.recent]

/-- The list of runs, perhaps of one program, and where the next page begins. -/
def runsPage (program : List UInt8) (rs : List Run.Record) (next : Option UInt64) : String :=
  lines [
    heading ("Runs" ++ showIf (!program.isEmpty)
      (" of <span class=\"mono\">" ++ escape (Text.lossy (shortenedBytes program 8)) ++ "</span>")),
    runTable rs,
    "<div class=\"mt-4\">",
    "    " ++ (match next with
      | some n => "<a class=\"btn\" href=\"/runs?before=" ++ toString n.toNat ++
          showIf (!program.isEmpty) ("&program=" ++ queryPart program) ++ "\">Older</a>"
      | none => ""),
    "</div>"]

/-- What the lanes of a run printed, with their numbers. -/
def printedLines (rows : List Run.Row) : String :=
  String.join (rows.mapIdx fun lane row => match row with
    | some (w :: ws) => toString lane ++ ": " ++ Word.joined (w :: ws) ++ "\n"
    | _ => "")

/-- One run. -/
def runPage (r : Run.Record) : String :=
  lines [
    heading ("Run <span class=\"mono\">" ++ escape r.id ++ "</span>"),
    "<dl class=\"detail\">",
    "    <dt>Sequence</dt><dd>" ++ toString r.seq.toNat ++ "</dd>",
    "    <dt>Program</dt><dd class=\"mono\"><a href=\"/programs/" ++ pathPart r.program.text ++
      "\">" ++ escape r.program.text ++ "</a></dd>",
    "    <dt>Mode</dt><dd>" ++ escape r.mode ++ "</dd>",
    "    <dt>Status</dt><dd class=\"status-" ++ escape r.status ++ "\">" ++ escape r.status ++
      "</dd>",
    "    " ++ showIf (!r.platform.isEmpty)
      ("<dt>Platform</dt><dd>" ++ escape r.platform ++ "</dd>"),
    "    " ++ showIf (!r.placement.isEmpty)
      ("<dt>Placement</dt><dd>" ++ escape r.placement ++ "</dd>"),
    "    " ++ showIf (r.lanes != 0)
      ("<dt>Lanes</dt><dd>" ++ toString r.lanes ++ " (group " ++ toString r.groupSize ++ ")</dd>"),
    "    <dt>Started</dt><dd>" ++ time r.started ++ "</dd>",
    "    <dt>Elapsed</dt><dd>" ++ elapsed r.elapsed ++ "</dd>",
    "    <dt>Steps</dt><dd>" ++ toString r.steps.toNat ++ "</dd>",
    "    " ++ showIf (!r.error.isEmpty)
      ("<dt>Error</dt><dd class=\"status-faulted\">" ++ escape r.error ++ "</dd>"),
    "</dl>",
    showIf (!r.printed.isEmpty) (lines [
      "",
      "<h2 class=\"text-xl font-bold mt-6 mb-2\">Printed</h2>",
      "<pre class=\"mono output\">" ++ printedLines r.printed ++ "</pre>",
      ""])]

/-! ### Programs -/

/-- The word for a truth value. -/
def yesNo (b : Bool) : String :=
  if b then "yes" else "no"

/-- One program in a table. -/
def programRow (e : Registry.Entry) : String :=
  lines [
    "",
    "        <tr class=\"border-t border-gray-700\">",
    "            <td class=\"mono\"><a href=\"/programs/" ++ e.id.text ++ "\">" ++ e.id.text ++
      "</a></td>",
    "            <td>" ++ toString e.words ++ "</td>",
    "            <td>" ++ toString e.entry ++ "</td>",
    "            <td>" ++ size (Int64.ofNat e.size) ++ "</td>",
    "            <td>" ++ yesNo e.compressed ++ "</td>",
    "        </tr>",
    "    "]

/-- The list of programs. -/
def programsPage (es : List Registry.Entry) : String :=
  lines [
    heading "Programs",
    "<table class=\"w-full text-sm\">",
    "    <thead class=\"text-gray-400 text-left\">",
    "        <tr><th>ID</th><th>Words</th><th>Entry</th><th>Stored</th><th>Compressed</th></tr>",
    "    </thead>",
    "    <tbody>",
    "    " ++ (if es.isEmpty then lines [
      "",
      "        <tr><td colspan=\"5\" class=\"text-gray-400 py-4\">No programs stored</td></tr>",
      "    "] else String.join (es.map programRow)),
    "    </tbody>",
    "</table>"]

/-- A program with its listing and the number of its runs. -/
structure ProgramDetail where
  id : ProgramId
  words : Nat
  entry : Int
  compressed : Bool
  listing : String
  runs : Nat

/-- The JSON form of a program. -/
def ProgramDetail.json (d : ProgramDetail) : Json :=
  .object [("id", .string d.id.text), ("words", .ofNat d.words), ("entry", .ofInt d.entry),
    ("compressed", .bool d.compressed), ("disassembly", .string d.listing), ("runs", .ofNat d.runs)]

/-- One program. -/
def programPage (d : ProgramDetail) : String :=
  lines [
    heading ("Program <span class=\"mono\">" ++ d.id.text ++ "</span>"),
    "<dl class=\"detail\">",
    "    <dt>Words</dt><dd>" ++ toString d.words ++ "</dd>",
    "    <dt>Entry</dt><dd>" ++ toString d.entry ++ "</dd>",
    "    <dt>Compressed</dt><dd>" ++ yesNo d.compressed ++ "</dd>",
    "    <dt>Runs</dt><dd><a href=\"/runs?program=" ++ d.id.text ++ "\">" ++ toString d.runs ++
      "</a></dd>",
    "</dl>",
    "<h2 class=\"text-xl font-bold mt-6 mb-2\">Listing</h2>",
    "<pre class=\"mono output\">" ++ escape d.listing ++ "</pre>"]

end Lanewise.Dashboard
