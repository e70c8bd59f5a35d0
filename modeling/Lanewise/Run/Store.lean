import Lanewise.Run.Record
import Lanewise.Store.Bucket

/-!
# The run store

Records are numbered in the order in which they are stored and kept under their numbers, with two
indexes: from the identifier of a run to its number, and from programs to the numbers of their runs.
The greatest number ever given, the number of records and the number of faults among them are kept
in memory and on disk.

## Main definitions

* `Run.seqKey`, `Run.programKey`: the keys of the buckets.
* `Run.Store`: the buckets and the counters.
* `Run.Store.insert`, `Run.Store.find`, `Run.Store.list`, `Run.Store.prune`, `Run.Store.stats`.
* `Run.Journal`: a store with a source of identifiers and times for new records.
-/

namespace Lanewise.Run

/-! ### Keys -/

/-- The key of a number: its eight bytes, the most significant first. -/
def seqKey (n : UInt64) : Key :=
  [(n >>> 56).toUInt8, (n >>> 48).toUInt8, (n >>> 40).toUInt8, (n >>> 32).toUInt8,
    (n >>> 24).toUInt8, (n >>> 16).toUInt8, (n >>> 8).toUInt8, n.toUInt8]

/-- The number at the end of a key; a key that is too short has the number zero. -/
def seqOf (k : Key) : UInt64 :=
  if k.length < 8 then 0
  else (k.drop (k.length - 8)).foldl (fun n b => n * 256 + b.toUInt64) 0

/-- The key of a run of a program. -/
def programKey (id : ProgramId) (n : UInt64) : Key :=
  id.bytes ++ seqKey n

/-- The key of the identifier of a run. -/
def idKey (id : String) : Key :=
  id.toUTF8.toList

/-- The greatest length of a key. -/
def maxKeyLength : Nat := 32768

/-! ### The store -/

/-- What is counted. -/
structure Counters where
  /-- The greatest number ever given to a record. -/
  latest : UInt64 := 0
  /-- The number of records. -/
  runs : UInt64 := 0
  /-- The number of faults among them. -/
  faulted : UInt64 := 0
deriving DecidableEq, Repr, Inhabited

/-- The records of runs. -/
structure Store where
  /-- Records by number. -/
  runs : Bucket Record := {}
  /-- The keys of numbers by identifier. -/
  ids : Bucket Key := {}
  /-- The runs of each program. -/
  byProgram : Bucket Unit := {}
  /-- The counters on disk. -/
  saved : Counters := {}
  /-- The counters in memory. -/
  cached : Counters := {}
  /-- The size of the file, in bytes. -/
  size : Int := 0
  closed : Bool := false
deriving Inhabited

namespace Store

/-- Why the store refuses. -/
inductive Error
  | closed
  | notFound
  | duplicate (id : String)
  | keyTooLong
  /-- A stored record cannot be read back; what the store was doing comes first. -/
  | unreadable (doing : String) (why : Record.Defect)
deriving DecidableEq, Repr

/-- The wording of an error. -/
def Error.message : Error → String
  | closed => "run store closed"
  | notFound => "run not found"
  | duplicate id => "run " ++ id ++ " already stored"
  | keyTooLong => "key too large"
  | unreadable doing why => doing ++ why.message

/-- The counters after a record has been stored. -/
def Counters.after (c : Counters) (r : Record) : Counters :=
  { latest := r.seq, runs := c.runs + 1, faulted := if r.isFault then c.faulted + 1 else c.faulted }

/-- Stores a record under the next number. -/
def insert (s : Store) (r : Record) : Except Error (Record × Store) :=
  if s.closed then .error .closed
  else
    let r := { r with seq := s.cached.latest + 1 }
    if s.ids.contains (idKey r.id) then .error (.duplicate r.id)
    else if maxKeyLength < (idKey r.id).length then .error .keyTooLong
    else
      let counters := Counters.after s.cached r
      .ok (r, { s with
        runs := s.runs.put (seqKey r.seq) r
        ids := s.ids.put (idKey r.id) (seqKey r.seq)
        byProgram := s.byProgram.put (programKey r.program r.seq) ()
        saved := counters
        cached := counters })

/-- The record with a given identifier. -/
def find (s : Store) (id : String) : Except Error Record :=
  if s.closed then .error .closed
  else match (s.ids.get? (idKey id)).bind s.runs.get? with
    | some r => r.reread.mapError (.unreadable "")
    | none => .error .notFound

/-- The number of records in a list that leaves it open. -/
def defaultLimit : Nat := 100

/-- Which records to list. -/
structure Query where
  program : Option ProgramId := none
  /-- The greatest number of records; the default unless it is positive. -/
  limit : Int := 0
  /-- Only records with smaller numbers, unless it is zero. -/
  before : UInt64 := 0
deriving Repr, Inhabited

/-- The number of records that a query asks for. -/
def Query.count (q : Query) : Nat :=
  if q.limit ≤ 0 then defaultLimit else q.limit.toNat

/-- The records of a program with numbers below a bound, the newest first. -/
def ofProgram (s : Store) (id : ProgramId) (before : UInt64) : List Record :=
  let bound := id.bytes ++ if before = 0 then List.replicate 8 255 else seqKey before
  ((s.byProgram.below bound).takeWhile (·.1.startsWith id.bytes)).filterMap fun e =>
    s.runs.get? (seqKey (seqOf e.1))

/-- All records with numbers below a bound, the newest first. -/
def newest (s : Store) (before : UInt64) : List Record :=
  ((if before = 0 then s.runs.descending else s.runs.below (seqKey before))).map (·.2)

/-- The records that a query asks for, the newest first. -/
def list (s : Store) (q : Query) : Except Error (List Record) :=
  if s.closed then .error .closed
  else
    let all := match q.program with
      | some id => s.ofProgram id q.before
      | none => s.newest q.before
    ((all.take q.count).mapM Record.reread).mapError (.unreadable "decode run: ")

/-- The number of stored runs of a program. -/
def countOf (s : Store) (id : ProgramId) : Except Error Nat :=
  if s.closed then .error .closed
  else .ok (s.byProgram.startingWith id.bytes).length

/-- Removes a record and its entries in the indexes. The counters on disk follow at the end. -/
def remove (s : Store) (e : Key × Record) : Store :=
  { s with
    runs := s.runs.erase e.1
    ids := s.ids.erase (idKey e.2.id)
    byProgram := s.byProgram.erase (programKey e.2.program e.2.seq)
    cached := { s.cached with
      runs := s.cached.runs - 1
      faulted := if e.2.isFault then s.cached.faulted - 1 else s.cached.faulted } }

/-- Removes all but the newest records, and returns how many were removed. A record is read before
it is removed, and if one cannot be read, all are kept. -/
def prune (s : Store) (keep : UInt64) : Except Error (UInt64 × Store) :=
  if s.closed then .error .closed
  else if s.cached.runs ≤ keep then .ok (0, s)
  else
    let victims := s.runs.entries.take (s.cached.runs - keep).toNat
    match victims.findSome? fun e => e.2.defect?.map (e.1, ·) with
    | some (key, why) => .error (.unreadable ("decode run " ++ toString (seqOf key) ++ ": ") why)
    | none =>
      let s := victims.foldl remove s
      .ok (UInt64.ofNat victims.length,
        { s with saved := { s.cached with latest := s.saved.latest } })

/-- Figures about the store. -/
structure Stats where
  runs : UInt64
  faulted : UInt64
  /-- The least number of a record; zero if there is none. -/
  oldest : UInt64
  latest : UInt64
  size : Int
deriving DecidableEq, Repr, Inhabited

/-- The JSON form of the figures. -/
def Stats.json (s : Stats) : Json :=
  .object [("runs", .ofNat s.runs.toNat), ("faulted", .ofNat s.faulted.toNat),
    ("oldestSeq", .ofNat s.oldest.toNat), ("latestSeq", .ofNat s.latest.toNat),
    ("databaseSize", .ofInt s.size)]

/-- Figures about the store. -/
def stats (s : Store) : Except Error Stats :=
  if s.closed then .error .closed
  else .ok {
    runs := s.cached.runs, faulted := s.cached.faulted, latest := s.cached.latest, size := s.size
    oldest := (s.runs.entries.head?.map fun e => seqOf e.1).getD 0 }

/-- Refuses if the store has been closed. -/
def checkOpen (s : Store) : Except Error Unit :=
  if s.closed then .error .closed else .ok ()

/-- Closes the store. -/
def close (s : Store) : Except Error Store :=
  if s.closed then .error .closed else .ok { s with closed := true }

/-- Opens the file of the store again; the counters are read from it. -/
def reopen (s : Store) : Store :=
  { s with cached := s.saved, closed := false }

end Store

/-! ### The journal -/

/-- An identifier and a time for a new record. -/
structure Stamp where
  id : String
  time : Timestamp
  shown : time.Shown

instance : Inhabited Stamp := ⟨"", .zero, Timestamp.zero_shown⟩

/-- A store, with the stamps for records that come without identifier or time. -/
structure Journal where
  store : Store
  /-- The stamp of the record that is stored at a given attempt. -/
  stamp : Nat → Stamp
  /-- The number of attempts so far. -/
  attempts : Nat := 0

namespace Journal

/-- A record with the parts of a stamp that it lacks. -/
def stamped (r : Record) (s : Stamp) : Record :=
  { r with
    id := if r.id.isEmpty then s.id else r.id
    started := if r.started.isZero then s.time else r.started }

/-- Stores a record; every attempt uses up a stamp. -/
def insert (j : Journal) (r : Record) : Except Store.Error Record × Journal :=
  let attempts := j.attempts + 1
  match j.store.insert (stamped r (j.stamp attempts)) with
  | .ok (r, store) => (.ok r, { j with store, attempts })
  | .error e => (.error e, { j with attempts })

end Journal

end Lanewise.Run
