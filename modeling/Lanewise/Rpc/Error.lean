import Lanewise.Json.Number

/-!
# Errors of remote procedure calls

## Main definitions

* `Rpc.Error`: a number, a text, and data that may go with them.
* `Rpc.Error.text`, `Rpc.Error.json`: their forms.
-/

namespace Lanewise.Rpc

/-- The answer to a call that failed. -/
structure Error where
  code : Int
  message : String
  data : Json := .null
deriving Repr, Inhabited

mutual

/-- A value without quotes and commas: lists in brackets, members as names and values. -/
def plain : Json → String
  | .null => "<nil>"
  | .bool b => if b then "true" else "false"
  | .number l => ((Json.float? l).map (Decimal.Layout.float ⟨-4, 21, 2⟩)).getD l
  | .string s => s
  | .array xs => "[" ++ " ".intercalate (plainItems xs) ++ "]"
  | .object ms =>
    let sorted := (plainMembers ms).mergeSort fun a b => decide (a.1 ≤ b.1)
    "map[" ++ " ".intercalate (sorted.map fun m => m.1 ++ ":" ++ m.2) ++ "]"

/-- The items of an array. -/
def plainItems : List Json → List String
  | [] => []
  | x :: xs => plain x :: plainItems xs

/-- The members of an object; of several with one name the last is kept. -/
def plainMembers : List (String × Json) → List (String × String)
  | [] => []
  | (name, v) :: ms =>
    let rest := plainMembers ms
    if rest.any (·.1 == name) then rest else (name, plain v) :: rest

end

namespace Error

/-- The error in one line. -/
def text (e : Error) : String :=
  let core := s!"RPC error {e.code}: " ++ e.message
  match e.data with
  | .null => core
  | d => core ++ " (data: " ++ plain d ++ ")"

/-- The JSON form of an error. -/
def json (e : Error) : Json :=
  .object ([("code", .ofInt e.code), ("message", .string e.message)] ++
    match e.data with
    | .null => []
    | d => [("data", d)])

/-- The request is not JSON. -/
def parse : Error := ⟨-32700, "Parse error", .null⟩

/-- The request is no call. -/
def invalidRequest : Error := ⟨-32600, "Invalid Request", .null⟩

/-- The request is longer than the server accepts. -/
def tooLarge : Error := ⟨-32600, "Request too large", .null⟩

/-- There is no such method. -/
def methodNotFound (name : String) : Error := ⟨-32601, "Method not found: " ++ name, .null⟩

/-- The parameters do not fit the method. -/
def invalidParams (why : String) : Error := ⟨-32602, why, .null⟩

/-- The server failed. -/
def internal (why : String) : Error := ⟨-32603, why, .null⟩

/-- No program has the identifier. -/
def programNotFound (id : String) : Error :=
  ⟨-32001, "Program " ++ id ++ " not found", .object [("program", .string id)]⟩

/-- No run has the identifier. -/
def runNotFound (id : String) : Error :=
  ⟨-32002, "Run " ++ id ++ " not found", .object [("run", .string id)]⟩

/-- There is no device that could run the program. -/
def backendUnavailable (why : String) : Error := ⟨-32003, "Backend unavailable: " ++ why, .null⟩

/-- The program cannot be read. -/
def programRejected (why : String) : Error := ⟨-32004, "Program rejected: " ++ why, .null⟩

/-- The server has been declared unhealthy. -/
def unhealthy : Error := ⟨-32005, "Node is unhealthy", .null⟩

end Error

end Lanewise.Rpc
