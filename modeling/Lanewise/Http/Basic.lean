import Lanewise.Json.Basic

/-!
# HTTP requests and responses

## Main definitions

* `Http.Request`, `Http.Response`: one exchange.
* `Http.Response.plain`, `Http.Response.json`: responses with a body.
-/

namespace Lanewise.Http

/-- A request. Header fields that are missing are empty. -/
structure Request where
  method : String := "GET"
  /-- The path and the query as they were sent. -/
  target : String := "/"
  contentType : String := ""
  origin : String := ""
  body : List UInt8 := []
deriving Repr, Inhabited

/-- What a response carries. -/
inductive Body
  | text (s : String)
  | json (j : Json)
deriving Repr, Inhabited

/-- A response. -/
structure Response where
  status : Nat := 200
  headers : List (String × String) := []
  body : Body := .text ""
deriving Repr, Inhabited

namespace Response

/-- A plain text in one line. -/
def plain (status : Nat) (text : String) : Response :=
  { status, headers := [("content-type", "text/plain; charset=utf-8")],
    body := .text (text ++ "\n") }

/-- Nothing is found at the path. -/
def notFound : Response :=
  plain 404 "404 page not found"

/-- A JSON value. -/
def json (j : Json) (status : Nat := 200) : Response :=
  { status, headers := [("content-type", "application/json")], body := .json j }

/-- A JSON object that holds an error text. -/
def jsonError (status : Nat) (message : String) : Response :=
  json (.object [("error", .string message)]) status

/-- A page. -/
def page (html : String) : Response :=
  { headers := [("content-type", "text/html; charset=utf-8")], body := .text html }

end Response

end Lanewise.Http
