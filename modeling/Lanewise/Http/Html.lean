import Lanewise.Http.Basic
import Lanewise.Http.Url
import Lanewise.Text.Quoted

/-!
# Text in HTML

Text is escaped in the same way between tags and in quoted attributes. In a link, bytes that could
be misread are first percent-encoded; in the path of a link the marks that structure it are kept, in
its query they are not.

## Main definitions

* `Html.escape`, `Html.pathPart`, `Html.queryPart`: escaped text.
* `Http.redirect`: a response that leads elsewhere.
* `Http.atCleanPath`: the answer at the path where a request is answered.
-/

namespace Lanewise.Html

/-- The escaped form of a character. -/
def escapeChar (c : Char) : String :=
  if c = '<' then "&lt;"
  else if c = '>' then "&gt;"
  else if c = '&' then "&amp;"
  else if c = '"' then "&#34;"
  else if c = Char.ofNat 39 then "&#39;"
  else if c = '+' then "&#43;"
  else if c = Char.ofNat 0 then "\ufffd"
  else String.singleton c

/-- Escaped text. -/
def escape (s : String) : String :=
  s.foldl (fun out c => out ++ escapeChar c) ""

/-- Whether a byte stands for itself in every part of a link. -/
def isPlain (b : UInt8) : Bool :=
  let c := Char.ofNat b.toNat
  c.isAlphanum || c == '-' || c == '.' || c == '_' || c == '~'

/-- Whether a byte structures a link. -/
def isMark (b : UInt8) : Bool :=
  "!#$&*+,/:;=?@[]".toList.contains (Char.ofNat b.toNat)

/-- The percent-encoded form of a byte. -/
def percent (b : UInt8) : List Char :=
  '%' :: Text.hexDigits 2 b.toNat

/-- Percent-encodes bytes; marks and bytes that are already encoded may be kept. -/
def percentEncode (keep : Bool) : List UInt8 → List Char
  | [] => []
  | b :: rest =>
    let kept := isPlain b || (keep && (isMark b || (b == 37 && encodedNext rest)))
    if kept then Char.ofNat b.toNat :: percentEncode keep rest
    else percent b ++ percentEncode keep rest
where
  /-- Whether two hexadecimal digits follow. -/
  encodedNext : List UInt8 → Bool
    | x :: y :: _ => (Http.hexValue? x).isSome && (Http.hexValue? y).isSome
    | _ => false

/-- Text in the path of a link. -/
def pathPart (s : String) : String :=
  escape (String.ofList (percentEncode true s.toUTF8.toList))

/-- Bytes in the query of a link. -/
def queryPart (bs : List UInt8) : String :=
  escape (String.ofList (percentEncode false bs))

end Lanewise.Html

namespace Lanewise.Http

/-- Whether a byte stands for itself in a path that is written from scratch. -/
def isPathByte (b : UInt8) : Bool :=
  Html.isPlain b || "$&+,/:;=@".toList.contains (Char.ofNat b.toNat)

/-- A path in which every other byte is percent-encoded. -/
def writePath (path : List UInt8) : List UInt8 :=
  path.flatMap fun b =>
    if isPathByte b then [b] else (Html.percent b).map fun c => UInt8.ofNat c.toUpper.toNat

/-- A link in which only the bytes outside ASCII are percent-encoded. -/
def asciiLink (bs : List UInt8) : String :=
  String.ofList (bs.flatMap fun b => if b < 128 then [Char.ofNat b.toNat] else Html.percent b)

/-- Leads to another path with the same query. Only a request to get something is told so in a
body. -/
def redirect (r : Request) (path query : List UInt8) : Response :=
  let place := writePath path ++ if query = [63] then [] else query
  let link := (Html.escape (Text.lossy place)).replace "&#43;" "+"
  { status := 301
    headers := [("location", asciiLink place)] ++
      if r.method == "GET" || r.method == "HEAD" then [("content-type", "text/html; charset=utf-8")]
      else []
    body := .text (if r.method == "GET" then
      "<a href=\"" ++ link ++ "\">Moved Permanently</a>.\n\n" else "") }

/-- The path at which a request is answered: without empty parts and parts that lead back, and with
a slash at the end of the name of a folder. A request for a tunnel is taken as it is. -/
def answeredAt (r : Request) (folders : List String) (path : List UInt8) : List UInt8 :=
  let clean := if r.method = "CONNECT" then path else cleanPath path
  if folders.contains (Text.lossy clean) then clean ++ [47] else clean

/-- Answers a request at the path where it is answered, and leads other requests there. Some paths
are names of folders. A request for no path at all is refused. -/
def atCleanPath {α : Type} (r : Request) (folders : List String) (unchanged : α)
    (handle : Url → Response × α) : Response × α :=
  let url := Url.ofTarget r.target
  let place := answeredAt r folders url.path
  if r.target = "*" then ({ status := 400 }, unchanged)
  else if place = url.path then handle url
  else (redirect r place url.query, unchanged)

end Lanewise.Http
