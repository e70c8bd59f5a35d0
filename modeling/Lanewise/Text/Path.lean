import Lanewise.Text.Case

/-!
# Paths of files

Parts of a path are separated by slashes.

## Main definitions

* `Path.clean`: the shortest path that leads to the same place.
* `Path.join`: a path below another.
* `Path.extension`, `Path.parent`: parts of a path.
-/

namespace Lanewise.Path

/-- Follows the parts of a path. The parts done so far are in reverse; a path that does not start at
the root may lead back beyond its start. -/
def follow (rooted : Bool) (done : List String) : List String → List String
  | [] => done.reverse
  | p :: rest =>
    if p = "" ∨ p = "." then follow rooted done rest
    else if p = ".." then
      match done with
      | [] => follow rooted (if rooted then [] else [".."]) rest
      | d :: ds => follow rooted (if d = ".." then ".." :: done else ds) rest
    else follow rooted (p :: done) rest

/-- The shortest path that leads to the same place. -/
def clean (path : String) : String :=
  let rooted := path.startsWith "/"
  let body := "/".intercalate (follow rooted [] (path.splitOn "/"))
  if rooted then "/" ++ body else if body = "" then "." else body

/-- The path of something below a directory. -/
def join (dir name : String) : String :=
  if dir = "" then (if name = "" then "" else clean name) else clean (dir ++ "/" ++ name)

/-- The extension of the last part of a path, with its dot and in lower case. -/
def extension (path : String) : String :=
  let name := path.toList.reverse.takeWhile (· ≠ '/')
  match name.span (· ≠ '.') with
  | (_, []) => ""
  | (ext, _) => Text.lower (String.ofList ('.' :: ext.reverse))

/-- The directory that a path lies in. -/
def parent (path : String) : String :=
  clean (String.ofList (path.toList.reverse.dropWhile (· ≠ '/')).reverse)

end Lanewise.Path
