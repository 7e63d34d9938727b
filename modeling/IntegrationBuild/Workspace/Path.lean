import IntegrationBuild.Text.Split

/-!
Paths.  A path is absolute or relative and has named parts; empty parts and
single dots are dropped when a path is read, while `..` stays, because it can
be resolved only against a file system.
-/

namespace IntegrationBuild

/-- A path: its root (empty, one slash or two) and its parts. -/
structure Path where
  root : String := ""
  parts : List String := []
deriving DecidableEq, Repr, Inhabited

namespace Path

/-- The parts of a text between slashes, without empty ones and dots. -/
def partsOf (text : String) : List String :=
  (Text.splitOn '/' text).filter fun part => part != "" && part != "."

/-- The root of a text: exactly two leading slashes are kept. -/
def rootOf (text : String) : String :=
  match text.toList with
  | '/' :: '/' :: '/' :: _ => "/"
  | '/' :: '/' :: _ => "//"
  | '/' :: _ => "/"
  | _ => ""

/-- Reads a path. -/
def ofString (text : String) : Path :=
  { root := rootOf text, parts := partsOf text }

/-- An absolute path with the given parts. -/
def absolute (parts : List String) : Path :=
  { root := "/", parts := parts }

/-- Whether the path is absolute. -/
def isAbsolute (path : Path) : Bool :=
  path.root != ""

/-- The text of a path; the empty relative path is a dot. -/
def text (path : Path) : String :=
  if path.root == "" && path.parts.isEmpty then "."
  else path.root ++ String.intercalate "/" path.parts

/-- One path below another; an absolute one stands for itself. -/
def join (path other : Path) : Path :=
  if other.isAbsolute then other else { path with parts := path.parts ++ other.parts }

/-- The path of a text below another path. -/
def child (path : Path) (text : String) : Path :=
  path.join (ofString text)

/-- The path without its last part. -/
def parent (path : Path) : Path :=
  { path with parts := path.parts.dropLast }

/-- The last part. -/
def name (path : Path) : String :=
  path.parts.getLast?.getD ""

/-- Cuts a name at its last dot, unless the dot is the first or the last
character. -/
def splitName (name : String) : String × String :=
  let reversed := name.toList.reverse
  let suffix := reversed.takeWhile (· != '.')
  match reversed.dropWhile (· != '.') with
  | '.' :: stem =>
    if stem.isEmpty || suffix.isEmpty then (name, "")
    else (String.ofList stem.reverse, String.ofList ('.' :: suffix.reverse))
  | _ => (name, "")

/-- The last part without its suffix. -/
def stem (path : Path) : String :=
  (splitName path.name).1

/-- The suffix of the last part, with its dot. -/
def suffix (path : Path) : String :=
  (splitName path.name).2

/-- The same path with another last part. -/
def withName (path : Path) (name : String) : Path :=
  { path with parts := path.parts.dropLast ++ [name] }

/-- The same path with another suffix, or nothing when it has no last part. -/
def withSuffix? (path : Path) (suffix : String) : Option Path :=
  if path.parts.isEmpty then none else some (path.withName (path.stem ++ suffix))

/-- All parts, the root counted as the first. -/
def allParts (path : Path) : List String :=
  if path.isAbsolute then path.root :: path.parts else path.parts

/-- The path relative to a base that it begins with. -/
def relativeTo? (path base : Path) : Option Path :=
  if path.root == base.root && base.parts.isPrefixOf path.parts then
    some { parts := path.parts.drop base.parts.length }
  else none

/-- The parts without any `..`, each of which removes the part before it. -/
def normalParts (parts : List String) : List String :=
  parts.foldl (fun done part => if part == ".." then done.dropLast else done ++ [part]) []

/-- An absolute path without any `..`, found by its text alone. -/
def normalized (path : Path) : Path :=
  .absolute (normalParts path.parts)

/-- How a path is spelled in a message about the path itself. -/
def spelled (path : Path) (quote : String → String) : String :=
  "PosixPath(" ++ quote path.text ++ ")"

end Path

end IntegrationBuild
