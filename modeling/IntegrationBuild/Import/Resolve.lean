import IntegrationBuild.Import.Reference
import IntegrationBuild.Workspace.Basic

/-!
The files that imports lead to.  A dotted name stands for a file of its own or
for a package, a directory with an initial file.
-/

namespace IntegrationBuild

/-- The parts of a dotted name below a directory. -/
def dottedPath (base : Path) (dotted : String) : Path :=
  (Text.splitOn '.' dotted).foldl Path.child base

/-- The file that makes a directory a package. -/
def packageFile (directory : Path) : Path :=
  directory.child "__init__.py"

/-- The file of a module: one of its name, or the initial file of a package.
The root of the file system has no name, so it is no module. -/
def moduleFile? (ws : Workspace) (base : Path) (dotted : String) : Option Path :=
  let target := dottedPath base dotted
  let file := target.withName (target.name ++ ".py")
  if target.parts.isEmpty then none
  else if ws.isFile file then some file
  else if ws.isFile (packageFile target) then some (packageFile target)
  else none

/-- Where a relative import leads: the place it names, the files found, and the
names that lead to none. -/
structure ImportTarget where
  location : Path
  files : List Path := []
  unresolved : List String := []
deriving DecidableEq, Repr, Inhabited

namespace ImportRef

/-- The directory that a relative import starts from: that of the importing
file for one dot, and one further up for each further dot. -/
def base (ref : ImportRef) (importer : Path) : Path :=
  (List.range (ref.level - 1)).foldl (fun path _ => path.parent) importer.parent

/-- Adds what a name of `from . import` leads to: a module of that name, or
else the package itself. -/
def addName (ws : Workspace) (base : Path) (target : ImportTarget) (name : String) :
    ImportTarget :=
  let found := if name == "*" then none else moduleFile? ws base name
  match found with
  | some file => { target with files := target.files ++ [file] }
  | none =>
    let package := packageFile base
    if ws.isFile package then
      if target.files.contains package then target
      else { target with files := target.files ++ [package] }
    else { target with unresolved := target.unresolved ++ [name] }

/-- Where a relative import of a file leads. -/
def resolve (ws : Workspace) (importer : Path) (ref : ImportRef) : ImportTarget :=
  let base := ref.base importer
  if ref.source.isEmpty then ref.names.foldl (addName ws base) { location := base }
  else
    let location := dottedPath base ref.source
    match moduleFile? ws base ref.source with
    | some file => { location := location, files := [file] }
    | none => { location := location, unresolved := [ref.source] }

end ImportRef

end IntegrationBuild
