import IntegrationBuild.Text.Quoted
import IntegrationBuild.Workspace.Basic

/-!
How paths are shown and where compiled scripts are put.  A path is shown
relative to the project root if it lies below it, by its text or, failing that,
once links and `..` are resolved.
-/

namespace IntegrationBuild

/-- The paths that are resolved to show a path relative to a root, one after the
other: none if the path is written below the root. -/
def Path.resolvedToShow (path root : Path) : List Path :=
  if (path.relativeTo? root).isSome then [] else [path, root]

/-- The path of a file relative to a root, or the file's own path.  What is resolved to
show it may not run into a circle of links. -/
def Path.shown (ws : Workspace) (cwd path root : Path) : Path :=
  match path.relativeTo? root with
  | some relative => relative
  | none =>
    match (ws.resolve cwd path).relativeTo? (ws.resolve cwd root) with
    | some relative => relative
    | none => path

/-- The text of a file's path relative to a root. -/
def Path.shownText (ws : Workspace) (cwd path root : Path) : String :=
  (Path.shown ws cwd path root).text

/-- Why a script has no compiled form. -/
inductive LayoutError where
  | outside (source root : Path)
  | unnamed (path : Path)
deriving DecidableEq, Repr

/-- The text of a layout error. -/
def LayoutError.message : LayoutError → String
  | outside source root => source.text ++ " is not inside the project root " ++ root.text
  | unnamed path => path.spelled Text.quoted ++ " has an empty name"

/-- The suffix of compiled scripts. -/
def compiledSuffix : String := ".pyc"

/-- Where a script is compiled to: the output directory has the layout of the
project. -/
def compiledPath (ws : Workspace) (cwd source root out : Path) : Except LayoutError Path :=
  let relative := Path.ofString (Path.shownText ws cwd source root)
  if relative.isAbsolute then .error (.outside source root)
  else
    match relative.withSuffix? compiledSuffix with
    | some path => .ok (out.join path)
    | none => .error (.unnamed relative)

end IntegrationBuild
