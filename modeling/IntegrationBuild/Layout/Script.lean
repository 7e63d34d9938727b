import IntegrationBuild.Ignore.Matcher
import IntegrationBuild.Project.Basic

/-!
Where the scripts of a project are.  The script of an operation lies in the
folder of its integration or, failing that, at the project root.
-/

namespace IntegrationBuild

/-- The suffix of scripts. -/
def scriptSuffix : String := ".py"

/-- The place of a script in the folder of its integration. -/
def Operation.nestedPath (operation : Operation) (root : Path) : Path :=
  ((root.child operation.integration).child operation.folder).child
    (operation.name ++ scriptSuffix)

/-- The place of a script at the project root. -/
def Operation.flatPath (operation : Operation) (root : Path) : Path :=
  root.child (operation.name ++ scriptSuffix)

/-- Where the script of an operation is, or would be.  Relative imports of the
script stay within `boundary`. -/
structure ScriptLocation where
  operation : Operation
  path : Path
  boundary : Path
  nested : Bool

/-- Whether the script is there. -/
def ScriptLocation.isThere (location : ScriptLocation) (ws : Workspace) : Bool :=
  ws.isFile location.path

/-- Finds the script of an operation; the integration's folder comes first. -/
def Operation.locate (operation : Operation) (ws : Workspace) (root : Path) : ScriptLocation :=
  if ws.isFile (operation.nestedPath root) then
    { operation := operation
      path := operation.nestedPath root
      boundary := root.child operation.integration
      nested := true }
  else
    { operation := operation
      path := operation.flatPath root
      boundary := root
      nested := false }

/-- Whether a script that is there takes part in a build: it lies in the
project, links followed, not in the output directory, and is not ignored. -/
def takesPart (ws : Workspace) (cwd root : Path) (outputDir : String)
    (matcher : Option Ignore.Matcher) (path : Path) : Except Ignore.MatchError Bool :=
  if !ws.isWithin cwd path root then .ok false
  else
    match path.relativeTo? root with
    | none => .ok false
    | some relative =>
      if !outputDir.isEmpty && relative.parts.head? == some outputDir then .ok false
      else
        match matcher with
        | none => .ok true
        | some matcher => (matcher.ignores path).map (!·)

/-- The scripts of some operations that take part in a build.  Scripts that are
not there are listed too, so that they can be reported. -/
def locateAll (ws : Workspace) (cwd root : Path) (outputDir : String)
    (matcher : Option Ignore.Matcher) :
    List Operation → Except Ignore.MatchError (List ScriptLocation)
  | [] => .ok []
  | operation :: rest => do
    let location := operation.locate ws root
    let listed ← if location.isThere ws then
      takesPart ws cwd root outputDir matcher location.path else pure true
    let others ← locateAll ws cwd root outputDir matcher rest
    pure (if listed then location :: others else others)

/-- The scripts of a project, in the order of its operations. -/
def Project.scripts (project : Project) (ws : Workspace) (cwd root : Path)
    (outputDir : String) (nestedIgnore : Bool) :
    Except Ignore.MatchError (List ScriptLocation) :=
  match Ignore.matcher? ws root nestedIgnore with
  | .error fault => .error (.unusable fault)
  | .ok matcher => locateAll ws cwd root outputDir matcher project.operations

end IntegrationBuild
