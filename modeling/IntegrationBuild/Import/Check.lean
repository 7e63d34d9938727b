import IntegrationBuild.Import.Resolve
import IntegrationBuild.Layout.Compiled
import IntegrationBuild.Layout.Script

/-!
Which imports a script may make.  Relative imports stay within the boundary of
the script, the models module gives only models that are declared, and no
integration imports another.
-/

namespace IntegrationBuild

/-- What is wrong with an import. -/
inductive ImportIssue where
  | outside (target importer boundary : String)
  | unresolved (name : String)
  | undeclaredModel (name : String)
  | ungeneratedModel (name modelsModule : String)
  | sibling (integration : String)
deriving DecidableEq, Repr

/-- The text of an issue. -/
def ImportIssue.message : ImportIssue → String
  | .outside target importer boundary =>
    "Import of " ++ target ++ " in " ++ importer ++ " is outside of the integration directory " ++
      boundary
  | .unresolved name => "cannot resolve relative import of " ++ Text.quoted name
  | .undeclaredModel name => "\"" ++ name ++ "\" is not a model declared in nango.yaml"
  | .ungeneratedModel name modelsModule =>
    "\"" ++ name ++ "\" is missing from the generated " ++ modelsModule ++
      " module; run generate first"
  | .sibling integration =>
    "importing the integration \"" ++ integration ++ "\" from another integration is not allowed"

/-- What stops a check of imports. -/
inductive CheckFault where
  /-- The source of the models module cannot be read. -/
  | unreadable (fault : Script.Fault)
  /-- A path that has to be resolved runs into links that lead in a circle. -/
  | circle (place : Path)
deriving Repr

/-- Resolves some paths, one after the other, up to the first that runs into a circle
of links. -/
def resolveAll (ws : Workspace) (cwd : Path) (paths : List Path) : Except CheckFault Unit :=
  match ws.firstCircle? cwd paths with
  | some place => .error (.circle place)
  | none => .ok ()

/-- What the imports of a script are checked against. -/
structure ImportScope where
  root : Path
  /-- Where relative imports have to stay. -/
  boundary : Path
  /-- The generated models module. -/
  modelsFile : Path
  /-- The name of the models module. -/
  modelsModule : String
  /-- The models that the project declares. -/
  modelNames : List String
  /-- The names that the generated module binds, if it can be read. -/
  generated : Except Script.Fault (List String)
  /-- The names of all integrations. -/
  integrations : List String
  /-- The integration that the script lies in, if it lies in one. -/
  home : Option String

/-- The issues of some imports, with their lines, and the files brought in. -/
structure ImportCheck where
  issues : List (Nat × ImportIssue) := []
  helpers : List Path := []

/-- The issues and files of two checks, one after the other. -/
def ImportCheck.append (a b : ImportCheck) : ImportCheck :=
  { issues := a.issues ++ b.issues, helpers := a.helpers ++ b.helpers }

namespace ImportScope

/-- The files of a relative import other than the models module. -/
def otherFiles (scope : ImportScope) (ws : Workspace) (cwd : Path) (target : ImportTarget) :
    List Path :=
  target.files.filter fun file => ws.resolve cwd file != ws.resolve cwd scope.modelsFile

/-- The first place of a relative import that lies outside the boundary. -/
def escape? (scope : ImportScope) (ws : Workspace) (cwd location : Path) (files : List Path) :
    Option Path :=
  (location :: files).find? fun place => !ws.isWithin cwd place scope.boundary

/-- Checks a relative import of a file.  One that leads to the models module
alone is always allowed. -/
def checkRelative (scope : ImportScope) (ws : Workspace) (cwd path : Path) (ref : ImportRef) :
    ImportCheck :=
  let target := ref.resolve ws path
  let files := scope.otherFiles ws cwd target
  if !target.files.isEmpty && files.isEmpty then {}
  else
    match scope.escape? ws cwd target.location files with
    | some place =>
      { issues := [(ref.line, .outside (Path.shownText ws cwd place scope.root)
          (Path.shownText ws cwd path scope.root)
          (Path.shownText ws cwd scope.boundary scope.root))] }
    | none =>
      { issues := target.unresolved.map fun name => (ref.line, .unresolved name)
        helpers := files }

/-- The issue of importing one name from the models module. -/
def modelIssue? (scope : ImportScope) (generated : List String) (name : String) :
    Option ImportIssue :=
  if name == "*" then none
  else if !scope.modelNames.contains name then some (.undeclaredModel name)
  else if !generated.contains name then some (.ungeneratedModel name scope.modelsModule)
  else none

/-- Checks an import of the models module.  The generated module has to be
readable even if no name is imported. -/
def checkModels (scope : ImportScope) (ref : ImportRef) : Except Script.Fault ImportCheck := do
  let generated ← scope.generated
  pure { issues := (ref.names.filterMap (scope.modelIssue? generated)).map fun issue =>
          (ref.line, issue) }

/-- Whether a name is that of another integration, which is there. -/
def isSibling (scope : ImportScope) (ws : Workspace) (name : String) : Bool :=
  scope.integrations.contains name && scope.home != some name &&
    ws.isDirectory (scope.root.child name)

/-- Checks one import of a file whose paths can be resolved. -/
def check (scope : ImportScope) (ws : Workspace) (cwd path : Path) (ref : ImportRef) :
    Except Script.Fault ImportCheck :=
  if ref.isRelative then .ok (scope.checkRelative ws cwd path ref)
  else if ref.source == scope.modelsModule then scope.checkModels ref
  else if scope.isSibling ws ref.topLevel then
    .ok { issues := [(ref.line, .sibling ref.topLevel)] }
  else .ok {}

/-- The paths that the check of a relative import of a file resolves.  Each file is
compared with the models module; the place of the import and the other files are
looked for below the boundary; and what lies outside is told with its path. -/
def resolvedByRelative (scope : ImportScope) (ws : Workspace) (cwd path : Path)
    (ref : ImportRef) : List Path :=
  let target := ref.resolve ws path
  let files := scope.otherFiles ws cwd target
  let compared := target.files.flatMap fun file => [file, scope.modelsFile]
  if !target.files.isEmpty && files.isEmpty then compared
  else
    let judged := (target.location :: files).flatMap fun place => [scope.boundary, place]
    match scope.escape? ws cwd target.location files with
    | some place =>
      compared ++ judged ++
        [path, place, scope.boundary].flatMap fun shown => shown.resolvedToShow scope.root
    | none => compared ++ judged

/-- The paths that the check of an import of a file resolves, in their order.  An issue
is told with the path of the file. -/
def resolvedBy (scope : ImportScope) (ws : Workspace) (cwd path : Path) (ref : ImportRef) :
    List Path :=
  let told :=
    match scope.check ws cwd path ref with
    | .ok check => if check.issues.isEmpty then [] else path.resolvedToShow scope.root
    | .error _ => []
  if ref.isRelative then scope.resolvedByRelative ws cwd path ref ++ told else told

/-- Checks one import of a file, unless a path that has to be resolved for it runs into
a circle of links. -/
def checkOne (scope : ImportScope) (ws : Workspace) (cwd path : Path) (ref : ImportRef) :
    Except CheckFault ImportCheck := do
  resolveAll ws cwd (scope.resolvedBy ws cwd path ref)
  (scope.check ws cwd path ref).mapError .unreadable

/-- Checks imports of a file, one after the other. -/
def checkAll (scope : ImportScope) (ws : Workspace) (cwd path : Path) :
    List ImportRef → Except CheckFault ImportCheck
  | [] => .ok {}
  | ref :: rest => do
    let first ← scope.checkOne ws cwd path ref
    let others ← scope.checkAll ws cwd path rest
    pure (first.append others)

end ImportScope

/-- The imports of the script a path leads to. -/
def importsOfFile (ws : Workspace) (path : Path) : List ImportRef :=
  match ws.read? path with
  | some content => Script.importsOf content
  | none => []

/-- The files that the relative imports of a file bring in. -/
def ImportScope.helpers (scope : ImportScope) (ws : Workspace) (cwd path : Path) : List Path :=
  ((importsOfFile ws path).filter (·.isRelative)).flatMap fun ref =>
    (scope.checkRelative ws cwd path ref).helpers

end IntegrationBuild
