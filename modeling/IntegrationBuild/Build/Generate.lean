import IntegrationBuild.Build.Models
import IntegrationBuild.Layout.Script
import IntegrationBuild.Scaffold.Example
import IntegrationBuild.Scaffold.Stub

/-!
Writing the models module and starter scripts, and starting a project from an
example.  Scripts that are there are left alone.
-/

namespace IntegrationBuild

namespace Build

/-- Where the starter script of an operation goes. -/
def starterPath (dialect : Dialect) (root : Path) (operation : Operation) : Path :=
  match dialect with
  | .v2 => operation.nestedPath root
  | .v1 => operation.flatPath root

/-- Writes a starter script for an operation unless it has a script. -/
def scaffold (root : Path) (dialect : Dialect) (modelsModule : String) (operation : Operation) :
    Build (Option Path) := do
  let ws ← get
  if (operation.locate ws root).isThere ws then pure none
  else
    let path := starterPath dialect root operation
    makeDirectories path.parent
    writeText path (Scaffold.stub operation modelsModule)
    pure (some path)

/-- What generating has written. -/
structure Generated where
  models : Path
  created : List Path

/-- Writes the models module of a project and a starter script for every
operation without one. -/
def generate (root : Path) (given : Option Settings) : Build Generated := do
  let settings ← match given with
    | some settings => pure settings
    | none => loadSettings root
  let project ← loadProject root
  writeModels root project settings
  let created ← project.operations.mapM (scaffold root project.dialect settings.modelsModule)
  pure { models := settings.modelsPath root, created := created.filterMap id }

/-- Writes a file of the example unless something is there. -/
def writeNew (path : Path) (text : String) : Build (Option Path) := do
  if (← get).exists? path then pure none
  else
    makeDirectories path.parent
    writeText path text
    pure (some path)

/-- Starts a project from the example.  The answer lists the files written. -/
def init (root : Path) : Build (List Path) := do
  makeDirectories root
  let written ← Scaffold.exampleFiles.mapM fun (file, text) => writeNew (root.child file) text
  pure (written.filterMap id)

end Build

end IntegrationBuild
