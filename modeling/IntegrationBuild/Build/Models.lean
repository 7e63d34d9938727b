import IntegrationBuild.Build.Basic
import IntegrationBuild.Model.Render

/-!
The generated models module: writing it, and telling whether the one that is
there is up to date.
-/

namespace IntegrationBuild

/-- The text of the models module of a project. -/
def Project.modelsSource (project : Project) : String :=
  Model.renderModule project.models

/-- Where the models module of a project is. -/
def Settings.modelsPath (settings : Settings) (root : Path) : Path :=
  root.child settings.modelsFile

/-- Loads a project or stops. -/
def Build.loadProject (root : Path) : Build Project := do
  orStop .load (Project.load (← get) root)

/-- Loads the settings of a project or stops. -/
def Build.loadSettings (root : Path) : Build Settings := do
  orStop .settings (Settings.load (← get) root)

/-- Writes the models module of a project. -/
def Build.writeModels (root : Path) (project : Project) (settings : Settings) : Build Unit :=
  writeText (settings.modelsPath root) project.modelsSource

/-- Whether the models module of a project is up to date, or is not there at
all. -/
structure ModelsCheck where
  ok : Bool
  path : String
  missing : Bool := false
deriving DecidableEq, Repr

/-- The document of a check. -/
def ModelsCheck.toJson (check : ModelsCheck) : Json :=
  .obj [("ok", .bool check.ok), ("models_path", .str check.path),
    ("missing", .bool check.missing)]

/-- Compares a file with the models module that the project has now. -/
def Build.verifyModels (root path : Path) : Build ModelsCheck := do
  match (← get).read? path with
  | none => pure { ok := false, path := path.text, missing := true }
  | some content =>
    let project ← loadProject root
    pure { ok := content == project.modelsSource.toUTF8, path := path.text }

end IntegrationBuild
