import IntegrationBuild.Settings.Basic
import IntegrationBuild.Toml.Document
import IntegrationBuild.Workspace.Basic

/-!
Loading the settings of a project and placing its output.  The output directory
lies strictly below the project root, links followed.
-/

namespace IntegrationBuild

/-- Why the settings of a project cannot be used. -/
inductive SettingsError where
  | undecodable
  | malformed (path : Path)
  | invalid (path : Path) (problems : List Schema.Problem)
  | outputEmpty
  | outputNotRelative
  | outputEscapes (value : String)
  | outputIsRoot
  | nullByte
  | linkLoop (path : Path)
deriving Repr

namespace SettingsError

/-- The beginning of a message about the settings file as a whole. -/
def lead? : SettingsError → Option String
  | .malformed path => some ("Invalid TOML in " ++ path.text ++ ": ")
  | .invalid path _ => some ("Invalid config in " ++ path.text ++ ": ")
  | _ => none

/-- The message of an error. -/
def message (error : SettingsError) : String :=
  match error with
  | .undecodable => "The settings are not UTF-8"
  | .malformed _ => error.lead?.getD "" ++ "not a TOML document"
  | .invalid _ problems => error.lead?.getD "" ++ Schema.report problems
  | .outputEmpty => "output_dir must be a non-empty relative path"
  | .outputNotRelative => "output_dir must be a relative path within the project root"
  | .outputEscapes value => "output_dir '" ++ value ++ "' escapes the project root"
  | .outputIsRoot => "output_dir must not be the project root itself"
  | .nullByte => "embedded null byte"
  | .linkLoop path => "Symlink loop from " ++ Text.quoted path.text

/-- Whether the error is one of the settings themselves, which the command line
reports, and not of the bytes or links behind them. -/
def isReported : SettingsError → Bool
  | .undecodable | .nullByte | .linkLoop _ => false
  | _ => true

end SettingsError

namespace Settings

/-- The name of a settings file. -/
def fileName : String := "nango-compiler.toml"

/-- The settings that the bytes of a settings file give. -/
def ofBytes (path : Path) (content : ByteArray) : Except SettingsError Settings :=
  match String.fromUTF8? content with
  | none => .error .undecodable
  | some text =>
    match Toml.parse? text with
    | none => .error (.malformed path)
    | some entries =>
      match ofEntries entries with
      | .ok settings => .ok settings
      | .bad problems => .error (.invalid path problems)

/-- The settings of a project; without a settings file they are the usual
ones. -/
def load (ws : Workspace) (root : Path) : Except SettingsError Settings :=
  match ws.read? (root.child fileName) with
  | none => .ok {}
  | some content => ofBytes (root.child fileName) content

/-- The absolute path of a path, unless its links lead in a circle. -/
def resolveChecked (ws : Workspace) (cwd path : Path) : Except SettingsError Path :=
  match ws.circle? cwd path with
  | some place => .error (.linkLoop place)
  | none => .ok (ws.resolve cwd path)

/-- The output directory that a setting names: a place strictly below the
project root. -/
def outputPath (ws : Workspace) (cwd root : Path) (value : String) :
    Except SettingsError Path := do
  if value.isEmpty then throw .outputEmpty
  let path := Path.ofString value
  if value.startsWith "~" || path.isAbsolute then throw .outputNotRelative
  let base ← resolveChecked ws cwd root
  if value.contains '\x00' then throw .nullByte
  let resolved ← resolveChecked ws cwd (base.join path)
  match resolved.relativeTo? base with
  | none => throw (.outputEscapes value)
  | some relative => if relative.parts.isEmpty then throw .outputIsRoot else pure resolved

end Settings

end IntegrationBuild
