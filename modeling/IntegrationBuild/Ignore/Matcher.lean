import IntegrationBuild.Ignore.Rule
import IntegrationBuild.Text.Lines
import IntegrationBuild.Text.Quoted
import IntegrationBuild.Workspace.Basic

/-!
Ignore files of a project: the one at its root, or all below it.  The rules of
an ignore file apply to paths below its directory.
-/

namespace IntegrationBuild.Ignore

/-- Why it cannot be told whether a path is ignored. -/
inductive MatchError where
  | unusable (fault : Fault)
  | outside (path base : Path)
deriving Repr

/-- The text of an error. -/
def MatchError.message : MatchError → String
  | .unusable fault => fault.message
  | .outside path base =>
    Text.quoted path.text ++ " is not in the subpath of " ++ Text.quoted base.text ++
      " OR one path is relative and the other is absolute."

/-- The rules of an ignore file and the directory they apply to. -/
structure RuleFile where
  base : Path
  rules : List Rule

/-- The name of an ignore file. -/
def fileName : String := ".gitignore"

/-- Cuts a text at its line feeds; nothing follows the last one. -/
def linesOf (text : List Char) : List (List Char) :=
  let lines := text.splitOn '\n'
  if lines.getLast? == some [] then lines.dropLast else lines

/-- The rules of the lines of an ignore file. -/
def rulesOf (text : List Char) : Except Fault (List Rule) := do
  let rules ← (linesOf text).mapM ruleOfLine
  pure (rules.filterMap id)

/-- Reads an ignore file. -/
def readRules (path : Path) (content : ByteArray) : Except Fault RuleFile :=
  match Text.decodeText? content with
  | none => .error .undecodable
  | some text => (rulesOf text).map fun rules => { base := path.parent, rules := rules }

/-- Whether the rules of a file ignore a path.  A file without rules ignores
nothing, wherever the path is. -/
def RuleFile.ignores (file : RuleFile) (path : Path) : Except MatchError Bool :=
  if file.rules.isEmpty then .ok false
  else
    let path := path.normalized
    match path.relativeTo? file.base.normalized with
    | none => .error (.outside path file.base.normalized)
    | some relative =>
      match Ignore.ignores file.rules relative.text with
      | .ok answer => .ok answer
      | .error fault => .error (.unusable fault)

/-- The directories of a project, its root first, links not followed. -/
def directories (ws : Workspace) (root : Path) : List Path :=
  match ws.locate root with
  | .entry place .directory =>
    root :: (ws.below place).filterMap fun (location, entry) =>
      match entry with
      | .directory => some { root with parts := root.parts ++ location.drop place.length }
      | _ => none
  | _ => [root]

/-- The ignore files of a project in the order of their paths. -/
def filesBelow (ws : Workspace) (root : Path) : List Path :=
  let files := ((directories ws root).map (·.child fileName)).filter ws.isFile
  files.mergeSort fun a b =>
    !(((b.relativeTo? root).getD b).text < ((a.relativeTo? root).getD a).text)

/-- What is ignored in a project. -/
inductive Matcher where
  /-- One ignore file, at the root of the project. -/
  | single (file : RuleFile)
  /-- The ignore files of the whole project, each for the paths below it. -/
  | nested (files : List RuleFile)

/-- Whether one of several ignore files ignores a path; those that do not apply
to it are passed over. -/
def anyIgnores (path : Path) : List RuleFile → Except MatchError Bool
  | [] => .ok false
  | file :: rest =>
    match file.ignores path with
    | .ok true => .ok true
    | .ok false | .error (.outside _ _) => anyIgnores path rest
    | .error error => .error error

/-- Whether a path is ignored. -/
def Matcher.ignores (matcher : Matcher) (path : Path) : Except MatchError Bool :=
  match matcher with
  | .single file => file.ignores path
  | .nested files => anyIgnores path files

/-- The matcher of a project, if it has an ignore file. -/
def matcher? (ws : Workspace) (root : Path) (nested : Bool) :
    Except Fault (Option Matcher) := do
  if nested then
    match filesBelow ws root with
    | [] => pure none
    | paths =>
      let files ← paths.mapM fun path =>
        readRules path ((ws.read? path).getD ByteArray.empty)
      pure (some (.nested files))
  else
    let path := root.child fileName
    match ws.read? path with
    | none => pure none
    | some content => pure (some (.single (← readRules path content)))

end IntegrationBuild.Ignore
