import IntegrationBuild.CommandLine.Run

/-!
The program.  It reads the directories that a command names, runs the command
on them and writes back what has changed.  Links are read as what they lead to.
-/

namespace IntegrationBuild.Program

open CommandLine

/-- The text of a place. -/
def placeText (place : Location) : String :=
  (Path.absolute place).text

/-- Adds a place and everything below it to a file system. -/
partial def readPlace (ws : Workspace) (place : Location) : IO Workspace := do
  let .ok path ← (IO.FS.realPath (placeText place)).toBaseIO | return ws
  let .ok data ← path.metadata.toBaseIO | return ws
  match data.type with
  | .dir =>
    let mut ws := ws.put place .directory
    for child in ← path.readDir do
      ws ← readPlace ws (place ++ [child.fileName])
    return ws
  | .file => return ws.put place (.file (← IO.FS.readBinFile path))
  | _ => return ws

/-- Adds the directories above a place to a file system. -/
def addParents (ws : Workspace) (place : Location) : Workspace :=
  (List.range (place.length - 1)).foldl (fun ws n => ws.put (place.take (n + 1)) .directory) ws

/-- The paths that a command names. -/
def pathsOf : Command → List String
  | .init root => [root]
  | .generate root => [root]
  | .compile root outDir _ => root :: outDir.toList
  | .verify root models => root :: models.toList

/-- Reads the places that a command names. -/
def readPlaces (around : Surroundings) (command : Command) : IO Workspace := do
  let mut ws : Workspace := {}
  for text in pathsOf command do
    if let (.ok path, _) := (expandHome around text).run.run ws then
      let place := (around.host.cwd.join path).normalized.parts
      ws := addParents ws place
      if !place.isEmpty then ws ← readPlace ws place
  return ws

/-- Whether two entries are the same. -/
def sameEntry : Entry → Entry → Bool
  | .directory, .directory => true
  | .file a, .file b => a == b
  | .link a, .link b => a == b
  | _, _ => false

/-- Writes back the entries that were not there before or have changed. -/
def writeBack (before after : Workspace) : IO Unit := do
  for ((place, entry), n) in after.entries.zipIdx do
    let known := match before.entries[n]? with
      | some (_, old) => sameEntry old entry
      | none => false
    if !known then
      match entry with
      | .directory => IO.FS.createDirAll (placeText place)
      | .file content => IO.FS.writeBinFile (placeText place) content
      | .link _ => pure ()

/-- Writes an answer and gives its exit code. -/
def finish (exit : Nat) (out err : String) : IO UInt32 := do
  (← IO.getStdout).putStr out
  (← IO.getStderr).putStr err
  return UInt32.ofNat exit

/-- Runs a command line. -/
def run (args : List String) : IO UInt32 := do
  match request args with
  | .leave exit out err => finish exit out err
  | .run command =>
    let cwd := Path.ofString (← IO.currentDir).toString
    let home := Path.ofString ((← IO.getEnv "HOME").getD "/")
    let around : Surroundings :=
      { host := { cwd := cwd, compile := checkingCompiler }, home := home }
    let before ← readPlaces around command
    let (result, after) := (CommandLine.run around command).run.run before
    writeBack before after
    match result with
    | .ok answer => finish answer.exit answer.out answer.err
    | .error error => finish 1 "" (errorLine error.message)

end IntegrationBuild.Program

/-- Runs the program. -/
def main (args : List String) : IO UInt32 :=
  IntegrationBuild.Program.run args
