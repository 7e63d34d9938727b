import IntegrationBuild.Text.Quoted
import IntegrationBuild.Workspace.Basic

/-!
Changes of a file system: writing files, making directories and removing what
stands at a place.
-/

namespace IntegrationBuild

/-- Why a file cannot be read or written. -/
inductive FileFault where
  | notFound
  | alreadyExists
  | notDirectory
  | isDirectory
  | tooManyLinks
deriving DecidableEq, Repr

/-- The number and the text of a fault. -/
def FileFault.text : FileFault → String
  | .notFound => "[Errno 2] No such file or directory"
  | .alreadyExists => "[Errno 17] File exists"
  | .notDirectory => "[Errno 20] Not a directory"
  | .isDirectory => "[Errno 21] Is a directory"
  | .tooManyLinks => "[Errno 40] Too many levels of symbolic links"

/-- A fault and the path it concerns. -/
structure FileError where
  fault : FileFault
  path : Path
deriving DecidableEq, Repr

/-- The message of a file error. -/
def FileError.message (error : FileError) : String :=
  error.fault.text ++ ": " ++ Text.quoted error.path.text

namespace Workspace

/-- Reads a file, following links. -/
def readFile (ws : Workspace) (path : Path) : Except FileError ByteArray :=
  match ws.locate path with
  | .entry _ (.file content) => .ok content
  | .entry _ _ => .error ⟨.isDirectory, path⟩
  | .absent _ | .missing => .error ⟨.notFound, path⟩
  | .blocked => .error ⟨.notDirectory, path⟩
  | .loop => .error ⟨.tooManyLinks, path⟩

/-- Puts an entry at a place; an entry that stands there keeps its position. -/
def putEntry (location : Location) (entry : Entry) :
    List (Location × Entry) → List (Location × Entry)
  | [] => [(location, entry)]
  | (place, old) :: rest =>
    if place == location then (place, entry) :: rest
    else (place, old) :: putEntry location entry rest

/-- The file system with an entry at a place. -/
def put (ws : Workspace) (location : Location) (entry : Entry) : Workspace :=
  { entries := putEntry location entry ws.entries }

/-- Writes a file, following links. -/
def write (ws : Workspace) (path : Path) (content : ByteArray) : Except FileError Workspace :=
  match ws.locate path with
  | .entry location (.file _) => .ok (ws.put location (.file content))
  | .absent location => .ok (ws.put location (.file content))
  | .entry _ _ => .error ⟨.isDirectory, path⟩
  | .missing => .error ⟨.notFound, path⟩
  | .blocked => .error ⟨.notDirectory, path⟩
  | .loop => .error ⟨.tooManyLinks, path⟩

/-- Makes one directory, whose parent has to be there. -/
def makeDirectory (ws : Workspace) (path : Path) : Except FileError Workspace :=
  if ws.isLink path then .error ⟨.alreadyExists, path⟩
  else
    match ws.locate path with
    | .absent location => .ok (ws.put location .directory)
    | .entry _ _ => .error ⟨.alreadyExists, path⟩
    | .missing => .error ⟨.notFound, path⟩
    | .blocked => .error ⟨.notDirectory, path⟩
    | .loop => .error ⟨.tooManyLinks, path⟩

/-- Makes a directory and its parents; one that is there already is kept.
`depth` bounds how many parents may be made. -/
def makeDirectoriesFrom : Nat → Workspace → Path → Except FileError Workspace
  | 0, _, path => .error ⟨.notFound, path⟩
  | depth + 1, ws, path =>
    match ws.makeDirectory path with
    | .ok ws => .ok ws
    | .error error =>
      if error.fault == .notFound then
        match makeDirectoriesFrom depth ws path.parent with
        | .error error => .error error
        | .ok ws =>
          match ws.makeDirectory path with
          | .ok ws => .ok ws
          | .error error => if ws.isDirectory path then .ok ws else .error error
      else if ws.isDirectory path then .ok ws
      else .error error

/-- Makes a directory and its parents; one that is there already is kept. -/
def makeDirectories (ws : Workspace) (path : Path) : Except FileError Workspace :=
  makeDirectoriesFrom (path.parts.length + 1) ws path

/-- Makes a symbolic link. -/
def makeLink (ws : Workspace) (path : Path) (target : String) : Except FileError Workspace :=
  match ws.locate path.parent with
  | .entry location .directory => .ok (ws.put (location ++ [path.name]) (.link target))
  | _ => .error ⟨.notFound, path⟩

/-- Removes what stands at a path, with everything below it; a link itself is
removed, not what it leads to. -/
def remove (ws : Workspace) (path : Path) : Workspace :=
  match ws.locate path.parent with
  | .entry parent .directory =>
    let location := parent ++ [path.name]
    { entries := ws.entries.filter fun (place, _) => !location.isPrefixOf place }
  | _ => ws

end Workspace

end IntegrationBuild
