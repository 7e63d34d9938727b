import IntegrationBuild.Workspace.Path

/-!
A file system as a value: directories, files with their bytes and symbolic
links, each at the list of its parts below the root.
-/

namespace IntegrationBuild

/-- What stands at a place of a file system. -/
inductive Entry where
  | directory
  | file (content : ByteArray)
  | link (target : String)
deriving Inhabited

/-- A place of a file system: the parts below its root. -/
abbrev Location := List String

/-- A file system.  The root is a directory and is not listed. -/
structure Workspace where
  entries : List (Location × Entry) := []
deriving Inhabited

/-- What a path leads to. -/
inductive Found where
  | entry (location : Location) (entry : Entry)
  | absent (location : Location)
  | missing
  | blocked
  | loop

namespace Workspace

/-- The entry at a place, links not followed. -/
def entry? (ws : Workspace) (location : Location) : Option Entry :=
  if location.isEmpty then some .directory else ws.entries.lookup location

/-- Whether a directory stands at a place. -/
def hasDirectory (ws : Workspace) (location : Location) : Bool :=
  match ws.entry? location with
  | some .directory => true
  | _ => false

/-- Where the way along a link's target goes on: from the root, or from the
directory of the link. -/
def linkStart (current : Location) (target : Path) : Location :=
  if target.isAbsolute then [] else current

/-- Follows a path from a place on, where every part but the last has to be a
directory.  At a link, `follow` goes on with the place of the link's directory,
the link's target and the parts left. -/
def walk (ws : Workspace) (follow : Location → Path → List String → Found) :
    Location → List String → Found
  | current, [] =>
    match ws.entry? current with
    | some entry => .entry current entry
    | none => .absent current
  | current, part :: rest =>
    if !ws.hasDirectory current then .blocked
    else if part == ".." then walk ws follow current.dropLast rest
    else
      match ws.entry? (current ++ [part]) with
      | none => if rest.isEmpty then .absent (current ++ [part]) else .missing
      | some (.link target) => follow current (Path.ofString target) rest
      | some entry =>
        if rest.isEmpty then .entry (current ++ [part]) entry
        else walk ws follow (current ++ [part]) rest

/-- Follows a path from a place on.  Links are followed, at most `budget` of
them. -/
def find (ws : Workspace) : Nat → Location → List String → Found
  | 0 => ws.walk fun _ _ _ => .loop
  | budget + 1 => ws.walk fun current target rest =>
    find ws budget (linkStart current target) (target.parts ++ rest)

/-- The number of links that are followed before a path counts as a loop. -/
def linkBudget : Nat := 40

/-- What an absolute path leads to. -/
def locate (ws : Workspace) (path : Path) : Found :=
  ws.find linkBudget [] path.parts

/-- Resolves parts from a place on: `..` removes the part before it, and what
does not exist is kept as it stands.  At a link, `follow` finds the place it
leads to from the place of its directory, its name and its target, and tells
whether that was possible; if not, the parts left are kept as they stand. -/
def realWalk (ws : Workspace) (follow : Location → String → Path → Location × Bool) :
    Location → List String → Location × Bool
  | current, [] => (current, true)
  | current, part :: rest =>
    if part == ".." then realWalk ws follow current.dropLast rest
    else
      match ws.entry? (current ++ [part]) with
      | some (.link target) =>
        match follow current part (Path.ofString target) with
        | (place, true) => realWalk ws follow place rest
        | (place, false) => (place ++ rest, false)
      | _ => realWalk ws follow (current ++ [part]) rest

/-- Resolves parts from a place on.  A link that is met again on the way to its
own target leads nowhere; `underWay` holds those links, and `depth` bounds
their number. -/
def realFrom (ws : Workspace) : Nat → List Location → Location → List String → Location × Bool
  | 0, _ => ws.realWalk fun current part _ => (current ++ [part], false)
  | depth + 1, underWay => ws.realWalk fun current part target =>
    let place := current ++ [part]
    if underWay.contains place then (place, false)
    else realFrom ws depth (place :: underWay) (linkStart current target) target.parts

/-- The absolute path that a path stands for, links followed.  A relative path
starts at the current directory. -/
def resolve (ws : Workspace) (cwd path : Path) : Path :=
  let found := ws.realFrom (ws.entries.length + 1) [] [] (cwd.join path).parts
  (Path.absolute found.1).normalized

/-- Where links lead in a circle, if resolving a path runs into one.  What the path
then resolves to still has links on its way. -/
def circle? (ws : Workspace) (cwd path : Path) : Option Path :=
  match ws.locate (ws.resolve cwd path) with
  | .loop => some (ws.resolve cwd path)
  | _ => none

/-- The first circle of links that resolving some paths, one after the other, runs
into. -/
def firstCircle? (ws : Workspace) (cwd : Path) (paths : List Path) : Option Path :=
  paths.findSome? (ws.circle? cwd)

/-- Whether a path leads to a file. -/
def isFile (ws : Workspace) (path : Path) : Bool :=
  match ws.locate path with
  | .entry _ (.file _) => true
  | _ => false

/-- Whether a path leads to a directory. -/
def isDirectory (ws : Workspace) (path : Path) : Bool :=
  match ws.locate path with
  | .entry _ .directory => true
  | _ => false

/-- Whether a path leads to anything. -/
def exists? (ws : Workspace) (path : Path) : Bool :=
  match ws.locate path with
  | .entry _ _ => true
  | _ => false

/-- Whether the last part of a path is itself a link. -/
def isLink (ws : Workspace) (path : Path) : Bool :=
  match ws.locate path.parent with
  | .entry location .directory =>
    match ws.entry? (location ++ [path.name]) with
    | some (.link _) => !path.parts.isEmpty
    | _ => false
  | _ => false

/-- The bytes of the file a path leads to. -/
def read? (ws : Workspace) (path : Path) : Option ByteArray :=
  match ws.locate path with
  | .entry _ (.file content) => some content
  | _ => none

/-- Whether a path, resolved, is a directory or lies below it.  Neither of the two may
run into a circle of links. -/
def isWithin (ws : Workspace) (cwd path root : Path) : Bool :=
  ((ws.resolve cwd path).relativeTo? (ws.resolve cwd root)).isSome

/-- The places below a directory, links not followed. -/
def below (ws : Workspace) (location : Location) : List (Location × Entry) :=
  ws.entries.filter fun (place, _) => location.isPrefixOf place && place != location

/-- The places of everything below a directory that is not a directory. -/
def filesBelow (ws : Workspace) (location : Location) : List Location :=
  (ws.below location).filterMap fun (place, entry) =>
    match entry with
    | .directory => none
    | .file _ => some place
    | .link _ => if ws.isDirectory (.absolute place) then none else some place

end Workspace

end IntegrationBuild
