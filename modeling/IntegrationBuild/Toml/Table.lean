import IntegrationBuild.Value.Basic

/-!
Tables under construction.  A table may be opened by a header once, and what a
value wrote inline cannot be extended; both are remembered as sets of paths
beside the tables themselves.
-/

namespace IntegrationBuild.Toml

/-- A dotted key. -/
abbrev Key := List String

/-- The entries of a table. -/
abbrev Entries := List (Value × Value)

/-- Changes the table at the end of a path.  Tables on the way are made if they
are not there; with `intoLists` a list on the way stands for its last item. -/
def updateTable (intoLists : Bool) (change : Entries → Option Entries) :
    Key → Entries → Option Entries
  | [], table => change table
  | name :: rest, table =>
    match Value.lookup table name with
    | none =>
      (updateTable intoLists change rest []).map fun inner =>
        table ++ [(.text name, .mapping inner)]
    | some (.mapping inner) =>
      (updateTable intoLists change rest inner).map fun inner =>
        Value.insertEntry table (.text name) (.mapping inner)
    | some (.list items) =>
      match intoLists, items.getLast? with
      | true, some (.mapping inner) =>
        (updateTable intoLists change rest inner).map fun inner =>
          Value.insertEntry table (.text name) (.list (items.dropLast ++ [.mapping inner]))
      | _, _ => none
    | some _ => none

/-- Adds an entry that is not there yet. -/
def addNew (name : String) (value : Value) (table : Entries) : Option Entries :=
  if Value.hasKey table name then none else some (table ++ [(.text name, value)])

/-- Adds an empty table to the end of a list, which is made if it is not
there. -/
def addItem (name : String) (table : Entries) : Option Entries :=
  match Value.lookup table name with
  | none => some (table ++ [(.text name, .list [.mapping []])])
  | some (.list items) =>
    some (Value.insertEntry table (.text name) (.list (items ++ [.mapping []])))
  | some _ => none

/-- Splits a key into the path of its table and its last name. -/
def splitKey (key : Key) : Key × String :=
  (key.dropLast, key.getLast?.getD "")

/-- Whether a value was written inline as a list or a table. -/
def isInlineNest : Value → Bool
  | .list _ => true
  | .mapping _ => true
  | _ => false

/-- Whether a path is or lies below one of some paths. -/
def isBelowAny (paths : List Key) (path : Key) : Bool :=
  paths.any fun top => top.isPrefixOf path

/-- Adds a value to an inline table, of which `frozen` lists the nests that are
complete. -/
def addInline (table : Entries) (frozen : List Key) (key : Key) (value : Value) :
    Option (Entries × List Key) :=
  if isBelowAny frozen key then none
  else
    let (path, name) := splitKey key
    (updateTable false (addNew name value) path table).map fun table =>
      (table, if isInlineNest value then key :: frozen else frozen)

/-- A document as far as it is read. -/
structure Assembly where
  /-- The top table. -/
  table : Entries := []
  /-- The tables that may not be opened again. -/
  closed : List Key := []
  /-- The nests that may not be extended. -/
  frozen : List Key := []
  /-- The tables that dotted keys made since the last header. -/
  fresh : List Key := []
  /-- The table that keys now go to. -/
  header : Key := []

namespace Assembly

/-- Closes the tables that dotted keys made, as a header does. -/
def settle (doc : Assembly) : Assembly :=
  { doc with closed := doc.fresh ++ doc.closed, fresh := [] }

/-- Opens the table of a header. -/
def openTable (doc : Assembly) (key : Key) : Option Assembly :=
  let doc := doc.settle
  if doc.closed.contains key || isBelowAny doc.frozen key then none
  else
    (updateTable true some key doc.table).map fun table =>
      { doc with table := table, closed := key :: doc.closed, header := key }

/-- Opens the next item of a list of tables.  What was said about the item
before it does not hold for the new one. -/
def openItem (doc : Assembly) (key : Key) : Option Assembly :=
  let doc := doc.settle
  if isBelowAny doc.frozen key then none
  else
    let (path, name) := splitKey key
    (updateTable true (addItem name) path doc.table).map fun table =>
      { doc with
        table := table
        closed := key :: doc.closed.filter fun other => !key.isPrefixOf other
        frozen := doc.frozen.filter fun other => !key.isPrefixOf other
        header := key }

/-- Adds a value to the table of the last header. -/
def add (doc : Assembly) (key : Key) (value : Value) : Option Assembly :=
  let (path, name) := splitKey key
  let steps := (List.range (key.length - 1)).map fun i => doc.header ++ key.take (i + 1)
  if steps.any doc.closed.contains || isBelowAny doc.frozen (doc.header ++ path) then none
  else
    (updateTable true (addNew name value) (doc.header ++ path) doc.table).map fun table =>
      { doc with
        table := table
        fresh := steps ++ doc.fresh
        frozen := if isInlineNest value then (doc.header ++ key) :: doc.frozen else doc.frozen }

end Assembly

end IntegrationBuild.Toml
