/-!
Patterns of file names.  A pattern is a list of parts; each part matches a
piece of a path, and `**` is the only one that reaches across slashes by its
own right.
-/

namespace IntegrationBuild.Ignore

/-- Why an ignore file cannot be read or applied. -/
inductive Fault where
  | undecodable
  | emptyPattern
  | reversedRange (first last : String) (position : Nat)
  | unclosedClass (position : Nat)
deriving DecidableEq, Repr

/-- The text of a fault. -/
def Fault.message : Fault → String
  | .undecodable => "The ignore file is not UTF-8"
  | .emptyPattern => "string index out of range"
  | .reversedRange first last position =>
    "bad character range " ++ first ++ "-" ++ last ++ " at position " ++ toString position
  | .unclosedClass position => "unterminated character set at position " ++ toString position

/-- A part of a pattern. -/
inductive Part where
  /-- One given character. -/
  | char (c : Char)
  /-- A slash. -/
  | slash
  /-- `?`: one character that is no slash. -/
  | one
  /-- `*`: any characters that are no slashes. -/
  | segment
  /-- `**`: any characters. -/
  | all
  /-- `**/`: nothing, or any characters and a slash. -/
  | folders
  /-- `[...]`: one character of a class, or one that is not of it.  Each
  character of the class stands beside the way it is written. -/
  | among (negated : Bool) (body : List (String × Char))
deriving DecidableEq, Repr

/-- The characters that stand for themselves in an expression only after a
backslash. -/
def specialChars : List Char :=
  "()[]\x7b\x7d?*+-|^$\\.&~# \t\n\r\x0b\x0c".toList

/-- How long the expression is that a part stands for; positions in messages
count its characters. -/
def Part.width : Part → Nat
  | .char c => if specialChars.contains c then 2 else 1
  | .slash => 3
  | .one => 4
  | .segment => 5
  | .all => 2
  | .folders => 8
  | .among negated body =>
    body.foldl (fun n (written, _) => n + written.length) (if negated then 3 else 2)

/-- The ranges of a class; a hyphen makes one of the characters around it. -/
def classRanges : List (String × Char) → List (Char × Char)
  | (_, a) :: (_, '-') :: (_, b) :: rest => (a, b) :: classRanges rest
  | (_, a) :: rest => (a, a) :: classRanges rest
  | [] => []

/-- The first range of a class that ends before it begins. -/
def classFault? (position : Nat) : List (String × Char) → Option Fault
  | (s, a) :: (_, '-') :: (t, b) :: rest =>
    if b < a then some (.reversedRange s t position)
    else classFault? (position + s.length + t.length + 1) rest
  | (s, _) :: rest => classFault? (position + s.length) rest
  | [] => none

/-- The fault of a part at a position of an expression. -/
def Part.fault? (position : Nat) : Part → Option Fault
  | .among true [] => some (.unclosedClass position)
  | .among negated body => classFault? (position + (if negated then 2 else 1)) body
  | _ => none

/-- The first fault of parts that begin at a position. -/
def partsFault? (position : Nat) : List Part → Option Fault
  | [] => none
  | part :: rest => (part.fault? position).or (partsFault? (position + part.width) rest)

/-- How far a pattern reaches at its end. -/
inductive Ending where
  /-- The path ends here. -/
  | exact
  /-- The path ends here, or a directory of it does. -/
  | directory
  /-- The path ends here with a slash. -/
  | slash
deriving DecidableEq, Repr

/-- Whether what is left of a path is its end; one line break may follow. -/
def atEnd (rest : List Char) : Bool :=
  rest.isEmpty || rest == ['\n']

/-- Whether a pattern may end before the rest of a path. -/
def Ending.holds (ending : Ending) (rest : List Char) : Bool :=
  match ending with
  | .exact => atEnd rest
  | .directory => atEnd rest || rest.head? == some '/'
  | .slash => rest.head? == some '/' && atEnd (rest.drop 1)

/-- Whether what follows matches after some first characters, all of which
satisfy a condition. -/
def skipWhile (ok : Char → Bool) (next : List Char → Bool) : List Char → Bool
  | [] => next []
  | c :: rest => next (c :: rest) || (ok c && skipWhile ok next rest)

/-- Whether what follows matches after a slash, before which all characters
satisfy a condition. -/
def afterSlash (ok : Char → Bool) (next : List Char → Bool) : List Char → Bool
  | [] => false
  | c :: rest => (c == '/' && next rest) || (ok c && afterSlash ok next rest)

/-- Whether the first character satisfies a condition and the rest matches. -/
def takeOne (ok : Char → Bool) (next : List Char → Bool) : List Char → Bool
  | [] => false
  | c :: rest => ok c && next rest

/-- Whether parts match the start of a text up to an ending. -/
def matchesFrom (ending : Ending) : List Part → List Char → Bool
  | [] => ending.holds
  | part :: parts =>
    let next := matchesFrom ending parts
    match part with
    | .char c => takeOne (· == c) next
    | .slash => takeOne (· == '/') next
    | .one => takeOne (· != '/') next
    | .segment => skipWhile (· != '/') next
    | .all => skipWhile (· != '\n') next
    | .folders => fun s => next s || afterSlash (· != '\n') next s
    | .among negated body =>
      takeOne (fun c => ((classRanges body).any fun (a, b) => a ≤ c && c ≤ b) != negated) next

/-- A pattern: its parts, whether it starts where the path does, and its
ending. -/
structure Glob where
  parts : List Part
  anchored : Bool
  ending : Ending
deriving DecidableEq, Repr

/-- Whether a pattern matches a path.  One that is not anchored may start after
any slash. -/
def Glob.matchesPath (glob : Glob) (path : String) : Bool :=
  let start := matchesFrom glob.ending glob.parts
  start path.toList || (!glob.anchored && afterSlash (fun _ => true) start path.toList)

/-- The first fault of a pattern.  Its parts stand after an anchor of one
character or one of seven. -/
def Glob.fault? (glob : Glob) : Option Fault :=
  partsFault? (if glob.anchored then 1 else 7) glob.parts

/-- How a character of a class is written, with the character. -/
def classChar (c : Char) : String × Char :=
  if c == '\\' then ("\\\\", c) else (c.toString, c)

/-- The characters of a class as they are written: slashes are dropped, and a
caret that comes first is only a caret. -/
def classChars (body : List Char) : List (String × Char) :=
  match body.filter (· != '/') with
  | '^' :: rest => ("\\^", '^') :: rest.map classChar
  | chars => chars.map classChar

/-- The class that a bracket expression names, unless nothing is left of it. -/
def classPart (body : List Char) : Option Part :=
  match body.filter (· != '/') with
  | [] => none
  | '!' :: rest => some (.among true (rest.map classChar))
  | _ => some (.among false (classChars body))

/-- Splits a class at its closing bracket; a bracket that comes first, after an
exclamation mark or not, belongs to the class. -/
def splitClass (s : List Char) : Option (List Char × List Char) :=
  let (bang, s) := match s with
    | '!' :: rest => (['!'], rest)
    | s => ([], s)
  let (bracket, s) := match s with
    | ']' :: rest => ([']'], rest)
    | s => ([], s)
  match s.dropWhile (· != ']') with
  | [] => none
  | _ :: rest => some (bang ++ bracket ++ s.takeWhile (· != ']'), rest)

/-- The part that begins with a character, and how many characters after it
belong to it. -/
def readPart (c : Char) (rest : List Char) : Option (Part × Nat) :=
  match c, rest with
  | '*', '*' :: '/' :: _ => some (.folders, 2)
  | '*', '*' :: _ => some (.all, 1)
  | '*', _ => some (.segment, 0)
  | '?', _ => some (.one, 0)
  | '/', _ => some (.slash, 0)
  | '[', _ =>
    match splitClass rest with
    | none => some (.char '[', 0)
    | some (body, after) => (classPart body).map fun part => (part, rest.length - after.length)
  | c, _ => some (.char c, 0)

/-- Reads the parts of a pattern, of which `skip` characters have been read
already.  A class of which nothing is left cannot be read. -/
def readParts : Nat → List Char → Option (List Part)
  | _, [] => some []
  | skip + 1, _ :: rest => readParts skip rest
  | 0, c :: rest => do
    let (part, skip) ← readPart c rest
    let parts ← readParts skip rest
    some (part :: parts)

end IntegrationBuild.Ignore
