import IntegrationBuild.Ignore.Glob
import IntegrationBuild.Text.Blank

/-!
Rules of ignore files.  A line is a pattern; an exclamation mark before it
takes files back that an earlier line ignores.
-/

namespace IntegrationBuild.Ignore

/-- A rule: a pattern that ignores what it matches or, negated, does not. -/
structure Rule where
  negated : Bool
  glob : Glob
deriving DecidableEq, Repr

/-- Shortens asterisks after a character that is no slash to one.  `skip`
characters have been dealt with. -/
def shortenAfter : Nat → List Char → List Char
  | _, [] => []
  | skip + 1, _ :: rest => shortenAfter skip rest
  | 0, c :: rest =>
    let stars := (rest.takeWhile (· == '*')).length
    if c != '/' && 2 ≤ stars then c :: '*' :: shortenAfter stars rest
    else c :: shortenAfter 0 rest

/-- Shortens asterisks before a character that is no slash to one; the last of
three or more counts as such a character.  `skip` characters have been dealt
with. -/
def shortenBefore : Nat → List Char → List Char
  | _, [] => []
  | skip + 1, _ :: rest => shortenBefore skip rest
  | 0, c :: rest =>
    let stars := if c == '*' then (rest.takeWhile (· == '*')).length + 1 else 0
    if stars < 2 then c :: shortenBefore 0 rest
    else
      match rest.drop (stars - 1) with
      | d :: _ =>
        if d != '/' then '*' :: d :: shortenBefore stars rest
        else if 3 ≤ stars then '*' :: '*' :: shortenBefore (stars - 1) rest
        else c :: shortenBefore 0 rest
      | [] =>
        if 3 ≤ stars then '*' :: '*' :: shortenBefore (stars - 1) rest
        else c :: shortenBefore 0 rest

/-- Drops the spaces at the end of a pattern, given backwards, of at least
three characters.  A backslash before a space keeps it and all spaces before
it, and goes itself. -/
def trimSpaces (strip : Bool) (kept : List Char) : List Char → List Char
  | ' ' :: '\\' :: c :: rest => trimSpaces false (' ' :: kept) (c :: rest)
  | ' ' :: b :: c :: rest => trimSpaces strip (if strip then kept else ' ' :: kept) (b :: c :: rest)
  | rest => rest.reverse ++ kept

/-- The first character of a pattern that must not be empty. -/
def first (pattern : List Char) : Except Fault Char :=
  match pattern with
  | c :: _ => .ok c
  | [] => .error .emptyPattern

/-- The last character of a pattern that must not be empty. -/
def last (pattern : List Char) : Except Fault Char :=
  first pattern.reverse

/-- Drops a slash at the start. -/
def dropSlash (pattern : List Char) : Except Fault (List Char) := do
  if (← first pattern) == '/' then pure (pattern.drop 1) else pure pattern

/-- Drops two asterisks at the start and tells whether they were there. -/
def dropStars (pattern : List Char) : Except Fault (Bool × List Char) := do
  let _ ← first pattern
  match pattern with
  | '*' :: '*' :: rest => pure (true, rest)
  | pattern => pure (false, pattern)

/-- Drops a slash at the end. -/
def dropLastSlash (pattern : List Char) : Except Fault (List Char) := do
  if (← last pattern) == '/' then pure pattern.dropLast else pure pattern

/-- Drops a backslash that keeps a number sign or an exclamation mark from its
meaning. -/
def unescape (pattern : List Char) : Except Fault (List Char) :=
  match pattern with
  | [] | ['\\'] => .error .emptyPattern
  | '\\' :: c :: rest => .ok (if c == '#' || c == '!' then c :: rest else pattern)
  | pattern => .ok pattern

/-- The rule of a pattern after its exclamation mark. -/
def ruleOf (negated : Bool) (pattern : List Char) : Except Fault Rule := do
  let directoryOnly := (← last pattern) == '/'
  let slashInside := pattern.dropLast.contains '/'
  let pattern ← dropSlash pattern
  let (free, pattern) ← dropStars pattern
  let pattern ← dropSlash pattern
  let pattern ← dropLastSlash pattern
  let pattern ← unescape pattern
  let ending : Ending :=
    if !directoryOnly then .exact else if negated then .slash else .directory
  match readParts 0 (trimSpaces true [] pattern.reverse) with
  | none => throw .emptyPattern
  | some parts =>
    let glob : Glob := { parts := parts, anchored := slashInside && !free, ending := ending }
    pure { negated := negated, glob := glob }

/-- The rule of a line, if it has one. -/
def ruleOfLine (line : List Char) : Except Fault (Option Rule) :=
  if (Text.trim line).isEmpty || line.head? == some '#' then .ok none
  else
    let (negated, pattern) := match line with
      | '!' :: rest => (true, rest)
      | line => (false, line)
    let pattern := shortenBefore 0 (shortenAfter 0 pattern)
    if Text.trimRight pattern == ['/'] then .ok none
    else (ruleOf negated pattern).map some

/-- Whether a rule matches a path.  A pattern with an impossible class is
refused only here, when the rule is applied. -/
def Rule.matchesPath (rule : Rule) (path : String) : Except Fault Bool :=
  match rule.glob.fault? with
  | some fault => .error fault
  | none => .ok (rule.glob.matchesPath path)

/-- Whether any rule matches a path; rules after the first that does are not
looked at. -/
def anyMatches (path : String) : List Rule → Except Fault Bool
  | [] => .ok false
  | rule :: rest => do if ← rule.matchesPath path then pure true else anyMatches path rest

/-- Whether the first rule that matches a path, if one does, ignores it. -/
def firstDecides (path : String) : List Rule → Except Fault Bool
  | [] => .ok false
  | rule :: rest => do
    if ← rule.matchesPath path then pure !rule.negated else firstDecides path rest

/-- Whether rules ignore a path.  If any of them is negated, the last one that
matches decides. -/
def ignores (rules : List Rule) (path : String) : Except Fault Bool :=
  if rules.any (·.negated) then firstDecides path rules.reverse else anyMatches path rules

end IntegrationBuild.Ignore
