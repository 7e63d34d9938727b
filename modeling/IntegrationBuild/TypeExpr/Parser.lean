import IntegrationBuild.Text.Blank
import IntegrationBuild.Text.Identifier
import IntegrationBuild.TypeExpr.Basic
import IntegrationBuild.TypeExpr.Error
import IntegrationBuild.TypeExpr.Split

/-!
Reading type expressions.

    expression := "?"? member ("|" member)*
    member     := literal | array | record | identifier
    array      := member "[]" | "(" expression ")" "[]" | "Array<" expression ">"
    record     := "Record<" expression "," expression ">"
    literal    := a quoted text, in single or double quotes

The members `null` and `undefined` are not kept in a union: they make the whole
expression nullable and optional.  Each step reads a strictly smaller part of
the text, so reading ends on every input.
-/

namespace IntegrationBuild.TypeExpr

open Text

/-- The text without its first and its last character. -/
def inner (s : List Char) : List Char :=
  s.dropLast.drop 1

theorem length_inner_le (s : List Char) : (inner s).length ≤ s.length - 2 := by
  simp [inner]
  omega

/-- Cuts a text at the first occurrence of a character. -/
def cutAt (mark : Char) (s : List Char) : List Char × List Char :=
  (s.takeWhile (· != mark), (s.dropWhile (· != mark)).drop 1)

theorem length_cutAt_snd_le (mark : Char) (s : List Char) :
    (cutAt mark s).2.length ≤ s.length - 1 := by
  have h := (List.dropWhile_sublist (fun c => c != mark) (l := s)).length_le
  simp only [cutAt, List.length_drop]
  omega

/-- The text without its last `n` characters. -/
def dropEnd (n : Nat) (s : List Char) : List Char :=
  s.take (s.length - n)

theorem length_dropEnd (n : Nat) (s : List Char) : (dropEnd n s).length = s.length - n := by
  simp [dropEnd]

/-- Whether a text ends with an empty pair of brackets. -/
def endsWithBrackets (s : List Char) : Bool :=
  ['[', ']'].isSuffixOf s

theorem two_le_length_of_endsWithBrackets {s : List Char} (h : endsWithBrackets s = true) :
    2 ≤ s.length :=
  (List.isSuffixOf_iff_suffix.1 h).length_le

/-- The members of a union as read so far, with the two flags that wrap it. -/
structure Parts where
  members : List TypeRef := []
  nullable : Bool := false
  optional : Bool := false
deriving Inhabited, Repr

/-- The type made of the parts of an expression. -/
def Parts.toTypeRef (parts : Parts) : TypeRef :=
  let wrap (ref : TypeRef) := if parts.optional then TypeRef.optional ref else ref
  match parts.members with
  | [] => wrap (.primitive .null)
  | members =>
    let ref := match members with
      | [ref] => if ref.isLiteral then .union [ref] else ref
      | members => .union members
    wrap (if parts.nullable then .nullable ref else ref)

/-- A literal that stands where a type is needed is a union of one. -/
def asType (ref : TypeRef) : TypeRef :=
  if ref.isLiteral then .union [ref] else ref

/-- The type an identifier names: a primitive first, then a model. -/
def named (known : List String) (name : String) : Except TypeFault TypeRef :=
  match Primitive.ofName? name with
  | some p => .ok (.primitive p)
  | none => if known.contains name then .ok (.model name) else .error (.unknownType name)

/-- Whether a member has the shape of a generic type. -/
def isGeneric (member : List Char) : Bool :=
  member.getLast? == some '>' && member.contains '<'

theorem two_le_length_of_isGeneric {member : List Char} (h : isGeneric member = true) :
    2 ≤ member.length := by
  simp only [isGeneric, Bool.and_eq_true, beq_iff_eq] at h
  match member, h with
  | [c], h => simp at h; exact absurd (h.1.symm.trans h.2.symm) (by decide)
  | _ :: _ :: _, _ => simp

/-- Whether an expression begins with a question mark. -/
def isMarked (text : List Char) : Bool :=
  (trim text).head? == some '?'

/-- An expression without its question mark and the blanks around it. -/
def unmarked (text : List Char) : List Char :=
  if isMarked text then trim ((trim text).drop 1) else trim text

theorem length_unmarked_le (text : List Char) : (unmarked text).length ≤ text.length := by
  have h1 := length_trim_le text
  have h2 := length_trim_le ((trim text).drop 1)
  simp only [List.length_drop] at h2
  unfold unmarked
  split <;> omega

mutual

/-- Reads an expression. -/
def parseExpression (known : List String) (text : List Char) : Except TypeFault TypeRef :=
  match parseParts known (splitTopLevel '|' (unmarked text)) with
  | .ok parts => .ok { parts with optional := parts.optional || isMarked text }.toTypeRef
  | .error fault => .error fault
termination_by 2 * text.length + 3
decreasing_by
  have h1 := length_unmarked_le text
  have h2 := partsSize_splitFrom '|' {} (unmarked text)
  simp only [splitTopLevel]
  omega

/-- Reads the members of a union, in order. -/
def parseParts (known : List String) (parts : List (List Char)) :
    Except TypeFault Parts :=
  match parts with
  | [] => .ok {}
  | part :: rest =>
    let member := trim part
    if member.isEmpty then .error .emptyMember
    else if member == "null".toList then
      match parseParts known rest with
      | .ok parts => .ok { parts with nullable := true }
      | .error fault => .error fault
    else if member == "undefined".toList then
      match parseParts known rest with
      | .ok parts => .ok { parts with optional := true }
      | .error fault => .error fault
    else
      match parseMember known member with
      | .error fault => .error fault
      | .ok ref =>
        match parseParts known rest with
        | .ok parts => .ok { parts with members := ref :: parts.members }
        | .error fault => .error fault
termination_by 2 * partsSize parts
decreasing_by
  all_goals
    have := length_trim_le part
    simp only [partsSize] at *
    omega

/-- Reads one member of a union. -/
def parseMember (known : List String) (member : List Char) : Except TypeFault TypeRef :=
  match member with
  | [] => .error .malformed
  | first :: rest =>
    if isQuote first then
      if rest.isEmpty || rest.getLast? != some first then
        .error (.unterminatedLiteral (String.ofList (first :: rest)))
      else .ok (.literal (String.ofList (inner (first :: rest))))
    else if _hb : endsWithBrackets (first :: rest) = true then
      let item := trim (dropEnd 2 (first :: rest))
      if item.isEmpty then .error .arrayWithoutItem
      else if item.head? == some '(' && item.getLast? == some ')' then
        (parseExpression known (inner item)).map .array
      else (parseMember known item).map fun ref => .array (asType ref)
    else if _hg : isGeneric (first :: rest) = true then
      let name := trim (cutAt '<' (dropEnd 1 (first :: rest))).1
      if name == "Record".toList then
        match _hs : splitTopLevel ',' (cutAt '<' (dropEnd 1 (first :: rest))).2 with
        | [key, value] =>
          match parseExpression known key with
          | .error fault => .error fault
          | .ok key =>
            match parseExpression known value with
            | .error fault => .error fault
            | .ok value => .ok (.record key value)
        | _ => .error .recordArity
      else if name == "Array".toList then
        match _hs : splitTopLevel ',' (cutAt '<' (dropEnd 1 (first :: rest))).2 with
        | [item] => (parseExpression known item).map .array
        | _ => .error .arrayArity
      else .error (.unsupportedGeneric (String.ofList name))
    else if isAsciiIdentifier (first :: rest) then
      named known (String.ofList (first :: rest))
    else .error .malformed
termination_by 2 * member.length + 1
decreasing_by
  · have h1 := length_trim_le (dropEnd 2 (first :: rest))
    have h2 := length_inner_le (trim (dropEnd 2 (first :: rest)))
    have h3 := length_dropEnd 2 (first :: rest)
    have h4 := two_le_length_of_endsWithBrackets _hb
    simp only [item, List.length_cons] at *
    omega
  · have h1 := length_trim_le (dropEnd 2 (first :: rest))
    have h3 := length_dropEnd 2 (first :: rest)
    simp only [item, List.length_cons] at *
    omega
  all_goals
    have h1 := partsSize_splitFrom ',' {} (cutAt '<' (dropEnd 1 (first :: rest))).2
    have h2 := length_cutAt_snd_le '<' (dropEnd 1 (first :: rest))
    have h3 := length_dropEnd 1 (first :: rest)
    have h4 := two_le_length_of_isGeneric _hg
    simp only [splitTopLevel] at _hs
    rw [_hs] at h1
    simp only [partsSize, List.length_cons] at h1 h2 h3 h4 ⊢
    omega

end

/-- Reads the expression of a field. -/
def compile (raw : String) (known : List String) : Except TypeFault TypeRef :=
  let text := raw.toList
  match (trimRight text).getLast? with
  | none => .error .empty
  | some last =>
    if last == ',' || last == ';' then .error .trailingPunctuation
    else parseExpression known text

/-- Reads the expression of a field; an error names the model and the field. -/
def compileField (raw : String) (known : List String) (model : String) (field : Option String) :
    Except FieldError TypeRef :=
  match compile raw known with
  | .ok ref => .ok ref
  | .error fault => .error (.ofFault raw model (field.getD raw) fault)

end IntegrationBuild.TypeExpr
