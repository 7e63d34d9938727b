import IntegrationBuild.Proofs.TypeExpr.Derivation
import IntegrationBuild.Proofs.TypeExpr.Normal

/-!
Derivations of the grammar of type expressions.  A derivation has a list of
tokens and a tree.  The restrictions on names, literals and items are part of
the derivations, so each of them stands for a text that has to be read.
-/

namespace IntegrationBuild.TypeExpr

open Text

mutual

/-- Members after an optional question mark. -/
inductive Expression (known : List String) where
  | mk (marked : Bool) (members : Members known)

/-- Members with bars between them. -/
inductive Members (known : List String) where
  | last (member : Member known)
  | more (member : Member known) (rest : Members known)

/-- A member of a union: a literal, the word `undefined` or a type. -/
inductive Member (known : List String) where
  | literal (quote : Char) (text : List Char) (hquote : isQuote quote = true)
      (htext : quote ∉ text)
  | absent
  | term (type : Term known)

/-- A type that can be the item of an array. -/
inductive Term (known : List String) where
  | primitive (word : String) (type : Primitive)
      (hword : Primitive.ofName? word = some type)
  | model (name : String) (hknown : name ∈ known)
      (hident : isAsciiIdentifier name.toList = true)
      (halias : Primitive.ofName? name = none) (habsent : name ≠ "undefined")
  | items (term : Term known)
  | group (item : Expression known)
  | array (item : Expression known)
  | record (key value : Expression known)

end

mutual

/-- The tokens of an expression, in order. -/
def Expression.tokens {known : List String} :
    Expression known → List (List Char)
  | .mk true members => ['?'] :: members.tokens
  | .mk false members => members.tokens

/-- The tokens of the members of an expression. -/
def Members.tokens {known : List String} : Members known → List (List Char)
  | .last member => member.tokens
  | .more member rest => member.tokens ++ ['|'] :: rest.tokens

/-- The tokens of a member; a literal is one token with its quotes. -/
def Member.tokens {known : List String} : Member known → List (List Char)
  | .literal quote text _ _ => [quote :: text ++ [quote]]
  | .absent => ["undefined".toList]
  | .term type => type.tokens

/-- The tokens of a type. -/
def Term.tokens {known : List String} : Term known → List (List Char)
  | .primitive word _ _ => [word.toList]
  | .model name _ _ _ _ => [name.toList]
  | .items term => term.tokens ++ [['[', ']']]
  | .group item => ['('] :: item.tokens ++ [[')'], ['[', ']']]
  | .array item => genericTokens "Array" item.tokens
  | .record key value =>
    genericTokens "Record" (key.tokens ++ [','] :: value.tokens)

end

/-- Whether a member is the word `null`. -/
def Member.isNull {known : List String} : Member known → Bool
  | .term (.primitive _ .null _) => true
  | _ => false

/-- Whether a member is the word `undefined`. -/
def Member.isAbsent {known : List String} : Member known → Bool
  | .absent => true
  | _ => false

/-- The members one by one. -/
def Members.toList {known : List String} : Members known → List (Member known)
  | .last member => [member]
  | .more member rest => member :: rest.toList

/-- The type of an expression with these members: `null` alone when nothing is
kept, else what is kept with at most one wrapper of each kind around it. -/
def wrapped (kept : List TypeRef) (nullable optional : Bool) : TypeRef :=
  let present :=
    if kept.isEmpty then .primitive .null
    else if nullable then .nullable (joined kept) else joined kept
  if optional then .optional present else present

mutual

/-- The tree of an expression. -/
def Expression.tree {known : List String} : Expression known → TypeRef
  | .mk marked members =>
    wrapped members.kept (members.toList.any Member.isNull)
      (marked || members.toList.any Member.isAbsent)

/-- The members that stay in the union, in order. -/
def Members.kept {known : List String} : Members known → List TypeRef
  | .last member => member.kept
  | .more member rest => member.kept ++ rest.kept

/-- What a member leaves in the union. -/
def Member.kept {known : List String} : Member known → List TypeRef
  | .literal _ text _ _ => [.literal (String.ofList text)]
  | .absent => []
  | .term type => if (Member.term type).isNull then [] else [type.tree]

/-- The tree of a type. -/
def Term.tree {known : List String} : Term known → TypeRef
  | .primitive _ type _ => .primitive type
  | .model name _ _ _ _ => .model name
  | .items term => .array term.tree
  | .group item => .array item.tree
  | .array item => .array item.tree
  | .record key value => .record key.tree value.tree

end

/-- The words for primitives are identifiers. -/
theorem isAsciiIdentifier_of_ofName? {word : String} {type : Primitive}
    (hword : Primitive.ofName? word = some type) :
    isAsciiIdentifier word.toList = true := by
  obtain ⟨before, after, haliases, -⟩ := List.lookup_eq_some_iff.mp hword
  have hmem : (word, type) ∈ Primitive.aliases := by
    rw [haliases]
    simp
  have hall : ∀ entry ∈ Primitive.aliases,
      isAsciiIdentifier entry.1.toList = true := by decide
  exact hall _ hmem

mutual

/-- The tokens of a derivation with a tree are derived by the grammar. -/
theorem Expression.derives {known : List String} (e : Expression known) :
    Derives .expression e.tokens := by
  match e with
  | .mk true members => exact .marked members.derives
  | .mk false members => exact .plain members.derives

theorem Members.derives {known : List String} (members : Members known) :
    Derives .members members.tokens := by
  match members with
  | .last member => exact .last member.derives
  | .more member rest => exact .more member.derives rest.derives

theorem Member.derives {known : List String} (member : Member known) :
    Derives .member member.tokens := by
  match member with
  | .literal quote text hquote htext => exact .literal hquote htext
  | .absent => exact .identifier (by decide)
  | .term type => exact type.derives

theorem Term.derives {known : List String} (term : Term known) :
    Derives .member term.tokens := by
  match term with
  | .primitive _ _ hword => exact .identifier (isAsciiIdentifier_of_ofName? hword)
  | .model _ _ hident _ _ => exact .identifier hident
  | .items item => exact .items item.derives
  | .group item => exact .group item.derives
  | .array item => exact .array item.derives
  | .record key value => exact .record key.derives value.derives

end

/-- A type begins with a word or a parenthesis. -/
theorem Term.begins {known : List String} (term : Term known) :
    ∃ c, Begins term.tokens c ∧ (WordChar c ∨ c = '(') := by
  match term with
  | .primitive _ _ hword =>
      obtain ⟨c, hbegins, hc⟩ := exists_begins_of_isAsciiIdentifier
        (isAsciiIdentifier_of_ofName? hword)
      exact ⟨c, hbegins, Or.inl hc⟩
  | .model _ _ hident _ _ =>
      obtain ⟨c, hbegins, hc⟩ := exists_begins_of_isAsciiIdentifier hident
      exact ⟨c, hbegins, Or.inl hc⟩
  | .items term =>
      obtain ⟨c, hbegins, hc⟩ := term.begins
      exact ⟨c, hbegins.append _, hc⟩
  | .group item => exact ⟨'(', ⟨[], _, rfl⟩, Or.inr rfl⟩
  | .array item => exact ⟨'A', ⟨"rray".toList, _, rfl⟩, Or.inl (by decide)⟩
  | .record key value =>
      exact ⟨'R', ⟨"ecord".toList, _, rfl⟩, Or.inl (by decide)⟩

end IntegrationBuild.TypeExpr
