import IntegrationBuild.Proofs.TypeExpr.Shape

/-!
Why an expression is refused.  Each reason a refusal gives is a fact about a
part of the text, and a part that is read as a member is never empty, so what
the reader does with an empty member does not matter.  An expression is read in
normal form or refused for such a reason.
-/

namespace IntegrationBuild.TypeExpr

open Text

/-- The name before the arguments of a generic type. -/
def genericName (member : List Char) : List Char :=
  trim (cutAt '<' (dropEnd 1 member)).1

/-- The arguments of a generic type. -/
def arguments (member : List Char) : List (List Char) :=
  splitTopLevel ',' (cutAt '<' (dropEnd 1 member)).2

/-- Whether a text stands in parentheses. -/
def InParentheses (text : List Char) : Prop :=
  text.head? = some '(' ∧ text.getLast? = some ')'

mutual

/-- Why an expression is refused: one of its members is. -/
inductive ExpressionFault (known : List String) : List Char → TypeFault → Prop
  | blank {text part : List Char}
      (hpart : part ∈ splitTopLevel '|' (unmarked text))
      (hblank : trim part = []) : ExpressionFault known text .emptyMember
  | member {text part : List Char} {fault : TypeFault}
      (hpart : part ∈ splitTopLevel '|' (unmarked text))
      (hmember : MemberFault known (trim part) fault) :
      ExpressionFault known text fault

/-- Why a member is refused.  No constructor concerns the empty member. -/
inductive MemberFault (known : List String) : List Char → TypeFault → Prop
  | unterminated {first : Char} {rest : List Char}
      (hquote : isQuote first = true) (hlast : rest.getLast? ≠ some first) :
      MemberFault known (first :: rest)
        (.unterminatedLiteral (String.ofList (first :: rest)))
  | noItem {first : Char} {rest : List Char} (hquote : isQuote first = false)
      (hbrackets : endsWithBrackets (first :: rest) = true)
      (hblank : trim (dropEnd 2 (first :: rest)) = []) :
      MemberFault known (first :: rest) .arrayWithoutItem
  | group {first : Char} {rest : List Char} {fault : TypeFault}
      (hquote : isQuote first = false)
      (hbrackets : endsWithBrackets (first :: rest) = true)
      (hgroup : InParentheses (trim (dropEnd 2 (first :: rest))))
      (hitem : ExpressionFault known
        (inner (trim (dropEnd 2 (first :: rest)))) fault) :
      MemberFault known (first :: rest) fault
  | item {first : Char} {rest : List Char} {fault : TypeFault}
      (hquote : isQuote first = false)
      (hbrackets : endsWithBrackets (first :: rest) = true)
      (hitem : MemberFault known (trim (dropEnd 2 (first :: rest))) fault) :
      MemberFault known (first :: rest) fault
  | argument {first : Char} {rest part : List Char} {fault : TypeFault}
      (hquote : isQuote first = false)
      (hgeneric : isGeneric (first :: rest) = true)
      (hpart : part ∈ arguments (first :: rest))
      (hargument : ExpressionFault known part fault) :
      MemberFault known (first :: rest) fault
  | recordArity {first : Char} {rest : List Char}
      (hquote : isQuote first = false)
      (hgeneric : isGeneric (first :: rest) = true)
      (hname : genericName (first :: rest) = "Record".toList)
      (hsize : (arguments (first :: rest)).length ≠ 2) :
      MemberFault known (first :: rest) .recordArity
  | arrayArity {first : Char} {rest : List Char}
      (hquote : isQuote first = false)
      (hgeneric : isGeneric (first :: rest) = true)
      (hname : genericName (first :: rest) = "Array".toList)
      (hsize : (arguments (first :: rest)).length ≠ 1) :
      MemberFault known (first :: rest) .arrayArity
  | unsupported {first : Char} {rest : List Char}
      (hquote : isQuote first = false)
      (hgeneric : isGeneric (first :: rest) = true)
      (hrecord : genericName (first :: rest) ≠ "Record".toList)
      (harray : genericName (first :: rest) ≠ "Array".toList) :
      MemberFault known (first :: rest)
        (.unsupportedGeneric (String.ofList (genericName (first :: rest))))
  | unknown {member : List Char} (hident : isAsciiIdentifier member = true)
      (halias : Primitive.ofName? (String.ofList member) = none)
      (hunknown : String.ofList member ∉ known) :
      MemberFault known member (.unknownType (String.ofList member))
  | malformed {first : Char} {rest : List Char}
      (hquote : isQuote first = false)
      (hbrackets : endsWithBrackets (first :: rest) = false)
      (hgeneric : isGeneric (first :: rest) = false)
      (hident : isAsciiIdentifier (first :: rest) = false) :
      MemberFault known (first :: rest) .malformed

end

/-- Why the text of a field is refused. -/
inductive FieldFault (known : List String) (text : List Char) :
    TypeFault → Prop
  | empty (hblank : trimRight text = []) : FieldFault known text .empty
  | punctuation {last : Char} (hlast : (trimRight text).getLast? = some last)
      (hmark : last = ',' ∨ last = ';') :
      FieldFault known text .trailingPunctuation
  | expression {fault : TypeFault} (hfault : ExpressionFault known text fault) :
      FieldFault known text fault

variable {known : List String}

/-- The members of a union are refused at an empty member or at one that is
refused. -/
theorem exists_part_of_parseParts_error {texts : List (List Char)}
    {fault : TypeFault} (hread : parseParts known texts = .error fault) :
    ∃ text ∈ texts, (trim text = [] ∧ fault = .emptyMember) ∨
      (trim text ≠ [] ∧ parseMember known (trim text) = .error fault) := by
  induction texts with
  | nil => simp [parseParts] at hread
  | cons text rest ih =>
      have hrest : ∀ other, parseParts known rest = .error other →
          other = fault →
          ∃ part ∈ text :: rest, (trim part = [] ∧ fault = .emptyMember) ∨
            (trim part ≠ [] ∧ parseMember known (trim part) = .error fault) := by
        intro other hother heq
        obtain ⟨part, hpart, hfault⟩ := ih (heq ▸ hother)
        exact ⟨part, List.mem_cons_of_mem text hpart, hfault⟩
      rw [parseParts] at hread
      split at hread
      · next hempty =>
        cases hread
        exact ⟨text, List.mem_cons_self,
          Or.inl ⟨List.isEmpty_iff.mp hempty, rfl⟩⟩
      · next hempty =>
        split at hread
        · split at hread
          · simp at hread
          · next other hother => exact hrest other hother (by simpa using hread)
        · split at hread
          · split at hread
            · simp at hread
            · next other hother => exact hrest other hother (by simpa using hread)
          · split at hread
            · next other hother =>
              cases hread
              exact ⟨text, List.mem_cons_self,
                Or.inr ⟨by simpa using hempty, hother⟩⟩
            · split at hread
              · simp at hread
              · next other hother =>
                exact hrest other hother (by simpa using hread)

/-- An expression is refused for a reason if its members are. -/
theorem expressionFault_of_members {text : List Char} {fault : TypeFault}
    (hmembers : ∀ member fault, member ≠ [] → member.length ≤ text.length →
      parseMember known member = .error fault → MemberFault known member fault)
    (hread : parseExpression known text = .error fault) :
    ExpressionFault known text fault := by
  rw [parseExpression] at hread
  split at hread
  · simp at hread
  · next other hparts =>
    cases hread
    obtain ⟨part, hpart, ⟨hblank, rfl⟩ | ⟨hne, hmember⟩⟩ :=
      exists_part_of_parseParts_error hparts
    · exact .blank hpart hblank
    · exact .member hpart (hmembers (trim part) fault hne
        (length_trim_le_of_mem_splitTopLevel hpart) hmember)

section Step

variable {first : Char} {rest : List Char} {fault : TypeFault}

/-- A text in quotes is refused when the quote that opens it does not close
it. -/
theorem memberFault_of_quoted (hquote : isQuote first = true)
    (hread : parseMember known (first :: rest) = .error fault) :
    MemberFault known (first :: rest) fault := by
  rw [parseMember, if_pos hquote] at hread
  split at hread
  · next hopen =>
    cases hread
    apply MemberFault.unterminated hquote
    rw [Bool.or_eq_true, List.isEmpty_iff, bne_iff_ne] at hopen
    rcases hopen with rfl | hlast
    · simp
    · exact hlast
  · simp at hread

/-- An array is refused without an item, or with its item. -/
theorem memberFault_of_brackets
    (hexpression : ∀ text fault, text.length < (first :: rest).length →
      parseExpression known text = .error fault →
      ExpressionFault known text fault)
    (hmember : ∀ member fault, member ≠ [] →
      member.length < (first :: rest).length →
      parseMember known member = .error fault → MemberFault known member fault)
    (hquote : isQuote first = false)
    (hbrackets : endsWithBrackets (first :: rest) = true)
    (hread : parseMember known (first :: rest) = .error fault) :
    MemberFault known (first :: rest) fault := by
  rw [parseMember, if_neg (by simp [hquote]), dif_pos hbrackets] at hread
  dsimp only at hread
  split at hread
  · next hempty =>
    cases hread
    exact .noItem hquote hbrackets (List.isEmpty_iff.mp hempty)
  · next hempty =>
    split at hread
    · next hgroup =>
      simp only [Bool.and_eq_true, beq_iff_eq] at hgroup
      have hitem := Outcome.map_eq_error_iff.mp hread
      exact .group hquote hbrackets hgroup
        (hexpression _ _ (length_inner_item_lt hbrackets) hitem)
    · have hitem := Outcome.map_eq_error_iff.mp hread
      exact .item hquote hbrackets
        (hmember _ _ (by simpa using hempty) (length_item_lt hbrackets) hitem)

/-- A generic type is refused for its name, for the number of its arguments,
or with one of them. -/
theorem memberFault_of_generic
    (hexpression : ∀ text fault, text.length < (first :: rest).length →
      parseExpression known text = .error fault →
      ExpressionFault known text fault)
    (hquote : isQuote first = false)
    (hbrackets : endsWithBrackets (first :: rest) = false)
    (hgeneric : isGeneric (first :: rest) = true)
    (hread : parseMember known (first :: rest) = .error fault) :
    MemberFault known (first :: rest) fault := by
  have hargument : ∀ part ∈ arguments (first :: rest), ∀ fault,
      parseExpression known part = .error fault →
      MemberFault known (first :: rest) fault := by
    intro part hpart fault hfault
    apply MemberFault.argument hquote hgeneric hpart
    exact hexpression part fault (length_lt_of_mem_arguments hgeneric hpart) hfault
  rw [parseMember, if_neg (by simp [hquote]), dif_neg (by simp [hbrackets]),
    dif_pos hgeneric] at hread
  dsimp only at hread
  split at hread
  · next hrecord =>
    split at hread
    · next key value hsplit =>
      have hkey : key ∈ arguments (first :: rest) := by
        simp [arguments, hsplit]
      have hvalue : value ∈ arguments (first :: rest) := by
        simp [arguments, hsplit]
      split at hread
      · next other hother =>
        cases hread
        exact hargument key hkey _ hother
      · split at hread
        · next other hother =>
          cases hread
          exact hargument value hvalue _ hother
        · simp at hread
    · next hsplit =>
      cases hread
      apply MemberFault.recordArity hquote hgeneric (eq_of_beq hrecord)
      intro hsize
      obtain ⟨key, value, htwo⟩ := List.length_eq_two.mp hsize
      exact hsplit key value htwo
  · next hrecord =>
    split at hread
    · next harray =>
      split at hread
      · next item hsplit =>
        exact hargument item (by simp [arguments, hsplit]) _
          (Outcome.map_eq_error_iff.mp hread)
      · next hsplit =>
        cases hread
        apply MemberFault.arrayArity hquote hgeneric (eq_of_beq harray)
        intro hsize
        obtain ⟨item, hone⟩ := List.length_eq_one_iff.mp hsize
        exact hsplit item hone
    · next harray =>
      cases hread
      exact .unsupported hquote hgeneric (mt beq_iff_eq.mpr hrecord)
        (mt beq_iff_eq.mpr harray)

theorem named_eq_error {name : String}
    (hnamed : named known name = .error fault) :
    Primitive.ofName? name = none ∧ name ∉ known ∧
      fault = .unknownType name := by
  rw [named] at hnamed
  split at hnamed
  · simp at hnamed
  · next halias =>
    split at hnamed
    · simp at hnamed
    · next hunknown =>
      cases hnamed
      exact ⟨halias, by simpa using hunknown, rfl⟩

/-- Anything else is refused when it is no identifier or names nothing. -/
theorem memberFault_of_plain (hquote : isQuote first = false)
    (hbrackets : endsWithBrackets (first :: rest) = false)
    (hgeneric : isGeneric (first :: rest) = false)
    (hread : parseMember known (first :: rest) = .error fault) :
    MemberFault known (first :: rest) fault := by
  rw [parseMember, if_neg (by simp [hquote]), dif_neg (by simp [hbrackets]),
    dif_neg (by simp [hgeneric])] at hread
  split at hread
  · next hident =>
    obtain ⟨halias, hunknown, rfl⟩ := named_eq_error hread
    exact .unknown hident halias hunknown
  · next hident =>
    cases hread
    exact .malformed hquote hbrackets hgeneric (by simpa using hident)

end Step

/-- A member with something in it is refused for a reason. -/
theorem memberFault_of_parseMember {member : List Char} {fault : TypeFault}
    (hne : member ≠ []) (hread : parseMember known member = .error fault) :
    MemberFault known member fault := by
  induction hn : member.length using Nat.strongRecOn
    generalizing member fault with
  | ind n ih =>
      subst hn
      obtain ⟨first, rest, rfl⟩ := List.exists_cons_of_ne_nil hne
      have hmember : ∀ part fault, part ≠ [] →
          part.length < (first :: rest).length →
          parseMember known part = .error fault →
          MemberFault known part fault := by
        intro part fault hpart hlt hfault
        exact ih part.length hlt hpart hfault rfl
      have hexpression : ∀ text fault, text.length < (first :: rest).length →
          parseExpression known text = .error fault →
          ExpressionFault known text fault := by
        intro text fault hlt htext
        apply expressionFault_of_members _ htext
        intro part fault hpart hle hfault
        exact hmember part fault hpart (by omega) hfault
      cases hquote : isQuote first with
      | true => exact memberFault_of_quoted hquote hread
      | false =>
        cases hbrackets : endsWithBrackets (first :: rest) with
        | true =>
          exact memberFault_of_brackets hexpression hmember hquote hbrackets hread
        | false =>
          cases hgeneric : isGeneric (first :: rest) with
          | true =>
            exact memberFault_of_generic hexpression hquote hbrackets hgeneric
              hread
          | false => exact memberFault_of_plain hquote hbrackets hgeneric hread

/-- A text is refused as a field for a reason. -/
theorem fieldFault_of_compile {raw : String} {fault : TypeFault}
    (hread : compile raw known = .error fault) :
    FieldFault known raw.toList fault := by
  rw [compile] at hread
  split at hread
  · next hnone =>
    cases hread
    exact .empty (List.getLast?_eq_none_iff.mp hnone)
  · next last hlast =>
    split at hread
    · next hmark =>
      cases hread
      exact .punctuation hlast (by simpa using hmark)
    · exact .expression (expressionFault_of_members
        (fun _ _ hne _ hmember => memberFault_of_parseMember hne hmember) hread)

/-- On every text and over all known models, the expression of a field is
refused for a reason, with an error that carries the model and the field, or it
is read as a type in normal form. -/
theorem compileField_refused_or_normal (raw : String) (known : List String)
    (model : String) (field : Option String) :
    (∃ fault, FieldFault known raw.toList fault ∧
      compileField raw known model field =
        .error (.ofFault raw model (field.getD raw) fault)) ∨
    (∃ type, TypeRef.NormalForm known type ∧
      compileField raw known model field = .ok type) := by
  cases hcompile : compile raw known with
  | error fault =>
    refine Or.inl ⟨fault, fieldFault_of_compile hcompile, ?_⟩
    rw [compileField, hcompile]
  | ok type =>
    have hread : compileField raw known model field = .ok type := by
      rw [compileField, hcompile]
    exact Or.inr ⟨type, (normal_compileField hread).normalForm, hread⟩

end IntegrationBuild.TypeExpr
