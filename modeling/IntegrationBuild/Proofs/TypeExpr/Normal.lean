import IntegrationBuild.Proofs.Outcome
import IntegrationBuild.TypeExpr.Parser

/-!
What reading an expression can give.  `MemberReading` says once what one step
of the reader does; from it, by induction on the length of the text, every
type that is read is in normal form: unions are flat, `null` stands alone or
as a wrapper, and a wrapper stands outermost.
-/

namespace IntegrationBuild.TypeExpr

open Text

/-- What one step of the reader makes of a member. -/
inductive MemberReading (known : List String) : List Char → TypeRef → Prop
  | literal {first : Char} {rest : List Char} (hquote : isQuote first = true)
      (hne : rest ≠ []) (hlast : rest.getLast? = some first) :
      MemberReading known (first :: rest)
        (.literal (String.ofList (inner (first :: rest))))
  | group {first : Char} {rest : List Char} {ref : TypeRef}
      (hquote : isQuote first = false)
      (hbrackets : endsWithBrackets (first :: rest) = true)
      (hopen : (trim (dropEnd 2 (first :: rest))).head? = some '(')
      (hclose : (trim (dropEnd 2 (first :: rest))).getLast? = some ')')
      (hread : parseExpression known
        (inner (trim (dropEnd 2 (first :: rest)))) = .ok ref) :
      MemberReading known (first :: rest) (.array ref)
  | item {first : Char} {rest : List Char} {ref : TypeRef}
      (hquote : isQuote first = false)
      (hbrackets : endsWithBrackets (first :: rest) = true)
      (hread : parseMember known (trim (dropEnd 2 (first :: rest))) = .ok ref) :
      MemberReading known (first :: rest) (.array (asType ref))
  | record {first : Char} {rest key value : List Char}
      {keyRef valueRef : TypeRef}
      (hquote : isQuote first = false)
      (hgeneric : isGeneric (first :: rest) = true)
      (hsplit : splitTopLevel ',' (cutAt '<' (dropEnd 1 (first :: rest))).2 =
        [key, value])
      (hkey : parseExpression known key = .ok keyRef)
      (hvalue : parseExpression known value = .ok valueRef) :
      MemberReading known (first :: rest) (.record keyRef valueRef)
  | array {first : Char} {rest item : List Char} {ref : TypeRef}
      (hquote : isQuote first = false)
      (hgeneric : isGeneric (first :: rest) = true)
      (hsplit : splitTopLevel ',' (cutAt '<' (dropEnd 1 (first :: rest))).2 =
        [item])
      (hitem : parseExpression known item = .ok ref) :
      MemberReading known (first :: rest) (.array ref)
  | name {member : List Char} {ref : TypeRef}
      (hident : isAsciiIdentifier member = true)
      (hnamed : named known (String.ofList member) = .ok ref) :
      MemberReading known member ref

/-- A member that is read was read by one of the steps above. -/
theorem memberReading_of_parseMember {known : List String}
    {member : List Char} {ref : TypeRef}
    (hread : parseMember known member = .ok ref) :
    MemberReading known member ref := by
  cases member with
  | nil => simp [parseMember] at hread
  | cons first rest =>
      rw [parseMember] at hread
      by_cases hquote : isQuote first = true
      · rw [if_pos hquote] at hread
        split at hread
        · simp at hread
        · next hclosed =>
          simp only [Bool.or_eq_true, List.isEmpty_iff, bne_iff_ne, ne_eq,
            not_or, Decidable.not_not] at hclosed
          cases hread
          exact .literal hquote hclosed.1 hclosed.2
      · rw [if_neg hquote] at hread
        have hquote : isQuote first = false := by simpa using hquote
        by_cases hbrackets : endsWithBrackets (first :: rest) = true
        · rw [dif_pos hbrackets] at hread
          dsimp only at hread
          split at hread
          · simp at hread
          · split at hread
            · next hgroup =>
              simp only [Bool.and_eq_true, beq_iff_eq] at hgroup
              obtain ⟨item, hitem, rfl⟩ := Outcome.map_eq_ok_iff.mp hread
              exact .group hquote hbrackets hgroup.1 hgroup.2 hitem
            · obtain ⟨item, hitem, rfl⟩ := Outcome.map_eq_ok_iff.mp hread
              exact .item hquote hbrackets hitem
        · rw [dif_neg hbrackets] at hread
          by_cases hgeneric : isGeneric (first :: rest) = true
          · rw [dif_pos hgeneric] at hread
            dsimp only at hread
            split at hread
            · split at hread
              · next key value hsplit =>
                split at hread
                · simp at hread
                · next keyRef hkey =>
                  split at hread
                  · simp at hread
                  · next valueRef hvalue =>
                    cases hread
                    exact .record hquote hgeneric hsplit hkey hvalue
              · simp at hread
            · split at hread
              · split at hread
                · next item hsplit =>
                  obtain ⟨ref, hitem, rfl⟩ := Outcome.map_eq_ok_iff.mp hread
                  exact .array hquote hgeneric hsplit hitem
                · simp at hread
              · simp at hread
          · rw [dif_neg hgeneric] at hread
            split at hread
            · next hident => exact .name hident hread
            · simp at hread

theorem getLast?_of_endsWithBrackets {member : List Char}
    (hbrackets : endsWithBrackets member = true) :
    member.getLast? = some ']' := by
  obtain ⟨before, rfl⟩ := List.isSuffixOf_iff_suffix.mp hbrackets
  rw [List.getLast?_append]
  rfl

theorem getLast?_of_isGeneric {member : List Char}
    (hgeneric : isGeneric member = true) : member.getLast? = some '>' := by
  rw [isGeneric, Bool.and_eq_true, beq_iff_eq] at hgeneric
  exact hgeneric.1

/-- A member that is read does not stand in parentheses. -/
theorem not_grouped_of_parseMember {known : List String} {member : List Char}
    {ref : TypeRef} (hread : parseMember known member = .ok ref) :
    ¬ (member.head? = some '(' ∧ member.getLast? = some ')') := by
  rintro ⟨hhead, hclose⟩
  have hends : ∀ c, member.getLast? = some c → c = ')' := by
    intro c hc
    exact Option.some.inj (hc.symm.trans hclose)
  cases memberReading_of_parseMember hread with
  | literal hquote =>
      obtain rfl := Option.some.inj hhead
      simp [isQuote] at hquote
  | group _ hbrackets =>
      exact absurd (hends _ (getLast?_of_endsWithBrackets hbrackets)) (by decide)
  | item _ hbrackets =>
      exact absurd (hends _ (getLast?_of_endsWithBrackets hbrackets)) (by decide)
  | record _ hgeneric =>
      exact absurd (hends _ (getLast?_of_isGeneric hgeneric)) (by decide)
  | array _ hgeneric =>
      exact absurd (hends _ (getLast?_of_isGeneric hgeneric)) (by decide)
  | name hident =>
      cases member with
      | nil => simp at hhead
      | cons first rest =>
          obtain rfl := Option.some.inj hhead
          simp [isAsciiIdentifier] at hident

/-- The places a type can take: a member of a union, what the members of an
expression make together, that with `null` added, and a whole expression. -/
inductive Place where
  | member
  | kernel
  | present
  | whole
deriving DecidableEq, Repr

/-- The types in normal form over some known models, place by place. -/
inductive Normal (known : List String) : Place → TypeRef → Prop
  | primitive (p : Primitive) : Normal known .member (.primitive p)
  | model {name : String} (hknown : name ∈ known)
      (hident : isAsciiIdentifier name.toList = true)
      (halias : Primitive.ofName? name = none) :
      Normal known .member (.model name)
  | literal (text : String) : Normal known .member (.literal text)
  | array {item : TypeRef} (hitem : Normal known .whole item) :
      Normal known .member (.array item)
  | record {key value : TypeRef} (hkey : Normal known .whole key)
      (hvalue : Normal known .whole value) :
      Normal known .member (.record key value)
  | single {ref : TypeRef} (href : Normal known .member ref)
      (hliteral : ref.isLiteral = false) (hnull : ref ≠ .primitive .null) :
      Normal known .kernel ref
  | union {members : List TypeRef}
      (hmembers : ∀ ref ∈ members, Normal known .member ref)
      (hnull : ∀ ref ∈ members, ref ≠ .primitive .null)
      (hsize : 2 ≤ members.length ∨ ∃ text, members = [.literal text]) :
      Normal known .kernel (.union members)
  | null : Normal known .present (.primitive .null)
  | kernel {ref : TypeRef} (href : Normal known .kernel ref) :
      Normal known .present ref
  | nullable {ref : TypeRef} (href : Normal known .kernel ref) :
      Normal known .present (.nullable ref)
  | present {ref : TypeRef} (href : Normal known .present ref) :
      Normal known .whole ref
  | optional {ref : TypeRef} (href : Normal known .present ref) :
      Normal known .whole (.optional ref)

theorem eq_literal_of_isLiteral {ref : TypeRef}
    (hliteral : ref.isLiteral = true) : ∃ text, ref = .literal text := by
  cases ref with
  | literal text => exact ⟨text, rfl⟩
  | _ => simp [TypeRef.isLiteral] at hliteral

theorem Normal.asType {known : List String} {ref : TypeRef}
    (href : Normal known .member ref) :
    Normal known .whole (TypeExpr.asType ref) := by
  rw [TypeExpr.asType]
  by_cases hliteral : ref.isLiteral = true
  · obtain ⟨text, rfl⟩ := eq_literal_of_isLiteral hliteral
    rw [if_pos hliteral]
    exact .present (.kernel (.union (by simp [Normal.literal]) (by simp)
      (Or.inr ⟨text, rfl⟩)))
  · rw [if_neg hliteral]
    by_cases hnull : ref = .primitive .null
    · rw [hnull]
      exact .present .null
    · exact .present (.kernel (.single href (by simpa using hliteral) hnull))

/-- What the members of an expression make together. -/
def joined : List TypeRef → TypeRef
  | [ref] => asType ref
  | members => .union members

/-- The wrappers of an expression stand around what its members make; without
members there is only `null`. -/
theorem toTypeRef_eq (parts : Parts) :
    parts.toTypeRef =
      let present := match parts.members with
        | [] => .primitive .null
        | members =>
          if parts.nullable then .nullable (joined members) else joined members
      if parts.optional then .optional present else present := by
  obtain ⟨members, nullable, optional⟩ := parts
  match members with
  | [] => rfl
  | [ref] => rfl
  | first :: second :: rest => rfl

theorem normal_joined {known : List String} {members : List TypeRef}
    (hne : members ≠ []) (hmembers : ∀ ref ∈ members, Normal known .member ref)
    (hnull : ∀ ref ∈ members, ref ≠ .primitive .null) :
    Normal known .kernel (joined members) := by
  match members, hne with
  | [ref], _ =>
      have href := hmembers ref List.mem_cons_self
      rw [joined, asType]
      by_cases hliteral : ref.isLiteral = true
      · obtain ⟨text, rfl⟩ := eq_literal_of_isLiteral hliteral
        rw [if_pos hliteral]
        exact .union hmembers hnull (Or.inr ⟨text, rfl⟩)
      · rw [if_neg hliteral]
        exact .single href (by simpa using hliteral)
          (hnull ref List.mem_cons_self)
  | first :: second :: rest, _ =>
      exact .union hmembers hnull (Or.inl (by simp))

theorem normal_toTypeRef {known : List String} {parts : Parts}
    (hmembers : ∀ ref ∈ parts.members, Normal known .member ref)
    (hnull : ∀ ref ∈ parts.members, ref ≠ .primitive .null) :
    Normal known .whole parts.toTypeRef := by
  obtain ⟨members, nullable, optional⟩ := parts
  have hwhole : ∀ ref, Normal known .present ref →
      Normal known .whole (if optional then .optional ref else ref) := by
    intro ref href
    cases optional with
    | true => exact .optional href
    | false => exact .present href
  rw [toTypeRef_eq]
  cases members with
  | nil => exact hwhole _ .null
  | cons first rest =>
      apply hwhole
      have hkernel := normal_joined (by simp) hmembers hnull
      cases nullable with
      | true => exact .nullable hkernel
      | false => exact .kernel hkernel

/-- Only the word `null` names the primitive. -/
theorem eq_null_of_ofName? {name : String}
    (hname : Primitive.ofName? name = some .null) : name = "null" := by
  obtain ⟨before, after, haliases, -⟩ := List.lookup_eq_some_iff.mp hname
  have hmem : (name, Primitive.null) ∈ Primitive.aliases := by
    rw [haliases]
    simp
  simpa [Primitive.aliases] using hmem

/-- What an identifier names is a primitive or a known model. -/
theorem named_eq_ok {known : List String} {name : String} {ref : TypeRef}
    (hnamed : named known name = .ok ref) :
    (∃ p, Primitive.ofName? name = some p ∧ ref = .primitive p) ∨
      (Primitive.ofName? name = none ∧ name ∈ known ∧ ref = .model name) := by
  rw [named] at hnamed
  split at hnamed
  · next p hp =>
    cases hnamed
    exact Or.inl ⟨p, hp, rfl⟩
  · next hp =>
    split at hnamed
    · next hknown =>
      cases hnamed
      exact Or.inr ⟨hp, by simpa using hknown, rfl⟩
    · simp at hnamed

theorem eq_null_of_parseMember {known : List String} {member : List Char}
    (hread : parseMember known member = .ok (.primitive .null)) :
    member = "null".toList := by
  cases memberReading_of_parseMember hread with
  | name _ hnamed =>
      rcases named_eq_ok hnamed with ⟨p, hp, href⟩ | ⟨_, _, href⟩
      · cases href
        rw [← eq_null_of_ofName? hp, String.toList_ofList]
      · cases href

/-- What the first of some members adds to those behind it. -/
theorem parseParts_cons_inv {known : List String} {text : List Char}
    {rest : List (List Char)} {parts : Parts}
    (hread : parseParts known (text :: rest) = .ok parts) :
    ∃ others, parseParts known rest = .ok others ∧
      ((trim text = "null".toList ∧ parts = { others with nullable := true }) ∨
        (trim text = "undefined".toList ∧
          parts = { others with optional := true }) ∨
        ∃ ref, trim text ≠ "null".toList ∧ trim text ≠ "undefined".toList ∧
          parseMember known (trim text) = .ok ref ∧
          parts = { others with members := ref :: others.members }) := by
  rw [parseParts] at hread
  split at hread
  · simp at hread
  · split at hread
    · next hnull =>
      split at hread
      · next others hothers =>
        cases hread
        exact ⟨others, hothers, Or.inl ⟨eq_of_beq hnull, rfl⟩⟩
      · simp at hread
    · next hnull =>
      split at hread
      · next habsent =>
        split at hread
        · next others hothers =>
          cases hread
          exact ⟨others, hothers, Or.inr (Or.inl ⟨eq_of_beq habsent, rfl⟩)⟩
        · simp at hread
      · next habsent =>
        split at hread
        · simp at hread
        · next ref hmember =>
          split at hread
          · next others hothers =>
            cases hread
            exact ⟨others, hothers, Or.inr (Or.inr ⟨ref, mt beq_iff_eq.mpr hnull,
              mt beq_iff_eq.mpr habsent, hmember, rfl⟩)⟩
          · simp at hread

/-- Every member that is kept was read from a part that is not `null`. -/
theorem exists_part_of_parseParts {known : List String}
    {texts : List (List Char)} {parts : Parts}
    (hread : parseParts known texts = .ok parts) {ref : TypeRef}
    (href : ref ∈ parts.members) :
    ∃ text ∈ texts, parseMember known (trim text) = .ok ref ∧
      ref ≠ .primitive .null := by
  induction texts generalizing parts with
  | nil =>
      rw [parseParts] at hread
      cases hread
      simp at href
  | cons text rest ih =>
      have hrest : ∀ others, parseParts known rest = .ok others →
          ref ∈ others.members →
          ∃ part ∈ text :: rest, parseMember known (trim part) = .ok ref ∧
            ref ≠ .primitive .null := by
        intro others hothers hmem
        obtain ⟨part, hpart, hmember⟩ := ih hothers hmem
        exact ⟨part, List.mem_cons_of_mem text hpart, hmember⟩
      obtain ⟨others, hothers, ⟨-, rfl⟩ | ⟨-, rfl⟩ | ⟨first, hnull, -, hfirst, rfl⟩⟩ :=
        parseParts_cons_inv hread
      · exact hrest others hothers href
      · exact hrest others hothers href
      · rcases List.mem_cons.mp href with rfl | hmem
        · refine ⟨text, List.mem_cons_self, hfirst, ?_⟩
          rintro rfl
          exact hnull (eq_null_of_parseMember hfirst)
        · exact hrest others hothers hmem

theorem length_le_partsSize {parts : List (List Char)} {part : List Char}
    (hpart : part ∈ parts) : part.length + 1 ≤ partsSize parts := by
  induction parts with
  | nil => simp at hpart
  | cons first rest ih =>
      rw [partsSize]
      rcases List.mem_cons.mp hpart with rfl | hrest
      · omega
      · have := ih hrest
        omega

theorem length_le_of_mem_splitTopLevel {separator : Char}
    {text part : List Char} (hpart : part ∈ splitTopLevel separator text) :
    part.length ≤ text.length := by
  have hsize := partsSize_splitFrom separator {} text
  have hle := length_le_partsSize hpart
  rw [splitTopLevel] at hle
  omega

/-- The members of an expression are not longer than it. -/
theorem length_trim_le_of_mem_splitTopLevel {text part : List Char}
    (hpart : part ∈ splitTopLevel '|' (unmarked text)) :
    (trim part).length ≤ text.length :=
  calc (trim part).length ≤ part.length := length_trim_le part
    _ ≤ (unmarked text).length := length_le_of_mem_splitTopLevel hpart
    _ ≤ text.length := length_unmarked_le text

/-- The item of an array is shorter than the member. -/
theorem length_item_lt {member : List Char}
    (hbrackets : endsWithBrackets member = true) :
    (trim (dropEnd 2 member)).length < member.length := by
  have htrim := length_trim_le (dropEnd 2 member)
  have hdrop := length_dropEnd 2 member
  have htwo := two_le_length_of_endsWithBrackets hbrackets
  omega

theorem length_inner_item_lt {member : List Char}
    (hbrackets : endsWithBrackets member = true) :
    (inner (trim (dropEnd 2 member))).length < member.length := by
  have hinner := length_inner_le (trim (dropEnd 2 member))
  have hitem := length_item_lt hbrackets
  omega

/-- An expression is in normal form if its members are. -/
theorem normal_parseExpression_of_members {known : List String}
    {text : List Char} {ref : TypeRef}
    (hmembers : ∀ member ref, member.length ≤ text.length →
      parseMember known member = .ok ref → Normal known .member ref)
    (hread : parseExpression known text = .ok ref) :
    Normal known .whole ref := by
  rw [parseExpression] at hread
  split at hread
  · next parts hparts =>
    cases hread
    apply normal_toTypeRef
    · intro member hmem
      obtain ⟨part, hpart, hmember, -⟩ := exists_part_of_parseParts hparts hmem
      exact hmembers (trim part) member (length_trim_le_of_mem_splitTopLevel hpart)
        hmember
    · intro member hmem
      obtain ⟨_, _, _, hnull⟩ := exists_part_of_parseParts hparts hmem
      exact hnull
  · simp at hread

/-- The arguments of a generic type are shorter than the member. -/
theorem length_lt_of_mem_arguments {member text : List Char}
    (hgeneric : isGeneric member = true)
    (htext : text ∈ splitTopLevel ',' (cutAt '<' (dropEnd 1 member)).2) :
    text.length < member.length := by
  have hle := length_le_of_mem_splitTopLevel htext
  have hcut := length_cutAt_snd_le '<' (dropEnd 1 member)
  have hdrop := length_dropEnd 1 member
  have htwo := two_le_length_of_isGeneric hgeneric
  omega

theorem normal_parseMember {known : List String} {member : List Char}
    {ref : TypeRef} (hread : parseMember known member = .ok ref) :
    Normal known .member ref := by
  induction hn : member.length using Nat.strongRecOn
    generalizing member ref with
  | ind n ih =>
      subst hn
      have hexpression : ∀ text ref, text.length < member.length →
          parseExpression known text = .ok ref → Normal known .whole ref := by
        intro text ref hlt htext
        apply normal_parseExpression_of_members _ htext
        intro part partRef hle hpart
        exact ih part.length (by omega) hpart rfl
      cases memberReading_of_parseMember hread with
      | literal => exact .literal _
      | group _ hbrackets _ _ hitem =>
          exact .array (hexpression _ _ (length_inner_item_lt hbrackets) hitem)
      | item _ hbrackets hitem =>
          exact .array (ih _ (length_item_lt hbrackets) hitem rfl).asType
      | record _ hgeneric hsplit hkey hvalue =>
          refine .record (hexpression _ _ ?_ hkey) (hexpression _ _ ?_ hvalue)
          · apply length_lt_of_mem_arguments hgeneric
            simp [hsplit]
          · apply length_lt_of_mem_arguments hgeneric
            simp [hsplit]
      | array _ hgeneric hsplit hitem =>
          refine .array (hexpression _ _ ?_ hitem)
          apply length_lt_of_mem_arguments hgeneric
          simp [hsplit]
      | name hident hnamed =>
          rcases named_eq_ok hnamed with ⟨p, _, rfl⟩ | ⟨halias, hknown, rfl⟩
          · exact .primitive p
          · exact .model hknown (by simpa using hident) halias

theorem normal_parseExpression {known : List String} {text : List Char}
    {ref : TypeRef} (hread : parseExpression known text = .ok ref) :
    Normal known .whole ref :=
  normal_parseExpression_of_members
    (fun _ _ _ hmember => normal_parseMember hmember) hread

theorem compile_eq {raw : String} {last : Char} (known : List String)
    (hlast : (trimRight raw.toList).getLast? = some last) (hcomma : last ≠ ',')
    (hsemicolon : last ≠ ';') :
    compile raw known = parseExpression known raw.toList := by
  rw [compile, hlast]
  simp [hcomma, hsemicolon]

theorem parseExpression_of_compileField {raw model : String}
    {known : List String} {field : Option String} {ref : TypeRef}
    (hread : compileField raw known model field = .ok ref) :
    parseExpression known raw.toList = .ok ref := by
  rw [compileField] at hread
  split at hread
  · next hcompile =>
    cases hread
    rw [compile] at hcompile
    split at hcompile
    · simp at hcompile
    · split at hcompile
      · simp at hcompile
      · exact hcompile
  · simp at hread

/-- Every type that the expression of a field gives is in normal form. -/
theorem normal_compileField {raw model : String} {known : List String}
    {field : Option String} {ref : TypeRef}
    (hread : compileField raw known model field = .ok ref) :
    Normal known .whole ref :=
  normal_parseExpression (parseExpression_of_compileField hread)

end IntegrationBuild.TypeExpr
