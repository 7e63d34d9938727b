import IntegrationBuild.Proofs.TypeExpr.Grammar

/-!
Reading the texts of derivations.  The reader has no tokens: it splits and
trims the text again and again.  A text of a derivation is split only at the
separators of that derivation, and trimming stops at its tokens, so what is
read is the tree of the derivation.
-/

namespace IntegrationBuild.TypeExpr

open Text

/-- Whether a member begins with a quote. -/
def isQuoted (member : List Char) : Bool :=
  member.head?.any isQuote

theorem inner_concat (first last : Char) (inside : List Char) :
    inner (first :: inside ++ [last]) = inside := by
  rw [inner, List.dropLast_concat]
  rfl

theorem parseMember_quoted (known : List String) {quote : Char}
    (text : List Char) (hquote : isQuote quote = true) :
    parseMember known (quote :: text ++ [quote]) =
      .ok (.literal (String.ofList text)) := by
  have hinner := inner_concat quote quote text
  rw [List.cons_append] at hinner ⊢
  rw [parseMember, if_pos hquote, hinner]
  simp

theorem not_endsWithBrackets {s : List Char} {c : Char}
    (hlast : s.getLast? = some c) (hc : c ≠ ']') :
    endsWithBrackets s = false := by
  rw [endsWithBrackets, ← Bool.not_eq_true, List.isSuffixOf_iff_suffix]
  rintro ⟨before, rfl⟩
  have hconcat : before ++ ['[', ']'] = (before ++ ['[']) ++ [']'] := by simp
  rw [hconcat, List.getLast?_concat] at hlast
  exact hc (Option.some.inj hlast).symm

theorem endsWithBrackets_append (s : List Char) :
    endsWithBrackets (s ++ ['[', ']']) = true := by
  rw [endsWithBrackets, List.isSuffixOf_iff_suffix]
  exact List.suffix_append s _

theorem dropEnd_append {n : Nat} (s : List Char) {t : List Char}
    (ht : t.length = n) : dropEnd n (s ++ t) = s := by
  rw [dropEnd, List.length_append, ht, Nat.add_sub_cancel, List.take_left]

theorem not_isQuote_of_wordChar {c : Char} (hc : WordChar c) :
    isQuote c = false := by
  have hsingle : c ≠ '\x27' := hc.ne (by decide)
  have hdouble : c ≠ '"' := hc.ne (by decide)
  simp [isQuote, hsingle, hdouble]

theorem parseMember_word {known : List String} {word : List Char}
    (hword : isAsciiIdentifier word = true) :
    parseMember known word = named known (String.ofList word) := by
  have hchars := wordChar_of_isAsciiIdentifier hword
  have hne := ne_nil_of_isAsciiIdentifier hword
  have hlast := List.getLast?_eq_some_getLast hne
  have hlastWord := hchars _ (List.getLast_mem hne)
  have hbrackets := not_endsWithBrackets hlast (hlastWord.ne (by decide))
  have hgeneric : isGeneric word = false := by
    rw [isGeneric, hlast]
    have hangle : word.getLast hne ≠ '>' := hlastWord.ne (by decide)
    simp [hangle]
  cases word with
  | nil => simp [isAsciiIdentifier] at hword
  | cons first rest =>
      have hquote := not_isQuote_of_wordChar (hchars first List.mem_cons_self)
      rw [parseMember, hquote, hbrackets, hgeneric, hword]
      simp

/-- Brackets behind a text that is not quoted make an array. -/
theorem parseMember_append_brackets (known : List String) {first : Char}
    {rest item : List Char} (hquote : isQuote first = false)
    (hitem : trim (first :: rest) = item) :
    parseMember known (first :: rest ++ ['[', ']']) =
      if item.isEmpty then .error .arrayWithoutItem
      else if item.head? == some '(' && item.getLast? == some ')' then
        (parseExpression known (inner item)).map .array
      else (parseMember known item).map fun ref => .array (asType ref) := by
  have hbrackets := endsWithBrackets_append (first :: rest)
  have hdrop : dropEnd 2 (first :: (rest ++ ['[', ']'])) = first :: rest :=
    dropEnd_append (first :: rest) rfl
  rw [List.cons_append] at hbrackets ⊢
  rw [parseMember, hquote, dif_pos hbrackets, hdrop, hitem]
  rfl

/-- Brackets behind a member that is read, and that is no literal, make an array
of it. -/
theorem parseMember_brackets {known : List String} {first : Char}
    {rest : List Char} {ref : TypeRef} (hquote : isQuote first = false)
    (hread : parseMember known (trim (first :: rest)) = .ok ref) :
    parseMember known (first :: rest ++ ['[', ']']) =
      .ok (.array (asType ref)) := by
  have hne : (trim (first :: rest)).isEmpty = false := by
    rw [List.isEmpty_eq_false_iff]
    intro hnil
    rw [hnil, parseMember] at hread
    cases hread
  have hgroup : ((trim (first :: rest)).head? == some '(' &&
      (trim (first :: rest)).getLast? == some ')') = false := by
    rw [Bool.eq_false_iff, Ne, Bool.and_eq_true, beq_iff_eq, beq_iff_eq]
    exact not_grouped_of_parseMember hread
  rw [parseMember_append_brackets known hquote rfl, hne, hgroup, hread]
  rfl

theorem trim_parenthesized (inside : List Char) {between : List Char}
    (hbetween : Blank between) :
    trim ('(' :: (inside ++ [')'] ++ between)) = '(' :: inside ++ [')'] := by
  have hsolid : Solid ('(' :: inside ++ [')']) :=
    ⟨⟨'(', rfl, by decide⟩, ⟨')', List.getLast?_concat, by decide⟩⟩
  simpa using trim_blank_append_blank blank_nil hbetween hsolid

theorem parseMember_group (known : List String) (inside : List Char)
    {between : List Char} (hbetween : Blank between) :
    parseMember known ('(' :: inside ++ [')'] ++ between ++ ['[', ']']) =
      (parseExpression known inside).map .array := by
  have hlast : ('(' :: inside ++ [')']).getLast? = some ')' :=
    List.getLast?_concat
  rw [List.cons_append, List.cons_append,
    parseMember_append_brackets known (by decide) (trim_parenthesized inside hbetween),
    inner_concat, hlast]
  rfl

theorem cutAt_append {mark : Char} {s : List Char} (hs : mark ∉ s)
    (t : List Char) : cutAt mark (s ++ mark :: t) = (s, t) := by
  have hne : ∀ c ∈ s, (c != mark) = true := by
    intro c hc
    rw [bne_iff_ne]
    rintro rfl
    exact hs hc
  rw [cutAt, List.takeWhile_append_of_pos hne, List.dropWhile_append_of_pos hne]
  simp

/-- What the reader finds in a name with arguments in angle brackets. -/
theorem exists_generic {name : String} {between : List Char}
    (hname : isAsciiIdentifier name.toList = true) (hbetween : Blank between)
    (inside : List Char) :
    ∃ first rest,
      name.toList ++ between ++ ('<' :: inside ++ ['>']) = first :: rest ∧
      isQuote first = false ∧ endsWithBrackets (first :: rest) = false ∧
      isGeneric (first :: rest) = true ∧
      trim (cutAt '<' (dropEnd 1 (first :: rest))).1 = name.toList ∧
      (cutAt '<' (dropEnd 1 (first :: rest))).2 = inside := by
  have hchars := wordChar_of_isAsciiIdentifier hname
  obtain ⟨first, others, hothers⟩ :=
    List.exists_cons_of_ne_nil (ne_nil_of_isAsciiIdentifier hname)
  have hfirst : WordChar first := by
    apply hchars
    rw [hothers]
    exact List.mem_cons_self
  have hlast : (name.toList ++ between ++ ('<' :: inside ++ ['>'])).getLast? =
      some '>' := by
    rw [← List.append_assoc, List.getLast?_concat]
  have hbrackets := not_endsWithBrackets hlast (by decide)
  have hgeneric :
      isGeneric (name.toList ++ between ++ ('<' :: inside ++ ['>'])) = true := by
    rw [isGeneric, hlast]
    simp
  have hdrop : dropEnd 1 (name.toList ++ between ++ ('<' :: inside ++ ['>'])) =
      name.toList ++ between ++ '<' :: inside := by
    rw [← List.append_assoc]
    exact dropEnd_append _ rfl
  have hmark : '<' ∉ name.toList ++ between := by
    rw [List.mem_append]
    rintro (hmem | hmem)
    · exact (hchars _ hmem).ne (by decide) rfl
    · exact absurd (hbetween _ hmem) (by decide)
  have hcut := cutAt_append hmark inside
  have htrim : trim (name.toList ++ between) = name.toList := by
    have hblanks := trim_blank_append_blank blank_nil hbetween
      (solid_of_isAsciiIdentifier hname)
    simpa using hblanks
  rw [hothers] at hbrackets hgeneric hdrop hcut htrim ⊢
  refine ⟨first, others ++ between ++ ('<' :: inside ++ ['>']), rfl,
    not_isQuote_of_wordChar hfirst, hbrackets, hgeneric, ?_, ?_⟩
  · exact (congrArg (fun text => trim (cutAt '<' text).1) hdrop).trans
      (by rw [hcut, htrim])
  · exact (congrArg (fun text => (cutAt '<' text).2) hdrop).trans (by rw [hcut])

theorem parseMember_record {known : List String} {between inside : List Char}
    {key value : List Char} {keyRef valueRef : TypeRef}
    (hbetween : Blank between)
    (hsplit : splitTopLevel ',' inside = [key, value])
    (hkey : parseExpression known key = .ok keyRef)
    (hvalue : parseExpression known value = .ok valueRef) :
    parseMember known
        ("Record".toList ++ between ++ ('<' :: inside ++ ['>'])) =
      .ok (.record keyRef valueRef) := by
  obtain ⟨first, rest, htext, hquote, hbrackets, hgeneric, hname, hinside⟩ :=
    @exists_generic "Record" between (by decide) hbetween inside
  rw [htext, parseMember, hquote, hbrackets, dif_pos hgeneric, hname, hinside,
    hsplit]
  simp [hkey, hvalue]

theorem parseMember_array {known : List String}
    {between inside item : List Char} {ref : TypeRef} (hbetween : Blank between)
    (hsplit : splitTopLevel ',' inside = [item])
    (hitem : parseExpression known item = .ok ref) :
    parseMember known
        ("Array".toList ++ between ++ ('<' :: inside ++ ['>'])) =
      .ok (.array ref) := by
  obtain ⟨first, rest, htext, hquote, hbrackets, hgeneric, hname, hinside⟩ :=
    @exists_generic "Array" between (by decide) hbetween inside
  rw [htext, parseMember, hquote, hbrackets, dif_pos hgeneric, hname, hinside,
    hsplit]
  simp [hitem, Except.map]

/-- What the members of an expression add up to. -/
def Members.parts {known : List String} (members : Members known) : Parts where
  members := members.kept
  nullable := members.toList.any Member.isNull
  optional := members.toList.any Member.isAbsent

/-- What a member adds to the members behind it. -/
def Member.add {known : List String} (member : Member known) (parts : Parts) :
    Parts where
  members := member.kept ++ parts.members
  nullable := member.isNull || parts.nullable
  optional := member.isAbsent || parts.optional

theorem Members.parts_last {known : List String} (member : Member known) :
    (Members.last member).parts = member.add {} := by
  simp [Members.parts, Member.add, Members.kept, Members.toList]

theorem Members.parts_more {known : List String} (member : Member known)
    (rest : Members known) :
    (Members.more member rest).parts = member.add rest.parts := by
  simp [Members.parts, Member.add, Members.kept, Members.toList]

theorem Expression.tree_mk {known : List String} (marked : Bool)
    (members : Members known) :
    (Expression.mk marked members).tree =
      { members.parts with
        optional := members.parts.optional || marked }.toTypeRef := by
  rw [toTypeRef_eq, Expression.tree, wrapped, Members.parts, Bool.or_comm marked]
  cases members.kept <;> rfl

theorem Term.isNull_of_tree {known : List String} {type : Term known}
    (htree : type.tree = .primitive .null) :
    (Member.term type).isNull = true := by
  cases type with
  | primitive word p hword =>
      rw [Term.tree] at htree
      cases htree
      rfl
  | _ => simp [Term.tree] at htree

theorem Term.tree_ne_undefined {known : List String} (type : Term known) :
    type.tree ≠ .model "undefined" := by
  cases type with
  | model name _ _ _ habsent =>
      rw [Term.tree]
      intro htree
      exact habsent (TypeRef.model.inj htree)
  | _ => simp [Term.tree]

/-- The tree of a type is not a literal. -/
theorem Term.asType_tree {known : List String} (type : Term known) :
    asType type.tree = type.tree := by
  cases type <;> simp [Term.tree, asType, TypeRef.isLiteral]

theorem tokens_of_isNull {known : List String} {type : Term known}
    (hnull : (Member.term type).isNull = true) :
    type.tokens = ["null".toList] := by
  cases type with
  | primitive word p hword =>
      cases p with
      | null => rw [Term.tokens, eq_null_of_ofName? hword]
      | _ => simp [Member.isNull] at hnull
  | _ => simp [Member.isNull] at hnull

/-- A member that is kept comes before the members behind it. -/
theorem parseParts_cons {known : List String} {part : List Char}
    {rest : List (List Char)} {ref : TypeRef} {parts : Parts}
    (hne : trim part ≠ []) (hnull : trim part ≠ "null".toList)
    (habsent : trim part ≠ "undefined".toList)
    (hmember : parseMember known (trim part) = .ok ref)
    (hrest : parseParts known rest = .ok parts) :
    parseParts known (part :: rest) =
      .ok { parts with members := ref :: parts.members } := by
  have hempty : (trim part).isEmpty = false := by
    rwa [List.isEmpty_eq_false_iff]
  rw [parseParts, hempty, hmember, hrest]
  simp only [beq_eq_false_iff_ne.mpr hnull, beq_eq_false_iff_ne.mpr habsent]
  rfl

/-- A kept type comes before the members behind it, and `null` is noted. -/
theorem parseParts_term {known : List String} {type : Term known}
    {part : List Char} {rest : List (List Char)} {parts : Parts}
    (hpart : Spaced type.tokens part)
    (hread : parseMember known (trim part) = .ok type.tree)
    (hrest : parseParts known rest = .ok parts) :
    parseParts known (part :: rest) = .ok ((Member.term type).add parts) := by
  cases hnull : (Member.term type).isNull with
  | true =>
      rw [tokens_of_isNull hnull] at hpart
      have htrim := hpart.trim_singleton
        (solid_of_isAsciiIdentifier (by decide))
      rw [parseParts, htrim, hrest]
      simp [Member.add, Member.kept, hnull, Member.isAbsent]
  | false =>
      have hne : trim part ≠ [] := by
        intro hnil
        rw [hnil, parseMember] at hread
        cases hread
      have hnotNull : trim part ≠ "null".toList := by
        intro heq
        rw [heq, parseMember_word (by decide)] at hread
        rw [Term.isNull_of_tree (Except.ok.inj hread).symm] at hnull
        simp at hnull
      have hnotAbsent : trim part ≠ "undefined".toList := by
        intro heq
        rw [heq, parseMember_word (by decide)] at hread
        have hprimitive : Primitive.ofName? "undefined" = none := by decide
        rw [String.ofList_toList] at hread
        rcases named_eq_ok hread with ⟨p, hp, -⟩ | ⟨-, -, htree⟩
        · simp [hprimitive] at hp
        · exact type.tree_ne_undefined htree
      rw [parseParts_cons hne hnotNull hnotAbsent hread hrest]
      simp [Member.add, Member.kept, hnull, Member.isAbsent]

/-- An expression of one member, other than the word `undefined`, is the member
as a type. -/
theorem parseExpression_single {known : List String} {text : List Char}
    (hmarked : isMarked text = false)
    (hsplit : splitTopLevel '|' (trim text) = [trim text]) (hne : trim text ≠ [])
    (habsent : trim text ≠ "undefined".toList) :
    parseExpression known text = (parseMember known (trim text)).map asType := by
  have hempty : (trim text).isEmpty = false := by
    rwa [List.isEmpty_eq_false_iff]
  have hunmarked : unmarked text = trim text := by simp [unmarked, hmarked]
  rw [parseExpression, hunmarked, hsplit, hmarked, parseParts, trim_trim, hempty,
    parseParts, beq_eq_false_iff_ne.mpr habsent]
  by_cases hnull : trim text = "null".toList
  · rw [hnull, parseMember_word (by decide)]
    simp
    rfl
  · rw [beq_eq_false_iff_ne.mpr hnull]
    cases parseMember known (trim text) <;> rfl
theorem isMarked_and_unmarked_of_solid {token : List Char} (htoken : Solid token)
    (hmark : token.head? ≠ some '?') :
    isMarked token = false ∧ unmarked token = token := by
  have hmarked : isMarked token = false := by
    rw [isMarked, htoken.trim_eq]
    simpa using hmark
  refine ⟨hmarked, ?_⟩
  rw [unmarked, hmarked, htoken.trim_eq]
  rfl

theorem isMarked_and_unmarked_quoted {quote : Char} (text : List Char)
    (hquote : isQuote quote = true) :
    isMarked (quote :: text ++ [quote]) = false ∧
      unmarked (quote :: text ++ [quote]) = quote :: text ++ [quote] := by
  apply isMarked_and_unmarked_of_solid (solid_quoted text hquote)
  simpa using (ne_of_isQuote hquote (by decide) : quote ≠ '?')

theorem splitTopLevel_quoted {quote : Char} {text : List Char}
    (hquote : isQuote quote = true) (htext : '|' ∉ text) :
    splitTopLevel '|' (quote :: text ++ [quote]) = [quote :: text ++ [quote]] := by
  have hbar : '|' ≠ quote := (ne_of_isQuote hquote (by decide)).symm
  exact splitFrom_of_not_mem {} (by simp [hbar, htext])

/-- Whatever stands between two equal quotes is read as one literal, as long as no
bar stands there. -/
theorem parseExpression_quoted (known : List String) {quote : Char}
    {text : List Char} (hquote : isQuote quote = true) (htext : '|' ∉ text) :
    parseExpression known (quote :: text ++ [quote]) =
      .ok (.union [.literal (String.ofList text)]) := by
  obtain ⟨hmarked, -⟩ := isMarked_and_unmarked_quoted text hquote
  have htrim := (solid_quoted text hquote).trim_eq
  have hword : quote ≠ 'u' := ne_of_isQuote hquote (by decide)
  have hread : parseExpression known (quote :: text ++ [quote]) =
      (parseMember known (trim (quote :: text ++ [quote]))).map asType := by
    apply parseExpression_single hmarked
    · rw [htrim, splitTopLevel_quoted hquote htext]
    · rw [htrim]
      simp
    · rw [htrim]
      simp [hword]
  rw [hread, htrim, parseMember_quoted known text hquote]
  rfl

theorem head?_trim_of_begins {tokens : List (List Char)} {c : Char}
    {text : List Char} (hsolid : ∀ token ∈ tokens, Solid token)
    (hbegins : Begins tokens c) (htext : Spaced tokens text) :
    (trim text).head? = some c := by
  obtain ⟨rest, others, rfl⟩ := hbegins
  exact htext.head?_trim (hsolid _ List.mem_cons_self)

theorem exists_trimLeft_of_begins {tokens : List (List Char)} {c : Char}
    {text : List Char} (hsolid : ∀ token ∈ tokens, Solid token)
    (hbegins : Begins tokens c) (htext : Spaced tokens text) :
    ∃ rest, trimLeft text = c :: rest := by
  obtain ⟨rest, others, rfl⟩ := hbegins
  cases htext with
  | @cons before _ _ text hbefore hrest =>
      rw [trimLeft_append_token before (hsolid _ List.mem_cons_self),
        trimLeft_of_blank hbefore]
      exact ⟨rest ++ text, rfl⟩

theorem getLast?_trimRight_of_ends {tokens : List (List Char)} {c : Char}
    {text : List Char} (hsolid : ∀ token ∈ tokens, Solid token)
    (hends : Ends tokens c) (htext : Spaced tokens text) :
    (trimRight text).getLast? = some c := by
  obtain ⟨others, rest, rfl⟩ := hends
  rw [htext.getLast?_trimRight (hsolid _ (by simp)), List.getLast?_concat]

/-- Behind the mark of an expression stand its members. -/
theorem isMarked_and_spaced_of_marked {tokens : List (List Char)}
    {text : List Char} (hmembers : Derives .members tokens)
    (htext : Spaced (['?'] :: tokens) text) :
    isMarked text = true ∧ Spaced tokens (unmarked text) := by
  cases htext with
  | @cons before _ _ rest hbefore hrest =>
      have htrim : trim (before ++ ['?'] ++ rest) = '?' :: trimRight rest := by
        rw [trim_append_token before (solid_singleton (by decide)),
          trimLeft_of_blank hbefore]
        rfl
      have hmarked : isMarked (before ++ ['?'] ++ rest) = true := by
        rw [isMarked, htrim]
        rfl
      refine ⟨hmarked, ?_⟩
      rw [unmarked, if_pos hmarked, htrim]
      exact Spaced.trim hmembers.solid (Spaced.trimRight hmembers.solid hrest)

/-- Members do not begin with the mark of an expression. -/
theorem isMarked_and_spaced_of_plain {tokens : List (List Char)}
    {text : List Char} (hmembers : Derives .members tokens)
    (htext : Spaced tokens text) :
    isMarked text = false ∧ Spaced tokens (unmarked text) := by
  obtain ⟨c, hbegins, hc⟩ := hmembers.begins (by decide)
  have hmarked : isMarked text = false := by
    rw [isMarked, head?_trim_of_begins hmembers.solid hbegins htext]
    simpa using hc.ne (by decide)
  refine ⟨hmarked, ?_⟩
  rw [unmarked, hmarked]
  exact Spaced.trim hmembers.solid htext

/-- The mark of an expression is found, and behind it the same members. -/
theorem isMarked_and_unmarked {known : List String} {marked : Bool}
    {members : Members known} {text : List Char}
    (htext : Spaced (Expression.mk marked members).tokens text) :
    isMarked text = marked ∧ Spaced members.tokens (unmarked text) := by
  cases marked with
  | true => exact isMarked_and_spaced_of_marked members.derives htext
  | false => exact isMarked_and_spaced_of_plain members.derives htext

/-- A type with brackets behind it begins like the type, with a word or a
parenthesis. -/
theorem parseMember_items {known : List String} {type : Term known}
    {text : List Char} {ref : TypeRef} (htext : Spaced type.tokens text)
    (hread : parseMember known (trim text) = .ok ref) :
    parseMember known (trimLeft text ++ ['[', ']']) =
      .ok (.array (asType ref)) := by
  obtain ⟨c, hbegins, hc⟩ := type.begins
  have hquote : isQuote c = false := by
    rcases hc with hword | rfl
    · exact not_isQuote_of_wordChar hword
    · decide
  obtain ⟨rest, hrest⟩ :=
    exists_trimLeft_of_begins type.derives.solid hbegins htext
  rw [← trim_trimLeft, hrest] at hread
  rw [hrest]
  exact parseMember_brackets hquote hread

mutual

/-- The text of a derivation is read as the tree of the derivation. -/
theorem Expression.parse {known : List String} (e : Expression known)
    {text : List Char} (htext : Spaced e.tokens text) :
    parseExpression known text = .ok e.tree := by
  match e with
  | .mk marked members =>
      obtain ⟨hmarked, hmembers⟩ := isMarked_and_unmarked htext
      rw [parseExpression, members.parse hmembers, hmarked,
        Expression.tree_mk]

theorem Members.parse {known : List String} (members : Members known)
    {text : List Char} (htext : Spaced members.tokens text) :
    parseParts known (splitTopLevel '|' text) = .ok members.parts := by
  match members with
  | .last member =>
      rw [member.derives.splitTopLevel_member htext, Members.parts_last]
      exact member.parse htext (by rw [parseParts])
  | .more member rest =>
      obtain ⟨s, t, hsplit, hs, ht⟩ := member.derives.splitTopLevel_members htext
      rw [hsplit, Members.parts_more]
      exact member.parse hs (rest.parse ht)

theorem Member.parse {known : List String} (member : Member known)
    {part : List Char} {others : List (List Char)} {parts : Parts}
    (hpart : Spaced member.tokens part)
    (hothers : parseParts known others = .ok parts) :
    parseParts known (part :: others) = .ok (member.add parts) := by
  match member with
  | .literal quote text hquote _ =>
      have htrim := hpart.trim_singleton (solid_quoted text hquote)
      have hword : ∀ word : List Char, word.head?.any isQuote = false →
          trim part ≠ word := by
        rintro word hhead rfl
        rw [htrim] at hhead
        simp [hquote] at hhead
      have hread := parseMember_quoted known text hquote
      rw [← htrim] at hread
      exact parseParts_cons (hword [] rfl) (hword _ (by decide))
        (hword _ (by decide)) hread hothers
  | .absent =>
      have htrim := hpart.trim_singleton
        (solid_of_isAsciiIdentifier (by decide))
      rw [parseParts, htrim, hothers]
      rfl
  | .term type => exact parseParts_term hpart (type.parse hpart) hothers

theorem Term.parse {known : List String} (type : Term known)
    {text : List Char} (htext : Spaced type.tokens text) :
    parseMember known (trim text) = .ok type.tree := by
  match type with
  | .primitive word p hword =>
      have hident := isAsciiIdentifier_of_ofName? hword
      rw [htext.trim_singleton (solid_of_isAsciiIdentifier hident),
        parseMember_word hident, String.ofList_toList, named, hword]
      rfl
  | .model name hknown hident halias _ =>
      rw [htext.trim_singleton (solid_of_isAsciiIdentifier hident),
        parseMember_word hident, String.ofList_toList, named, halias]
      simp [hknown, Term.tree]
  | .items item =>
      obtain ⟨s, blanks, rfl, hs, hblanks⟩ := htext.of_concat
      rw [trim_append_brackets s hblanks, parseMember_items hs (item.parse hs),
        item.asType_tree, Term.tree]
  | .group item =>
      obtain ⟨inside, between, htrim, hinside, hbetween⟩ :=
        exists_trim_of_spaced_group htext
      rw [htrim, parseMember_group known inside hbetween, item.parse hinside]
      rfl
  | .array item =>
      obtain ⟨between, inside, htrim, hbetween, hinside⟩ :=
        exists_trim_of_spaced_genericTokens (by decide) htext
      rw [htrim]
      exact parseMember_array hbetween
        (item.derives.splitTopLevel_argument hinside) (item.parse hinside)
  | .record key value =>
      obtain ⟨between, inside, htrim, hbetween, hinside⟩ :=
        exists_trim_of_spaced_genericTokens (by decide) htext
      obtain ⟨s, t, hsplit, hs, ht⟩ :=
        key.derives.splitTopLevel_arguments value.derives hinside
      rw [htrim]
      exact parseMember_record hbetween hsplit (key.parse hs) (value.parse ht)

end

theorem compile_of_spaced {known : List String} (e : Expression known)
    {raw : String} (hraw : Spaced e.tokens raw.toList) :
    compile raw known = .ok e.tree := by
  obtain ⟨c, hends, hc⟩ := e.derives.ends
  have hlast := getLast?_trimRight_of_ends e.derives.solid hends hraw
  rw [compile_eq known hlast (hc.ne (by decide)) (hc.ne (by decide)), e.parse hraw]

theorem compileField_quoted {raw : String} {quote : Char} {text : List Char}
    (hraw : raw.toList = quote :: text ++ [quote]) (hquote : isQuote quote = true)
    (htext : '|' ∉ text) (known : List String) (model : String)
    (field : Option String) :
    compileField raw known model field =
      .ok (.union [.literal (String.ofList text)]) := by
  have hlast : (trimRight raw.toList).getLast? = some quote := by
    rw [hraw, (solid_quoted text hquote).trimRight_eq, List.getLast?_concat]
  have hread := parseExpression_quoted known hquote htext
  rw [← hraw] at hread
  rw [compileField, compile_eq known hlast (ne_of_isQuote hquote (by decide))
    (ne_of_isQuote hquote (by decide)), hread]

/-- Every text of a derivation, with any blanks around its tokens, compiles to
the tree of the derivation. -/
theorem compileField_of_spaced {known : List String} (e : Expression known)
    {raw : String} (hraw : Spaced e.tokens raw.toList) (model : String)
    (field : Option String) :
    compileField raw known model field = .ok e.tree := by
  rw [compileField, compile_of_spaced e hraw]

/-- A quoted bar, a bar in parentheses and one in angle brackets. -/
theorem compileField_of_spaced_nested :
    compileField "?('a|b'| null )[] |Record<string,Issue>" ["Issue"] "Issue"
        none =
      .ok (.optional (.union
        [.array (.nullable (.union [.literal "a|b"])),
          .record (.primitive .string) (.model "Issue")])) := by
  have hraw : Spaced [['?'], ['('], "'a|b'".toList, ['|'], "null".toList, [')'],
      ['[', ']'], ['|'], "Record".toList, ['<'], "string".toList, [','],
      "Issue".toList, ['>']]
      "?('a|b'| null )[] |Record<string,Issue>".toList := by
    simp only [String.reduceToList]
    iterate 4 refine @Spaced.cons [] _ _ _ (by decide) ?_
    iterate 2 refine @Spaced.cons [' '] _ _ _ (by decide) ?_
    refine @Spaced.cons [] _ _ _ (by decide) ?_
    refine @Spaced.cons [' '] _ _ _ (by decide) ?_
    iterate 6 refine @Spaced.cons [] _ _ _ (by decide) ?_
    exact .nil blank_nil
  exact compileField_of_spaced
    (.mk true (.more
      (.term (.group (.mk false (.more
        (.literal '\x27' ['a', '|', 'b'] (by decide) (by decide))
        (.last (.term (.primitive "null" .null (by decide))))))))
      (.last (.term (.record
        (.mk false (.last (.term (.primitive "string" .string (by decide)))))
        (.mk false (.last (.term
          (.model "Issue" (by decide) (by decide) (by decide) (by decide))))))))))
    hraw "Issue" none

end IntegrationBuild.TypeExpr
