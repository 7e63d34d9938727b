import IntegrationBuild.Proofs.TypeExpr.Reading
import IntegrationBuild.Proofs.TypeExpr.Refusal

/-!
Which texts that are read are sentences of the grammar.  The reader takes a
member for a literal when it begins and ends with the same quote.  In the
grammar a literal ends at the next such quote, so a member with this quote in
between is read but not derived.  There is no other difference: a text that is
read is a sentence exactly if the reader comes to no such member.
-/

namespace IntegrationBuild.TypeExpr

open Text

/-- Somewhere in the text of a symbol, the reader comes to a member between two
equal quotes with the same quote inside. -/
inductive Overruns : Symbol → List Char → Prop
  | expression {text : List Char} (hmembers : Overruns .members (unmarked text)) :
      Overruns .expression text
  | members {text part : List Char} (hpart : part ∈ splitTopLevel '|' text)
      (hmember : Overruns .member (trim part)) : Overruns .members text
  | literal {quote : Char} {text : List Char} (hquote : isQuote quote = true)
      (htext : quote ∈ text) : Overruns .member (quote :: text ++ [quote])
  | group {member : List Char} (hquote : isQuoted member = false)
      (hbrackets : endsWithBrackets member = true)
      (hgroup : InParentheses (trim (dropEnd 2 member)))
      (hitem : Overruns .expression (inner (trim (dropEnd 2 member)))) :
      Overruns .member member
  | item {member : List Char} (hquote : isQuoted member = false)
      (hbrackets : endsWithBrackets member = true)
      (hgroup : ¬ InParentheses (trim (dropEnd 2 member)))
      (hitem : Overruns .member (trim (dropEnd 2 member))) :
      Overruns .member member
  | argument {member part : List Char} (hquote : isQuoted member = false)
      (hgeneric : isGeneric member = true) (hpart : part ∈ arguments member)
      (hargument : Overruns .expression part) : Overruns .member member

section Pieces

variable {member : List Char}

theorem dropEnd_append_brackets (hbrackets : endsWithBrackets member = true) :
    dropEnd 2 member ++ ['[', ']'] = member := by
  obtain ⟨before, rfl⟩ := List.isSuffixOf_iff_suffix.mp hbrackets
  rw [dropEnd_append before (show ['[', ']'].length = 2 from rfl)]

theorem eq_of_inParentheses {text : List Char} (htext : InParentheses text) :
    text = '(' :: inner text ++ [')'] := by
  obtain ⟨hopen, hclose⟩ := htext
  obtain ⟨before, rfl⟩ := List.getLast?_eq_some_iff.mp hclose
  cases before with
  | nil => simp at hopen
  | cons first rest =>
      obtain rfl : first = '(' := by simpa using hopen
      rw [inner, List.dropLast_concat]
      rfl

theorem cutAt_eq {mark : Char} {text : List Char} (hmark : mark ∈ text) :
    (cutAt mark text).1 ++ mark :: (cutAt mark text).2 = text := by
  induction text with
  | nil => simp at hmark
  | cons c rest ih =>
      by_cases hc : c = mark
      · simp [cutAt, hc]
      · have hrest := ih ((List.mem_cons.mp hmark).resolve_left (Ne.symm hc))
        simp only [cutAt] at hrest ⊢
        simpa [hc] using hrest

/-- A generic type is its name and, in angle brackets, its arguments. -/
theorem spaced_genericTokens {name : String} {tokens : List (List Char)}
    (hgeneric : isGeneric member = true)
    (hname : genericName member = name.toList)
    (htokens : Spaced tokens ([','].intercalate (arguments member))) :
    Spaced (genericTokens name tokens) member := by
  obtain ⟨before, rfl⟩ :=
    List.getLast?_eq_some_iff.mp (getLast?_of_isGeneric hgeneric)
  have hdrop : dropEnd 1 (before ++ ['>']) = before := dropEnd_append before rfl
  have hmark : '<' ∈ before := by
    simpa [isGeneric] using hgeneric
  rw [genericName, hdrop] at hname
  rw [arguments, splitTopLevel, intercalate_splitFrom, hdrop] at htokens
  have hhead : Spaced [name.toList] (cutAt '<' before).1 := by
    apply Spaced.of_trim
    rw [hname]
    exact spaced_singleton _
  have htext : Spaced ([name.toList] ++ ['<'] :: tokens)
      ((cutAt '<' before).1 ++ ['<'] ++ (cutAt '<' before).2) :=
    hhead.append_cons htokens
  rw [← List.append_cons, cutAt_eq hmark] at htext
  exact htext.append (spaced_singleton ['>'])

end Pieces

section Productions

variable {symbol : Symbol} {text : List Char}

theorem Yields.of_trim (htext : Yields symbol (trim text)) : Yields symbol text := by
  obtain ⟨tokens, hderives, hspaced⟩ := htext
  exact ⟨tokens, hderives, hspaced.of_trim⟩

theorem yields_identifier (hident : isAsciiIdentifier text = true) :
    Yields .member text :=
  ⟨[text], .identifier hident, spaced_singleton text⟩

theorem yields_literal {quote : Char} (hquote : isQuote quote = true)
    (htext : quote ∉ text) : Yields .member (quote :: text ++ [quote]) :=
  ⟨_, .literal hquote htext, spaced_singleton _⟩

theorem Yields.brackets (hitem : Yields .member text) :
    Yields .member (text ++ ['[', ']']) := by
  obtain ⟨tokens, hderives, hspaced⟩ := hitem
  exact ⟨_, .items hderives, hspaced.append (spaced_singleton _)⟩

/-- A member with brackets behind it is an array if what is before them is a
member or an expression in parentheses. -/
theorem yields_of_group (hbrackets : endsWithBrackets text = true)
    (hgroup : InParentheses (trim (dropEnd 2 text)))
    (hitem : Yields .expression (inner (trim (dropEnd 2 text)))) :
    Yields .member text := by
  obtain ⟨tokens, hderives, hspaced⟩ := hitem
  have hparentheses := ((spaced_singleton ['(']).append hspaced).append
    (spaced_singleton [')'])
  rw [List.singleton_append, List.singleton_append,
    ← eq_of_inParentheses hgroup] at hparentheses
  have htext := hparentheses.of_trim.append (spaced_singleton ['[', ']'])
  rw [dropEnd_append_brackets hbrackets, List.append_assoc] at htext
  exact ⟨_, .group hderives, htext⟩

theorem yields_of_item (hbrackets : endsWithBrackets text = true)
    (hitem : Yields .member (trim (dropEnd 2 text))) : Yields .member text := by
  rw [← dropEnd_append_brackets hbrackets]
  exact hitem.of_trim.brackets

theorem yields_of_array {item : List Char} (hgeneric : isGeneric text = true)
    (hname : genericName text = "Array".toList) (harguments : arguments text = [item])
    (hitem : Yields .expression item) : Yields .member text := by
  obtain ⟨tokens, hderives, hspaced⟩ := hitem
  refine ⟨_, .array hderives, spaced_genericTokens hgeneric hname ?_⟩
  simpa [harguments] using hspaced

theorem yields_of_record {key value : List Char} (hgeneric : isGeneric text = true)
    (hname : genericName text = "Record".toList)
    (harguments : arguments text = [key, value])
    (hkey : Yields .expression key) (hvalue : Yields .expression value) :
    Yields .member text := by
  obtain ⟨keyTokens, hkeyDerives, hkeySpaced⟩ := hkey
  obtain ⟨valueTokens, hvalueDerives, hvalueSpaced⟩ := hvalue
  refine ⟨_, .record hkeyDerives hvalueDerives, spaced_genericTokens hgeneric hname ?_⟩
  have hinside : Spaced (keyTokens ++ [','] :: valueTokens) (key ++ [','] ++ value) :=
    hkeySpaced.append_cons hvalueSpaced
  simpa [harguments] using hinside

theorem yields_intercalate {parts : List (List Char)} (hne : parts ≠ [])
    (hparts : ∀ part ∈ parts, Yields .member part) :
    Yields .members (['|'].intercalate parts) := by
  induction parts with
  | nil => exact absurd rfl hne
  | cons first rest ih =>
      obtain ⟨firstTokens, hfirst, hfirstSpaced⟩ := hparts first List.mem_cons_self
      cases rest with
      | nil => exact ⟨firstTokens, .last hfirst, by simpa using hfirstSpaced⟩
      | cons second others =>
          obtain ⟨restTokens, hrest, hrestSpaced⟩ := ih (by simp)
            fun part hpart => hparts part (List.mem_cons_of_mem first hpart)
          refine ⟨_, .more hfirst hrest, ?_⟩
          rw [List.intercalate_cons_cons]
          exact hfirstSpaced.append_cons hrestSpaced

theorem yields_of_unmarked (hmembers : Yields .members (unmarked text)) :
    Yields .expression text := by
  obtain ⟨tokens, hderives, hspaced⟩ := hmembers
  rw [unmarked] at hspaced
  split at hspaced
  · next hmarked =>
    obtain ⟨rest, hrest⟩ := List.head?_eq_some_iff.mp (eq_of_beq hmarked)
    rw [hrest, List.drop_succ_cons, List.drop_zero] at hspaced
    have htext : Spaced (['?'] :: tokens) (trim text) := by
      rw [hrest]
      exact Spaced.cons blank_nil hspaced.of_trim
    exact ⟨_, .marked hderives, htext.of_trim⟩
  · exact ⟨tokens, .plain hderives, hspaced.of_trim⟩

end Productions

section Soundness

variable {known : List String} {text member : List Char} {ref : TypeRef}

/-- Every member of a union that is read is a word or is read itself. -/
theorem isAsciiIdentifier_or_read_of_parseParts {texts : List (List Char)}
    {parts : Parts} (hread : parseParts known texts = .ok parts)
    (htext : text ∈ texts) :
    isAsciiIdentifier (trim text) = true ∨
      ∃ ref, parseMember known (trim text) = .ok ref := by
  induction texts generalizing parts with
  | nil => simp at htext
  | cons first rest ih =>
      obtain ⟨others, hothers, hfirst⟩ := parseParts_cons_inv hread
      rcases List.mem_cons.mp htext with rfl | hrest
      · rcases hfirst with ⟨hnull, -⟩ | ⟨habsent, -⟩ | ⟨ref, -, -, hmember, -⟩
        · rw [hnull]
          exact Or.inl (by decide)
        · rw [habsent]
          exact Or.inl (by decide)
        · exact Or.inr ⟨ref, hmember⟩
      · exact ih hothers hrest

/-- A generic type that is read is a record with two arguments or an array with
one. -/
theorem genericName_of_parseMember {first : Char} {rest : List Char}
    (hquote : isQuote first = false) (hgeneric : isGeneric (first :: rest) = true)
    (hread : parseMember known (first :: rest) = .ok ref) :
    (genericName (first :: rest) = "Record".toList ∧
        (arguments (first :: rest)).length = 2) ∨
      (genericName (first :: rest) = "Array".toList ∧
        (arguments (first :: rest)).length = 1) := by
  have hbrackets := not_endsWithBrackets (getLast?_of_isGeneric hgeneric)
    (by decide)
  rw [parseMember, if_neg (by simp [hquote]), dif_neg (by simp [hbrackets]),
    dif_pos hgeneric] at hread
  dsimp only at hread
  split at hread
  · next hrecord =>
    split at hread
    · next key value hsplit =>
      exact Or.inl ⟨eq_of_beq hrecord, by rw [arguments, hsplit]; rfl⟩
    · simp at hread
  · split at hread
    · next harray =>
      split at hread
      · next item hsplit =>
        exact Or.inr ⟨eq_of_beq harray, by rw [arguments, hsplit]; rfl⟩
      · simp at hread
    · simp at hread

/-- An expression is a sentence if its members are. -/
theorem yields_of_parseExpression_of_members
    (hmembers : ∀ member ref, member.length ≤ text.length →
      parseMember known member = .ok ref → ¬ Overruns .member member →
      Yields .member member)
    (hread : parseExpression known text = .ok ref)
    (hclosed : ¬ Overruns .expression text) : Yields .expression text := by
  rw [parseExpression] at hread
  split at hread
  · next parts hparts =>
    have hpart : ∀ part ∈ splitTopLevel '|' (unmarked text),
        Yields .member part := by
      intro part hpart
      rcases isAsciiIdentifier_or_read_of_parseParts hparts hpart with
        hident | ⟨partRef, hmember⟩
      · exact (yields_identifier hident).of_trim
      · apply Yields.of_trim
        apply hmembers _ partRef (length_trim_le_of_mem_splitTopLevel hpart) hmember
        exact fun hover => hclosed (.expression (.members hpart hover))
    have htext := yields_intercalate (splitFrom_ne_nil '|' {} _) hpart
    rw [intercalate_splitFrom] at htext
    exact yields_of_unmarked htext
  · simp at hread

/-- A member that is read is derived if no literal in it is too long. -/
theorem yields_of_parseMember (hread : parseMember known member = .ok ref)
    (hclosed : ¬ Overruns .member member) : Yields .member member := by
  induction hn : member.length using Nat.strongRecOn
    generalizing member ref with
  | ind n ih =>
      subst hn
      have hexpression : ∀ text ref, text.length < member.length →
          parseExpression known text = .ok ref → ¬ Overruns .expression text →
          Yields .expression text := by
        intro text ref hlt htext hexpressionClosed
        apply yields_of_parseExpression_of_members _ htext hexpressionClosed
        intro part partRef hle hpart hpartClosed
        exact ih part.length (by omega) hpart hpartClosed rfl
      -- the first and the last character leave open only what a literal holds
      cases memberReading_of_parseMember hread with
      | @literal first rest hquote hne hlast =>
          obtain ⟨inside, rfl⟩ := List.getLast?_eq_some_iff.mp hlast
          apply yields_literal hquote
          exact fun hmem => hclosed (.literal hquote hmem)
      | @group first rest _ hquote hbrackets hopen hclose hitem =>
          apply yields_of_group hbrackets ⟨hopen, hclose⟩
          apply hexpression _ _ (length_inner_item_lt hbrackets) hitem
          exact fun hover => hclosed (.group hquote hbrackets ⟨hopen, hclose⟩ hover)
      | @item first rest _ hquote hbrackets hitem =>
          have hgroup := not_grouped_of_parseMember hitem
          apply yields_of_item hbrackets
          apply ih _ (length_item_lt hbrackets) hitem _ rfl
          exact fun hover => hclosed (.item hquote hbrackets hgroup hover)
      | @record first rest key value keyRef valueRef hquote hgeneric hsplit hkey hvalue =>
          have harguments : arguments (first :: rest) = [key, value] := hsplit
          have hargument : ∀ part ∈ [key, value], ∀ ref,
              parseExpression known part = .ok ref → Yields .expression part := by
            intro part hpart ref hpartRead
            rw [← harguments] at hpart
            apply hexpression part ref (length_lt_of_mem_arguments hgeneric hpart)
              hpartRead
            exact fun hover => hclosed (.argument hquote hgeneric hpart hover)
          rcases genericName_of_parseMember hquote hgeneric hread with
            ⟨hname, -⟩ | ⟨-, hsize⟩
          · exact yields_of_record hgeneric hname harguments
              (hargument key (by simp) _ hkey) (hargument value (by simp) _ hvalue)
          · simp [harguments] at hsize
      | @array first rest item itemRef hquote hgeneric hsplit hitem =>
          have harguments : arguments (first :: rest) = [item] := hsplit
          have hpart : item ∈ arguments (first :: rest) := by simp [harguments]
          rcases genericName_of_parseMember hquote hgeneric hread with
            ⟨-, hsize⟩ | ⟨hname, -⟩
          · simp [harguments] at hsize
          · apply yields_of_array hgeneric hname harguments
            apply hexpression item itemRef (length_lt_of_mem_arguments hgeneric hpart)
              hitem
            exact fun hover => hclosed (.argument hquote hgeneric hpart hover)
      | name hident _ => exact yields_identifier hident

theorem sentence_of_parseExpression (hread : parseExpression known text = .ok ref)
    (hclosed : ¬ Overruns .expression text) : Sentence text :=
  yields_of_parseExpression_of_members
    (fun _ _ _ hmember hmemberClosed => yields_of_parseMember hmember hmemberClosed)
    hread hclosed

end Soundness

section Exactness

variable {symbol : Symbol} {tokens : List (List Char)} {text member : List Char}

theorem not_overruns_of_literal {quote : Char} (hquote : isQuote quote = true)
    (htext : quote ∉ text) : ¬ Overruns .member (quote :: text ++ [quote]) := by
  intro hover
  generalize hmember : quote :: text ++ [quote] = member at hover
  have hquoted : isQuoted member = true := by
    rw [← hmember]
    simpa [isQuoted] using hquote
  cases hover with
  | @literal other inside _ hinside =>
      obtain ⟨rfl, heq⟩ := List.cons.inj hmember
      exact htext (List.append_cancel_right heq ▸ hinside)
  | group hother => simp [hquoted] at hother
  | item hother => simp [hquoted] at hother
  | argument hother => simp [hquoted] at hother

/-- What overruns in a member that does not end with a quote. -/
theorem Overruns.inside {last : Char} (hover : Overruns .member member)
    (hlast : member.getLast? = some last) (hquote : isQuote last = false) :
    (last = ']' ∧ InParentheses (trim (dropEnd 2 member)) ∧
        Overruns .expression (inner (trim (dropEnd 2 member)))) ∨
      (last = ']' ∧ ¬ InParentheses (trim (dropEnd 2 member)) ∧
        Overruns .member (trim (dropEnd 2 member))) ∨
      (last = '>' ∧ ∃ part ∈ arguments member, Overruns .expression part) := by
  cases hover with
  | literal hother =>
      rw [List.getLast?_concat] at hlast
      obtain rfl := Option.some.inj hlast
      simp [hother] at hquote
  | group _ hbrackets hgroup hitem =>
      have hclose := (getLast?_of_endsWithBrackets hbrackets).symm.trans hlast
      exact Or.inl ⟨(Option.some.inj hclose).symm, hgroup, hitem⟩
  | item _ hbrackets hgroup hitem =>
      have hclose := (getLast?_of_endsWithBrackets hbrackets).symm.trans hlast
      exact Or.inr (Or.inl ⟨(Option.some.inj hclose).symm, hgroup, hitem⟩)
  | argument _ hgeneric hpart hargument =>
      have hclose := (getLast?_of_isGeneric hgeneric).symm.trans hlast
      exact Or.inr (Or.inr ⟨(Option.some.inj hclose).symm, _, hpart, hargument⟩)

theorem not_overruns_of_isAsciiIdentifier (hword : isAsciiIdentifier member = true) :
    ¬ Overruns .member member := by
  intro hover
  have hne := ne_nil_of_isAsciiIdentifier hword
  have hlast := List.getLast?_eq_some_getLast hne
  have hchar := wordChar_of_isAsciiIdentifier hword _ (List.getLast_mem hne)
  rcases hover.inside hlast (not_isQuote_of_wordChar hchar) with
    ⟨hbracket, -⟩ | ⟨hbracket, -⟩ | ⟨hangle, -⟩
  · exact hchar.ne (by decide) hbracket
  · exact hchar.ne (by decide) hbracket
  · exact hchar.ne (by decide) hangle

/-- What overruns in a text with brackets behind it. -/
theorem Overruns.brackets (hover : Overruns .member (text ++ ['[', ']'])) :
    (InParentheses (trim text) ∧ Overruns .expression (inner (trim text))) ∨
      (¬ InParentheses (trim text) ∧ Overruns .member (trim text)) := by
  have hlast := getLast?_of_endsWithBrackets (endsWithBrackets_append text)
  have hdrop : dropEnd 2 (text ++ ['[', ']']) = text := dropEnd_append text rfl
  rcases hover.inside hlast (by decide) with
    ⟨-, hgroup, hitem⟩ | ⟨-, hgroup, hitem⟩ | ⟨hangle, -⟩
  · rw [hdrop] at hgroup hitem
    exact Or.inl ⟨hgroup, hitem⟩
  · rw [hdrop] at hgroup hitem
    exact Or.inr ⟨hgroup, hitem⟩
  · simp at hangle

/-- What overruns in a generic type does so in one of its arguments. -/
theorem Overruns.generic {name : String} {arguments : List (List Char)}
    (hname : isAsciiIdentifier name.toList = true)
    (htext : Spaced (genericTokens name arguments) text)
    (hover : Overruns .member (trim text)) :
    ∃ inside, Spaced arguments inside ∧
      ∃ part ∈ splitTopLevel ',' inside, Overruns .expression part := by
  obtain ⟨between, inside, htrim, hbetween, hinside⟩ :=
    exists_trim_of_spaced_genericTokens hname htext
  obtain ⟨first, rest, hmember, -, -, hgeneric, -, hcut⟩ :=
    exists_generic hname hbetween inside
  rw [htrim, hmember] at hover
  rcases hover.inside (getLast?_of_isGeneric hgeneric) (by decide) with
    ⟨hbracket, -⟩ | ⟨hbracket, -⟩ | ⟨-, part, hpart, hargument⟩
  · simp at hbracket
  · simp at hbracket
  · rw [TypeExpr.arguments, hcut] at hpart
    exact ⟨inside, hinside, part, hpart, hargument⟩

/-- The reader goes through a derived text production by production, so the only
members it takes for literals are literals. -/
theorem Derives.not_overruns (hderives : Derives symbol tokens)
    (htext : Spaced tokens text) (htrim : symbol = .member → trim text = text) :
    ¬ Overruns symbol text := by
  -- a member is met after trimming, an expression and its members before
  induction hderives generalizing text with
  | plain hmembers ih =>
      obtain ⟨-, hspaced⟩ := isMarked_and_spaced_of_plain hmembers htext
      intro hover
      cases hover with
      | expression hover => exact ih hspaced (by simp) hover
  | marked hmembers ih =>
      obtain ⟨-, hspaced⟩ := isMarked_and_spaced_of_marked hmembers htext
      intro hover
      cases hover with
      | expression hover => exact ih hspaced (by simp) hover
  | last hmember ih =>
      intro hover
      cases hover with
      | members hpart hover =>
        rw [hmember.splitTopLevel_member htext, List.mem_singleton] at hpart
        subst hpart
        exact ih (htext.trim hmember.solid) (fun _ => trim_trim _) hover
  | more hfirst hrest ihFirst ihRest =>
      obtain ⟨s, t, hsplit, hs, ht⟩ := hfirst.splitTopLevel_members htext
      intro hover
      cases hover with
      | members hpart hover =>
        rw [hsplit, List.mem_cons] at hpart
        rcases hpart with rfl | hpart
        · exact ihFirst (hs.trim hfirst.solid) (fun _ => trim_trim _) hover
        · exact ihRest ht (by simp) (.members hpart hover)
  | literal hquote hchars =>
      rw [← htrim rfl, htext.trim_singleton (solid_quoted _ hquote)]
      exact not_overruns_of_literal hquote hchars
  | identifier hword =>
      rw [← htrim rfl, htext.trim_singleton (solid_of_isAsciiIdentifier hword)]
      exact not_overruns_of_isAsciiIdentifier hword
  | items hitem ih =>
      obtain ⟨s, blanks, rfl, hs, hblanks⟩ := htext.of_concat
      obtain ⟨c, hends, hc⟩ := hitem.ends
      have hleft := Spaced.trimLeft hitem.solid hs
      have hlast := getLast?_trimRight_of_ends hitem.solid hends hleft
      rw [← htrim rfl, trim_append_brackets s hblanks]
      intro hover
      rcases hover.brackets with ⟨⟨-, hclose⟩, -⟩ | ⟨-, hover⟩
      · rw [trim_trimLeft, trim, hlast] at hclose
        exact hc.ne (by decide) (Option.some.inj hclose)
      · rw [trim_trimLeft] at hover
        exact ih (hs.trim hitem.solid) (fun _ => trim_trim s) hover
  | group hitem ih =>
      obtain ⟨inside, between, htoken, hinside, hbetween⟩ :=
        exists_trim_of_spaced_group htext
      have hgroup := trim_parenthesized inside hbetween
      rw [← htrim rfl, htoken]
      intro hover
      rcases hover.brackets with ⟨-, hover⟩ | ⟨hopen, -⟩
      · rw [List.cons_append, List.cons_append, hgroup, inner_concat] at hover
        exact ih hinside (by simp) hover
      · apply hopen
        rw [List.cons_append, List.cons_append, hgroup]
        exact ⟨rfl, List.getLast?_concat⟩
  | array hitem ih =>
      rw [← htrim rfl]
      intro hover
      obtain ⟨inside, hinside, part, hpart, hover⟩ := hover.generic (by decide) htext
      rw [hitem.splitTopLevel_argument hinside, List.mem_singleton] at hpart
      subst hpart
      exact ih hinside (by simp) hover
  | record hkey hvalue ihKey ihValue =>
      rw [← htrim rfl]
      intro hover
      obtain ⟨inside, hinside, part, hpart, hover⟩ := hover.generic (by decide) htext
      obtain ⟨s, t, hsplit, hs, ht⟩ := hkey.splitTopLevel_arguments hvalue hinside
      rw [hsplit, List.mem_pair] at hpart
      rcases hpart with rfl | rfl
      · exact ihKey hs (by simp) hover
      · exact ihValue ht (by simp) hover

theorem Sentence.not_overruns (htext : Sentence text) :
    ¬ Overruns .expression text := by
  obtain ⟨tokens, hderives, hspaced⟩ := htext
  exact hderives.not_overruns hspaced (by simp)

end Exactness

theorem overruns_of_quoted {quote : Char} {text : List Char}
    (hquote : isQuote quote = true) (htext : quote ∈ text) (hbar : '|' ∉ text) :
    Overruns .expression (quote :: text ++ [quote]) := by
  obtain ⟨-, hunmarked⟩ := isMarked_and_unmarked_quoted text hquote
  apply Overruns.expression
  rw [hunmarked]
  apply Overruns.members
  · rw [splitTopLevel_quoted hquote hbar, List.mem_singleton]
  · rw [(solid_quoted text hquote).trim_eq]
    exact .literal hquote htext

/-- A text that is read as the expression of a field is a sentence of the
grammar, unless a member that is taken for a literal holds its own quote. -/
theorem sentence_iff_not_overruns {raw model : String} {known : List String}
    {field : Option String} {type : TypeRef}
    (hread : compileField raw known model field = .ok type) :
    Sentence raw.toList ↔ ¬ Overruns .expression raw.toList :=
  ⟨Sentence.not_overruns,
    sentence_of_parseExpression (parseExpression_of_compileField hread)⟩

/-- A quoted bar, a bar in parentheses and a quote in other quotes overrun
nothing; two literals next to each other do. -/
theorem sentence_iff_not_overruns_nested_and_adjacent :
    ¬ Overruns .expression "Record<'a|b',(Issue|\"it's\")[]>".toList ∧
      ¬ Sentence "'a''b'".toList := by
  constructor
  · let e : Expression ["Issue"] :=
      .mk false (.last (.term (.record
        (.mk false (.last (.literal '\x27' "a|b".toList (by decide) (by decide))))
        (.mk false (.last (.term (.group (.mk false (.more
          (.term (.model "Issue" (by decide) (by decide) (by decide) (by decide)))
          (.last (.literal '"' "it's".toList (by decide) (by decide)))))))))))) 
    have hraw : Spaced e.tokens "Record<'a|b',(Issue|\"it's\")[]>".toList :=
      spaced_flatten e.tokens
    have hread : compileField "Record<'a|b',(Issue|\"it's\")[]>" ["Issue"] "Label" none =
        .ok e.tree := by
      rw [compileField, compile_of_spaced e hraw]
    exact (sentence_iff_not_overruns hread).mp ⟨e.tokens, e.derives, hraw⟩
  · have htext : "'a''b'".toList = '\x27' :: ['a', '\x27', '\x27', 'b'] ++ ['\x27'] := by
      decide
    have hread := compileField_quoted htext (by decide) (by decide) [] "Label" none
    rw [sentence_iff_not_overruns hread, htext, not_not]
    exact overruns_of_quoted (by decide) (by decide) (by decide)

/-- Two literals next to each other are read as one, and are no sentence. -/
theorem compileField_adjacent_literals :
    compileField "'a' 'b'" [] "M" none = .ok (.union [.literal "a' 'b"]) ∧
      ¬ Sentence "'a' 'b'".toList := by
  have htext : "'a' 'b'".toList =
      '\x27' :: ['a', '\x27', ' ', '\x27', 'b'] ++ ['\x27'] := by decide
  constructor
  · exact compileField_quoted htext (by decide) (by decide) [] "M" none
  · rw [htext]
    intro hsentence
    apply hsentence.not_overruns
    exact overruns_of_quoted (by decide) (by decide) (by decide)

end IntegrationBuild.TypeExpr
