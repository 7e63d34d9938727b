import IntegrationBuild.Proofs.Text.Spacing
import IntegrationBuild.Proofs.TypeExpr.Scan

/-!
The sentences of the grammar of type expressions.

    expression := "?"? member ("|" member)*
    member     := literal | array | record | identifier
    array      := member "[]" | "(" expression ")" "[]" | "Array<" expression ">"
    record     := "Record<" expression "," expression ">"
    literal    := a quote, characters other than this quote, and the quote again

A sentence is a text of derived tokens with any blanks around them.  Where a
sentence begins and ends, and what a split makes of it, is settled here once for
all derivations.
-/

namespace IntegrationBuild.TypeExpr

open Text

/-- The tokens of a generic type with the tokens of its arguments. -/
def genericTokens (name : String) (arguments : List (List Char)) :
    List (List Char) :=
  name.toList :: ['<'] :: arguments ++ [['>']]

theorem ne_of_isQuote {c d : Char} (hc : isQuote c = true)
    (hd : isQuote d = false) : c ≠ d := by
  rintro rfl
  simp [hc] at hd

theorem not_isBlank_of_isQuote {c : Char} (hc : isQuote c = true) :
    isBlank c = false := by
  simp only [isQuote, Bool.or_eq_true, beq_iff_eq] at hc
  rcases hc with rfl | rfl <;> decide

theorem solid_quoted {quote : Char} (text : List Char)
    (hquote : isQuote quote = true) : Solid (quote :: text ++ [quote]) :=
  ⟨⟨quote, rfl, not_isBlank_of_isQuote hquote⟩,
    ⟨quote, List.getLast?_concat, not_isBlank_of_isQuote hquote⟩⟩

theorem solid_brackets : Solid ['[', ']'] :=
  ⟨⟨'[', rfl, by decide⟩, ⟨']', rfl, by decide⟩⟩

theorem solid_genericTokens {name : String} {arguments : List (List Char)}
    (hname : isAsciiIdentifier name.toList = true)
    (harguments : ∀ token ∈ arguments, Solid token) :
    ∀ token ∈ genericTokens name arguments, Solid token := by
  simp only [genericTokens, List.forall_mem_append, List.forall_mem_cons,
    List.not_mem_nil, false_implies, implies_true, and_true]
  exact ⟨⟨solid_of_isAsciiIdentifier hname, solid_singleton (by decide),
    harguments⟩, solid_singleton (by decide)⟩

/-- What a production is about. -/
inductive Symbol where
  | expression
  | members
  | member
deriving DecidableEq, Repr

/-- The tokens that the productions derive; a literal is one token. -/
inductive Derives : Symbol → List (List Char) → Prop
  | plain {tokens : List (List Char)} (hmembers : Derives .members tokens) :
      Derives .expression tokens
  | marked {tokens : List (List Char)} (hmembers : Derives .members tokens) :
      Derives .expression (['?'] :: tokens)
  | last {tokens : List (List Char)} (hmember : Derives .member tokens) :
      Derives .members tokens
  | more {first rest : List (List Char)} (hfirst : Derives .member first)
      (hrest : Derives .members rest) : Derives .members (first ++ ['|'] :: rest)
  | literal {quote : Char} {text : List Char} (hquote : isQuote quote = true)
      (htext : quote ∉ text) : Derives .member [quote :: text ++ [quote]]
  | identifier {word : List Char} (hword : isAsciiIdentifier word = true) :
      Derives .member [word]
  | items {tokens : List (List Char)} (hitem : Derives .member tokens) :
      Derives .member (tokens ++ [['[', ']']])
  | group {tokens : List (List Char)} (hitem : Derives .expression tokens) :
      Derives .member (['('] :: tokens ++ [[')'], ['[', ']']])
  | array {tokens : List (List Char)} (hitem : Derives .expression tokens) :
      Derives .member (genericTokens "Array" tokens)
  | record {key value : List (List Char)} (hkey : Derives .expression key)
      (hvalue : Derives .expression value) :
      Derives .member (genericTokens "Record" (key ++ [','] :: value))

/-- The text of tokens that the symbol derives, with any blanks around them. -/
def Yields (symbol : Symbol) (text : List Char) : Prop :=
  ∃ tokens, Derives symbol tokens ∧ Spaced tokens text

/-- A text that the grammar derives. -/
def Sentence (text : List Char) : Prop :=
  Yields .expression text

variable {symbol : Symbol} {tokens : List (List Char)}

/-- No token of a derivation begins or ends with a blank. -/
theorem Derives.solid (hderives : Derives symbol tokens) :
    ∀ token ∈ tokens, Solid token := by
  induction hderives with
  | plain _ ih => exact ih
  | marked _ ih => exact List.forall_mem_cons.mpr ⟨solid_singleton (by decide), ih⟩
  | last _ ih => exact ih
  | more _ _ ihFirst ihRest =>
      simp only [List.forall_mem_append, List.forall_mem_cons]
      exact ⟨ihFirst, solid_singleton (by decide), ihRest⟩
  | literal hquote _ => simpa using solid_quoted _ hquote
  | identifier hword => simpa using solid_of_isAsciiIdentifier hword
  | items _ ih =>
      simp only [List.forall_mem_append, List.forall_mem_singleton]
      exact ⟨ih, solid_brackets⟩
  | group _ ih =>
      simp only [List.forall_mem_append, List.forall_mem_cons, List.not_mem_nil,
        false_implies, implies_true, and_true]
      exact ⟨⟨solid_singleton (by decide), ih⟩, solid_singleton (by decide),
        solid_brackets⟩
  | array _ ih => exact solid_genericTokens (by decide) ih
  | record _ _ ihKey ihValue =>
      apply solid_genericTokens (by decide)
      simp only [List.forall_mem_append, List.forall_mem_cons]
      exact ⟨ihKey, solid_singleton (by decide), ihValue⟩

/-- The first token begins with the character. -/
def Begins (tokens : List (List Char)) (c : Char) : Prop :=
  ∃ rest others, tokens = (c :: rest) :: others

/-- The last token ends with the character. -/
def Ends (tokens : List (List Char)) (c : Char) : Prop :=
  ∃ others rest, tokens = others ++ [rest ++ [c]]

theorem Begins.append {tokens : List (List Char)} {c : Char}
    (htokens : Begins tokens c) (more : List (List Char)) :
    Begins (tokens ++ more) c := by
  obtain ⟨rest, others, rfl⟩ := htokens
  exact ⟨rest, others ++ more, rfl⟩

theorem Ends.append {tokens : List (List Char)} {c : Char}
    (before : List (List Char)) (htokens : Ends tokens c) :
    Ends (before ++ tokens) c := by
  obtain ⟨others, rest, rfl⟩ := htokens
  exact ⟨before ++ others, rest, by simp⟩

theorem exists_begins_of_isAsciiIdentifier {word : List Char}
    (hword : isAsciiIdentifier word = true) :
    ∃ c, Begins [word] c ∧ WordChar c := by
  obtain ⟨c, rest, rfl⟩ :=
    List.exists_cons_of_ne_nil (ne_nil_of_isAsciiIdentifier hword)
  exact ⟨c, ⟨rest, [], rfl⟩,
    wordChar_of_isAsciiIdentifier hword c List.mem_cons_self⟩

theorem exists_ends_of_isAsciiIdentifier {word : List Char}
    (hword : isAsciiIdentifier word = true) :
    ∃ c, Ends [word] c ∧ WordChar c := by
  have hne := ne_nil_of_isAsciiIdentifier hword
  refine ⟨word.getLast hne, ⟨[], word.dropLast, ?_⟩,
    wordChar_of_isAsciiIdentifier hword _ (List.getLast_mem hne)⟩
  rw [List.dropLast_append_getLast, List.nil_append]

/-- What a member can begin with. -/
def OpensMember (c : Char) : Prop :=
  WordChar c ∨ isQuote c = true ∨ c = '('

/-- What a member can end with. -/
def ClosesMember (c : Char) : Prop :=
  WordChar c ∨ isQuote c = true ∨ c = ']' ∨ c = '>'

instance : DecidablePred OpensMember := fun c =>
  inferInstanceAs (Decidable (WordChar c ∨ isQuote c = true ∨ c = '('))

instance : DecidablePred ClosesMember := fun c =>
  inferInstanceAs (Decidable (WordChar c ∨ isQuote c = true ∨ c = ']' ∨ c = '>'))

theorem OpensMember.ne {c d : Char} (hc : OpensMember c) (hd : ¬ OpensMember d) :
    c ≠ d :=
  fun heq => hd (heq ▸ hc)

theorem ClosesMember.ne {c d : Char} (hc : ClosesMember c) (hd : ¬ ClosesMember d) :
    c ≠ d :=
  fun heq => hd (heq ▸ hc)

theorem Derives.begins (hderives : Derives symbol tokens)
    (hsymbol : symbol ≠ .expression) : ∃ c, Begins tokens c ∧ OpensMember c := by
  induction hderives with
  | plain => exact absurd rfl hsymbol
  | marked => exact absurd rfl hsymbol
  | last _ ih => exact ih (by decide)
  | more _ _ ihFirst _ =>
      obtain ⟨c, hbegins, hc⟩ := ihFirst (by decide)
      exact ⟨c, hbegins.append _, hc⟩
  | @literal quote _ hquote _ => exact ⟨quote, ⟨_, _, rfl⟩, Or.inr (Or.inl hquote)⟩
  | identifier hword =>
      obtain ⟨c, hbegins, hc⟩ := exists_begins_of_isAsciiIdentifier hword
      exact ⟨c, hbegins, Or.inl hc⟩
  | items _ ih =>
      obtain ⟨c, hbegins, hc⟩ := ih hsymbol
      exact ⟨c, hbegins.append _, hc⟩
  | group => exact ⟨'(', ⟨[], _, rfl⟩, by decide⟩
  | array => exact ⟨'A', ⟨"rray".toList, _, rfl⟩, by decide⟩
  | record => exact ⟨'R', ⟨"ecord".toList, _, rfl⟩, by decide⟩

theorem Derives.ends (hderives : Derives symbol tokens) :
    ∃ c, Ends tokens c ∧ ClosesMember c := by
  induction hderives with
  | plain _ ih => exact ih
  | marked _ ih =>
      obtain ⟨c, hends, hc⟩ := ih
      exact ⟨c, hends.append [['?']], hc⟩
  | last _ ih => exact ih
  | @more first _ _ _ _ ihRest =>
      obtain ⟨c, hends, hc⟩ := ihRest
      exact ⟨c, by simpa using hends.append (first ++ [['|']]), hc⟩
  | @literal quote text hquote _ =>
      exact ⟨quote, ⟨[], quote :: text, rfl⟩, Or.inr (Or.inl hquote)⟩
  | identifier hword =>
      obtain ⟨c, hends, hc⟩ := exists_ends_of_isAsciiIdentifier hword
      exact ⟨c, hends, Or.inl hc⟩
  | @items tokens => exact ⟨']', ⟨tokens, ['['], rfl⟩, by decide⟩
  | @group tokens => exact ⟨']', ⟨['('] :: tokens ++ [[')']], ['['], by simp⟩, by decide⟩
  | array => exact ⟨'>', ⟨_, [], rfl⟩, by decide⟩
  | record => exact ⟨'>', ⟨_, [], rfl⟩, by decide⟩

/-- The characters that a scan looks at. -/
def marks : List Char :=
  ['\x27', '"', '<', '(', '[', '>', ')', ']', '|', ',']

theorem plain_of_not_mem_marks {separator c : Char} (depth : Nat)
    (hseparator : separator ∈ marks) (hc : c ∉ marks) :
    Plain separator depth c := by
  have hne : c ≠ separator := fun heq => hc (heq ▸ hseparator)
  simp only [marks, List.mem_cons, List.not_mem_nil, or_false, not_or] at hc
  obtain ⟨h1, h2, h3, h4, h5, h6, h7, h8, -, -⟩ := hc
  exact ⟨by simp [isQuote, h1, h2], by simp [isOpener, h3, h4, h5],
    by simp [isCloser, h6, h7, h8], Or.inl hne⟩

theorem passes_blank {separator : Char} (depth : Nat) {blanks : List Char}
    (hseparator : separator ∈ marks) (hblanks : Blank blanks) :
    Passes separator depth blanks := by
  have hmarks : marks.all (fun c => !isBlank c) = true := by decide
  apply passes_of_plain
  intro c hc
  apply plain_of_not_mem_marks depth hseparator
  intro hmem
  have hsolid := List.all_eq_true.mp hmarks c hmem
  rw [hblanks c hc] at hsolid
  simp at hsolid

theorem passes_word {separator : Char} (depth : Nat) {word : List Char}
    (hseparator : separator ∈ marks)
    (hword : isAsciiIdentifier word = true) : Passes separator depth word := by
  have hmarks : marks.all (fun c => !decide (WordChar c)) = true := by decide
  apply passes_of_plain
  intro c hc
  apply plain_of_not_mem_marks depth hseparator
  intro hmem
  have hother := List.all_eq_true.mp hmarks c hmem
  rw [decide_eq_true (wordChar_of_isAsciiIdentifier hword c hc)] at hother
  simp at hother

/-- The text of one token that is passed over is passed over. -/
theorem passes_of_spaced_singleton {separator : Char} {depth : Nat}
    {token text : List Char} (hseparator : separator ∈ marks)
    (htoken : Passes separator depth token) (htext : Spaced [token] text) :
    Passes separator depth text := by
  cases htext with
  | cons hbefore hafter =>
      cases hafter with
      | nil hafter =>
          exact ((passes_blank depth hseparator hbefore).append htoken).append
            (passes_blank depth hseparator hafter)

/-- How an expression in parentheses with brackets behind it is written. -/
theorem exists_of_spaced_group {tokens : List (List Char)} {text : List Char}
    (htext : Spaced (['('] :: tokens ++ [[')'], ['[', ']']]) text) :
    ∃ before inside between after,
      text = before ++ ('(' :: inside ++ [')'] ++ between ++ ['[', ']']) ++
        after ∧
      Blank before ∧ Spaced tokens inside ∧ Blank between ∧ Blank after := by
  cases htext with
  | @cons before _ _ rest hbefore hrest =>
      obtain ⟨inside, t, rfl, hinside, ht⟩ := hrest.of_append_cons
      cases ht with
      | @cons between _ _ after hbetween hafter =>
          cases hafter with
          | nil hafter =>
              exact ⟨before, inside, between, after, by simp, hbefore, hinside,
                hbetween, hafter⟩

/-- Trimmed, such an expression ends with the brackets. -/
theorem exists_trim_of_spaced_group {tokens : List (List Char)} {text : List Char}
    (htext : Spaced (['('] :: tokens ++ [[')'], ['[', ']']]) text) :
    ∃ inside between,
      trim text = '(' :: inside ++ [')'] ++ between ++ ['[', ']'] ∧
      Spaced tokens inside ∧ Blank between := by
  obtain ⟨before, inside, between, after, rfl, hbefore, hinside, hbetween,
    hafter⟩ := exists_of_spaced_group htext
  have hsolid : Solid ('(' :: inside ++ [')'] ++ between ++ ['[', ']']) :=
    ⟨⟨'(', rfl, by decide⟩, ⟨']', by rw [List.getLast?_append]; rfl,
      by decide⟩⟩
  exact ⟨inside, between, trim_blank_append_blank hbefore hafter hsolid, hinside,
    hbetween⟩

theorem trim_append_brackets (s : List Char) {blanks : List Char}
    (hblanks : Blank blanks) :
    trim (s ++ ['[', ']'] ++ blanks) = trimLeft s ++ ['[', ']'] := by
  rw [trim_append_token s solid_brackets, trimRight_of_blank hblanks,
    List.append_nil]

/-- How a generic type is written. -/
theorem exists_of_spaced_genericTokens {name : String}
    {arguments : List (List Char)} {text : List Char}
    (htext : Spaced (genericTokens name arguments) text) :
    ∃ before between inside after,
      text = before ++ (name.toList ++ between ++ ('<' :: inside ++ ['>'])) ++
        after ∧
      Blank before ∧ Blank between ∧ Spaced arguments inside ∧ Blank after := by
  cases htext with
  | @cons before _ _ rest hbefore hrest =>
      cases hrest with
      | @cons between _ _ rest hbetween hrest =>
          obtain ⟨inside, after, rfl, hinside, hafter⟩ := hrest.of_concat
          exact ⟨before, between, inside, after, by simp, hbefore, hbetween,
            hinside, hafter⟩

/-- Trimmed, a generic type begins with its name and ends with its bracket. -/
theorem exists_trim_of_spaced_genericTokens {name : String}
    {arguments : List (List Char)} {text : List Char}
    (hname : isAsciiIdentifier name.toList = true)
    (htext : Spaced (genericTokens name arguments) text) :
    ∃ between inside,
      trim text = name.toList ++ between ++ ('<' :: inside ++ ['>']) ∧
      Blank between ∧ Spaced arguments inside := by
  obtain ⟨before, between, inside, after, rfl, hbefore, hbetween, hinside,
    hafter⟩ := exists_of_spaced_genericTokens htext
  obtain ⟨c, hhead, hc⟩ := (solid_of_isAsciiIdentifier hname).head
  have hsolid : Solid (name.toList ++ between ++ ('<' :: inside ++ ['>'])) := by
    refine ⟨⟨c, ?_, hc⟩, ⟨'>', ?_, by decide⟩⟩
    · rw [List.append_assoc, List.head?_append, hhead, Option.some_or]
    · rw [← List.append_assoc, List.getLast?_concat]
  exact ⟨between, inside, trim_blank_append_blank hbefore hafter hsolid,
    hbetween, hinside⟩

theorem passes_brackets (separator : Char) (depth : Nat) :
    Passes separator depth ['[', ']'] :=
  (passes_nil separator (depth + 1)).bracketed (by decide) (by decide)

theorem passes_of_spaced_genericTokens {separator : Char} (depth : Nat)
    {name : String} {arguments : List (List Char)} {text : List Char}
    (hseparator : separator ∈ marks)
    (hname : isAsciiIdentifier name.toList = true)
    (harguments : ∀ inside, Spaced arguments inside →
      Passes separator (depth + 1) inside)
    (htext : Spaced (genericTokens name arguments) text) :
    Passes separator depth text := by
  obtain ⟨before, between, inside, after, rfl, hbefore, hbetween, hinside,
    hafter⟩ := exists_of_spaced_genericTokens htext
  have hbrackets := (harguments inside hinside).bracketed
    (show isOpener '<' = true by decide) (show isCloser '>' = true by decide)
  have hcore := ((passes_word depth hseparator hname).append
    (passes_blank depth hseparator hbetween)).append hbrackets
  exact ((passes_blank depth hseparator hbefore).append hcore).append
    (passes_blank depth hseparator hafter)

/-- A split passes over what is derived, unless it is a split at the bars of an
expression. -/
theorem Derives.passes (hderives : Derives symbol tokens) {separator : Char}
    (depth : Nat) (hseparator : separator ∈ marks)
    (hbar : symbol = .member ∨ separator ≠ '|' ∨ 0 < depth) {text : List Char}
    (htext : Spaced tokens text) : Passes separator depth text := by
  induction hderives generalizing depth text with
  | plain _ ih => exact ih depth (Or.inr (hbar.resolve_left (by decide))) htext
  | marked _ ih =>
      cases htext with
      | cons hbefore hrest =>
          have hmark := passes_singleton
            (plain_of_not_mem_marks depth hseparator (show '?' ∉ marks by decide))
          exact ((passes_blank depth hseparator hbefore).append hmark).append
            (ih depth (Or.inr (hbar.resolve_left (by decide))) hrest)
  | last _ ih => exact ih depth (Or.inl rfl) htext
  | more _ _ ihFirst ihRest =>
      obtain ⟨s, t, rfl, hs, ht⟩ := htext.of_append_cons
      have hplain : Plain separator depth '|' :=
        ⟨by decide, by decide, by decide,
          (hbar.resolve_left (by decide)).imp_left Ne.symm⟩
      exact ((ihFirst depth (Or.inl rfl) hs).append (passes_singleton hplain)).append
        (ihRest depth hbar ht)
  | literal hquote hchars =>
      exact passes_of_spaced_singleton hseparator (passes_quoted depth hquote hchars)
        htext
  | identifier hword =>
      exact passes_of_spaced_singleton hseparator (passes_word depth hseparator hword)
        htext
  | items _ ih =>
      obtain ⟨s, blanks, rfl, hs, hblanks⟩ := htext.of_concat
      exact ((ih depth hbar hs).append (passes_brackets separator depth)).append
        (passes_blank depth hseparator hblanks)
  | group _ ih =>
      obtain ⟨before, inside, between, after, rfl, hbefore, hinside, hbetween,
        hafter⟩ := exists_of_spaced_group htext
      have hitem : Passes separator (depth + 1) inside :=
        ih (depth + 1) (Or.inr (Or.inr (Nat.succ_pos depth))) hinside
      have hgroup := hitem.bracketed (show isOpener '(' = true by decide)
        (show isCloser ')' = true by decide)
      have hcore := (hgroup.append
        (passes_blank depth hseparator hbetween)).append
        (passes_brackets separator depth)
      exact ((passes_blank depth hseparator hbefore).append hcore).append
        (passes_blank depth hseparator hafter)
  | array _ ih =>
      apply passes_of_spaced_genericTokens depth hseparator (by decide) _ htext
      exact fun inside hinside => ih (depth + 1) (Or.inr (Or.inr (Nat.succ_pos depth))) hinside
  | record _ _ ihKey ihValue =>
      apply passes_of_spaced_genericTokens depth hseparator (by decide) _ htext
      intro inside hinside
      obtain ⟨s, t, rfl, hs, ht⟩ := hinside.of_append_cons
      have hplain : Plain separator (depth + 1) ',' :=
        ⟨by decide, by decide, by decide, Or.inr (Nat.succ_pos depth)⟩
      exact ((ihKey (depth + 1) (Or.inr (Or.inr (Nat.succ_pos depth))) hs).append
        (passes_singleton hplain)).append
        (ihValue (depth + 1) (Or.inr (Or.inr (Nat.succ_pos depth))) ht)

/-- A member is one part of a split at the bars. -/
theorem Derives.splitTopLevel_member (hderives : Derives .member tokens)
    {text : List Char} (htext : Spaced tokens text) :
    splitTopLevel '|' text = [text] :=
  (hderives.passes 0 (by decide) (Or.inl rfl) htext).splitTopLevel_eq

/-- A member with a bar behind it is the first part of a split at the bars. -/
theorem Derives.splitTopLevel_members (hderives : Derives .member tokens)
    {others : List (List Char)} {text : List Char}
    (htext : Spaced (tokens ++ ['|'] :: others) text) :
    ∃ s t, splitTopLevel '|' text = s :: splitTopLevel '|' t ∧ Spaced tokens s ∧
      Spaced others t := by
  obtain ⟨s, t, rfl, hs, ht⟩ := htext.of_append_cons
  refine ⟨s, t, ?_, hs, ht⟩
  have hpasses := hderives.passes 0 (show '|' ∈ marks by decide) (Or.inl rfl) hs
  rw [List.append_assoc, List.singleton_append,
    hpasses.splitTopLevel_append (by decide)]

/-- An expression is one argument. -/
theorem Derives.splitTopLevel_argument (hderives : Derives .expression tokens)
    {text : List Char} (htext : Spaced tokens text) :
    splitTopLevel ',' text = [text] :=
  (hderives.passes 0 (by decide) (Or.inr (Or.inl (by decide)))
    htext).splitTopLevel_eq

/-- Expressions with a comma between them are two arguments. -/
theorem Derives.splitTopLevel_arguments {key value : List (List Char)}
    (hkey : Derives .expression key) (hvalue : Derives .expression value)
    {text : List Char} (htext : Spaced (key ++ [','] :: value) text) :
    ∃ s t, splitTopLevel ',' text = [s, t] ∧ Spaced key s ∧ Spaced value t := by
  obtain ⟨s, t, rfl, hs, ht⟩ := htext.of_append_cons
  refine ⟨s, t, ?_, hs, ht⟩
  have hpasses := hkey.passes 0 (show ',' ∈ marks by decide)
    (Or.inr (Or.inl (by decide))) hs
  rw [List.append_assoc, List.singleton_append,
    hpasses.splitTopLevel_append (by decide), hvalue.splitTopLevel_argument ht]

end IntegrationBuild.TypeExpr
