import Mathlib.Data.List.Find
import IntegrationBuild.Proofs.Script.Encoding
import IntegrationBuild.Proofs.Text.Identifier

/-!
Lines written in pieces.  A piece is a word, a mark, a text in quotes or a
blank.  Where it ends before the character after it, both readings take exactly
its characters and give back its tokens, without a fault.
-/

namespace IntegrationBuild.Script

open Text

/-- Whether every quote and line break in a text comes after a backslash. -/
def escapesMarks : List Char → Bool
  | [] => true
  | '\\' :: _ :: rest => escapesMarks rest
  | c :: rest => c != '"' && c != '\\' && c != '\n' && escapesMarks rest

/-- Whether a text has an escape that gives a character by its name. -/
def namesCharacter : List Char → Bool
  | '\\' :: 'N' :: '\x7b' :: _ => true
  | '\\' :: _ :: rest => namesCharacter rest
  | _ :: rest => namesCharacter rest
  | [] => false

/-- Text that is one literal when it stands between quotes, whatever names characters
have: it gives none by its name. -/
structure IsQuotable (text : List Char) : Prop where
  marks : escapesMarks text = true
  escapes : (unescape? text).isSome = true
  unnamed : namesCharacter text = false
  chars : ∀ c ∈ text, c ≠ '\r' ∧ c ≠ '\x00'

instance : DecidablePred IsQuotable := fun text =>
  decidable_of_iff (escapesMarks text = true ∧ (unescape? text).isSome = true ∧
      namesCharacter text = false ∧ ∀ c ∈ text, c ≠ '\r' ∧ c ≠ '\x00')
    ⟨fun ⟨marks, escapes, unnamed, chars⟩ => ⟨marks, escapes, unnamed, chars⟩,
      fun ⟨marks, escapes, unnamed, chars⟩ => ⟨marks, escapes, unnamed, chars⟩⟩

/-- Text without backslashes gives no character by its name. -/
theorem namesCharacter_of_forall_ne {text : List Char} (htext : ∀ c ∈ text, c ≠ '\\') :
    namesCharacter text = false := by
  induction text with
  | nil => rfl
  | cons first rest ih =>
      obtain ⟨hfirst, hrest⟩ := List.forall_mem_cons.mp htext
      rw [namesCharacter]
      · exact ih hrest
      · intro _ heq _
        exact hfirst heq
      · intro _ _ heq _
        exact hfirst heq

/-- Text without backslashes and quotes is read as it is. -/
theorem isQuotable_of_forall_ne {text : List Char}
    (htext : ∀ c ∈ text, c ≠ '"' ∧ c ≠ '\\' ∧ c ≠ '\n' ∧ c ≠ '\r' ∧ c ≠ '\x00') :
    IsQuotable text := by
  refine ⟨?_, ?_, namesCharacter_of_forall_ne fun c hc => (htext c hc).2.1,
    fun c hc => (htext c hc).2.2.2⟩
  · induction text with
    | nil => rfl
    | cons first rest ih =>
        obtain ⟨⟨hquote, hescape, hline, -⟩, hrest⟩ := List.forall_mem_cons.mp htext
        rw [escapesMarks]
        · simp [hquote, hescape, hline, ih hrest]
        · intro _ _ heq _
          exact hescape heq
  · rw [unescape?, unescapeAfter_of_forall_ne fun c hc => (htext c hc).2.1]
    rfl

/-- A piece of a line. -/
inductive Piece where
  | word (letters : List Char)
  | mark (spelling : List Char) (symbol : Symbol)
  | quoted (body : List Char)
  | blank

namespace Piece

/-- How a piece is written. -/
def letters : Piece → List Char
  | word letters => letters
  | mark spelling _ => spelling
  | quoted body => '"' :: (body ++ ['"'])
  | blank => [' ']

/-- What a word is, where names are written as `fold` says. -/
def wordKind (fold : List Char → List Char) (letters : List Char) : TokenKind :=
  match keywordTable.lookup letters with
  | some reserved => .keyword reserved
  | none => .name (String.ofList (fold letters))

/-- Whether a piece is a blank. -/
def isBlank : Piece → Bool
  | blank => true
  | _ => false

/-- The tokens of a piece. -/
def kinds (fold : List Char → List Char) : Piece → List TokenKind
  | word letters => [wordKind fold letters]
  | mark _ symbol => [.symbol symbol]
  | quoted body => [.quoted .text ((unescape? body).map String.ofList)]
  | blank => []

/-- What closes the brackets that are open after a piece, if it may stand where
the given ones are open. -/
def opened (brackets : List Symbol) : Piece → Option (List Symbol)
  | mark _ symbol =>
    match closingOf? symbol with
    | some closing => some (closing :: brackets)
    | none =>
      if isClosing symbol then
        if brackets.head? = some symbol then some brackets.tail else none
      else some brackets
  | _ => some brackets

/-- The characters that may go on with a mark. -/
def joining : List Char := ['=', '.', '*', '/', '<', '>']

/-- Whether a piece can be written. -/
def Valid : Piece → Prop
  | word letters => isIdentifierChars letters = true
  | mark spelling symbol => (spelling, symbol) ∈ symbolTable
  | quoted body => body ≠ [] ∧ IsQuotable body
  | blank => True

instance : DecidablePred Valid
  | word letters => inferInstanceAs (Decidable (isIdentifierChars letters = true))
  | mark spelling symbol => inferInstanceAs (Decidable ((spelling, symbol) ∈ symbolTable))
  | quoted body => inferInstanceAs (Decidable (body ≠ [] ∧ IsQuotable body))
  | blank => inferInstanceAs (Decidable True)

/-- Whether a piece ends where another begins, or the line ends. -/
def endsAt : Piece → Option Piece → Bool
  | word _, some (word _) => false
  | word _, some (quoted _) => false
  | mark _ _, some (mark spelling _) => spelling.head?.all (!joining.contains ·)
  | _, _ => true

/-- Whether the pieces up to the end of a line end where the next ones begin and
close the brackets that are open, and no others. -/
def fit : List Symbol → List Piece → Bool
  | brackets, [] => brackets.isEmpty
  | brackets, piece :: rest =>
    piece.endsAt rest.head? && ((piece.opened brackets).any fun closings => fit closings rest)

/-- Whether a piece ends before a character. -/
def EndsBefore (c : Char) : Piece → Prop
  | word _ => isIdentifierContinue c = false ∧ c ≠ '"' ∧ c ≠ '\''
  | mark _ _ => c ∉ joining ∧ c.isDigit = false
  | _ => True

/-- The character that some pieces and a line break begin with. -/
def nextChar (pieces : List Piece) : Char :=
  (pieces.flatMap letters).headD '\n'

end Piece

/-! ### What a character begins -/

/-- The characters that begin neither a word, a mark nor a text. -/
def Separates (c : Char) : Prop :=
  (Rune.ofChar c).isBlank = true ∨ c = '\n' ∨ c = '\\' ∨ c = '#'

instance : DecidablePred Separates := fun c =>
  inferInstanceAs (Decidable ((Rune.ofChar c).isBlank = true ∨ c = '\n' ∨ c = '\\' ∨ c = '#'))

/-- What every mark begins with. -/
def BeginsMark (c : Char) : Prop :=
  ¬Separates c ∧ c.isDigit = false ∧ isIdentifierContinue c = false ∧ c ≠ '\'' ∧ c ≠ '"'

instance : DecidablePred BeginsMark := fun c =>
  inferInstanceAs (Decidable (¬Separates c ∧ c.isDigit = false ∧
    isIdentifierContinue c = false ∧ c ≠ '\'' ∧ c ≠ '"'))

theorem exists_first_of_mem_symbolTable {entry : List Char × Symbol}
    (hmem : entry ∈ symbolTable) :
    ∃ first others, entry.1 = first :: others ∧ BeginsMark first ∧
      ∀ second ∈ others.take 1, second.isDigit = false := by
  have hall : ∀ e ∈ symbolTable, e.1 ≠ [] ∧ (∀ d ∈ e.1.take 1, BeginsMark d) ∧
      ∀ d ∈ e.1.tail.take 1, d.isDigit = false := by
    decide +kernel
  obtain ⟨hne, hfirst, hsecond⟩ := hall entry hmem
  obtain ⟨first, others, heq⟩ := List.exists_cons_of_ne_nil hne
  rw [heq] at hfirst hsecond
  exact ⟨first, others, heq, hfirst first (by simp), hsecond⟩

theorem not_separates_of_isIdentifierStart {c : Char} (hc : isIdentifierStart c = true) :
    ¬Separates c := by
  have hne : ∀ d : Char, isIdentifierStart d = false → c ≠ d := fun _ =>
    ne_of_isIdentifierStart hc
  rw [Separates, Rune.isBlank]
  simp [Rune.ofChar, hne ' ' (by decide), hne '\t' (by decide), hne '\r' (by decide),
    hne '\x0b' (by decide), hne '\x0c' (by decide), hne '\ufeff' (by decide +kernel),
    hne '\u2060' (by decide +kernel), hne '\u200b' (by decide +kernel),
    hne '\n' (by decide), hne '\\' (by decide), hne '#' (by decide)]

theorem length_runesOfText (text : List Char) : (runesOfText text).length = text.length :=
  List.length_map _

/-! ### States but for the places -/

/-- What a state of reading tokens comes to, but for the places. -/
structure LexState.Shows (s : LexState) (text : List Char) (brackets : List Symbol)
    (levels : List (Nat × Nat)) (lineStart : Bool) (kinds : List TokenKind) : Prop where
  rest : s.rest = runesOfText text
  frames : s.frames = brackets.map .bracket
  levels : s.levels = levels
  lineStart : s.lineStart = lineStart
  kinds : s.tokens.map Token.kind = kinds
  faults : s.faults = []

section Steps

variable {s : LexState} {front text : List Char} {brackets : List Symbol}
  {levels : List (Nat × Nat)} {lineStart : Bool} {kinds : List TokenKind}

variable (front) in
theorem LexState.Shows.advance (hs : s.Shows (front ++ text) brackets levels lineStart kinds) :
    (s.advance front.length).Shows text brackets levels lineStart kinds :=
  { hs with
    rest := by
      rw [LexState.advance, hs.rest, runesOfText, List.map_append]
      exact List.drop_left' (List.length_map _) }

variable (front) in
theorem LexState.Shows.emit (kind : TokenKind)
    (hs : s.Shows (front ++ text) brackets levels lineStart kinds) :
    (s.emit kind front.length).Shows text brackets levels lineStart (kind :: kinds) :=
  { hs.advance front with
    kinds := by
      rw [LexState.emit, List.map_cons, hs.kinds] }

theorem LexState.Shows.push (hs : s.Shows text brackets levels lineStart kinds)
    (closing : Symbol) :
    (s.push (.bracket closing)).Shows text (closing :: brackets) levels lineStart kinds :=
  { hs with
    frames := by
      rw [LexState.push, hs.frames, List.map_cons] }

theorem LexState.Shows.pop (hs : s.Shows text brackets levels lineStart kinds) :
    s.pop.Shows text brackets.tail levels lineStart kinds :=
  { hs with
    frames := by
      rw [LexState.pop, hs.frames, List.map_tail] }

theorem LexState.Shows.peek (hs : s.Shows text brackets levels lineStart kinds) (i : Nat) :
    s.peek i = text[i]?.getD '\x00' := by
  rw [LexState.peek, hs.rest, runesOfText, List.getElem?_map]
  cases text[i]? <;> rfl

variable {fold : List Char → List Char} {c : Char}

theorem exists_lexToken_blank
    (hs : s.Shows (' ' :: text) brackets levels false kinds) :
    ∃ t, lexToken fold s = some t ∧ t.Shows text brackets levels false kinds := by
  refine ⟨s.advance 1, ?_, hs.advance [' ']⟩
  rw [lexToken, hs.rest]
  rfl

/-- A character that separates nothing begins a text in quotes, a word, a number
or a mark. -/
theorem lexToken_of_not_separates (hs : s.Shows (c :: text) brackets levels false kinds)
    (hc : ¬Separates c) (hdigit : c.isDigit = false)
    (hdot : c = '.' → (text.head?.map Char.isDigit).getD false = false) :
    lexToken fold s =
      if c == '\'' || c == '"' then lexQuoted s []
      else if isIdentifierStart c then lexWord s fold
      else lexSymbol s := by
  simp only [Separates, not_or, Bool.not_eq_true] at hc
  obtain ⟨hblank, hline, hescape, hcomment⟩ := hc
  have hchar : (Rune.ofChar c).char = c := rfl
  have hnumber : (c == '.' && ((runesOfText text).head?.map fun r => r.char.isDigit).getD false) =
      false := by
    by_cases hc : c = '.'
    · rw [hc, beq_self_eq_true, Bool.true_and, runesOfText, List.head?_map,
        Option.map_map]
      exact hdot hc
    · simp [hc]
  rw [lexToken, hs.rest, runesOfText, List.map_cons, ← runesOfText]
  simp [hchar, hblank, hline, hescape, hcomment, hdigit, hnumber]

variable (text) in
theorem takeWhile_runesOfText {letters : List Char} {p : Char → Bool}
    (hletters : ∀ d ∈ letters, p d = true) (hc : p c = false) :
    ((runesOfText (letters ++ c :: text)).takeWhile fun r => p r.char).map Rune.char =
      letters := by
  rw [runesOfText, List.takeWhile_map, List.map_map]
  have hchar : Rune.char ∘ Rune.ofChar = id := rfl
  have htest : (fun r : Rune => p r.char) ∘ Rune.ofChar = p := rfl
  rw [hchar, htest, List.map_id, List.takeWhile_append_of_pos hletters,
    List.takeWhile_cons_of_neg (by simpa using hc), List.append_nil]

/-- A word is read where it ends. -/
theorem exists_lexToken_word {letters : List Char}
    (hs : s.Shows (letters ++ c :: text) brackets levels false kinds)
    (hletters : isIdentifierChars letters = true)
    (hc : (Piece.word letters).EndsBefore c) :
    ∃ t, lexToken fold s = some t ∧
      t.Shows (c :: text) brackets levels false (Piece.wordKind fold letters :: kinds) := by
  obtain ⟨hcontinue, hdouble, hsingle⟩ := hc
  refine ⟨s.emit (Piece.wordKind fold letters) letters.length, ?_, hs.emit letters _⟩
  have hall : ∀ d ∈ letters, isIdentifierContinue d = true := fun d hd =>
    (identifierChar_of_isIdentifierChars hletters d hd).elim
      isIdentifierContinue_of_isIdentifierStart id
  have hword := takeWhile_runesOfText text hall hcontinue
  have hnext : s.peek letters.length = c := by
    rw [hs.peek, List.getElem?_append_right (Nat.le_refl _), Nat.sub_self]
    rfl
  have hread : lexWord s fold = some (s.emit (Piece.wordKind fold letters) letters.length) := by
    rw [lexWord, hs.rest, hword, hnext, Piece.wordKind]
    simp only [beq_eq_false_iff_ne.mpr hdouble, beq_eq_false_iff_ne.mpr hsingle, Bool.or_self,
      Bool.and_false, Bool.false_eq_true, ↓reduceIte]
    cases keywordTable.lookup letters <;> rfl
  cases letters with
  | nil => simp [isIdentifierChars] at hletters
  | cons first others =>
      rw [isIdentifierChars, Bool.and_eq_true] at hletters
      have hstart := hletters.1
      have hdot := ne_of_isIdentifierStart hstart (d := '.') (by decide)
      have hmark := ne_of_isIdentifierStart hstart (d := '\'') (by decide)
      have hdouble := ne_of_isIdentifierStart hstart (d := '"') (by decide)
      rw [lexToken_of_not_separates hs (not_separates_of_isIdentifierStart hstart)
        (isDigit_of_isIdentifierStart hstart) (fun heq => absurd heq hdot)]
      simp only [beq_eq_false_iff_ne.mpr hmark, beq_eq_false_iff_ne.mpr hdouble, hstart,
        Bool.or_self, Bool.false_eq_true, ↓reduceIte]
      exact hread

/-- No mark is a longer one cut short: a mark that some text begins with is the
one it begins with already before a character that goes on with none. -/
theorem isPrefixOf_append_iff {entry spelling rest : List Char}
    (hentry : ∀ d ∈ entry.tail, d ∈ Piece.joining) (hne : spelling ≠ [])
    (hc : c ∉ Piece.joining) :
    entry <+: spelling ++ c :: rest ↔ entry <+: spelling := by
  refine ⟨fun hprefix => ?_, fun hprefix => hprefix.trans (List.prefix_append _ _)⟩
  by_cases hlength : entry.length ≤ spelling.length
  · exact List.prefix_of_prefix_length_le hprefix (List.prefix_append _ _) hlength
  · have hshort : spelling.length < entry.length := by omega
    have hnext : entry[spelling.length] = c := by
      rw [List.IsPrefix.getElem hprefix hshort, List.getElem_append_right (Nat.le_refl _)]
      simp
    have hpos := List.length_pos_iff.mpr hne
    have htail : c ∈ entry.tail := by
      rw [← hnext, List.mem_iff_getElem]
      refine ⟨spelling.length - 1, by rw [List.length_tail]; omega, ?_⟩
      rw [List.getElem_tail]
      congr 1
      omega
    exact absurd (hentry c htail) hc

theorem find?_symbolTable (rest : List Char) {spelling : List Char} {symbol : Symbol}
    (hmem : (spelling, symbol) ∈ symbolTable) (hc : c ∉ Piece.joining) :
    (symbolTable.find? fun entry =>
      entry.1.isPrefixOf ((spelling ++ c :: rest).take 3)) = some (spelling, symbol) := by
  have hfirst : ∀ e ∈ symbolTable,
      (symbolTable.find? fun entry => entry.1.isPrefixOf e.1) = some e := by
    decide +kernel
  have hshape : ∀ e ∈ symbolTable,
      e.1 ≠ [] ∧ e.1.length ≤ 3 ∧ ∀ d ∈ e.1.tail, d ∈ Piece.joining := by
    decide +kernel
  rw [← hfirst (spelling, symbol) hmem]
  refine List.find?_congr fun entry hentry => ?_
  obtain ⟨-, hlength, htail⟩ := hshape entry hentry
  rw [Bool.eq_iff_iff, List.isPrefixOf_iff_prefix, List.isPrefixOf_iff_prefix,
    List.prefix_take_iff, isPrefixOf_append_iff htail (hshape _ hmem).1 hc]
  simp [hlength]

/-- A mark is read where it ends; brackets open and close with it. -/
theorem exists_lexSymbol {spelling : List Char} {symbol : Symbol} {closings : List Symbol}
    (hs : s.Shows (spelling ++ c :: text) brackets levels false kinds)
    (hmem : (spelling, symbol) ∈ symbolTable) (hc : c ∉ Piece.joining)
    (hopened : (Piece.mark spelling symbol).opened brackets = some closings) :
    ∃ t, lexSymbol s = some t ∧
      t.Shows (c :: text) closings levels false (.symbol symbol :: kinds) := by
  have hfind := find?_symbolTable text hmem hc
  have htake : (s.rest.take 3).map Rune.char = (spelling ++ c :: text).take 3 := by
    rw [hs.rest, runesOfText, ← List.map_take, List.map_map]
    exact List.map_id _
  have hnext := hs.emit spelling (.symbol symbol)
  have hframes : ∀ outer, s.frames ≠ .field :: outer := by
    rw [hs.frames]
    cases brackets <;> simp
  have hread : lexSymbol s =
      match closingOf? symbol with
      | some closing => some ((s.emit (.symbol symbol) spelling.length).push (.bracket closing))
      | none =>
        if isClosing symbol then
          if s.frames.head? == some (.bracket symbol) then
            some (s.emit (.symbol symbol) spelling.length).pop
          else none
        else some (s.emit (.symbol symbol) spelling.length) := by
    rw [lexSymbol, htake]
    split
    · next hfield _ => exact absurd hfield (hframes _)
    · next hfield _ => exact absurd hfield (hframes _)
    · rw [hfind]
      rfl
  have hhead : (s.frames.head? == some (.bracket symbol)) =
      decide (brackets.head? = some symbol) := by
    rw [hs.frames, Bool.eq_iff_iff]
    cases brackets <;> simp
  rw [hread]
  rw [Piece.opened] at hopened
  split at hopened
  · next closing hclosing =>
    cases hopened
    exact ⟨_, rfl, hnext.push closing⟩
  · next hclosing =>
    by_cases hcloses : isClosing symbol = true
    · rw [if_pos hcloses] at hopened ⊢
      by_cases hinner : brackets.head? = some symbol
      · rw [if_pos hinner] at hopened
        cases hopened
        rw [hhead, if_pos (decide_eq_true hinner)]
        exact ⟨_, rfl, hnext.pop⟩
      · rw [if_neg hinner] at hopened
        cases hopened
    · rw [if_neg hcloses] at hopened ⊢
      cases hopened
      exact ⟨_, rfl, hnext⟩

theorem exists_lexToken_mark {spelling : List Char} {symbol : Symbol} {closings : List Symbol}
    (hs : s.Shows (spelling ++ c :: text) brackets levels false kinds)
    (hmem : (spelling, symbol) ∈ symbolTable) (hc : (Piece.mark spelling symbol).EndsBefore c)
    (hopened : (Piece.mark spelling symbol).opened brackets = some closings) :
    ∃ t, lexToken fold s = some t ∧
      t.Shows (c :: text) closings levels false (.symbol symbol :: kinds) := by
  obtain ⟨first, others, rfl, ⟨hseparates, hdigit, hcontinue, hsingle, hdouble⟩, hsecond⟩ :=
    exists_first_of_mem_symbolTable hmem
  have hstart : isIdentifierStart first = false := by
    rw [Bool.eq_false_iff]
    intro hstart
    rw [isIdentifierContinue_of_isIdentifierStart hstart] at hcontinue
    cases hcontinue
  rw [lexToken_of_not_separates hs hseparates hdigit]
  · simp only [beq_eq_false_iff_ne.mpr hsingle, beq_eq_false_iff_ne.mpr hdouble, hstart,
      Bool.or_self, Bool.false_eq_true, ↓reduceIte]
    exact exists_lexSymbol hs hmem hc.1 hopened
  · intro _
    cases others with
    | nil => exact hc.2
    | cons second _ => exact hsecond second (by simp)

theorem quotedBody?_of_isQuotable {q : Quote} {body : List Char}
    (hq : q = ⟨'"', false, false⟩) (hmarks : escapesMarks body = true)
    (hchars : ∀ d ∈ body, d ≠ '\r' ∧ d ≠ '\x00') :
    quotedBody? q 0 (runesOfText (body ++ '"' :: text)) = some (runesOfText body) := by
  subst hq
  have hcloses : ∀ {d : Char} (runes : List Rune), d ≠ '"' →
      Quote.closes ⟨'"', false, false⟩ (Rune.ofChar d :: runes) = false := by
    intro d runes hd
    simp [Quote.closes, Quote.size, Rune.ofChar, hd]
  induction body using escapesMarks.induct with
  | case1 => rfl
  | case2 second rest ih =>
      obtain ⟨-, hsecond, hrest⟩ :
          _ ∧ (second ≠ '\r' ∧ second ≠ '\x00') ∧ ∀ d ∈ rest, d ≠ '\r' ∧ d ≠ '\x00' := by
        rwa [List.forall_mem_cons, List.forall_mem_cons] at hchars
      have hlength : escapedLength (runesOfText (second :: rest ++ '"' :: text)) = 1 := by
        simp [escapedLength, runesOfText, Rune.ofChar, hsecond.1]
      rw [escapesMarks] at hmarks
      have hread := ih hmarks hrest
      rw [runesOfText, List.cons_append, List.map_cons, ← runesOfText, quotedBody?,
        hcloses _ (by decide)]
      simp only [Rune.ofChar, beq_self_eq_true, Bool.false_eq_true, ↓reduceIte, hlength]
      rw [List.cons_append, runesOfText, List.map_cons, ← runesOfText, quotedBody?, hread]
      rfl
  | case3 first rest hlone ih =>
      obtain ⟨-, hrest⟩ := List.forall_mem_cons.mp hchars
      rw [escapesMarks.eq_3 _ _ hlone] at hmarks
      simp only [Bool.and_eq_true, bne_iff_ne] at hmarks
      obtain ⟨⟨⟨hquote, hescape⟩, hline⟩, hmarks⟩ := hmarks
      rw [runesOfText, List.cons_append, List.map_cons, ← runesOfText, quotedBody?,
        hcloses _ hquote]
      simp only [Rune.ofChar, beq_eq_false_iff_ne.mpr hescape, beq_eq_false_iff_ne.mpr hline,
        Bool.false_and, Bool.false_eq_true, ↓reduceIte]
      rw [ih hmarks hrest]
      rfl

theorem unifyLineBreaks_of_forall_ne {body : List Char} (hbody : ∀ d ∈ body, d ≠ '\r') :
    unifyLineBreaks body = body := by
  induction body with
  | nil => rfl
  | cons first others ih =>
      obtain ⟨hfirst, hothers⟩ := List.forall_mem_cons.mp hbody
      rw [unifyLineBreaks, ih hothers]
      · rintro rest rfl
        exact absurd rfl hfirst
      · exact fun heq => absurd heq hfirst

theorem allowedInFields_bracket (brackets : List Symbol) (q : Quote) (body : List Rune) :
    allowedInFields (brackets.map .bracket) q body = true := by
  rw [allowedInFields, List.all_map, List.all_eq_true]
  exact fun _ _ => rfl

/-- A text in quotes is read to its closing mark. -/
theorem exists_lexToken_quoted {body : List Char}
    (hs : s.Shows ('"' :: (body ++ ['"']) ++ c :: text) brackets levels false kinds)
    (hbody : (Piece.quoted body).Valid) :
    ∃ t, lexToken fold s = some t ∧
      t.Shows (c :: text) brackets levels false
        (.quoted .text ((unescape? body).map String.ofList) :: kinds) := by
  obtain ⟨hne, hmarks, hescapes, -, hchars⟩ := hbody
  refine ⟨_, ?_, hs.emit _ _⟩
  have hpeek : s.peek 0 = '"' := by
    rw [hs.peek]
    rfl
  have hnext : s.peek 1 ≠ '"' := by
    obtain ⟨first, others, rfl⟩ := List.exists_cons_of_ne_nil hne
    rw [hs.peek]
    rintro rfl
    rw [escapesMarks] at hmarks
    · cases hmarks
    · rintro _ _ heq
      cases heq
  have hread : quotedBody? ⟨'"', false, false⟩ 0 s.rest.tail = some (runesOfText body) := by
    rw [hs.rest, runesOfText, ← List.map_tail, List.cons_append, List.tail_cons,
      List.append_assoc, ← runesOfText]
    exact quotedBody?_of_isQuotable rfl hmarks hchars
  have hstray : ¬∃ r, r ∈ runesOfText body ∧ r.stray = true := by
    simp [runesOfText, Rune.ofChar]
  have htriple : (s.peek 1 == '"') = false := beq_eq_false_iff_ne.mpr hnext
  obtain ⟨value, hvalue⟩ := Option.isSome_iff_exists.mp hescapes
  rw [lexToken_of_not_separates hs (by decide) (by decide) (absurd · (by decide)),
    if_pos (by decide), lexQuoted]
  simp [hpeek, htriple, hread, LexState.faultIf, validMarks, Quote.size, hs.frames, hstray,
    allowedInFields_bracket, textOfRunes_runesOfText,
    unifyLineBreaks_of_forall_ne fun d hd => (hchars d hd).1, hvalue,
    length_runesOfText, Nat.add_comm 1]

theorem letters_ne_nil {piece : Piece} (hvalid : piece.Valid) : piece.letters ≠ [] := by
  cases piece with
  | word letters => exact ne_nil_of_isIdentifierChars hvalid
  | mark spelling symbol =>
      obtain ⟨first, others, rfl, -, -⟩ := exists_first_of_mem_symbolTable hvalid
      exact List.cons_ne_nil _ _
  | quoted body => exact List.cons_ne_nil _ _
  | blank => exact List.cons_ne_nil _ _

/-- A piece holds no line break of another kind, and no character zero. -/
theorem ne_of_mem_letters {piece : Piece} (hvalid : piece.Valid) {c : Char}
    (hc : c ∈ piece.letters) : c ≠ '\r' ∧ c ≠ '\x00' := by
  cases piece with
  | word letters =>
      have hchar := identifierChar_of_isIdentifierChars hvalid c hc
      exact ⟨hchar.ne (by decide) (by decide), hchar.ne (by decide) (by decide)⟩
  | mark spelling symbol =>
      have hall : ∀ entry ∈ symbolTable, ∀ d ∈ entry.1, d ≠ '\r' ∧ d ≠ '\x00' := by
        decide +kernel
      exact hall _ hvalid c hc
  | quoted body =>
      have hall : ∀ d ∈ (Piece.quoted body).letters, d ≠ '\r' ∧ d ≠ '\x00' :=
        List.forall_mem_cons.mpr ⟨by decide, List.forall_mem_append.mpr
          ⟨hvalid.2.chars, List.forall_mem_singleton.mpr (by decide)⟩⟩
      exact hall c hc
  | blank =>
      rw [List.mem_singleton.mp hc]
      decide

variable (fold) in
/-- Each piece is read as its tokens where it ends. -/
theorem exists_lexToken_piece {piece : Piece} {closings : List Symbol}
    (hs : s.Shows (piece.letters ++ c :: text) brackets levels false kinds)
    (hvalid : piece.Valid) (hc : piece.EndsBefore c)
    (hopened : piece.opened brackets = some closings) :
    ∃ t, lexToken fold s = some t ∧
      t.Shows (c :: text) closings levels false ((piece.kinds fold).reverse ++ kinds) := by
  cases piece with
  | word letters =>
      cases hopened
      exact exists_lexToken_word hs hvalid hc
  | mark spelling symbol => exact exists_lexToken_mark hs hvalid hc hopened
  | quoted body =>
      cases hopened
      exact exists_lexToken_quoted hs hvalid
  | blank =>
      cases hopened
      exact exists_lexToken_blank hs

theorem exists_nextChar (pieces : List Piece) (text : List Char) :
    ∃ more, pieces.flatMap Piece.letters ++ '\n' :: text = Piece.nextChar pieces :: more := by
  rw [Piece.nextChar]
  cases pieces.flatMap Piece.letters with
  | nil => exact ⟨text, rfl⟩
  | cons first others => exact ⟨others ++ '\n' :: text, rfl⟩

theorem exists_first {piece : Piece} (hvalid : piece.Valid) (hblank : piece.isBlank = false) :
    ∃ first others, piece.letters = first :: others ∧ ¬Separates first := by
  cases piece with
  | word letters =>
      obtain ⟨first, others, rfl⟩ :=
        List.exists_cons_of_ne_nil (ne_nil_of_isIdentifierChars hvalid)
      rw [Piece.Valid, isIdentifierChars, Bool.and_eq_true] at hvalid
      exact ⟨first, others, rfl, not_separates_of_isIdentifierStart hvalid.1⟩
  | mark spelling symbol =>
      obtain ⟨first, others, rfl, hfirst, -⟩ := exists_first_of_mem_symbolTable hvalid
      exact ⟨first, others, rfl, hfirst.1⟩
  | quoted body => exact ⟨'"', body ++ ['"'], rfl, by decide⟩
  | blank => cases hblank

/-- A piece ends before the character that the next one begins with. -/
theorem endsBefore_nextChar {piece : Piece} {rest : List Piece}
    (hvalid : ∀ other ∈ rest, other.Valid) (hends : piece.endsAt rest.head? = true) :
    piece.EndsBefore (Piece.nextChar rest) := by
  have hline : piece.EndsBefore '\n' := by
    cases piece <;> simp only [Piece.EndsBefore] <;> decide
  have hblank : piece.EndsBefore ' ' := by
    cases piece <;> simp only [Piece.EndsBefore] <;> decide
  cases rest with
  | nil => exact hline
  | cons other more =>
    have hother := hvalid other List.mem_cons_self
    cases other with
    | blank => exact hblank
    | quoted body =>
        change piece.EndsBefore '"'
        cases piece with
        | word _ => cases hends
        | mark _ _ => exact ⟨by decide, by decide⟩
        | _ => trivial
    | mark spelling symbol =>
        obtain ⟨first, others, rfl, ⟨-, hdigit, hcontinue, hsingle, hdouble⟩, -⟩ :=
          exists_first_of_mem_symbolTable hother
        change piece.EndsBefore first
        cases piece with
        | word _ => exact ⟨hcontinue, hdouble, hsingle⟩
        | mark _ _ => exact ⟨by simpa [Piece.endsAt] using hends, hdigit⟩
        | _ => trivial
    | word letters =>
        obtain ⟨first, others, rfl⟩ :=
          List.exists_cons_of_ne_nil (ne_nil_of_isIdentifierChars hother)
        rw [Piece.Valid, isIdentifierChars, Bool.and_eq_true] at hother
        have hjoining : ∀ d ∈ Piece.joining, isIdentifierStart d = false := by
          decide
        change piece.EndsBefore first
        cases piece with
        | word _ => cases hends
        | mark _ _ =>
            exact ⟨fun hmem => ne_of_isIdentifierStart hother.1 (hjoining first hmem) rfl,
              isDigit_of_isIdentifierStart hother.1⟩
        | _ => trivial

end Steps

end IntegrationBuild.Script
