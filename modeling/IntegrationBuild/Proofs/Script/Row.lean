import IntegrationBuild.Proofs.Script.Piece

/-!
Scripts written in rows.  A row is an indentation with pieces after it.  Where
the pieces of every row end before the next ones begin and close the brackets
that they open, both readings give back the tokens of all rows, without a fault.
-/

namespace IntegrationBuild.Script

open Text

/-- The spaces that indent a line. -/
def spaces (indent : Nat) : List Char := List.replicate indent ' '

/-- A line: how far it is indented, and the pieces on it. -/
structure Row where
  indent : Nat
  pieces : List Piece

namespace Row

/-- How a row is written. -/
def letters (row : Row) : List Char :=
  spaces row.indent ++ row.pieces.flatMap Piece.letters ++ ['\n']

/-- The tokens of a row; one without pieces has none. -/
def kinds (fold : List Char → List Char) (row : Row) : List TokenKind :=
  if row.pieces.isEmpty then []
  else .line row.indent :: row.pieces.flatMap (Piece.kinds fold)

/-- The open indentations after a row that begins where the given ones are open,
if it may. -/
def entered (levels : List (Nat × Nat)) (row : Row) : Option (List (Nat × Nat)) :=
  if row.pieces.isEmpty then some levels
  else
    match enterLevel levels row.indent row.indent with
    | (none, inner) => some inner
    | (some _, _) => none

/-- Whether the pieces of a row can be written one after the other. -/
structure Fits (row : Row) : Prop where
  valid : ∀ piece ∈ row.pieces, piece.Valid
  fit : Piece.fit [] row.pieces = true
  starts : row.pieces.head?.all (!·.isBlank) = true

theorem Fits.ne_of_mem_letters {row : Row} (hfits : row.Fits) {c : Char}
    (hc : c ∈ row.letters) : c ≠ '\r' ∧ c ≠ '\x00' := by
  rw [letters, List.mem_append, List.mem_append, List.mem_flatMap] at hc
  rcases hc with (hspace | ⟨piece, hpiece, hc⟩) | hbreak
  · rw [(List.mem_replicate.mp hspace).2]
    decide
  · exact Script.ne_of_mem_letters (hfits.valid piece hpiece) hc
  · rw [List.mem_singleton.mp hbreak]
    decide

end Row

section Lines

variable {s : LexState} {text : List Char} {brackets : List Symbol}
  {levels : List (Nat × Nat)} {kinds : List TokenKind} {fold : List Char → List Char}
  {c : Char}

theorem leadingBlanks_spaces {indent : Nat} (hblank : (Rune.ofChar c).isBlank = false)
    (hescape : c ≠ '\\') :
    leadingBlanks (runesOfText (spaces indent ++ c :: text)) = runesOfText (spaces indent) := by
  induction indent with
  | zero =>
      have hchar : ((Rune.ofChar c).char == '\\') = false := beq_eq_false_iff_ne.mpr hescape
      rw [spaces, List.replicate_zero, List.nil_append, runesOfText, List.map_cons,
        leadingBlanks.eq_def]
      simp only [hblank, hchar, Bool.false_eq_true, ↓reduceIte]
      rfl
  | succ n ih =>
      rw [spaces, List.replicate_succ, List.cons_append, runesOfText, List.map_cons,
        ← runesOfText, leadingBlanks.eq_def]
      exact congrArg (Rune.ofChar ' ' :: ·) ih

theorem measure_spaces (tab : Nat → Nat) (indent : Nat) :
    measure tab (runesOfText (spaces indent)) = indent := by
  have hfold : ∀ width, ((runesOfText (spaces indent)).foldl
      (fun (i : Indentation) r =>
        if r.char == ' ' then { i with width := i.width + 1 }
        else if r.char == '\t' then { i with width := tab i.width }
        else if r.char == '\\' then { i with fixed := i.total }
        else if r.char == '\n' then i
        else { i with width := 0 }) ⟨width, 0⟩) = ⟨width + indent, 0⟩ := by
    induction indent with
    | zero => exact fun _ => rfl
    | succ n ih =>
        intro width
        rw [spaces, List.replicate_succ, runesOfText, List.map_cons, ← runesOfText,
          List.foldl_cons, ← spaces]
        refine (ih (width + 1)).trans ?_
        rw [Nat.add_right_comm, Nat.add_assoc]
  rw [measure, hfold 0, Nat.zero_add]
  rfl

theorem indentWidth_spaces (reading : Reading) (indent : Nat) :
    indentWidth reading (runesOfText (spaces indent)) = indent := by
  have hmem : ∀ r ∈ runesOfText (spaces indent), r.char = ' ' := by
    simp [runesOfText, spaces, Rune.ofChar]
  cases reading with
  | strict => rw [indentWidth, measure_spaces]
  | lenient =>
      rw [indentWidth, List.takeWhile_eq_self_iff.mpr, List.filter_eq_self.mpr, measure_spaces]
      · exact fun r hr => by simp [hmem r hr]
      · exact fun r hr => by simp [hmem r hr]

/-- None of the spaces is a blank that may not indent a line. -/
theorem filter_spaces (indent : Nat) :
    ((runesOfText (spaces indent)).filter fun r =>
      r.isBlank && r.char != ' ' && r.char != '\t' && r.char != '\x0c') = [] := by
  have hmem : ∀ r ∈ runesOfText (spaces indent), r.char = ' ' := by
    simp [runesOfText, spaces, Rune.ofChar]
  rw [List.filter_eq_nil_iff]
  exact fun r hr => by simp [hmem r hr]

/-- The start of a line is read as its indentation. -/
theorem exists_lexLineStart (reading : Reading) {indent : Nat} {inner : List (Nat × Nat)}
    (hs : s.Shows (spaces indent ++ c :: text) brackets levels true kinds)
    (hc : ¬Separates c) (hlevel : enterLevel levels indent indent = (none, inner)) :
    (lexLineStart reading s).Shows (c :: text) brackets inner false (.line indent :: kinds) := by
  simp only [Separates, not_or, Bool.not_eq_true] at hc
  obtain ⟨hblank, hline, hescape, hcomment⟩ := hc
  have hnext := hs.advance (spaces indent)
  have hhead : (s.advance (spaces indent).length).rest.head?.map Rune.char = some c := by
    rw [hnext.rest]
    rfl
  rw [lexLineStart, hs.rest, leadingBlanks_spaces hblank hescape]
  simp only [filter_spaces, List.isEmpty_nil, Bool.not_true, LexState.faultIf,
    Bool.false_eq_true, ↓reduceIte, length_runesOfText, hhead, indentWidth_spaces,
    indentColumns, measure_spaces, hnext.levels, hlevel]
  have hemit := hnext.emit [] (.line indent)
  exact { hemit with levels := rfl, lineStart := rfl }

/-- An empty line is passed over. -/
theorem lexLineStart_empty (reading : Reading) {indent : Nat}
    (hs : s.Shows (spaces indent ++ '\n' :: text) brackets levels true kinds) :
    (lexLineStart reading s).Shows text brackets levels true kinds := by
  have hnext := hs.advance (spaces indent)
  have hhead : (s.advance (spaces indent).length).rest.head?.map Rune.char = some '\n' := by
    rw [hnext.rest]
    rfl
  rw [lexLineStart, hs.rest, leadingBlanks_spaces (by decide) (by decide)]
  simp only [filter_spaces, List.isEmpty_nil, Bool.not_true, LexState.faultIf,
    Bool.false_eq_true, ↓reduceIte, length_runesOfText, hhead]
  exact hnext.advance ['\n']

variable (fold) in
/-- A line break outside of brackets begins a line. -/
theorem exists_lexToken_newline (hs : s.Shows ('\n' :: text) [] levels false kinds) :
    ∃ t, lexToken fold s = some t ∧ t.Shows text [] levels true kinds := by
  refine ⟨{ s.advance 1 with lineStart := true }, ?_,
    { hs.advance ['\n'] with lineStart := rfl }⟩
  have hframes : s.frames.isEmpty = true := by
    rw [hs.frames]
    rfl
  rw [lexToken, hs.rest]
  simp [runesOfText, hframes, Rune.ofChar, Rune.isBlank]

end Lines

/-! ### Runs -/

section Runs

/-- Whether reading on from a state ends in another one: each step takes a
character or begins a line. -/
def Completes (reading : Reading) (fold : List Char → List Char) (s final : LexState) : Prop :=
  ∀ fuel, 2 * s.rest.length + s.lineStart.toNat < fuel →
    lexSteps reading fold fuel s = some final

/-- Whether reading on from a state ends where reading on from another one does. -/
def LeadsTo (reading : Reading) (fold : List Char → List Char) (s t : LexState) : Prop :=
  ∀ final, Completes reading fold t final → Completes reading fold s final

variable {reading : Reading} {fold : List Char → List Char} {s t u : LexState}
  {text : List Char} {brackets : List Symbol} {levels inner : List (Nat × Nat)}
  {lineStart : Bool} {kinds : List TokenKind}

theorem LeadsTo.trans (hst : LeadsTo reading fold s t) (htu : LeadsTo reading fold t u) :
    LeadsTo reading fold s u :=
  fun final hfinal => hst final (htu final hfinal)

theorem leadsTo_of_lexStep (hrest : s.rest ≠ []) (hstep : lexStep reading fold s = some t)
    (hless : 2 * t.rest.length + t.lineStart.toNat < 2 * s.rest.length + s.lineStart.toNat) :
    LeadsTo reading fold s t := by
  intro final hfinal fuel hfuel
  cases fuel with
  | zero => omega
  | succ fuel =>
      rw [lexSteps, List.isEmpty_eq_false_iff.mpr hrest, hstep]
      exact hfinal fuel (by omega)

/-- Where nothing but brackets is open, a step reads a token or begins a line. -/
theorem LexState.Shows.lexStep_eq (hs : s.Shows text brackets levels lineStart kinds) :
    lexStep reading fold s =
      if lineStart then some (lexLineStart reading s) else lexToken fold s := by
  rw [lexStep, hs.frames, hs.lineStart]
  cases brackets <;> rfl

variable (reading fold) in
/-- The pieces of a line are read one after the other up to the line break. -/
theorem exists_leadsTo_pieces {pieces : List Piece}
    (hs : s.Shows (pieces.flatMap Piece.letters ++ '\n' :: text) brackets levels false kinds)
    (hvalid : ∀ piece ∈ pieces, piece.Valid) (hfit : Piece.fit brackets pieces = true) :
    ∃ t, LeadsTo reading fold s t ∧
      t.Shows text [] levels true ((pieces.flatMap (Piece.kinds fold)).reverse ++ kinds) := by
  induction pieces generalizing s brackets kinds with
  | nil =>
      have hbrackets : brackets = [] := List.isEmpty_iff.mp hfit
      subst hbrackets
      obtain ⟨t, hstep, ht⟩ := exists_lexToken_newline fold hs
      refine ⟨t, leadsTo_of_lexStep ?_ (hs.lexStep_eq.trans hstep) ?_, ht⟩
      · simp [hs.rest, runesOfText]
      · simp [hs.rest, ht.rest, hs.lineStart, ht.lineStart, length_runesOfText]
        omega
  | cons piece rest ih =>
      obtain ⟨hpiece, hrest⟩ := List.forall_mem_cons.mp hvalid
      rw [Piece.fit, Bool.and_eq_true, Option.any_eq_true] at hfit
      obtain ⟨hends, closings, hopened, hfit⟩ := hfit
      obtain ⟨more, hmore⟩ := exists_nextChar rest text
      rw [List.flatMap_cons, List.append_assoc, hmore] at hs
      obtain ⟨t, hstep, ht⟩ :=
        exists_lexToken_piece fold hs hpiece (endsBefore_nextChar hrest hends) hopened
      have hne := letters_ne_nil hpiece
      rw [← hmore] at ht
      obtain ⟨u, hrun, hu⟩ := ih ht hrest hfit
      refine ⟨u, (leadsTo_of_lexStep ?_ (hs.lexStep_eq.trans hstep) ?_).trans hrun, ?_⟩
      · simp [hs.rest, runesOfText]
      · have hpos := List.length_pos_iff.mpr hne
        simp only [hs.rest, ht.rest, hs.lineStart, ht.lineStart, length_runesOfText,
          List.length_append, hmore]
        omega
      · rw [List.flatMap_cons, List.reverse_append, List.append_assoc]
        exact hu

variable (reading fold) in
/-- A row is read as its indentation and its pieces, or passed over if it has
none. -/
theorem exists_leadsTo_row {row : Row}
    (hs : s.Shows (row.letters ++ text) [] levels true kinds) (hfits : row.Fits)
    (henter : row.entered levels = some inner) :
    ∃ t, LeadsTo reading fold s t ∧
      t.Shows text [] inner true ((row.kinds fold).reverse ++ kinds) := by
  have hne : s.rest ≠ [] := by
    simp [hs.rest, Row.letters, runesOfText]
  have hstart : lexStep reading fold s = some (lexLineStart reading s) := hs.lexStep_eq
  rw [Row.letters, List.append_assoc, List.append_assoc, List.singleton_append] at hs
  rw [Row.entered] at henter
  rw [Row.kinds]
  cases hpieces : row.pieces with
  | nil =>
      rw [hpieces] at hs henter
      cases henter
      have ht := lexLineStart_empty reading hs
      refine ⟨_, leadsTo_of_lexStep hne hstart ?_, ht⟩
      simp [hs.rest, ht.rest, hs.lineStart, ht.lineStart, length_runesOfText]
      omega
  | cons first rest =>
      have hvalid := hfits.valid
      have hfit := hfits.fit
      have hstarts := hfits.starts
      rw [hpieces] at hs henter hvalid hfit hstarts
      obtain ⟨c, more, hc, hseparates⟩ :=
        exists_first (hvalid first List.mem_cons_self) (by simpa using hstarts)
      have hpiecesEq : (first :: rest).flatMap Piece.letters ++ '\n' :: text =
          c :: (more ++ (rest.flatMap Piece.letters ++ '\n' :: text)) := by
        rw [List.flatMap_cons, hc, List.append_assoc, List.cons_append]
      simp only [List.isEmpty_cons, Bool.false_eq_true, ↓reduceIte] at henter ⊢
      split at henter
      · next hlevel =>
        cases henter
        have hs' := hs
        rw [hpiecesEq] at hs'
        have ht := exists_lexLineStart reading hs' hseparates hlevel
        have hless : 2 * (lexLineStart reading s).rest.length +
            (lexLineStart reading s).lineStart.toNat <
              2 * s.rest.length + s.lineStart.toNat := by
          simp only [hs'.rest, ht.rest, hs'.lineStart, ht.lineStart, length_runesOfText,
            List.length_append, Bool.toNat_true, Bool.toNat_false]
          omega
        rw [← hpiecesEq] at ht
        obtain ⟨u, hrun, hu⟩ := exists_leadsTo_pieces reading fold ht hvalid hfit
        refine ⟨u, (leadsTo_of_lexStep hne hstart hless).trans hrun, ?_⟩
        rw [List.reverse_cons, List.append_assoc]
        exact hu
      · cases henter

variable (reading fold) in
/-- Rows are read one after the other. -/
theorem exists_leadsTo_rows {rows : List Row}
    (hs : s.Shows (rows.flatMap Row.letters ++ text) [] levels true kinds)
    (hfits : ∀ row ∈ rows, row.Fits) (henter : rows.foldlM Row.entered levels = some inner) :
    ∃ t, LeadsTo reading fold s t ∧
      t.Shows text [] inner true ((rows.flatMap (Row.kinds fold)).reverse ++ kinds) := by
  induction rows generalizing s levels kinds with
  | nil =>
      cases henter
      exact ⟨s, fun _ => id, hs⟩
  | cons row rest ih =>
      obtain ⟨hrow, hrest⟩ := List.forall_mem_cons.mp hfits
      rw [List.foldlM_cons] at henter
      obtain ⟨between, hrowEnter, hrestEnter⟩ := Option.bind_eq_some_iff.mp henter
      rw [List.flatMap_cons, List.append_assoc] at hs
      obtain ⟨t, hst, ht⟩ := exists_leadsTo_row reading fold hs hrow hrowEnter
      obtain ⟨u, htu, hu⟩ := ih ht hrest hrestEnter
      refine ⟨u, hst.trans htu, ?_⟩
      rw [List.flatMap_cons, List.reverse_append, List.append_assoc]
      exact hu

variable (reading fold) in
/-- A script written in rows is read as their tokens, without a fault. -/
theorem exists_lex?_rows {rows : List Row} (hfits : ∀ row ∈ rows, row.Fits)
    (henter : (rows.foldlM Row.entered []).isSome = true) :
    ∃ tokens, lex? reading fold (runesOfText (rows.flatMap Row.letters)) = some (tokens, []) ∧
      tokens.map Token.kind = rows.flatMap (Row.kinds fold) ++ [.stop] := by
  obtain ⟨inner, hinner⟩ := Option.isSome_iff_exists.mp henter
  have hs : LexState.Shows { rest := runesOfText (rows.flatMap Row.letters) }
      (rows.flatMap Row.letters ++ []) [] [] true [] :=
    ⟨by rw [List.append_nil], rfl, rfl, rfl, rfl, rfl⟩
  obtain ⟨t, hrun, ht⟩ := exists_leadsTo_rows reading fold hs hfits hinner
  have hend : Completes reading fold t t := by
    intro fuel hfuel
    cases fuel with
    | zero => omega
    | succ fuel =>
        rw [lexSteps, ht.rest, ht.frames]
        rfl
  have hread := hrun t hend (2 * (runesOfText (rows.flatMap Row.letters)).length + 2) (by
    simp only [Bool.toNat_true]
    omega)
  refine ⟨(t.emit .stop 0).tokens.reverse, ?_, ?_⟩
  · rw [lex?, hread, Option.bind_eq_bind, Option.bind_some, ht.faults]
    rfl
  · rw [List.map_reverse, LexState.emit, List.map_cons, LexState.advance, ht.kinds]
    simp

end Runs

end IntegrationBuild.Script
