import IntegrationBuild.TypeExpr.Split

/-!
Texts that a split passes over.  Blanks, words, quoted texts and bracketed
texts hold no separator that counts, so they end up whole in one part.  Whatever
the text, its parts joined with the separator are the text again.
-/

namespace IntegrationBuild.TypeExpr

/-- Puts a text in front of the first part. -/
def extend (text : List Char) : List (List Char) → List (List Char)
  | [] => [text]
  | part :: parts => (text ++ part) :: parts

theorem extend_append (s t : List Char) (parts : List (List Char)) :
    extend (s ++ t) parts = extend s (extend t parts) := by
  cases parts <;> simp [extend]

/-- A split at this separator and depth passes over the text: no part ends in
it, and the scan goes on behind it as it stood before. -/
def Passes (separator : Char) (depth : Nat) (text : List Char) : Prop :=
  ∀ rest, splitFrom separator ⟨none, depth⟩ (text ++ rest) =
    extend text (splitFrom separator ⟨none, depth⟩ rest)

theorem splitFrom_cons {separator : Char} {state : ScanState} {c : Char}
    (hc : state.separates separator c = false) (rest : List Char) :
    splitFrom separator state (c :: rest) =
      extend [c] (splitFrom separator (state.step c) rest) := by
  rw [splitFrom, hc]
  rfl

theorem passes_nil (separator : Char) (depth : Nat) :
    Passes separator depth [] := by
  intro rest
  rw [List.nil_append]
  cases hsplit : splitFrom separator ⟨none, depth⟩ rest with
  | nil => exact absurd hsplit (splitFrom_ne_nil _ _ _)
  | cons part parts => rfl

theorem Passes.append {separator : Char} {depth : Nat} {s t : List Char}
    (hs : Passes separator depth s) (ht : Passes separator depth t) :
    Passes separator depth (s ++ t) := by
  intro rest
  rw [List.append_assoc, hs, ht, extend_append]

/-- A character without a meaning of its own, which does not separate here. -/
structure Plain (separator : Char) (depth : Nat) (c : Char) : Prop where
  quote : isQuote c = false
  opener : isOpener c = false
  closer : isCloser c = false
  separator : c ≠ separator ∨ 0 < depth

theorem passes_singleton {separator : Char} {depth : Nat} {c : Char}
    (hc : Plain separator depth c) : Passes separator depth [c] := by
  intro rest
  have hseparates :
      ScanState.separates ⟨none, depth⟩ separator c = false := by
    rcases hc.separator with hne | hdepth
    · simp [ScanState.separates, hne]
    · simp [ScanState.separates, ScanState.atTop, Nat.ne_of_gt hdepth]
  have hstep : ScanState.step ⟨none, depth⟩ c = ⟨none, depth⟩ := by
    simp [ScanState.step, hc.quote, hc.opener, hc.closer]
  rw [List.singleton_append, splitFrom_cons hseparates, hstep]

theorem passes_of_plain {separator : Char} {depth : Nat} {text : List Char}
    (htext : ∀ c ∈ text, Plain separator depth c) :
    Passes separator depth text := by
  induction text with
  | nil => exact passes_nil separator depth
  | cons c rest ih =>
      have hrest := ih fun d hd => htext d (List.mem_cons_of_mem c hd)
      exact (passes_singleton (htext c List.mem_cons_self)).append hrest

/-- Inside quotes a scan passes over everything up to the closing quote. -/
theorem splitFrom_quoted {separator quote : Char} {depth : Nat}
    {text : List Char} (htext : quote ∉ text) (rest : List Char) :
    splitFrom separator ⟨some quote, depth⟩ (text ++ quote :: rest) =
      extend (text ++ [quote]) (splitFrom separator ⟨none, depth⟩ rest) := by
  have hseparates : ∀ c,
      ScanState.separates ⟨some quote, depth⟩ separator c = false := by
    intro c
    simp [ScanState.separates, ScanState.atTop]
  induction text with
  | nil =>
      have hstep : ScanState.step ⟨some quote, depth⟩ quote = ⟨none, depth⟩ := by
        simp [ScanState.step]
      rw [List.nil_append, splitFrom_cons (hseparates quote), hstep,
        List.nil_append]
  | cons c others ih =>
      have hne : c ≠ quote := fun heq =>
        htext (heq ▸ List.mem_cons_self)
      have hstep : ScanState.step ⟨some quote, depth⟩ c =
          ⟨some quote, depth⟩ := by
        simp [ScanState.step, hne]
      rw [List.cons_append, splitFrom_cons (hseparates c), hstep,
        ih fun hmem => htext (List.mem_cons_of_mem c hmem), ← extend_append]
      rfl

theorem passes_quoted {separator quote : Char} (depth : Nat) {text : List Char}
    (hquote : isQuote quote = true) (htext : quote ∉ text) :
    Passes separator depth (quote :: text ++ [quote]) := by
  intro rest
  have hseparates :
      ScanState.separates ⟨none, depth⟩ separator quote = false := by
    simp [ScanState.separates, hquote]
  have hstep : ScanState.step ⟨none, depth⟩ quote = ⟨some quote, depth⟩ := by
    simp [ScanState.step, hquote]
  have hquoted := @splitFrom_quoted separator quote depth text htext rest
  rw [List.append_assoc, List.cons_append, splitFrom_cons hseparates, hstep,
    List.singleton_append, hquoted, ← extend_append]
  rfl

theorem not_isQuote_of_isOpener {c : Char} (hc : isOpener c = true) :
    isQuote c = false := by
  simp only [isOpener, Bool.or_eq_true, beq_iff_eq] at hc
  rcases hc with (rfl | rfl) | rfl <;> decide

theorem not_isQuote_of_isCloser {c : Char} (hc : isCloser c = true) :
    isQuote c = false ∧ isOpener c = false := by
  simp only [isCloser, Bool.or_eq_true, beq_iff_eq] at hc
  rcases hc with (rfl | rfl) | rfl <;> decide

/-- What is passed over one level deeper is passed over in brackets. -/
theorem Passes.bracketed {separator opener closer : Char} {depth : Nat}
    {text : List Char} (hopener : isOpener opener = true)
    (hcloser : isCloser closer = true)
    (htext : Passes separator (depth + 1) text) :
    Passes separator depth (opener :: text ++ [closer]) := by
  intro rest
  obtain ⟨hquote, hopen⟩ := not_isQuote_of_isCloser hcloser
  have hseparatesOpener :
      ScanState.separates ⟨none, depth⟩ separator opener = false := by
    simp [ScanState.separates, hopener]
  have hseparatesCloser :
      ScanState.separates ⟨none, depth + 1⟩ separator closer = false := by
    simp [ScanState.separates, hcloser]
  have hstepOpener : ScanState.step ⟨none, depth⟩ opener =
      ⟨none, depth + 1⟩ := by
    simp [ScanState.step, not_isQuote_of_isOpener hopener, hopener]
  have hstepCloser : ScanState.step ⟨none, depth + 1⟩ closer =
      ⟨none, depth⟩ := by
    simp [ScanState.step, hquote, hopen, hcloser]
  rw [List.append_assoc, List.cons_append, splitFrom_cons hseparatesOpener,
    hstepOpener, htext, List.singleton_append, splitFrom_cons hseparatesCloser,
    hstepCloser, ← extend_append, ← extend_append]
  rfl

/-- A text that is passed over is one part. -/
theorem Passes.splitTopLevel_eq {separator : Char} {text : List Char}
    (htext : Passes separator 0 text) :
    splitTopLevel separator text = [text] := by
  have hsplit := htext []
  rw [List.append_nil] at hsplit
  rw [splitTopLevel, hsplit]
  simp [splitFrom, extend]

/-- A separator behind a text that is passed over ends the part. -/
theorem Passes.splitTopLevel_append {separator : Char} {text : List Char}
    (hseparator : isQuote separator = false ∧ isOpener separator = false ∧
      isCloser separator = false)
    (htext : Passes separator 0 text) (rest : List Char) :
    splitTopLevel separator (text ++ separator :: rest) =
      text :: splitTopLevel separator rest := by
  have hseparates :
      ScanState.separates ⟨none, 0⟩ separator separator = true := by
    simp [ScanState.separates, ScanState.atTop, hseparator]
  rw [splitTopLevel, htext, splitFrom, hseparates]
  simp [extend, splitTopLevel]

theorem extend_eq_singleton_iff {text part : List Char} {parts : List (List Char)}
    (hparts : parts ≠ []) :
    extend text parts = [text ++ part] ↔ parts = [part] := by
  cases parts with
  | nil => exact absurd rfl hparts
  | cons first rest => simp [extend]

/-- Joined with the separator, the parts of a text are the text. -/
theorem intercalate_splitFrom (separator : Char) (state : ScanState)
    (text : List Char) :
    [separator].intercalate (splitFrom separator state text) = text := by
  induction text generalizing state with
  | nil => rfl
  | cons c rest ih =>
      obtain ⟨part, parts, hsplit⟩ := List.exists_cons_of_ne_nil
        (splitFrom_ne_nil separator (state.step c) rest)
      cases hc : state.separates separator c with
      | true =>
          obtain rfl : c = separator := by
            simp only [ScanState.separates, Bool.and_eq_true, beq_iff_eq] at hc
            exact hc.1.1.1.2
          rw [splitFrom, if_pos hc, List.intercalate_cons_of_ne_nil
            (splitFrom_ne_nil _ _ _), ih]
          rfl
      | false =>
          have hrest := ih (state.step c)
          rw [splitFrom_cons hc]
          rw [hsplit] at hrest ⊢
          cases parts with
          | nil => simpa [extend] using hrest
          | cons second others =>
              simp only [extend, List.intercalate_cons_cons] at hrest ⊢
              rw [← hrest]
              simp

/-- A text is one part when nothing in it separates. -/
theorem splitFrom_append_eq_singleton_iff {separator : Char} {state : ScanState}
    {s t : List Char} :
    splitFrom separator state (s ++ t) = [s ++ t] ↔
      splitFrom separator state s = [s] ∧
        splitFrom separator (s.foldl ScanState.step state) t = [t] := by
  induction s generalizing state with
  | nil => simp [splitFrom]
  | cons c rest ih =>
      cases hc : state.separates separator c with
      | true => simp [splitFrom, hc]
      | false =>
          have hcons : ∀ text, splitFrom separator state (c :: text) = [c :: text] ↔
              splitFrom separator (state.step c) text = [text] := by
            intro text
            rw [splitFrom_cons hc]
            exact extend_eq_singleton_iff (splitFrom_ne_nil _ _ _)
          rw [List.cons_append, hcons, hcons, ih, List.foldl_cons]

theorem splitFrom_of_not_mem {separator : Char} (state : ScanState)
    {text : List Char} (htext : separator ∉ text) :
    splitFrom separator state text = [text] := by
  induction text generalizing state with
  | nil => rfl
  | cons c rest ih =>
      rw [List.mem_cons, not_or] at htext
      have hc : state.separates separator c = false := by
        simp [ScanState.separates, Ne.symm htext.1]
      rw [splitFrom_cons hc, ih _ htext.2]
      rfl

end IntegrationBuild.TypeExpr
