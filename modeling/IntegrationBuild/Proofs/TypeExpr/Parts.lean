import IntegrationBuild.Proofs.TypeExpr.Scan

/-!
The parts of a split.  A scan that goes on behind a text only glues the parts of
what follows to those of the text, so a split is cut in two at every separator
that counts, and nothing in a part of its own separates again.
-/

namespace IntegrationBuild.TypeExpr

variable {separator : Char} {state : ScanState}

/-- Where a scan stands behind a text. -/
def scanned (text : List Char) : ScanState :=
  text.foldl ScanState.step {}

/-- Parts in front of others, the last of them continued by the first of the
others. -/
def glue : List (List Char) → List (List Char) → List (List Char)
  | [], more => more
  | [part], more => extend part more
  | part :: next :: rest, more => part :: glue (next :: rest) more

theorem glue_cons {part : List Char} {parts : List (List Char)} (hparts : parts ≠ [])
    (more : List (List Char)) : glue (part :: parts) more = part :: glue parts more := by
  cases parts with
  | nil => exact absurd rfl hparts
  | cons next rest => rfl

theorem extend_glue (text : List Char) {parts : List (List Char)} (hparts : parts ≠ [])
    (more : List (List Char)) :
    extend text (glue parts more) = glue (extend text parts) more := by
  match parts, hparts with
  | [part], _ => exact (extend_append text part more).symm
  | part :: next :: rest, _ => rfl

theorem glue_nil_cons {parts : List (List Char)} (hparts : parts ≠ [])
    (more : List (List Char)) : glue parts ([] :: more) = parts ++ more := by
  induction parts with
  | nil => exact absurd rfl hparts
  | cons part rest ih =>
      cases rest with
      | nil => simp [glue, extend]
      | cons next others =>
          rw [glue_cons (List.cons_ne_nil _ _), ih (List.cons_ne_nil _ _)]
          rfl

/-- Glued to a part that is not empty, the last part is not the same any more. -/
theorem glue_cons_cons_ne_append {parts : List (List Char)} (hparts : parts ≠ [])
    (c : Char) (part : List Char) (more others : List (List Char)) :
    glue parts ((c :: part) :: more) ≠ parts ++ others := by
  induction parts with
  | nil => exact absurd rfl hparts
  | cons first rest ih =>
      cases rest with
      | nil => simp [glue, extend]
      | cons next tail =>
          rw [glue_cons (List.cons_ne_nil _ _), List.cons_append]
          exact fun hsame => ih (List.cons_ne_nil _ _) (List.cons.inj hsame).2

namespace ScanState

theorem eq_of_atTop (htop : state.atTop = true) : state = {} := by
  obtain ⟨quote, depth⟩ := state
  simp only [atTop, Bool.and_eq_true, Option.isNone_iff_eq_none, beq_iff_eq] at htop
  rw [htop.1, htop.2]

theorem atTop_of_separates {c : Char} (hc : state.separates separator c = true) :
    state.atTop = true := by
  simp only [separates, Bool.and_eq_true] at hc
  exact hc.1.1.1.1

/-- A separator that counts leaves the scan where it stands. -/
theorem step_of_separates {c : Char} (hc : state.separates separator c = true) :
    state.step c = state := by
  obtain rfl := eq_of_atTop (atTop_of_separates hc)
  simp only [separates, Bool.and_eq_true, Bool.not_eq_true'] at hc
  simp [step, hc.1.1.2, hc.1.2, hc.2]

/-- A separator that is neither a quote nor a bracket counts exactly at the top. -/
theorem separates_self (hquote : isQuote separator = false)
    (hopener : isOpener separator = false) (hcloser : isCloser separator = false) :
    state.separates separator separator = state.atTop := by
  simp [separates, hquote, hopener, hcloser]

end ScanState

/-- The parts of a text and of what follows it are glued together. -/
theorem splitFrom_append (text rest : List Char) :
    splitFrom separator state (text ++ rest) =
      glue (splitFrom separator state text)
        (splitFrom separator (text.foldl ScanState.step state) rest) := by
  induction text generalizing state with
  | nil =>
      obtain ⟨part, parts, hsplit⟩ := List.exists_cons_of_ne_nil
        (splitFrom_ne_nil separator state rest)
      simp [splitFrom, glue, extend, hsplit]
  | cons c text ih =>
      rw [List.cons_append, List.foldl_cons]
      cases hc : state.separates separator c with
      | true =>
          rw [splitFrom, splitFrom, if_pos hc, if_pos hc, ih,
            ScanState.step_of_separates hc, glue_cons (splitFrom_ne_nil _ _ _)]
      | false =>
          rw [splitFrom_cons hc, splitFrom_cons hc, ih,
            extend_glue _ (splitFrom_ne_nil _ _ _)]

/-- The first part separates no more from where the scan began, and every other
part separates no more from the top. -/
theorem splitFrom_parts {part : List Char} {parts : List (List Char)} {text : List Char}
    (hsplit : splitFrom separator state text = part :: parts) :
    splitFrom separator state part = [part] ∧
      ∀ other ∈ parts, splitTopLevel separator other = [other] := by
  induction text generalizing state part parts with
  | nil =>
      obtain ⟨rfl, rfl⟩ := List.cons.inj hsplit
      exact ⟨rfl, List.forall_mem_nil _⟩
  | cons c rest ih =>
      cases hc : state.separates separator c with
      | true =>
          obtain rfl := ScanState.eq_of_atTop (ScanState.atTop_of_separates hc)
          rw [splitFrom, if_pos hc] at hsplit
          obtain ⟨rfl, rfl⟩ := List.cons.inj hsplit
          obtain ⟨first, others, hrest⟩ := List.exists_cons_of_ne_nil
            (splitFrom_ne_nil separator {} rest)
          rw [hrest]
          exact ⟨rfl, List.forall_mem_cons.mpr (ih hrest)⟩
      | false =>
          obtain ⟨first, others, hrest⟩ := List.exists_cons_of_ne_nil
            (splitFrom_ne_nil separator (state.step c) rest)
          obtain ⟨hfirst, hothers⟩ := ih hrest
          rw [splitFrom_cons hc, hrest] at hsplit
          obtain ⟨rfl, rfl⟩ := List.cons.inj hsplit
          refine ⟨?_, hothers⟩
          rw [List.singleton_append, splitFrom_cons hc, hfirst]
          rfl

theorem splitTopLevel_of_mem_splitTopLevel {part text : List Char}
    (hpart : part ∈ splitTopLevel separator text) :
    splitTopLevel separator part = [part] := by
  obtain ⟨first, others, hsplit⟩ := List.exists_cons_of_ne_nil
    (splitFrom_ne_nil separator {} text)
  obtain ⟨hfirst, hothers⟩ := splitFrom_parts hsplit
  rw [splitTopLevel, hsplit, List.mem_cons] at hpart
  rcases hpart with rfl | hother
  · exact hfirst
  · exact hothers part hother

/-- The parts on both sides of a separator are the parts of the whole exactly
if the scan of the left side ends outside quotes and brackets. -/
theorem splitTopLevel_append_cons_iff (hquote : isQuote separator = false)
    (hopener : isOpener separator = false) (hcloser : isCloser separator = false)
    (before after : List Char) :
    splitTopLevel separator (before ++ separator :: after) =
        splitTopLevel separator before ++ splitTopLevel separator after ↔
      (scanned before).atTop = true := by
  have hparts : splitTopLevel separator before ≠ [] := splitFrom_ne_nil _ _ _
  have hself : (scanned before).separates separator separator = (scanned before).atTop :=
    ScanState.separates_self hquote hopener hcloser
  have hwhole : splitTopLevel separator (before ++ separator :: after) =
      glue (splitTopLevel separator before)
        (splitFrom separator (scanned before) (separator :: after)) :=
    splitFrom_append before (separator :: after)
  rw [hwhole]
  cases htop : (scanned before).atTop with
  | true =>
      rw [splitFrom, if_pos (hself.trans htop), glue_nil_cons hparts,
        ScanState.eq_of_atTop htop]
      exact iff_of_true rfl rfl
  | false =>
      obtain ⟨part, parts, hsplit⟩ := List.exists_cons_of_ne_nil
        (splitFrom_ne_nil separator ((scanned before).step separator) after)
      rw [splitFrom_cons (hself.trans htop), hsplit]
      exact iff_of_false (glue_cons_cons_ne_append hparts _ _ _ _) (by simp)

/-- A split loses nothing but the separators, its parts are not split again, and
it is cut in two at a separator exactly if that stands outside quotes and
brackets. -/
theorem splitTopLevel_join_and_again_and_cut (separator : Char) :
    (∀ text, [separator].intercalate (splitTopLevel separator text) = text) ∧
      (∀ text, ∀ part ∈ splitTopLevel separator text,
        splitTopLevel separator part = [part]) ∧
      ∀ before after, isQuote separator = false → isOpener separator = false →
        isCloser separator = false →
        (splitTopLevel separator (before ++ separator :: after) =
            splitTopLevel separator before ++ splitTopLevel separator after ↔
          (scanned before).atTop = true) := by
  refine ⟨fun text => ?_, fun text part hpart => ?_, ?_⟩
  · exact intercalate_splitFrom separator {} text
  · exact splitTopLevel_of_mem_splitTopLevel hpart
  · intro before after hquote hopener hcloser
    exact splitTopLevel_append_cons_iff hquote hopener hcloser before after

/-- A bar behind a closed bracket cuts the text in two, one inside quotes that
are never closed does not. -/
theorem splitTopLevel_join_and_again_and_cut_bar :
    isQuote '|' = false ∧ isOpener '|' = false ∧ isCloser '|' = false ∧
      (scanned "a | (b|c)>".toList).atTop = true ∧
      (scanned "a | 'b".toList).atTop = false ∧
      splitTopLevel '|' "a | (b|c)>|d".toList =
        splitTopLevel '|' "a | (b|c)>".toList ++ splitTopLevel '|' "d".toList ∧
      splitTopLevel '|' "a | 'b|d".toList ≠
        splitTopLevel '|' "a | 'b".toList ++ splitTopLevel '|' "d".toList := by
  obtain ⟨-, -, hcut⟩ := splitTopLevel_join_and_again_and_cut '|'
  have hclosed : (scanned "a | (b|c)>".toList).atTop = true := by decide
  have hopen : (scanned "a | 'b".toList).atTop = false := by decide
  refine ⟨rfl, rfl, rfl, hclosed, hopen, ?_, ?_⟩
  · exact (hcut "a | (b|c)>".toList "d".toList rfl rfl rfl).mpr hclosed
  · intro hsame
    have htop := (hcut "a | 'b".toList "d".toList rfl rfl rfl).mp hsame
    rw [hopen] at htop
    cases htop

end IntegrationBuild.TypeExpr
