import IntegrationBuild.Proofs.Text.Identifier
import IntegrationBuild.Proofs.Text.Quoted

/-!
Texts on one line.  A text made of such lines is split into these lines again.
-/

namespace IntegrationBuild.Text

/-- A text without a line break. -/
def OneLine (s : String) : Prop :=
  '\n' ∉ s.toList

instance : DecidablePred OneLine := fun s =>
  inferInstanceAs (Decidable ('\n' ∉ s.toList))

theorem OneLine.append {s t : String} (hs : OneLine s) (ht : OneLine t) :
    OneLine (s ++ t) := by
  rw [OneLine, String.toList_append, List.mem_append, not_or]
  exact ⟨hs, ht⟩

theorem oneLine_intercalate {separator : String} {parts : List String}
    (hseparator : OneLine separator) (hparts : ∀ part ∈ parts, OneLine part) :
    OneLine (separator.intercalate parts) := by
  induction parts with
  | nil => simp [OneLine]
  | cons first rest ih =>
      have hfirst := hparts first List.mem_cons_self
      have hrest := ih fun part hpart =>
        hparts part (List.mem_cons_of_mem first hpart)
      cases rest with
      | nil => simpa using hfirst
      | cons second others =>
          rw [String.intercalate_cons_cons]
          exact (hfirst.append hseparator).append hrest

theorem oneLine_quoted (s : String) : OneLine (quoted s) := by
  rw [OneLine, quoted, String.toList_ofList]
  exact newline_not_mem_quotedChars s.toList

theorem oneLine_of_isIdentifier {name : String}
    (hname : isIdentifier name = true) : OneLine name := by
  intro hmem
  exact (identifierChar_of_isIdentifierChars hname _ hmem).ne (by decide)
    (by decide) rfl

theorem intercalate_append {separator : String} {before after : List String}
    (hbefore : before ≠ []) (hafter : after ≠ []) :
    separator.intercalate (before ++ after) =
      separator.intercalate before ++ separator ++
        separator.intercalate after := by
  induction before with
  | nil => exact absurd rfl hbefore
  | cons first rest ih =>
      cases rest with
      | nil =>
          obtain ⟨second, others, rfl⟩ := List.exists_cons_of_ne_nil hafter
          simp [String.intercalate_cons_cons]
      | cons second others =>
          have hrest := ih (by simp)
          rw [List.cons_append] at hrest
          rw [List.cons_append, List.cons_append, String.intercalate_cons_cons,
            String.intercalate_cons_cons, hrest]
          simp only [String.append_assoc]

/-- The lines of a text that is put together from lines. -/
theorem splitOn_lines {lines : List String} (hne : lines ≠ [])
    (hlines : ∀ line ∈ lines, OneLine line) :
    (("\n".intercalate lines).toList).splitOn '\n' = lines.map String.toList := by
  have hmap : ∀ line ∈ lines.map String.toList, '\n' ∉ line := by
    intro line hline
    obtain ⟨text, htext, rfl⟩ := List.mem_map.mp hline
    exact hlines text htext
  rw [String.toList_intercalate]
  exact List.splitOn_intercalate '\n' hmap (by simpa using hne)

end IntegrationBuild.Text
