/-!
Splitting at a character.
-/

namespace IntegrationBuild.Text

/-- The pieces of a text between the separators; an empty text is one piece. -/
def splitOn (separator : Char) (s : String) : List String :=
  (s.toList.splitOn separator).map String.ofList

/-- A text without separators is one piece. -/
theorem splitOn_of_not_mem {separator : Char} {s : String}
    (hs : separator ∉ s.toList) : splitOn separator s = [s] := by
  simp [splitOn, List.splitOn_eq_singleton hs]

/-- A piece has no separator in it, and only characters of the whole. -/
theorem of_mem_list_splitOn {separator : Char} {s piece : List Char}
    (hpiece : piece ∈ s.splitOn separator) : separator ∉ piece ∧ piece ⊆ s := by
  induction s generalizing piece with
  | nil =>
      obtain rfl : piece = [] := by simpa using hpiece
      simp
  | cons c rest ih =>
      have hcons : ∀ other ∈ rest.splitOn separator,
          separator ∉ other ∧ other ⊆ c :: rest := by
        intro other hother
        obtain ⟨hseparator, hsubset⟩ := ih hother
        exact ⟨hseparator, List.subset_cons_of_subset c hsubset⟩
      rw [List.splitOn_cons_eq_if_modifyHead] at hpiece
      split at hpiece
      · rcases List.mem_cons.mp hpiece with rfl | hrest
        · simp
        · exact hcons piece hrest
      · next hne =>
        cases hsplit : rest.splitOn separator with
        | nil => simp [hsplit] at hpiece
        | cons first others =>
            rw [hsplit, List.modifyHead_cons] at hpiece
            rcases List.mem_cons.mp hpiece with rfl | hothers
            · obtain ⟨hseparator, hsubset⟩ := hcons first (by simp [hsplit])
              refine ⟨?_, List.cons_subset.mpr ⟨List.mem_cons_self, hsubset⟩⟩
              rw [List.mem_cons, not_or]
              exact ⟨fun heq => hne (by simp [heq]), hseparator⟩
            · exact hcons piece (by simp [hsplit, hothers])

theorem of_mem_splitOn {separator : Char} {s piece : String}
    (hpiece : piece ∈ splitOn separator s) :
    separator ∉ piece.toList ∧ piece.toList ⊆ s.toList := by
  obtain ⟨chars, hchars, rfl⟩ := List.mem_map.mp hpiece
  rw [String.toList_ofList]
  exact of_mem_list_splitOn hchars

end IntegrationBuild.Text
