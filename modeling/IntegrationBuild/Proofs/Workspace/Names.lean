import IntegrationBuild.Proofs.Settings.Output

/-!
Parts as they are read from texts: none is empty and none has a slash in it.
Every path that a build comes to has such parts, links followed, so that its
text shows where they begin and end.
-/

namespace IntegrationBuild

/-- Parts that a text can be cut into at its slashes. -/
def Path.AreNames (parts : List String) : Prop :=
  ∀ part ∈ parts, part ≠ "" ∧ '/' ∉ part.toList

/-- A text without the separator at the end belongs to the last piece. -/
theorem Text.exists_splitOn_append {separator : Char} {suffix : List Char}
    (hsuffix : separator ∉ suffix) (s : List Char) :
    ∃ init last, (s ++ suffix).splitOn separator = init ++ [last ++ suffix] := by
  induction s with
  | nil => exact ⟨[], [], List.splitOn_eq_singleton hsuffix⟩
  | cons c rest ih =>
      obtain ⟨init, last, hrest⟩ := ih
      rw [List.cons_append, List.splitOn_cons_eq_if_modifyHead, hrest]
      by_cases hc : (c == separator) = true
      · rw [if_pos hc]
        exact ⟨[] :: init, last, rfl⟩
      · rw [if_neg hc]
        cases init with
        | nil => exact ⟨[], c :: last, rfl⟩
        | cons first more => exact ⟨(c :: first) :: more, last, rfl⟩

namespace Path

variable {parts others : List String}

theorem AreNames.append (hparts : AreNames parts) (hothers : AreNames others) :
    AreNames (parts ++ others) := by
  intro part hpart
  rcases List.mem_append.mp hpart with hpart | hpart
  · exact hparts part hpart
  · exact hothers part hpart

theorem AreNames.subset (hparts : AreNames parts) (hsubset : others ⊆ parts) : AreNames others :=
  fun part hpart => hparts part (hsubset hpart)

theorem areNames_ofString (text : String) : AreNames (ofString text).parts := by
  intro part hpart
  obtain ⟨hpiece, hkept⟩ := List.mem_filter.mp hpart
  simp only [Bool.and_eq_true, bne_iff_ne] at hkept
  exact ⟨hkept.1, (Text.of_mem_splitOn hpiece).1⟩

theorem AreNames.join {path other : Path} (hpath : AreNames path.parts)
    (hother : AreNames other.parts) : AreNames (path.join other).parts := by
  rw [Path.join]
  split
  · exact hother
  · exact hpath.append hother

/-- The first part of a text is what stands before its first slash. -/
theorem takeWhile_text {first : String} {rest : List String} (hfirst : '/' ∉ first.toList) :
    String.ofList ((text { parts := first :: rest }).toList.takeWhile (· != '/')) = first := by
  have hbefore : ∀ c ∈ first.toList, (c != '/') = true := by
    intro c hc
    rw [bne_iff_ne]
    rintro rfl
    exact hfirst hc
  obtain ⟨tail, htail, hend⟩ : ∃ tail, (text { parts := first :: rest }).toList =
      first.toList ++ tail ∧ tail.takeWhile (· != '/') = [] := by
    rw [text, List.isEmpty_cons]
    cases rest with
    | nil => exact ⟨[], by simp, rfl⟩
    | cons next more =>
        refine ⟨'/' :: ['/'].intercalate ((next :: more).map String.toList), ?_, rfl⟩
        simp [String.toList_intercalate]
  rw [htail, List.takeWhile_append_of_pos hbefore, hend, List.append_nil, String.ofList_toList]

end Path

namespace Workspace

open IntegrationBuild.Path (AreNames)

variable {ws : Workspace}

theorem areNames_realWalk {follow : Location → String → Path → Location × Bool}
    (hfollow : ∀ current part target, AreNames (current ++ [part]) → AreNames target.parts →
      AreNames (follow current part target).1)
    {current : Location} {parts : List String} (hcurrent : AreNames current)
    (hparts : AreNames parts) : AreNames (ws.realWalk follow current parts).1 := by
  induction parts generalizing current with
  | nil => exact hcurrent
  | cons part rest ih =>
      have hrest : AreNames rest := hparts.subset (List.subset_cons_self part rest)
      have hnext : AreNames (current ++ [part]) :=
        hcurrent.append (hparts.subset (by simp))
      rw [realWalk]
      split
      · exact ih (hcurrent.subset (List.dropLast_subset _)) hrest
      · split
        · next target _ =>
          have htarget := hfollow current part (Path.ofString target) hnext
            (Path.areNames_ofString target)
          split
          · next place hplace =>
            rw [hplace] at htarget
            exact ih htarget hrest
          · next place hplace =>
            rw [hplace] at htarget
            exact htarget.append hrest
        · exact ih hnext hrest

theorem areNames_realFrom (depth : Nat) (underWay : List Location) {current : Location}
    {parts : List String} (hcurrent : AreNames current) (hparts : AreNames parts) :
    AreNames (ws.realFrom depth underWay current parts).1 := by
  induction depth generalizing underWay current parts with
  | zero => exact areNames_realWalk (fun _ _ _ hplace _ => hplace) hcurrent hparts
  | succ depth ih =>
      refine areNames_realWalk (fun current part target hplace htarget => ?_) hcurrent hparts
      dsimp only
      split
      · exact hplace
      · refine ih _ ?_ htarget
        rw [linkStart]
        split
        · exact fun _ hpart => absurd hpart List.not_mem_nil
        · exact hplace.subset (List.subset_append_left _ _)

/-- What a path resolves to has parts as they are read from texts. -/
theorem areNames_resolve {cwd path : Path} (hcwd : AreNames cwd.parts)
    (hpath : AreNames path.parts) : AreNames (ws.resolve cwd path).parts := by
  have hfound : AreNames (ws.realFrom (ws.entries.length + 1) [] [] (cwd.join path).parts).1 :=
    areNames_realFrom _ [] (fun _ hpart => absurd hpart List.not_mem_nil) (hcwd.join hpath)
  exact hfound.subset fun part hpart => (Path.mem_of_mem_normalParts hpart).1

end Workspace

end IntegrationBuild
