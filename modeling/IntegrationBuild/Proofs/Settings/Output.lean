import IntegrationBuild.Layout.Script
import IntegrationBuild.Proofs.Outcome
import IntegrationBuild.Proofs.Workspace.Tree
import IntegrationBuild.Settings.Load

/-!
Where the output directory and the models module of a project lie.  Without
links the output directory is found by its text alone; it lies strictly below
the root, and it is the same whatever else is in the file system.
-/

namespace IntegrationBuild

namespace Path

/-- What is left without `..` are parts that were there. -/
theorem mem_of_mem_normalParts {parts : List String} {part : String}
    (hpart : part ∈ normalParts parts) : part ∈ parts ∧ part ≠ ".." := by
  refine List.foldlRecOn
    (motive := fun done : List String => ∀ part ∈ done, part ∈ parts ∧ part ≠ "..")
    parts _ (by simp) ?_ part hpart
  intro done hdone next hnext other hother
  by_cases hdots : next = ".."
  · subst hdots
    exact hdone other (List.dropLast_subset _ hother)
  · rw [if_neg (by simpa using hdots)] at hother
    rcases List.mem_append.mp hother with hold | hnew
    · exact hdone other hold
    · obtain rfl := List.mem_singleton.mp hnew
      exact ⟨hnext, hdots⟩

theorem plainPart_of_mem_ofString {text part : String}
    (hpart : part ∈ (ofString text).parts) (hdots : part ≠ "..") : PlainPart part := by
  obtain ⟨hpiece, hkept⟩ := List.mem_filter.mp hpart
  simp only [Bool.and_eq_true, bne_iff_ne] at hkept
  exact ⟨hkept.1, hkept.2, hdots, (Text.of_mem_splitOn hpiece).1⟩

/-- A name is its stem and its suffix. -/
theorem splitName_append (name : String) :
    (splitName name).1 ++ (splitName name).2 = name := by
  rw [splitName]
  split
  · next stem hrest =>
    split
    · exact String.append_empty
    · have hwhole := name.toList.reverse.takeWhile_append_dropWhile (p := (· != '.'))
      rw [hrest] at hwhole
      apply String.toList_inj.mp
      rw [String.toList_append, String.toList_ofList, String.toList_ofList]
      simpa using congrArg List.reverse hwhole
  · exact String.append_empty

theorem stem_ne_empty_of_suffix {name : String} (hsuffix : (splitName name).2 ≠ "") :
    (splitName name).1 ≠ "" := by
  generalize hsplit : splitName name = parts at hsuffix ⊢
  rw [splitName] at hsplit
  split at hsplit
  · next stem hrest =>
    split at hsplit
    · subst hsplit
      exact absurd rfl hsuffix
    · next hnonempty =>
      subst hsplit
      intro hnil
      have hstem := congrArg String.toList hnil
      rw [String.toList_ofList] at hstem
      apply hnonempty
      simp [List.reverse_eq_nil_iff.mp (hstem.trans String.toList_empty)]
  · subst hsplit
    exact absurd rfl hsuffix

end Path

namespace Settings

/-- The name of a models module is that of a script. -/
theorem exists_stem_of_isModuleFile {file : String} (hfile : isModuleFile file = true) :
    ∃ stem, stem ≠ "" ∧ Path.PlainPart (stem ++ scriptSuffix) ∧
      Path.ofString file = { parts := [stem ++ scriptSuffix] } := by
  simp only [isModuleFile, Bool.and_eq_true, beq_iff_eq] at hfile
  obtain ⟨⟨hsuffix, hlength⟩, -⟩ := hfile
  by_cases habsolute : (Path.ofString file).isAbsolute = true
  · -- an absolute path of one part is the root, which has no suffix
    rw [Path.allParts, if_pos habsolute, List.length_cons, Nat.add_eq_right,
      List.length_eq_zero_iff] at hlength
    rw [Path.suffix, Path.name, hlength] at hsuffix
    exact absurd hsuffix (by decide)
  · rw [Path.allParts, if_neg habsolute] at hlength
    obtain ⟨part, hparts⟩ := List.length_eq_one_iff.mp hlength
    have hsuffix : (Path.splitName part).2 = scriptSuffix := by
      rw [Path.suffix, Path.name, hparts] at hsuffix
      exact hsuffix
    have hname := Path.splitName_append part
    rw [hsuffix] at hname
    have hroot : (Path.ofString file).root = "" := by
      simpa [Path.isAbsolute] using habsolute
    refine ⟨(Path.splitName part).1, ?_, ?_, ?_⟩
    · apply Path.stem_ne_empty_of_suffix
      rw [hsuffix]
      decide
    · rw [hname]
      have hmem : part ∈ (Path.ofString file).parts := by simp [hparts]
      refine Path.plainPart_of_mem_ofString hmem ?_
      rintro rfl
      exact absurd hsuffix (by decide)
    · rw [hname, ← hparts, ← hroot]

section Output

variable {ws ws' : Workspace} {cwd root out : Path} {value : String}

theorem resolveChecked_eq (htree : ws.IsTree) (cwd path : Path) :
    resolveChecked ws cwd path = .ok (ws.resolve cwd path) := by
  rw [resolveChecked, htree.circle?_eq_none]

/-- Without links, only the text of the setting counts. -/
theorem outputPath_congr (htree : ws.IsTree) (htree' : ws'.IsTree) :
    outputPath ws cwd root value = outputPath ws' cwd root value := by
  simp only [outputPath, resolveChecked_eq htree, resolveChecked_eq htree', htree.resolve_eq,
    htree'.resolve_eq]

theorem eq_resolve_of_resolveChecked {path resolved : Path}
    (hchecked : resolveChecked ws cwd path = .ok resolved) : resolved = ws.resolve cwd path := by
  rw [resolveChecked] at hchecked
  split at hchecked
  · cases hchecked
  · exact (Except.ok.inj hchecked).symm

/-- An output directory that is accepted is what the setting resolves to. -/
theorem eq_resolve_of_outputPath (hout : outputPath ws cwd root value = .ok out) :
    out = ws.resolve cwd ((ws.resolve cwd root).join (Path.ofString value)) := by
  simp only [outputPath, bind, Except.bind, throw, throwThe, MonadExceptOf.throw, pure,
    Except.pure] at hout
  split at hout
  · cases hout
  · split at hout
    · cases hout
    · split at hout
      · cases hout
      · next base hbase =>
        split at hout
        · cases hout
        · split at hout
          · cases hout
          · next resolved hresolved =>
            split at hout
            · cases hout
            · split at hout
              · cases hout
              · obtain rfl := Except.ok.inj hout
                rw [← eq_resolve_of_resolveChecked hbase]
                exact eq_resolve_of_resolveChecked hresolved

/-- The output directory lies strictly below the root. -/
structure IsBelow (root out : Path) : Prop where
  plain : out.Plain
  below : root.parts <+: out.parts
  strict : root.parts.length < out.parts.length

theorem plain_resolve_join (htree : ws.IsTree) (hroot : root.Plain)
    (hrelative : (Path.ofString value).isAbsolute = false) :
    (ws.resolve cwd ((Path.absolute root.parts).join (Path.ofString value))).Plain := by
  have hjoin : (Path.absolute root.parts).join (Path.ofString value) =
      .absolute (root.parts ++ (Path.ofString value).parts) := by
    rw [Path.join, if_neg (by simp [hrelative])]
    rfl
  refine ⟨rfl, fun part hpart => ?_⟩
  rw [hjoin, htree.resolve_eq, Path.join_of_absolute rfl] at hpart
  obtain ⟨hpart, hdots⟩ := Path.mem_of_mem_normalParts hpart
  rcases List.mem_append.mp (Path.mem_of_mem_normalParts hpart).1 with hold | hnew
  · exact hroot.parts part hold
  · exact Path.plainPart_of_mem_ofString hnew hdots

/-- An output directory that is accepted lies strictly below the root. -/
theorem isBelow_of_outputPath (htree : ws.IsTree) (hroot : root.Plain)
    (hout : outputPath ws cwd root value = .ok out) : IsBelow root out := by
  simp only [outputPath, resolveChecked_eq htree, htree.resolve_plain cwd hroot, bind,
    Except.bind, throw, throwThe, MonadExceptOf.throw, pure, Except.pure] at hout
  split at hout
  · cases hout
  · split at hout
    · cases hout
    · next hrelative =>
      have hplain : (ws.resolve cwd
          ((Path.absolute root.parts).join (Path.ofString value))).Plain :=
        plain_resolve_join htree hroot (by simp_all)
      split at hout
      · cases hout
      · split at hout
        · cases hout
        · next relative hshown =>
          split at hout
          · cases hout
          · next hnonempty =>
            obtain rfl := Except.ok.inj hout
            rw [Path.relativeTo?] at hshown
            split at hshown
            · next hprefix =>
              obtain rfl := Option.some.inj hshown
              simp only [Bool.and_eq_true, List.isPrefixOf_iff_prefix] at hprefix
              refine ⟨hplain, hprefix.2, ?_⟩
              simpa [List.drop_eq_nil_iff, Path.absolute] using hnonempty
            · cases hshown

end Output

end Settings

end IntegrationBuild
