import IntegrationBuild.Proofs.Build.Output

/-!
Where compiled scripts go.  Scripts at different places below the root are
compiled to different paths, also if their names differ only in the dots before
the suffix, so no compiled script is written over another one.
-/

namespace IntegrationBuild

variable {ws ws' : Workspace} {cwd root source first second out : Path}

namespace Path

/-- A script by its path: absolute, without `..`, and named by a stem and the
suffix of scripts.  The stem may have dots in it. -/
structure IsScript (source : Path) : Prop where
  plain : source.Plain
  named : ∃ stem, stem ≠ "" ∧ source.name = stem ++ scriptSuffix

/-- A path below a root: its text begins with the root or, where no link leads
elsewhere, with what the root resolves to. -/
inductive LiesBelow (ws : Workspace) (cwd root source : Path) : Prop
  | spelled {parts : List String} (hroot : source.root = root.root)
      (hparts : source.parts = root.parts ++ parts) (hne : parts ≠ [])
  | resolved {parts : List String} (htree : ws.IsTree)
      (hparts : source.parts = (ws.resolve cwd root).parts ++ parts) (hne : parts ≠ [])

/-- Whatever lies below a root is shown by its parts behind one and the same
place. -/
theorem exists_base (ws : Workspace) (cwd root : Path) :
    ∃ base, ∀ source, source.Plain → LiesBelow ws cwd root source →
      ∃ parts, parts ≠ [] ∧ source.parts = base ++ parts ∧
        Path.shown ws cwd source root = { parts := parts } := by
  by_cases htree : ws.IsTree
  · refine ⟨(ws.resolve cwd root).parts, fun source hplain hbelow => ?_⟩
    cases hbelow with
    | @spelled parts hroot hparts hne =>
        refine ⟨parts, hne, ?_, shown_of_spelled hroot hparts⟩
        rw [htree.resolve_plain cwd (hplain.of_append hroot hparts)]
        exact hparts
    | @resolved parts _ hparts hne =>
        exact ⟨parts, hne, hparts, shown_of_resolved htree cwd hplain hparts⟩
  · refine ⟨root.parts, fun source _ hbelow => ?_⟩
    cases hbelow with
    | @spelled parts hroot hparts hne =>
        exact ⟨parts, hne, hparts, shown_of_spelled hroot hparts⟩
    | resolved hlinks => exact absurd hlinks htree

/-- A script shown by its parts is compiled to the same directories below the output
directory, and to its stem with the suffix of compiled scripts. -/
theorem IsScript.exists_compiledPath (hscript : source.IsScript) {base parts : List String}
    (hparts : source.parts = base ++ parts) (hne : parts ≠ [])
    (hshown : Path.shown ws cwd source root = { parts := parts }) :
    ∃ dirs stem, parts = dirs ++ [stem ++ scriptSuffix] ∧
      (∀ part ∈ dirs ++ [stem ++ compiledSuffix], PlainPart part) ∧
      ∀ out, compiledPath ws cwd source root out =
        .ok { out with parts := out.parts ++ (dirs ++ [stem ++ compiledSuffix]) } := by
  obtain ⟨stem, hstem, hname⟩ := hscript.named
  have hlast : source.name = parts.getLast hne := by
    rw [name, hparts, List.getLast?_append_of_ne_nil _ hne, List.getLast?_eq_some_getLast hne]
    rfl
  have hsplit : parts = parts.dropLast ++ [stem ++ scriptSuffix] := by
    rw [← hname, hlast, List.dropLast_append_getLast hne]
  have hplain : ∀ part ∈ parts, PlainPart part := by
    intro part hpart
    apply hscript.plain.parts
    rw [hparts]
    exact List.mem_append_right base hpart
  refine ⟨parts.dropLast, stem, hsplit, ?_, fun out => ?_⟩
  · intro part hpart
    rcases List.mem_append.mp hpart with hdir | hcompiled
    · exact hplain part (List.dropLast_subset _ hdir)
    · rw [List.mem_singleton.mp hcompiled]
      have hslash := hscript.plain.name_no_slash
      rw [hname, String.toList_append, List.mem_append, not_or] at hslash
      exact plainPart_append hslash.1 (by decide) rfl (by decide)
  · rw [hsplit] at hshown hplain
    rw [compiledPath_of_shown hshown hplain, splitName_script hstem]

end Path

/-- Scripts at different places below the root are compiled to different paths;
without links, to compile the one leaves the compiled form of the other as it is.
Places are told apart by their parts, as `//p` and `/p` are one place. -/
theorem compiledPath_ne_of_parts_ne (hfirst : first.IsScript) (hsecond : second.IsScript)
    (hbelowFirst : Path.LiesBelow ws cwd root first)
    (hbelowSecond : Path.LiesBelow ws cwd root second) (hne : first.parts ≠ second.parts) :
    ∃ p q, compiledPath ws cwd first root out = .ok p ∧
      compiledPath ws cwd second root out = .ok q ∧ p ≠ q ∧
      (ws.IsTree → out.Plain → ∀ host error ws',
        Build.Gives (Build.byteCompile host root first p) ws error ws' →
          ws'.read? q = ws.read? q) := by
  obtain ⟨base, hbase⟩ := Path.exists_base ws cwd root
  obtain ⟨parts, hnil, hparts, hshown⟩ := hbase first hfirst.plain hbelowFirst
  obtain ⟨others, hnil', hothers, hshown'⟩ := hbase second hsecond.plain hbelowSecond
  obtain ⟨dirs, stem, rfl, hplain, hcompiled⟩ := hfirst.exists_compiledPath hparts hnil hshown
  obtain ⟨dirs', stem', rfl, hplain', hcompiled'⟩ :=
    hsecond.exists_compiledPath hothers hnil' hshown'
  have hapart : dirs ++ [stem ++ compiledSuffix] ≠ dirs' ++ [stem' ++ compiledSuffix] := by
    intro hsame
    apply hne
    obtain ⟨rfl, hname⟩ := List.append_singleton_inj.mp hsame
    rw [hparts, hothers, (String.append_left_inj _).mp hname]
  refine ⟨_, _, hcompiled out, hcompiled' out, ?_, fun htree hout host error ws' hgives => ?_⟩
  · intro hsame
    exact hapart (List.append_cancel_left (congrArg Path.parts hsame))
  · have hgrown := Build.grown_byteCompile htree (hout.append hplain) hgives
    apply Eq.symm
    apply hgrown.read?_eq (hout.append hplain')
    intro hsame
    exact hapart (List.append_cancel_left hsame).symm

/-- A hidden script and scripts whose stems have dots in them, with the compiled form
of one of them. -/
def dottedWorkspace : Workspace :=
  { entries :=
      [(["p"], .directory), (["p", "g"], .directory),
        (["p", "g", ".a.py"], .file ByteArray.empty),
        (["p", "g", "a.py"], .file ByteArray.empty),
        (["p", "g", "a.py.py"], .file "x = 1\n".toUTF8),
        (["p", "g", "a.v2.py"], .file ByteArray.empty),
        (["p", "dist"], .directory), (["p", "dist", "g"], .directory),
        (["p", "dist", "g", "a.pyc"], .file "old".toUTF8)] }

/-- The script with the suffix twice is compiled beside what is there for the one with
the suffix once. -/
theorem compiledPath_ne_of_parts_ne_dotted :
    ∃ p q, compiledPath dottedWorkspace (.absolute []) (.absolute ["p", "g", "a.py.py"])
        (.ofString "p") (.absolute ["p", "dist"]) = .ok p ∧
      compiledPath dottedWorkspace (.absolute []) (.absolute ["p", "g", "a.py"])
        (.ofString "p") (.absolute ["p", "dist"]) = .ok q ∧ p ≠ q ∧
      ∃ error ws', Build.Gives (Build.byteCompile ⟨.absolute [], checkingCompiler⟩
          (.ofString "p") (.absolute ["p", "g", "a.py.py"]) p) dottedWorkspace error ws' ∧
        error = none ∧ ws'.read? q = some "old".toUTF8 := by
  have htree : dottedWorkspace.IsTree := Workspace.isTree_of_all (by decide)
  have hroot : (dottedWorkspace.resolve (.absolute []) (.ofString "p")).parts = ["p"] := by
    decide +kernel
  have hbelow : ∀ name, Path.LiesBelow dottedWorkspace (.absolute []) (.ofString "p")
      (.absolute ["p", "g", name]) := fun name =>
    .resolved htree (by rw [hroot]; rfl) (List.cons_ne_nil "g" [name])
  obtain ⟨p, q, hp, hq, hne, hkept⟩ := @compiledPath_ne_of_parts_ne dottedWorkspace
    (.absolute []) (.ofString "p") (.absolute ["p", "g", "a.py.py"])
    (.absolute ["p", "g", "a.py"]) (.absolute ["p", "dist"])
    ⟨by decide, "a.py", by decide, rfl⟩ ⟨by decide, "a", by decide, rfl⟩
    (hbelow _) (hbelow _) (by decide)
  refine ⟨p, q, hp, hq, hne, ?_⟩
  obtain rfl : .absolute ["p", "dist", "g", "a.py.pyc"] = p :=
    Except.ok.inj (Eq.trans (by decide +kernel) hp)
  obtain rfl : .absolute ["p", "dist", "g", "a.pyc"] = q :=
    Except.ok.inj (Eq.trans (by decide +kernel) hq)
  have hrun : ∃ error ws', Build.Gives (Build.byteCompile ⟨.absolute [], checkingCompiler⟩
      (.ofString "p") (.absolute ["p", "g", "a.py.py"])
      (.absolute ["p", "dist", "g", "a.py.pyc"])) dottedWorkspace error ws' ∧ error = none :=
    Build.exists_gives_of_decide (by decide +kernel)
  obtain ⟨error, ws', hgives, hgood⟩ := hrun
  refine ⟨error, ws', hgives, hgood, ?_⟩
  rw [hkept htree (by decide) _ error ws' hgives]
  decide +kernel

end IntegrationBuild
