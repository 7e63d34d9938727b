import IntegrationBuild.Build.Project
import IntegrationBuild.Proofs.Build.Artifact

/-!
What the turn of a script comes to.  It reads nothing but scripts and the
directories of integrations, so wherever these are alike a turn says the same
and stores the same.
-/

namespace IntegrationBuild

/-- A script below a root, with more in its name than the suffix. -/
structure IsSource (root : Path) (ws : Workspace) (path : Path) : Prop where
  file : ScriptFile ws path
  below : root.parts <+: path.parts.dropLast
  named : ∃ stem, stem ≠ "" ∧ path.parts.getLast? = some (stem ++ scriptSuffix)

namespace IsSource

variable {root path : Path} {ws ws' : Workspace}

theorem of_sameScripts (hsource : IsSource root ws path) (hsame : SameScripts ws ws') :
    IsSource root ws' path :=
  ⟨hsame.scriptFile hsource.file, hsource.below, hsource.named⟩

theorem exists_parts (hsource : IsSource root ws path) :
    ∃ dirs stem, stem ≠ "" ∧ path.parts = root.parts ++ dirs ++ [stem ++ scriptSuffix] := by
  obtain ⟨stem, hstem, hlast⟩ := hsource.named
  obtain ⟨init, hinit⟩ := List.getLast?_eq_some_iff.mp hlast
  obtain ⟨dirs, hdirs⟩ := hsource.below
  rw [hinit, List.dropLast_concat] at hdirs
  exact ⟨dirs, stem, hstem, by rw [hdirs, hinit]⟩

/-- How a script is shown. -/
theorem shownText_eq (hsource : IsSource root ws path) (htree : ws.IsTree) (cwd : Path)
    (hroot : root.Plain) : Path.shownText ws cwd path root =
      Path.text { parts := path.parts.drop root.parts.length } := by
  have hprefix := hsource.below.trans (List.dropLast_prefix _)
  rw [Path.shownText, Path.shown_of_prefix htree cwd hsource.file.plain hroot hprefix]

/-- The name of a script leads from a directory to the place of a script. -/
theorem child_shownText (hsource : IsSource root ws path) (htree : ws.IsTree) {cwd : Path}
    (hcwd : cwd.Plain) (hroot : root.Plain) :
    (cwd.child (Path.shownText ws cwd path root)).Plain ∧
      ScriptPlace (cwd.child (Path.shownText ws cwd path root)).parts := by
  obtain ⟨dirs, stem, -, hparts⟩ := hsource.exists_parts
  have hdrop : path.parts.drop root.parts.length = dirs ++ [stem ++ scriptSuffix] := by
    rw [hparts, List.append_assoc, List.drop_left]
  have hplain : ∀ part ∈ dirs ++ [stem ++ scriptSuffix], Path.PlainPart part := fun part hpart =>
    hsource.file.plain.parts part (List.drop_subset _ _ (hdrop ▸ hpart))
  have hchild : cwd.child (Path.shownText ws cwd path root) =
      { cwd with parts := cwd.parts ++ (dirs ++ [stem ++ scriptSuffix]) } := by
    rw [hsource.shownText_eq htree cwd hroot, hdrop, Path.child,
      Path.ofString_text hplain (by simp)]
    rfl
  rw [hchild]
  refine ⟨⟨hcwd.absolute, fun part hpart => ?_⟩, stem, by simp⟩
  rcases List.mem_append.mp hpart with hold | hnew
  · exact hcwd.parts part hold
  · exact hplain part hnew

end IsSource

section Verdict

/-- What compiling a script under its name gives. -/
def Host.verdict (host : Host) (ws : Workspace) (root source : Path) :
    Except String ByteArray :=
  let name := Path.shownText ws host.cwd source root
  host.compile name (host.line? ws name) ((ws.read? source).getD ByteArray.empty)

/-- What is stored when a script is compiled. -/
def Host.artifact (host : Host) (ws : Workspace) (root source output : Path) : Artifact :=
  { path := output
    code? := (host.verdict ws root source).toOption }

/-- What the compiler says about a script. -/
def Host.fault? (host : Host) (ws : Workspace) (root source : Path) : Option String :=
  match host.verdict ws root source with
  | .error text => some text
  | .ok _ => none

variable {host : Host} {ws ws' : Workspace} {root source : Path}

theorem Host.verdict_congr (hsame : SameScripts ws ws') (hcwd : host.cwd.Plain)
    (hroot : root.Plain) (hsource : IsSource root ws source) :
    host.verdict ws root source = host.verdict ws' root source := by
  obtain ⟨hplain, hplace⟩ := hsource.child_shownText hsame.before hcwd hroot
  rw [hsame.shownText_eq] at hplain hplace
  have hline : host.line? ws (Path.shownText ws' host.cwd source root) =
      host.line? ws' (Path.shownText ws' host.cwd source root) := by
    funext line
    rw [Host.line?, Host.line?, hsame.read?_eq hplain hplace]
  simp only [verdict, hsame.shownText_eq, hline,
    hsame.read?_eq hsource.file.plain hsource.file.place]

/-- The verdict on a script depends on its place, not on how its path is written. -/
theorem Host.verdict_parts_congr (htree : ws.IsTree) (hroot : root.Plain) {other : Path}
    (hsource : IsSource root ws source) (hother : IsSource root ws other)
    (hparts : source.parts = other.parts) :
    host.verdict ws root source = host.verdict ws root other := by
  simp only [verdict, hsource.shownText_eq htree _ hroot, hother.shownText_eq htree _ hroot,
    hparts, ws.read?_parts_congr hparts]

/-- To compile a script is to store what the verdict gives. -/
theorem Build.run_byteCompile (hsame : SameScripts ws ws') (hcwd : host.cwd.Plain)
    (hroot : root.Plain) (hsource : IsSource root ws source) (output : Path) :
    (byteCompile host root source output).run.run ws' =
      (do store (host.artifact ws root source output)
          pure (host.fault? ws root source) : Build (Option String)).run.run ws' := by
  simp only [byteCompile, store, bind_assoc]
  refine run_bind_congr fun _ mid hmake => ?_
  have hmid : SameScripts ws mid := by
    have hgrown : ws'.Grown (fun _ => True) CompiledPlace mid :=
      hsame.after.grown_makeDirectoriesFrom (fun _ _ _ _ _ _ => trivial) (gives_change_iff.mp hmake)
    exact hsame.trans hgrown.sameScripts
  refine run_bind_congr fun _ mid' hfree => ?_
  obtain ⟨-, rfl⟩ := gives_checkFree_iff.mp hfree
  obtain ⟨content, hread⟩ := (hmid.scriptFile hsource.file).exists_readFile hmid.after
  have hverdict := Host.verdict_congr hmid hcwd hroot hsource
  rw [Gives.run_bind_eq (gives_get_iff.mpr ⟨rfl, rfl⟩),
    Gives.run_bind_eq (gives_read_iff.mpr ⟨hread, rfl⟩)]
  rw [Host.artifact, Host.fault?, hverdict, Host.verdict,
    Workspace.readFile_eq_ok_iff.mp hread, Option.getD_some]
  cases host.compile (Path.shownText mid host.cwd source root)
      (host.line? mid (Path.shownText mid host.cwd source root)) content with
  | error text => rfl
  | ok code => rfl

end Verdict

/-- Two file systems are alike to the scripts of a project: they have the same
scripts and the same directories of integrations, and the second one has the
output directory. -/
structure Project.Alike (project : Project) (root out : Path) (ws ws' : Workspace) : Prop where
  scripts : SameScripts ws ws'
  siblings : ∀ integration ∈ project.integrations,
    ws.isDirectory (root.child integration.name) = ws'.isDirectory (root.child integration.name)
  out : ws'.entry? out.parts = some .directory

/-- Neither what is written in no script's place nor a directory that is made on
the way to the output directory or below it makes a difference to scripts. -/
theorem Project.Alike.of_grown {project : Project} {root out : Path} {ws mid ws' : Workspace}
    (halike : project.Alike root out ws mid) (hroot : root.Plain)
    (hnames : ∀ integration ∈ project.integrations, Path.PlainPart integration.name)
    (hstrict : root.parts.length < out.parts.length) {directories files : Location → Prop}
    (hgrown : mid.Grown directories files ws')
    (hdirectories : ∀ location, directories location →
      location.length ≤ out.parts.length → location <+: out.parts)
    (hfiles : ∀ location, files location → ¬ScriptPlace location) :
    project.Alike root out ws ws' := by
  refine ⟨halike.scripts.trans (sameScripts_of_grown hgrown hfiles), fun integration hmem => ?_,
    hgrown.directory_kept halike.out⟩
  have hplain := Path.plain_child_of_plainPart hroot (hnames integration hmem)
  rw [halike.siblings integration hmem, Bool.eq_iff_iff, hgrown.before.isDirectory_iff hplain,
    hgrown.after.isDirectory_iff hplain]
  refine ⟨hgrown.directory_kept, fun hmade => ?_⟩
  by_cases hway : directories (root.child integration.name).parts
  · -- a directory no deeper than the output directory, which was there before
    apply hgrown.before.entry?_of_prefix (hdirectories _ hway _) halike.out
    rw [Path.child_of_plainPart (hnames integration hmem), List.length_append]
    exact hstrict
  · exact (hgrown.directory_iff hway).mp hmade

/-- What is stored below the output directory makes no difference to scripts. -/
theorem Project.Alike.of_storesInto {project : Project} {root out : Path}
    {ws mid ws' : Workspace} (halike : project.Alike root out ws mid) (hroot : root.Plain)
    (hnames : ∀ integration ∈ project.integrations, Path.PlainPart integration.name)
    (hstrict : root.parts.length < out.parts.length) {artifacts : List Artifact}
    (hbelow : ∀ a ∈ artifacts, a.Below out) (hstores : Build.StoresInto artifacts mid ws') :
    project.Alike root out ws ws' := by
  refine halike.of_grown hroot hnames hstrict hstores ?_ ?_
  · rintro location ⟨a, ha, hway⟩ hlength
    exact List.prefix_of_prefix_length_le hway (hbelow a ha).below hlength
  · rintro location ⟨a, ha, rfl, -⟩
    exact (hbelow a ha).place.not_scriptPlace

namespace ScriptJob

variable {job : ScriptJob} {host : Host} {ws ws' : Workspace} {path : Path}

/-- What the turn of a file says, after what was said before, and what it stores. -/
def turn (job : ScriptJob) (host : Host) (ws : Workspace) (found : List String) (path : Path) :
    Except BuildError (List String × List Artifact) :=
  match job.complaints ws host.cwd path with
  | .error fault => .error (.ofCheck fault)
  | .ok complaints =>
    if job.isClean ws host.cwd path found complaints then
      match job.output ws host.cwd path with
      | .error error => .error error
      | .ok output => .ok
          (job.said ws host.cwd path found complaints ++
              (host.fault? ws job.options.root path).toList.map (job.lead ws host.cwd path ++ ·),
            [host.artifact ws job.options.root path output])
    else .ok (job.said ws host.cwd path found complaints, [])

section Congr

variable {out : Path} (halike : job.project.Alike job.options.root out ws ws')

include halike

theorem isSibling_congr (name : String) :
    job.scope.isSibling ws name = job.scope.isSibling ws' name := by
  rw [ImportScope.isSibling, ImportScope.isSibling]
  by_cases hname : name ∈ job.project.integrations.map (·.name)
  · obtain ⟨integration, hmem, rfl⟩ := List.mem_map.mp hname
    exact congrArg _ (halike.siblings integration hmem)
  · have hnone : job.scope.integrations.contains name = false := by
      rw [← Bool.not_eq_true, List.contains_iff_mem]
      exact hname
    rw [hnone]
    rfl

theorem usage_congr (hfile : ScriptFile ws path) : job.usage ws path = job.usage ws' path := by
  obtain ⟨content, hread⟩ := hfile.exists_readFile halike.scripts.before
  have hread := Workspace.readFile_eq_ok_iff.mp hread
  have hread' := hread
  rw [halike.scripts.read?_eq hfile.plain hfile.place] at hread'
  rw [usage, usage, Usage.analyzeFile_of_read? hread, Usage.analyzeFile_of_read? hread']

theorem complaints_congr (cwd : Path) (hfile : ScriptFile ws path) :
    job.complaints ws cwd path = job.complaints ws' cwd path := by
  rw [complaints, complaints, usage_congr halike hfile,
    ImportScope.importsOfFile_congr halike.scripts hfile.plain hfile.place,
    ImportScope.checkAll_congr halike.scripts hfile.plain (isSibling_congr halike)]
  simp only [resolveAll_of_isTree halike.scripts.before,
    resolveAll_of_isTree halike.scripts.after]

theorem said_congr (cwd : Path) : job.said ws cwd path = job.said ws' cwd path := by
  funext found complaints
  rw [said, said, lead, lead, halike.scripts.shownText_eq]

omit halike in
/-- The steps of a turn. -/
theorem run_compileFile_eq (job : ScriptJob) (host : Host) (ws : Workspace)
    (found : List String) (path : Path) :
    (job.compileFile host found path).run.run ws =
      (do let complaints ← Build.orStop .ofCheck (job.complaints ws host.cwd path)
          let said := job.said ws host.cwd path found complaints
          if job.isClean ws host.cwd path found complaints then
            let output ← Build.orStop id (job.output ws host.cwd path)
            match ← Build.byteCompile host job.options.root path output with
            | some error => pure (said ++ [job.lead ws host.cwd path ++ error])
            | none => pure said
          else pure said : Build (List String)).run.run ws := by
  rw [compileFile, Build.Gives.run_bind_eq (Build.gives_get_iff.mpr ⟨rfl, rfl⟩)]
  rfl

/-- Where the file systems are alike, the turn of a file is what it was. -/
theorem run_compileFile (hcwd : host.cwd.Plain) (hroot : job.options.root.Plain)
    (hsource : IsSource job.options.root ws path) (found : List String) :
    (job.compileFile host found path).run.run ws' =
      (do let next ← Build.orStop id (job.turn host ws found path)
          Build.storeAll next.2
          pure next.1 : Build (List String)).run.run ws' := by
  have hlead : job.lead ws host.cwd path = job.lead ws' host.cwd path := by
    rw [lead, lead, halike.scripts.shownText_eq]
  have hclean : ∀ complaints, job.isClean ws host.cwd path found complaints =
      job.isClean ws' host.cwd path found complaints := by
    intro complaints
    rw [isClean, isClean, usage_congr halike hsource.file, said_congr halike, hlead]
  rw [run_compileFile_eq, turn, complaints_congr halike host.cwd hsource.file, said_congr halike,
    hlead, output_congr halike.scripts]
  cases job.complaints ws' host.cwd path with
  | error fault => rfl
  | ok complaints =>
      simp only [Build.orStop, pure_bind, hclean]
      by_cases hpass : job.isClean ws' host.cwd path found complaints = true
      · rw [if_pos hpass, if_pos hpass]
        cases job.output ws' host.cwd path with
        | error error => rfl
        | ok output =>
            simp only [Build.storeAll, pure_bind, bind_assoc]
            rw [Build.run_bind_left
              (Build.run_byteCompile halike.scripts hcwd hroot hsource output), bind_assoc]
            refine Build.run_bind_congr fun _ mid _ => ?_
            rw [pure_bind]
            cases host.fault? ws job.options.root path with
            | some text => rfl
            | none => simp
      · rw [if_neg hpass, if_neg hpass]
        rfl

end Congr

end ScriptJob

end IntegrationBuild
