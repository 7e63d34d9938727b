import IntegrationBuild.Build.Project
import IntegrationBuild.Proofs.Build.Layout
import IntegrationBuild.Proofs.Workspace.Settled

/-!
Writing compiled scripts.  When nothing stands in the way of the outputs at the
start, nothing ever does, and every turn comes to its end.
-/

namespace IntegrationBuild

theorem Path.splitName_subset (name : String) :
    (Path.splitName name).1.toList ⊆ name.toList := by
  rw [splitName]
  split
  · next stem hrest =>
    split
    · exact List.Subset.refl _
    · intro c hc
      have hmem : c ∈ name.toList.reverse.dropWhile (· != '.') := by
        rw [hrest]
        exact List.mem_cons_of_mem _ (by simpa using hc)
      simpa using (List.dropWhile_suffix _).subset hmem
  · exact List.Subset.refl _

theorem Path.splitName_script {stem : String} (hstem : stem ≠ "") :
    Path.splitName (stem ++ scriptSuffix) = (stem, scriptSuffix) := by
  have hreversed : (stem ++ scriptSuffix).toList.reverse =
      'y' :: 'p' :: '.' :: stem.toList.reverse := by
    simp [String.toList_append, scriptSuffix]
  have hne : stem.toList.reverse.isEmpty = false := by simpa using hstem
  rw [splitName, hreversed]
  simp [hne, scriptSuffix]

theorem Path.shown_of_spelled {ws : Workspace} {cwd path root : Path} {parts : List String}
    (hroot : path.root = root.root) (hparts : path.parts = root.parts ++ parts) :
    Path.shown ws cwd path root = { parts := parts } := by
  rw [shown, relativeTo?]
  simp [hroot, hparts]

/-- Nothing is resolved to show a path that is written below the root. -/
theorem Path.resolvedToShow_of_spelled {path root : Path} {parts : List String}
    (hroot : path.root = root.root) (hparts : path.parts = root.parts ++ parts) :
    path.resolvedToShow root = [] := by
  rw [resolvedToShow, relativeTo?]
  simp [hroot, hparts]

/-- Without links, a path below what a root resolves to is shown by its parts
from there on, however the root is spelled. -/
theorem Path.shown_of_resolved {ws : Workspace} {path root : Path} {parts : List String}
    (htree : ws.IsTree) (cwd : Path) (hpath : path.Plain)
    (hparts : path.parts = (ws.resolve cwd root).parts ++ parts) :
    Path.shown ws cwd path root = { parts := parts } := by
  cases hspelled : path.relativeTo? root with
  | some relative =>
      obtain ⟨rest, hrest, rfl⟩ := exists_parts_of_relativeTo? hspelled
      have hroot := root_eq_of_relativeTo? hspelled
      rw [htree.resolve_plain cwd (hpath.of_append hroot hrest)] at hparts
      exact shown_of_spelled hroot hparts
  | none =>
      have hresolved : (ws.resolve cwd path).relativeTo? (ws.resolve cwd root) =
          some { parts := parts } := by
        rw [htree.resolve_plain cwd hpath, relativeTo?, hparts, absolute]
        simp [Workspace.resolve, normalized, absolute]
      rw [shown, hspelled, hresolved]

/-- A path below a root is shown by its parts from there on. -/
theorem Path.shown_of_prefix {ws : Workspace} {path root : Path} (htree : ws.IsTree)
    (cwd : Path) (hpath : path.Plain) (hroot : root.Plain)
    (hbelow : root.parts <+: path.parts) :
    Path.shown ws cwd path root = { parts := path.parts.drop root.parts.length } := by
  obtain ⟨rest, hrest⟩ := hbelow
  have hparts : path.parts = (ws.resolve cwd root).parts ++ rest := by
    rw [htree.resolve_plain cwd hroot, ← hrest]
    rfl
  rw [shown_of_resolved htree cwd hpath hparts, ← hrest, List.drop_left]

/-- What is shown by plain parts is compiled to the same directories below the
output directory. -/
theorem compiledPath_of_shown {ws : Workspace} {cwd path root : Path} {dirs : List String}
    {last : String} (hshown : Path.shown ws cwd path root = { parts := dirs ++ [last] })
    (hplain : ∀ part ∈ dirs ++ [last], Path.PlainPart part) (out : Path) :
    compiledPath ws cwd path root out = .ok { out with
      parts := out.parts ++ (dirs ++ [(Path.splitName last).1 ++ compiledSuffix]) } := by
  rw [compiledPath, Path.shownText, hshown, Path.ofString_text hplain (by simp)]
  simp [Path.isAbsolute, Path.withSuffix?, Path.withName, Path.join, Path.stem,
    Path.name]

/-- The compiled form of a path below a root lies below the output directory,
under the same directories. -/
theorem compiledPath_eq {ws : Workspace} {path root : Path} (htree : ws.IsTree)
    (cwd out : Path) (hpath : path.Plain) (hroot : root.Plain) {dirs : List String}
    {last : String} (hparts : path.parts = root.parts ++ dirs ++ [last]) :
    compiledPath ws cwd path root out = .ok { out with
      parts := out.parts ++ (dirs ++ [(Path.splitName last).1 ++ compiledSuffix]) } := by
  have hshown : Path.shown ws cwd path root = { parts := dirs ++ [last] } := by
    rw [Path.shown_of_prefix htree cwd hpath hroot
      ⟨dirs ++ [last], by rw [hparts, List.append_assoc]⟩, hparts]
    simp
  apply compiledPath_of_shown hshown
  intro part hpart
  exact hpath.parts part (by rw [hparts, List.append_assoc]; simp_all)

/-- A file is paired with its compiled form where there is an output directory to compile
it below, and no circle of links on the way. -/
theorem Build.fileToCompile_eq_ok_iff {ws : Workspace} {cwd path : Path}
    {options : BuildOptions} {file : FileToCompile} :
    fileToCompile ws cwd options path = .ok file ↔
      ∃ out, options.outputPath ws cwd = .ok out ∧
        resolveAll ws cwd ((options.root.join path).resolvedToShow options.root) = .ok () ∧
        compiledPath ws cwd (options.root.join path) options.root out = .ok file.output ∧
        file.input = options.root.join path := by
  obtain ⟨input, output⟩ := file
  rw [fileToCompile]
  cases hout : options.outputPath ws cwd with
  | error fault => simp
  | ok out =>
      cases resolveAll ws cwd ((options.root.join path).resolvedToShow options.root) with
      | error fault => simp
      | ok =>
          cases hcompiled : compiledPath ws cwd (options.root.join path) options.root out with
          | error fault => simp [hcompiled]
          | ok place => simp [hcompiled, eq_comm, and_comm]

/-- To compile a script makes directories on the way to its compiled form, and
writes nothing but that. -/
theorem Build.grown_byteCompile {ws ws' : Workspace} {host : Host} {root source output : Path}
    {error : Option String} (htree : ws.IsTree) (houtput : output.Plain)
    (hgives : Gives (byteCompile host root source output) ws error ws') :
    ws.Grown (· <+: output.parent.parts) (· = output.parts) ws' := by
  obtain ⟨mid, content, hmake, -, -, hcompiled⟩ := gives_byteCompile_iff.mp hgives
  have hmade : ws.Grown (· <+: output.parent.parts) (· = output.parts) mid :=
    htree.grown_makeDirectories (Path.plain_parent houtput) hmake
  cases hcompiled with
  | error => exact hmade
  | code _ hwrite => exact hmade.trans (hmade.after.grown_write_plain _ houtput hwrite).1

namespace ScriptJob

variable {job : ScriptJob} {ws ws' : Workspace} {cwd : Path}

/-- Where the compiled form of a file lies: the directories below the boundary
have no dots. -/
theorem Placed.output_eq (hplaced : job.Placed ws) {out path : Path}
    (hout : job.options.outputPath ws cwd = .ok out) (hplain : out.Plain)
    (hreaches : job.Reaches ws cwd path) :
    ∃ output dirs stem, job.output ws cwd path = .ok output ∧ output.Plain ∧
      output.parts = out.parts ++
        job.location.boundary.parts.drop job.options.root.parts.length ++ dirs ++
        [stem ++ compiledSuffix] ∧ ∀ part ∈ dirs, '.' ∉ part.toList := by
  have hfile := scriptFile_of_reaches hplaced.scriptFile hreaches
  obtain ⟨⟨dirs, hdirs⟩, hdotless⟩ := hplaced.inside_of_reaches hreaches
  obtain ⟨way, hway⟩ := hplaced.root_prefix_boundary
  obtain ⟨stem, hlast⟩ := hfile.place
  obtain ⟨init, hinit⟩ := List.getLast?_eq_some_iff.mp hlast
  have hparts : path.parts =
      job.options.root.parts ++ (way ++ dirs) ++ [stem ++ scriptSuffix] := by
    rw [hinit, List.dropLast_concat] at hdirs
    simp only [hinit, ← hdirs, ← hway, List.append_assoc]
  have hname : Path.PlainPart
      ((Path.splitName (stem ++ scriptSuffix)).1 ++ compiledSuffix) := by
    refine Path.plainPart_append ?_ (by decide) rfl (by decide)
    intro hslash
    exact (hfile.plain.parts _ (List.mem_of_getLast? hlast)).no_slash
      (Path.splitName_subset _ hslash)
  have houtput : job.output ws cwd path = .ok { out with
      parts := out.parts ++ (way ++ dirs ++
        [(Path.splitName (stem ++ scriptSuffix)).1 ++ compiledSuffix]) } :=
    output_eq_ok_iff.mpr
      ⟨out, hout, compiledPath_eq hplaced.tree cwd out hfile.plain hplaced.root hparts⟩
  refine ⟨_, dirs, (Path.splitName (stem ++ scriptSuffix)).1, houtput,
    ⟨hplain.absolute, ?_⟩, ?_, ?_⟩
  · intro part hpart
    simp only [List.mem_append, List.mem_singleton] at hpart
    rcases hpart with hold | (hold | hold) | rfl
    · exact hplain.parts part hold
    · exact hfile.plain.parts part (by simp [hparts, hold])
    · exact hfile.plain.parts part (by simp [hparts, hold])
    · exact hname
  · simp [← hway]
  · intro part hpart
    apply hdotless part
    rw [← hdirs, List.drop_left]
    exact hpart

/-- No compiled script lies on the way to another. -/
theorem Placed.not_prefix_output (hplaced : job.Placed ws) {out p q : Path}
    (hout : job.options.outputPath ws cwd = .ok out) (hplain : out.Plain)
    (hp : job.Reaches ws cwd p) (hq : job.Reaches ws cwd q) {output other : Path}
    (houtput : job.output ws cwd p = .ok output)
    (hother : job.output ws cwd q = .ok other) :
    ¬other.parts <+: output.parent.parts := by
  obtain ⟨_, dirs, stem, heq, -, hparts, hdotless⟩ :=
    hplaced.output_eq hout hplain hp
  cases houtput.symm.trans heq
  obtain ⟨_, dirs', stem', heq, -, hparts', -⟩ := hplaced.output_eq hout hplain hq
  cases hother.symm.trans heq
  rw [Path.parent, hparts, List.dropLast_concat, hparts', List.append_assoc]
  intro hprefix
  have hway := (List.prefix_append_right_inj _).mp hprefix
  have hmem : stem' ++ compiledSuffix ∈ dirs := hway.subset (by simp)
  apply hdotless _ hmem
  simp [String.toList_append, compiledSuffix]

theorem isFree_of_parent (htree : ws.IsTree) {path : Path} (hpath : path.Plain)
    {directory : Location} {part : String}
    (hparts : path.parts = directory ++ [part])
    (hparent : ws.entry? directory = some .directory)
    (hold : ws.entry? path.parts ≠ some .directory) : Build.IsFree ws path := by
  have hlocate := htree.locate_of_parent hpath.ne_dots hparts hparent
  refine ⟨htree.isLink_eq_false path, fun hthere => ?_⟩
  rw [Workspace.exists?, hlocate] at hthere
  rw [Workspace.isFile, hlocate]
  cases hentry : ws.entry? path.parts with
  | none => simp [hentry] at hthere
  | some entry =>
      cases entry with
      | directory => exact absurd hentry hold
      | link target => exact absurd hentry (htree.noLink _ target)
      | file content => rfl

/-- A free output is written, and only directories on the way to it are made
besides. -/
theorem exists_gives_byteCompile (host : Host) (htree : ws.IsTree)
    {root source output : Path} (hsource : ScriptFile ws source)
    (houtput : output.Plain) (hplace : CompiledPlace output.parts)
    (hfree : ws.Free output.parent.parts)
    (hold : ws.entry? output.parts ≠ some .directory) :
    ∃ error ws', Build.Gives (Build.byteCompile host root source output) ws error ws' ∧
      ws.Grown (· <+: output.parent.parts) (· = output.parts) ws' := by
  obtain ⟨stem, hlast⟩ := hplace
  obtain ⟨directory, hparts⟩ := List.getLast?_eq_some_iff.mp hlast
  have hup : output.parent.parts = directory := by simp [Path.parent, hparts]
  have hplain := Path.plain_parent houtput
  obtain ⟨mid, hmake, hparent⟩ := htree.makeDirectoriesFrom_of_free hplain
    (Nat.lt_succ_self _) hfree
  have hmid : ws.Grown (· <+: output.parent.parts) (fun _ => False) mid :=
    htree.grown_makeDirectories hplain hmake
  have hentry : mid.entry? output.parts ≠ some .directory := by
    rwa [ne_eq, hmid.directory_iff (Path.not_prefix_parent hparts)]
  have hfile := (hmid.mono (fun _ => id) (fun _ => False.elim)).sameScripts.scriptFile
    hsource
  obtain ⟨content, hread⟩ := hfile.exists_readFile hmid.after
  have hopen := isFree_of_parent hmid.after houtput hparts (hup ▸ hparent) hentry
  have hgives : ∃ error ws',
      Build.Gives (Build.byteCompile host root source output) ws error ws' := by
    cases hresult : host.compile (Path.shownText mid host.cwd source root)
        (host.line? mid (Path.shownText mid host.cwd source root)) content with
    | error text =>
        exact ⟨some text, mid, Build.gives_byteCompile_iff.mpr
          ⟨mid, content, hmake, hopen, hread, .error hresult⟩⟩
    | ok code =>
        obtain ⟨ws', hwrite, -⟩ := hmid.after.write_of_parent (fun _ => False) houtput hparts
          (hup ▸ hparent) hentry code
        exact ⟨none, ws', Build.gives_byteCompile_iff.mpr
          ⟨mid, content, hmake, hopen, hread, .code hresult hwrite⟩⟩
  obtain ⟨error, ws', hgives⟩ := hgives
  exact ⟨error, ws', hgives, Build.grown_byteCompile htree houtput hgives⟩

/-- With readable models and without links, the checks of a file come to an end. -/
theorem exists_complaints (htree : ws.IsTree) (cwd : Path) {names : List String}
    (hmodels : Script.namesOf job.modelsSource = .ok names) (path : Path) :
    ∃ complaints, job.complaints ws cwd path = .ok complaints := by
  have hcheck : ∀ ref, ∃ check, job.scope.check ws cwd path ref = .ok check := by
    intro ref
    have hgenerated : job.scope.generated = .ok names := hmodels
    rw [ImportScope.check, ImportScope.checkModels, hgenerated]
    split
    · exact ⟨_, rfl⟩
    · split
      · exact ⟨_, rfl⟩
      · split <;> exact ⟨_, rfl⟩
  have hall : ∀ refs, ∃ check, job.scope.checkAll ws cwd path refs = .ok check := by
    intro refs
    induction refs with
    | nil => exact ⟨_, rfl⟩
    | cons ref rest ih =>
        obtain ⟨first, hfirst⟩ := hcheck ref
        obtain ⟨others, hothers⟩ := ih
        rw [ImportScope.checkAll, ImportScope.checkOne_of_isTree htree, hfirst, hothers]
        exact ⟨_, rfl⟩
  obtain ⟨check, hcheck⟩ := hall (importsOfFile ws path)
  simp only [complaints, resolveAll_of_isTree htree, hcheck]
  exact ⟨_, rfl⟩

/-- Outputs lie at the same places as long as the scripts do. -/
theorem output_congr (hsame : SameScripts ws ws') (path : Path) :
    job.output ws cwd path = job.output ws' cwd path := by
  have hchecked : Settings.resolveChecked ws = Settings.resolveChecked ws' := by
    funext cwd path
    rw [Settings.resolveChecked, Settings.resolveChecked, hsame.before.circle?_eq_none,
      hsame.after.circle?_eq_none, hsame.resolvePath_eq]
  have hout : job.options.outputPath ws cwd = job.options.outputPath ws' cwd := by
    simp only [BuildOptions.outputPath, Settings.outputPath, hchecked]
  have hcompiled : compiledPath ws = compiledPath ws' := by
    funext cwd source root out
    rw [compiledPath, hsame.shownText_eq, compiledPath]
  rw [ScriptJob.output, ScriptJob.output, hout, hcompiled]

/-- In a file system with the scripts of the first one, no file stands on the
way to an output, and no directory in the place of one. -/
structure Unhindered (job : ScriptJob) (start : Workspace) (cwd : Path)
    (ws : Workspace) : Prop where
  same : SameScripts start ws
  way : ∀ path output, job.Reaches start cwd path →
    job.output start cwd path = .ok output → ws.Free output.parent.parts
  place : ∀ path output, job.Reaches start cwd path →
    job.output start cwd path = .ok output →
    ws.entry? output.parts ≠ some .directory

/-- What a run needs: the names of the models module, an output directory, and
outputs that nothing hinders. -/
structure Ready (job : ScriptJob) (ws : Workspace) (cwd : Path) : Prop where
  models : ∃ names, Script.namesOf job.modelsSource = .ok names
  output : ∃ out, job.options.outputPath ws cwd = .ok out ∧ out.Plain
  unhindered : job.Unhindered ws cwd ws

/-- Nothing hinders outputs in a directory that is not there yet. -/
theorem Placed.unhindered_of_absent (hplaced : job.Placed ws) {out : Path}
    (hout : job.options.outputPath ws cwd = .ok out) (hplain : out.Plain)
    (hfree : ws.Free out.parts) (hnone : ws.entry? out.parts = none) :
    job.Unhindered ws cwd ws := by
  have hbelow : ∀ way, out.parts <+: way → ws.entry? way = none := by
    rintro _ ⟨more, rfl⟩
    by_cases hmore : more = []
    · rw [hmore, List.append_nil, hnone]
    · exact hplaced.tree.entry?_below (by simp [hnone]) hmore
  refine ⟨.refl hplaced.tree, ?_, ?_⟩
  · intro path output hreaches houtput way content hway hfile
    obtain ⟨_, dirs, stem, heq, -, hparts, -⟩ := hplaced.output_eq hout hplain hreaches
    cases houtput.symm.trans heq
    rw [Path.parent, hparts, List.dropLast_concat, List.append_assoc] at hway
    rcases List.prefix_or_prefix_of_prefix hway (List.prefix_append _ _) with
      hshort | hlong
    · exact hfree way content hshort hfile
    · simp [hbelow way hlong] at hfile
  · intro path output hreaches houtput
    obtain ⟨_, dirs, stem, heq, -, hparts, -⟩ := hplaced.output_eq hout hplain hreaches
    cases houtput.symm.trans heq
    rw [hparts, List.append_assoc, List.append_assoc, hbelow _ (List.prefix_append _ _)]
    simp

section Run

variable {host : Host} {start : Workspace} (hplaced : job.Placed start)
  (hready : job.Ready start host.cwd)

include hplaced hready

/-- Writing one output hinders no other. -/
theorem Unhindered.of_grown (hfree : job.Unhindered start host.cwd ws)
    {path output : Path} (hreaches : job.Reaches start host.cwd path)
    (houtput : job.output start host.cwd path = .ok output)
    (hgrown : ws.Grown (· <+: output.parent.parts) (· = output.parts) ws') :
    job.Unhindered start host.cwd ws' := by
  obtain ⟨out, hout, hplain⟩ := hready.output
  have hcompiled : ws.Grown (· <+: output.parent.parts) CompiledPlace ws' := by
    refine hgrown.mono (fun _ => id) ?_
    rintro _ rfl
    exact compiledPlace_of_output houtput
  refine ⟨hfree.same.trans hcompiled.sameScripts, ?_, ?_⟩
  · intro other place hother hplace
    apply hgrown.free (hfree.way other place hother hplace)
    rintro _ hway rfl
    exact hplaced.not_prefix_output hout hplain hother hreaches hplace houtput hway
  · intro other place hother hplace
    rw [ne_eq, hgrown.directory_iff
      (hplaced.not_prefix_output hout hplain hreaches hother houtput hplace)]
    exact hfree.place other place hother hplace

/-- An unhindered turn comes to its end and leaves the later ones unhindered. -/
theorem Unhindered.exists_gives_compileFile
    (hfree : job.Unhindered start host.cwd ws) {path : Path}
    (hreaches : job.Reaches start host.cwd path) (found : List String) :
    ∃ found' ws', Build.Gives (job.compileFile host found path) ws found' ws' ∧
      job.Unhindered start host.cwd ws' := by
  obtain ⟨names, hmodels⟩ := hready.models
  obtain ⟨out, hout, hplain⟩ := hready.output
  obtain ⟨complaints, hcomplaints⟩ :=
    exists_complaints hfree.same.after host.cwd hmodels path
  cases hclean : job.isClean ws host.cwd path found complaints with
  | false =>
      exact ⟨_, ws, gives_compileFile_iff.mpr
        ⟨complaints, hcomplaints, Or.inr ⟨hclean, rfl, rfl⟩⟩, hfree⟩
  | true =>
      obtain ⟨output, -, -, houtput, hplain, -⟩ :=
        hplaced.output_eq hout hplain hreaches
      have hfile := hfree.same.scriptFile
        (scriptFile_of_reaches hplaced.scriptFile hreaches)
      obtain ⟨error, ws', hgives, hgrown⟩ := exists_gives_byteCompile host
        hfree.same.after hfile hplain (compiledPlace_of_output houtput)
        (hfree.way path output hreaches houtput)
        (hfree.place path output hreaches houtput)
      refine ⟨_, ws', gives_compileFile_iff.mpr ⟨complaints, hcomplaints,
        Or.inl ⟨hclean, output, error, ?_, hgives, rfl⟩⟩,
        hfree.of_grown hplaced hready hreaches houtput hgrown⟩
      rw [← output_congr hfree.same]
      exact houtput

theorem Unhindered.exists_gives_turns (hfree : job.Unhindered start host.cwd ws)
    {files : List Path} (hfiles : ∀ file ∈ files, job.Reaches start host.cwd file)
    (found : List String) :
    ∃ found' ws',
      Build.Gives (files.foldlM (job.compileFile host) found) ws found' ws' := by
  induction files generalizing found ws with
  | nil => exact ⟨found, ws, Build.gives_pure_iff.mpr ⟨rfl, rfl⟩⟩
  | cons file rest ih =>
      obtain ⟨said, mid, hfirst, hmid⟩ := hfree.exists_gives_compileFile
        hplaced hready (hfiles file List.mem_cons_self) found
      obtain ⟨found', ws', hrest⟩ := ih hmid
        (fun other hother => hfiles other (List.mem_cons_of_mem file hother)) said
      refine ⟨found', ws', ?_⟩
      rw [List.foldlM_cons]
      exact Build.gives_bind_iff.mpr ⟨said, mid, hfirst, hrest⟩

/-- A run that is ready gives a result. -/
theorem exists_gives_compile :
    ∃ found ws', Build.Gives
      ((job.files start host.cwd).foldlM (job.compileFile host) []) start found ws' :=
  hready.unhindered.exists_gives_turns hplaced hready
    (fun _ => reaches_of_mem_files) []

end Run

end ScriptJob

end IntegrationBuild
