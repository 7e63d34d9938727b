import IntegrationBuild.Proofs.Build.Order
import IntegrationBuild.Proofs.Build.Turn

/-!
The plan of a job: its result and what it stores, read off the file system in
which the scripts were found.  Wherever the file systems are alike, to run the
job is to store what was planned and to answer what was planned; this carries
over to any list of jobs.
-/

namespace IntegrationBuild

/-- A build whose output directory lies strictly below the root of the project,
and whose integrations and operations have plain names. -/
structure Build.Site (host : Host) (options : BuildOptions) (project : Project) (out : Path) :
    Prop where
  cwd : host.cwd.Plain
  root : options.root.Plain
  plain : out.Plain
  below : options.root.parts <+: out.parts
  strict : options.root.parts.length < out.parts.length
  output : ∀ ws : Workspace, ws.IsTree → options.outputPath ws host.cwd = .ok out
  integrations : ∀ integration ∈ project.integrations, Path.PlainPart integration.name
  operations : ∀ operation ∈ project.operations,
    Path.PlainPart operation.name ∧ Path.PlainPart operation.integration

namespace Artifact

/-- An artifact is the compiled form of a script, under the same directories. -/
structure IsOf (host : Host) (ws : Workspace) (root out source : Path) (a : Artifact) : Prop where
  script : IsSource root ws source
  output : ∃ dirs stem, stem ≠ "" ∧
    source.parts = root.parts ++ dirs ++ [stem ++ scriptSuffix] ∧
    a.path = { out with parts := out.parts ++ (dirs ++ [stem ++ compiledSuffix]) }
  code : a.code? = (host.verdict ws root source).toOption

variable {host : Host} {ws : Workspace} {root out source : Path} {a b : Artifact}

theorem IsOf.below (hof : a.IsOf host ws root out source) (hout : out.Plain) : a.Below out := by
  obtain ⟨dirs, stem, -, hparts, hpath⟩ := hof.output
  have hsource := hof.script.file.plain
  refine ⟨⟨?_, ?_⟩, ⟨stem, ?_⟩, ?_⟩
  · rw [hpath]
    exact hout.absolute
  · intro part hpart
    rw [hpath] at hpart
    simp only [List.mem_append, List.mem_singleton] at hpart
    rcases hpart with hold | hdir | rfl
    · exact hout.parts part hold
    · exact hsource.parts part (by simp [hparts, hdir])
    · refine Path.plainPart_append ?_ (by decide) rfl (by decide)
      have hlast := (hsource.parts (stem ++ scriptSuffix) (by simp [hparts])).no_slash
      rw [String.toList_append, List.mem_append, not_or] at hlast
      exact hlast.1
  · simp [hpath]
  · simp [hpath, Path.parent, ← List.append_assoc]

theorem stem_eq_of_append_eq {stem other suffix : String}
    (hsame : stem ++ suffix = other ++ suffix) : stem = other := by
  have hlists := congrArg String.toList hsame
  rw [String.toList_append, String.toList_append] at hlists
  exact String.toList_inj.mp (List.append_cancel_right hlists)

/-- The compiled forms of scripts at different places have different paths, so
no path is given two codes. -/
theorem IsOf.code?_eq (htree : ws.IsTree) (hroot : root.Plain) {other : Path}
    (hof : a.IsOf host ws root out source) (hother : b.IsOf host ws root out other)
    (hpath : a.path.parts = b.path.parts) : a.code? = b.code? := by
  obtain ⟨dirs, stem, -, hparts, ha⟩ := hof.output
  obtain ⟨dirs', stem', -, hparts', hb⟩ := hother.output
  rw [ha, hb, List.append_cancel_left_eq] at hpath
  obtain ⟨rfl, hlast⟩ := List.append_singleton_inj.mp hpath
  obtain rfl := stem_eq_of_append_eq hlast
  rw [hof.code, hother.code,
    Host.verdict_parts_congr htree hroot hof.script hother.script (hparts.trans hparts'.symm)]

theorem consistent_of_isOf (htree : ws.IsTree) (hroot : root.Plain) {artifacts : List Artifact}
    (hof : ∀ a ∈ artifacts, ∃ source, a.IsOf host ws root out source) :
    Consistent artifacts := by
  intro a ha b hb hpath
  obtain ⟨source, hsource⟩ := hof a ha
  obtain ⟨other, hother⟩ := hof b hb
  exact hsource.code?_eq htree hroot hother hpath

end Artifact

/-- To store compiled forms of scripts makes no difference to scripts. -/
theorem Build.Site.alike_of_gives_storeAll {host : Host} {options : BuildOptions}
    {project : Project} {out : Path} (hsite : Build.Site host options project out)
    {ws ws' ws'' : Workspace} (halike : project.Alike options.root out ws ws')
    {artifacts : List Artifact}
    (hof : ∀ a ∈ artifacts, ∃ source, a.IsOf host ws options.root out source)
    (hgives : Build.Gives (Build.storeAll artifacts) ws' () ws'') :
    project.Alike options.root out ws ws'' := by
  have hbelow : ∀ a ∈ artifacts, a.Below out := by
    intro a ha
    obtain ⟨source, hsource⟩ := hof a ha
    exact hsource.below hsite.plain
  obtain ⟨hstores, -⟩ := Build.holds_of_gives_storeAll halike.scripts.after hbelow
    (Artifact.consistent_of_isOf halike.scripts.before hsite.root hof) hgives
  exact halike.of_storesInto hsite.root hsite.integrations hsite.strict hbelow hstores

namespace ScriptJob

variable {job : ScriptJob} {host : Host} {ws ws' ws'' : Workspace} {out path : Path}

/-- The compiled form of a script lies below the output directory as the script
lies below the root. -/
theorem exists_output_of_isSource {cwd : Path} (htree : ws.IsTree)
    (hroot : job.options.root.Plain) (hout : job.options.outputPath ws cwd = .ok out)
    (hsource : IsSource job.options.root ws path) :
    ∃ dirs stem, stem ≠ "" ∧
      path.parts = job.options.root.parts ++ dirs ++ [stem ++ scriptSuffix] ∧
      job.output ws cwd path =
        .ok { out with parts := out.parts ++ (dirs ++ [stem ++ compiledSuffix]) } := by
  obtain ⟨dirs, stem, hstem, hparts⟩ := hsource.exists_parts
  refine ⟨dirs, stem, hstem, hparts, ?_⟩
  refine output_eq_ok_iff.mpr ⟨out, hout, ?_⟩
  rw [compiledPath_eq htree cwd out hsource.file.plain hroot hparts, Path.splitName_script hstem]

section Turns

variable {found said : List String} {artifacts : List Artifact}

/-- Everything that the turn of a file stores is its compiled form. -/
theorem isOf_of_turn (htree : ws.IsTree) (hroot : job.options.root.Plain)
    (hout : job.options.outputPath ws host.cwd = .ok out)
    (hsource : IsSource job.options.root ws path)
    (hturn : job.turn host ws found path = .ok (said, artifacts)) :
    ∀ a ∈ artifacts, a.IsOf host ws job.options.root out path := by
  obtain ⟨dirs, stem, hstem, hparts, houtput⟩ :=
    exists_output_of_isSource htree hroot hout hsource
  rw [turn] at hturn
  split at hturn
  · simp at hturn
  · split at hturn
    · rw [houtput] at hturn
      obtain ⟨-, rfl⟩ := Prod.mk.inj (Except.ok.inj hturn)
      intro a ha
      obtain rfl := List.mem_singleton.mp ha
      exact ⟨hsource, ⟨dirs, stem, hstem, hparts, rfl⟩, rfl⟩
    · obtain ⟨-, rfl⟩ := Prod.mk.inj (Except.ok.inj hturn)
      simp

/-- What the turns of some files say and store, one after the other. -/
def turns (job : ScriptJob) (host : Host) (ws : Workspace) :
    List String → List Path → Except BuildError (List String × List Artifact)
  | found, [] => .ok (found, [])
  | found, path :: rest => do
    let first ← job.turn host ws found path
    let others ← job.turns host ws first.1 rest
    pure (others.1, first.2 ++ others.2)

theorem turns_cons_eq_ok_iff {rest : List Path} :
    job.turns host ws found (path :: rest) = .ok (said, artifacts) ↔
      ∃ mid now later, job.turn host ws found path = .ok (mid, now) ∧
        job.turns host ws mid rest = .ok (said, later) ∧ artifacts = now ++ later := by
  simp only [turns, Outcome.bind_eq_ok_iff, pure, Except.pure, Except.ok.injEq, Prod.mk.injEq,
    Prod.exists]
  constructor
  · rintro ⟨mid, now, hfirst, _, later, hrest, rfl, rfl⟩
    exact ⟨mid, now, later, hfirst, hrest, rfl⟩
  · rintro ⟨mid, now, later, hfirst, hrest, rfl⟩
    exact ⟨mid, now, hfirst, said, later, hrest, rfl, rfl⟩

end Turns

/-- Everything that the turns of some files store is the compiled form of a script. -/
theorem isOf_of_turns (htree : ws.IsTree) (hroot : job.options.root.Plain)
    (hout : job.options.outputPath ws host.cwd = .ok out) {files : List Path}
    (hfiles : ∀ file ∈ files, IsSource job.options.root ws file)
    {found said : List String} {artifacts : List Artifact}
    (hturns : job.turns host ws found files = .ok (said, artifacts)) :
    ∀ a ∈ artifacts, ∃ file ∈ files, a.IsOf host ws job.options.root out file := by
  induction files generalizing found artifacts with
  | nil =>
      obtain ⟨-, rfl⟩ := Prod.mk.inj (Except.ok.inj hturns)
      simp
  | cons file rest ih =>
      obtain ⟨mid, now, later, hturn, hrest, rfl⟩ := turns_cons_eq_ok_iff.mp hturns
      have hfile := hfiles file List.mem_cons_self
      intro a ha
      rcases List.mem_append.mp ha with hnow | hlater
      · exact ⟨file, List.mem_cons_self, isOf_of_turn htree hroot hout hfile hturn a hnow⟩
      · obtain ⟨other, hother, hof⟩ :=
          ih (fun other hother => hfiles other (List.mem_cons_of_mem _ hother)) hrest a hlater
        exact ⟨other, List.mem_cons_of_mem _ hother, hof⟩

section Run

variable (hsite : Build.Site host job.options job.project out)
  (halike : job.project.Alike job.options.root out ws ws')

include hsite halike

variable {files : List Path} (hfiles : ∀ file ∈ files, IsSource job.options.root ws file)

include hfiles

/-- To run turns that are planned is to store what is planned. -/
theorem run_turns {found said : List String} {artifacts : List Artifact}
    (hturns : job.turns host ws found files = .ok (said, artifacts)) :
    (files.foldlM (job.compileFile host) found).run.run ws' =
      (do Build.storeAll artifacts
          pure said : Build (List String)).run.run ws' := by
  have hout := hsite.output ws halike.scripts.before
  induction files generalizing found artifacts ws' with
  | nil =>
      obtain ⟨rfl, rfl⟩ := Prod.mk.inj (Except.ok.inj hturns)
      rfl
  | cons file rest ih =>
      obtain ⟨mid, now, later, hturn, hrest, rfl⟩ := turns_cons_eq_ok_iff.mp hturns
      have hfile := hfiles file List.mem_cons_self
      have hnow := isOf_of_turn halike.scripts.before hsite.root hout hfile hturn
      rw [List.foldlM_cons,
        Build.run_bind_left (run_compileFile halike hsite.cwd hsite.root hfile found), hturn]
      simp only [Build.orStop, pure_bind, bind_assoc, Build.storeAll_append]
      refine Build.run_bind_congr fun _ ws'' hstore => ?_
      exact ih (hsite.alike_of_gives_storeAll halike (fun a ha => ⟨file, hnow a ha⟩) hstore)
        (fun other hother => hfiles other (List.mem_cons_of_mem _ hother)) hrest

/-- Turns that come to an end are planned. -/
theorem exists_turns_of_gives {found said : List String}
    (hgives : Build.Gives (files.foldlM (job.compileFile host) found) ws' said ws'') :
    ∃ artifacts, job.turns host ws found files = .ok (said, artifacts) := by
  have hout := hsite.output ws halike.scripts.before
  induction files generalizing found ws' with
  | nil =>
      obtain ⟨rfl, -⟩ := Build.gives_pure_iff.mp hgives
      exact ⟨[], rfl⟩
  | cons file rest ih =>
      have hfile := hfiles file List.mem_cons_self
      rw [List.foldlM_cons, Build.Gives,
        Build.run_bind_left (run_compileFile halike hsite.cwd hsite.root hfile found)] at hgives
      obtain ⟨mid, ws₁, hfirst, hrest⟩ := Build.gives_bind_iff.mp hgives
      obtain ⟨⟨next, now⟩, _, hnext, hlast⟩ := Build.gives_bind_iff.mp hfirst
      obtain ⟨hturn, rfl⟩ := Build.gives_orStop_iff.mp hnext
      obtain ⟨_, _, hstore, hpure⟩ := Build.gives_bind_iff.mp hlast
      obtain ⟨rfl, rfl⟩ := Build.gives_pure_iff.mp hpure
      have hnow := isOf_of_turn halike.scripts.before hsite.root hout hfile hturn
      obtain ⟨later, hlater⟩ :=
        ih (hsite.alike_of_gives_storeAll halike (fun a ha => ⟨file, hnow a ha⟩) hstore)
          (fun other hother => hfiles other (List.mem_cons_of_mem _ hother)) hrest
      exact ⟨now ++ later, turns_cons_eq_ok_iff.mpr ⟨_, now, later, hturn, hlater, rfl⟩⟩

end Run

/-- The job of an operation of the project, whose script was looked for in a
file system. -/
structure IsListed (job : ScriptJob) (ws : Workspace) : Prop where
  operation : job.location.operation ∈ job.project.operations
  located : job.location = job.location.operation.locate ws job.options.root

/-- The result of a job and what it stores. -/
def plan (job : ScriptJob) (host : Host) (ws : Workspace) :
    Except BuildError (FileResult × List Artifact) :=
  if job.location.isThere ws then
    (job.turns host ws [] (job.files ws host.cwd)).map fun (found, artifacts) =>
      ({ path := Path.shownText ws host.cwd job.location.path job.options.root
         operation := job.location.operation.name
         ok := found.isEmpty
         diagnostics := found }, artifacts)
  else .ok (job.missing ws host.cwd, [])

section Listed

variable (hsite : Build.Site host job.options job.project out) (hlisted : job.IsListed ws)

include hsite hlisted

theorem IsListed.place : job.location.path.Plain ∧ ScriptPlace job.location.path.parts := by
  obtain ⟨hname, hintegration⟩ := hsite.operations _ hlisted.operation
  rw [hlisted.located]
  exact Operation.place_locate hsite.root hname hintegration ws

theorem IsListed.placed (htree : ws.IsTree) (hthere : job.location.isThere ws = true) :
    job.Placed ws where
  tree := htree
  root := hsite.root
  integrations := hsite.integrations
  integration := (hsite.operations _ hlisted.operation).2
  operation := (hsite.operations _ hlisted.operation).1
  located := hlisted.located
  isThere := hthere

omit hsite hlisted in
/-- Everything that a script brings in has more in its name than the suffix. -/
theorem Placed.isSource (hplaced : job.Placed ws) {cwd : Path}
    (hreaches : job.Reaches ws cwd path) : IsSource job.options.root ws path := by
  have hbelow := hplaced.root_prefix_boundary.trans (hplaced.inside_of_reaches hreaches).below
  refine ⟨scriptFile_of_reaches hplaced.scriptFile hreaches, hbelow, ?_⟩
  cases hreaches with
  | refl =>
      have hfile := hplaced.plainPart_file
      refine ⟨job.location.operation.name, hplaced.operation.ne_empty, ?_⟩
      rcases hplaced.cases with ⟨hpath, -⟩ | ⟨hpath, -⟩
      · rw [hpath, Operation.flatPath]
        simp [Path.child_of_plainPart hfile]
      · rw [hpath, Operation.nestedPath]
        simp [Path.child_of_plainPart hfile]
  | @tail importer _ hbefore huses =>
      have himporter := (scriptFile_of_reaches hplaced.scriptFile hbefore).plain
      obtain ⟨ref, -, hmem⟩ := List.mem_flatMap.mp huses
      have hother := (ImportScope.mem_helpers_checkRelative.mp hmem).1
      exact ImportRef.exists_stem_of_mem_resolve himporter (List.mem_filter.mp hother).1

theorem IsListed.isSource_of_mem_files (htree : ws.IsTree)
    (hthere : job.location.isThere ws = true) :
    ∀ file ∈ job.files ws host.cwd, IsSource job.options.root ws file := by
  have hplaced := hlisted.placed hsite htree hthere
  intro file hfile
  exact hplaced.isSource (reaches_of_mem_files hfile)

/-- What a job stores is the compiled form of what its script brings in. -/
theorem IsListed.isOf_of_plan (htree : ws.IsTree) {result : FileResult}
    {artifacts : List Artifact} (hplan : job.plan host ws = .ok (result, artifacts)) :
    ∀ a ∈ artifacts, ∃ source, job.Placed ws ∧ job.Reaches ws host.cwd source ∧
      a.IsOf host ws job.options.root out source := by
  rw [plan] at hplan
  split at hplan
  · next hthere =>
    have hplaced := hlisted.placed hsite htree hthere
    obtain ⟨⟨found, stored⟩, hturns, heq⟩ := Outcome.map_eq_ok_iff.mp hplan
    obtain ⟨-, rfl⟩ := Prod.mk.inj heq
    intro a ha
    obtain ⟨file, hfile, hof⟩ := isOf_of_turns htree hsite.root (hsite.output ws htree)
      (hlisted.isSource_of_mem_files hsite htree hthere) hturns a ha
    exact ⟨file, hplaced, reaches_of_mem_files hfile, hof⟩
  · obtain ⟨-, rfl⟩ := Prod.mk.inj (Except.ok.inj hplan)
    simp

omit hsite hlisted in
theorem run_eq_of_isThere (hthere : job.location.isThere ws = true) :
    (job.run host).run.run ws =
      (do let found ← (job.order host ws).foldlM (job.compileFile host) []
          pure { path := Path.shownText ws host.cwd job.location.path job.options.root
                 operation := job.location.operation.name
                 ok := found.isEmpty
                 diagnostics := found } : Build FileResult).run.run ws := by
  rw [run, Build.Gives.run_bind_eq (Build.gives_get_iff.mpr ⟨rfl, rfl⟩)]
  rw [if_pos hthere, Build.run_bind_left (job.run_compile host ws), bind_assoc]
  simp only [pure_bind, progressOf]

omit hsite hlisted in
theorem run_eq_of_not_isThere (htree : ws.IsTree) (hthere : ¬job.location.isThere ws = true) :
    (job.run host).run.run ws = (.ok (job.missing ws host.cwd), ws) := by
  rw [run, Build.Gives.run_bind_eq (Build.gives_get_iff.mpr ⟨rfl, rfl⟩)]
  rw [if_neg hthere, resolveAll_of_isTree htree]
  rfl

variable (halike : job.project.Alike job.options.root out ws ws')

include halike

theorem IsListed.isThere_eq : job.location.isThere ws = job.location.isThere ws' := by
  obtain ⟨hplain, hplace⟩ := hlisted.place hsite
  exact halike.scripts.isFile_eq hplain hplace

/-- To run a job that is planned is to store what is planned. -/
theorem IsListed.run_eq {result : FileResult} {artifacts : List Artifact}
    (hplan : job.plan host ws = .ok (result, artifacts)) :
    (job.run host).run.run ws' =
      (do Build.storeAll artifacts
          pure result : Build FileResult).run.run ws' := by
  have hsame := hlisted.isThere_eq hsite halike
  rw [plan] at hplan
  by_cases hthere : job.location.isThere ws = true
  · rw [if_pos hthere] at hplan
    obtain ⟨⟨found, stored⟩, hturns, heq⟩ := Outcome.map_eq_ok_iff.mp hplan
    obtain ⟨rfl, rfl⟩ := Prod.mk.inj heq
    have hsources := hlisted.isSource_of_mem_files hsite halike.scripts.before hthere
    have hscript := (hlisted.placed hsite halike.scripts.before hthere).scriptFile
    rw [run_eq_of_isThere (hsame ▸ hthere), order_eq_of_sameScripts hscript halike.scripts,
      Build.run_bind_left (run_turns hsite halike hsources hturns), bind_assoc,
      ← halike.scripts.shownText_eq]
    simp only [pure_bind]
  · rw [if_neg hthere] at hplan
    obtain ⟨rfl, rfl⟩ := Prod.mk.inj (Except.ok.inj hplan)
    rw [run_eq_of_not_isThere halike.scripts.after (hsame ▸ hthere), missing, missing,
      halike.scripts.shownText_eq]
    rfl

/-- To store what is planned for a job makes no difference to scripts. -/
theorem IsListed.alike_of_gives_storeAll {result : FileResult} {artifacts : List Artifact}
    (hplan : job.plan host ws = .ok (result, artifacts))
    (hgives : Build.Gives (Build.storeAll artifacts) ws' () ws'') :
    job.project.Alike job.options.root out ws ws'' := by
  refine hsite.alike_of_gives_storeAll halike (fun a ha => ?_) hgives
  obtain ⟨source, -, -, hof⟩ := hlisted.isOf_of_plan hsite halike.scripts.before hplan a ha
  exact ⟨source, hof⟩

/-- A job that comes to an end is planned. -/
theorem IsListed.exists_plan_of_gives {result : FileResult}
    (hgives : Build.Gives (job.run host) ws' result ws'') :
    ∃ planned artifacts, job.plan host ws = .ok (planned, artifacts) := by
  rw [plan]
  by_cases hthere : job.location.isThere ws = true
  · have hsources := hlisted.isSource_of_mem_files hsite halike.scripts.before hthere
    have hscript := (hlisted.placed hsite halike.scripts.before hthere).scriptFile
    rw [Build.Gives, run_eq_of_isThere (hlisted.isThere_eq hsite halike ▸ hthere),
      order_eq_of_sameScripts hscript halike.scripts] at hgives
    obtain ⟨found, mid, hturns, -⟩ := Build.gives_bind_iff.mp hgives
    obtain ⟨artifacts, hplanned⟩ := exists_turns_of_gives hsite halike hsources hturns
    rw [if_pos hthere, hplanned]
    exact ⟨_, _, rfl⟩
  · rw [if_neg hthere]
    exact ⟨_, _, rfl⟩

end Listed

end ScriptJob

end IntegrationBuild
