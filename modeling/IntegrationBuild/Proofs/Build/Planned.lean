import IntegrationBuild.Proofs.Build.Prepared
import IntegrationBuild.Proofs.Layout.Listing

/-!
The plan of a build.  To run the jobs of some scripts is to store what is
planned for each of them, wherever the file systems are alike; and without a
clash of names no compiled script lies on the way to another.
-/

namespace IntegrationBuild.Build

variable {host : Host} {options : BuildOptions} {project : Project} {out : Path}
  {ws ws' ws'' : Workspace} {locations : List ScriptLocation}

/-- What is planned for a script: its result and what is stored. -/
def planned (host : Host) (options : BuildOptions) (project : Project) (ws : Workspace)
    (location : ScriptLocation) : FileResult × List Artifact :=
  match (job project options location).plan host ws with
  | .ok plan => plan
  | .error _ => ((job project options location).missing ws host.cwd, [])

/-- What is stored for some scripts. -/
def stored (host : Host) (options : BuildOptions) (project : Project) (ws : Workspace)
    (locations : List ScriptLocation) : List Artifact :=
  locations.flatMap fun location => (planned host options project ws location).2

/-- Scripts that were looked for in a file system, and whose jobs are planned. -/
structure ArePlanned (host : Host) (options : BuildOptions) (project : Project) (ws : Workspace)
    (locations : List ScriptLocation) : Prop where
  listed : ∀ location ∈ locations, (job project options location).IsListed ws
  plan : ∀ location ∈ locations, (job project options location).plan host ws =
    .ok ((planned host options project ws location).1,
      (planned host options project ws location).2)

theorem ArePlanned.subset {others : List ScriptLocation}
    (hplanned : ArePlanned host options project ws locations) (hsubset : others ⊆ locations) :
    ArePlanned host options project ws others :=
  ⟨fun location hmem => hplanned.listed location (hsubset hmem),
    fun location hmem => hplanned.plan location (hsubset hmem)⟩

theorem isListed_of_scripts {folder : String} {nested : Bool}
    (hscripts : project.scripts ws host.cwd options.root folder nested = .ok locations) :
    ∀ location ∈ locations, (job project options location).IsListed ws := by
  rw [Project.scripts] at hscripts
  split at hscripts
  · cases hscripts
  · intro location hmem
    rw [(locateAll_eq_ok_iff.mp hscripts).2] at hmem
    obtain ⟨operation, hkept, rfl⟩ := List.mem_map.mp hmem
    have hoperation := (List.mem_filter.mp hkept).1
    have hhome := operation.operation_locate ws options.root
    exact ⟨by simpa [job, hhome] using hoperation, by simp [job, hhome]⟩

section Jobs

variable (hsite : Site host options project out)

include hsite

/-- What is stored for scripts is the compiled form of what they bring in. -/
theorem ArePlanned.isOf (hplanned : ArePlanned host options project ws locations)
    (htree : ws.IsTree) : ∀ a ∈ stored host options project ws locations,
      ∃ location ∈ locations, ∃ source, (job project options location).Placed ws ∧
        (job project options location).Reaches ws host.cwd source ∧
        a.IsOf host ws options.root out source := by
  intro a ha
  obtain ⟨location, hmem, hstored⟩ := List.mem_flatMap.mp ha
  exact ⟨location, hmem, (hplanned.listed location hmem).isOf_of_plan hsite htree
    (hplanned.plan location hmem) a hstored⟩

theorem ArePlanned.exists_isOf (hplanned : ArePlanned host options project ws locations)
    (htree : ws.IsTree) : ∀ a ∈ stored host options project ws locations,
      ∃ source, a.IsOf host ws options.root out source := by
  intro a ha
  obtain ⟨_, -, source, -, -, hof⟩ := hplanned.isOf hsite htree a ha
  exact ⟨source, hof⟩

/-- To run jobs that are planned is to store what is planned for them. -/
theorem ArePlanned.run_eq (hplanned : ArePlanned host options project ws locations)
    (halike : project.Alike options.root out ws ws') :
    (runAll host options project locations).run.run ws' =
      (do storeAll (stored host options project ws locations)
          pure (locations.map fun location => (planned host options project ws location).1) :
        Build (List FileResult)).run.run ws' := by
  induction locations generalizing ws' with
  | nil => rfl
  | cons location rest ih =>
      have hlisted := hplanned.listed location List.mem_cons_self
      have hfirst := hplanned.plan location List.mem_cons_self
      have hrest := hplanned.subset (List.subset_cons_self location rest)
      have hstored : stored host options project ws (location :: rest) =
          (planned host options project ws location).2 ++
            stored host options project ws rest := rfl
      rw [runAll, List.mapM_cons,
        run_bind_left (hlisted.run_eq hsite halike hfirst), hstored, storeAll_append]
      simp only [bind_assoc, pure_bind]
      refine run_bind_congr fun _ mid hstore => ?_
      have hnext := ih hrest (hlisted.alike_of_gives_storeAll hsite halike hfirst hstore)
      rw [runAll] at hnext
      rw [run_bind_left hnext]
      simp only [bind_assoc, pure_bind, List.map_cons]

/-- Jobs that come to an end are planned. -/
theorem arePlanned_of_gives {results : List FileResult}
    (hlisted : ∀ location ∈ locations, (job project options location).IsListed ws)
    (halike : project.Alike options.root out ws ws')
    (hgives : Gives (runAll host options project locations) ws' results ws'') :
    ArePlanned host options project ws locations := by
  refine ⟨hlisted, ?_⟩
  induction locations generalizing ws' ws'' results with
  | nil => simp
  | cons location rest ih =>
      have hfirst := hlisted location List.mem_cons_self
      rw [runAll, List.mapM_cons] at hgives
      obtain ⟨result, mid, hrun, hrest⟩ := gives_bind_iff.mp hgives
      obtain ⟨others, _, hothers, -⟩ := gives_bind_iff.mp hrest
      obtain ⟨result', artifacts, hplan⟩ := hfirst.exists_plan_of_gives hsite halike hrun
      have heq : (job project options location).plan host ws =
          .ok ((planned host options project ws location).1,
            (planned host options project ws location).2) := by
        rw [planned, hplan]
      rw [Gives, hfirst.run_eq hsite halike heq] at hrun
      obtain ⟨_, _, hstore, hpure⟩ := gives_bind_iff.mp hrun
      obtain ⟨-, rfl⟩ := gives_pure_iff.mp hpure
      have hmid := hfirst.alike_of_gives_storeAll hsite halike heq hstore
      intro other hother
      rcases List.mem_cons.mp hother with rfl | hother
      · exact heq
      · exact ih (fun l hl => hlisted l (List.mem_cons_of_mem _ hl)) hmid hothers other hother

theorem ArePlanned.gives_iff (hplanned : ArePlanned host options project ws locations)
    (halike : project.Alike options.root out ws ws') {results : List FileResult} :
    Gives (runAll host options project locations) ws' results ws'' ↔
      results = locations.map (fun location => (planned host options project ws location).1) ∧
        Gives (storeAll (stored host options project ws locations)) ws' () ws'' := by
  rw [Gives, hplanned.run_eq hsite halike, ← Gives, gives_bind_iff]
  simp only [gives_pure_iff]
  constructor
  · rintro ⟨_, _, hstore, rfl, rfl⟩
    exact ⟨rfl, hstore⟩
  · rintro ⟨rfl, hstore⟩
    exact ⟨(), ws'', hstore, rfl, rfl⟩

theorem ArePlanned.below (hplanned : ArePlanned host options project ws locations)
    (htree : ws.IsTree) : ∀ a ∈ stored host options project ws locations, a.Below out := by
  intro a ha
  obtain ⟨source, hof⟩ := hplanned.exists_isOf hsite htree a ha
  exact hof.below hsite.plain

/-- What is stored for scripts is there, and before no directory stood in its
place. -/
theorem ArePlanned.holds (hplanned : ArePlanned host options project ws locations)
    (htree : ws.IsTree)
    (hgives : Gives (storeAll (stored host options project ws locations)) ws () ws') :
    StoresInto (stored host options project ws locations) ws ws' ∧
      (∀ a ∈ stored host options project ws locations, a.Holds ws') ∧
      ∀ a ∈ stored host options project ws locations,
        ws.entry? a.path.parts ≠ some .directory :=
  holds_of_gives_storeAll htree (hplanned.below hsite htree)
    (Artifact.consistent_of_isOf htree hsite.root (hplanned.exists_isOf hsite htree)) hgives

/-- To store what is planned for scripts makes no difference to scripts. -/
theorem ArePlanned.alike (hplanned : ArePlanned host options project ws locations)
    (halike : project.Alike options.root out ws ws')
    (hgives : Gives (storeAll (stored host options project ws locations)) ws' () ws'') :
    project.Alike options.root out ws ws'' :=
  hsite.alike_of_gives_storeAll halike (hplanned.exists_isOf hsite halike.scripts.before) hgives

end Jobs

section Clash

/-- No integration has the name of the compiled form of a script at the root. -/
def NoClash (project : Project) (root : Path) (ws : Workspace) : Prop :=
  ∀ operation ∈ project.operations, ∀ stem, operation.integration = stem ++ compiledSuffix →
    ws.isFile (root.child (stem ++ scriptSuffix)) = false

theorem noClash_pair {project : Project}
    (hload : Project.load pairWorkspace pairOptions.root = .ok project) (ws : Workspace) :
    NoClash project pairOptions.root ws := by
  intro operation hmem stem hname
  rw [((names_pair hload).2 operation hmem).1] at hname
  have hlast : compiledSuffix.toList.getLast? = some 'c' := rfl
  exact absurd hname.symm (append_ne hlast (by decide))

theorem NoClash.of_sameScripts (hclash : NoClash project options.root ws)
    (hsame : SameScripts ws ws') (hsite : Site host options project out) :
    NoClash project options.root ws' := by
  intro operation hmem stem hname
  have hslash := (hsite.operations operation hmem).2.no_slash
  rw [hname, String.toList_append, List.mem_append, not_or] at hslash
  have hfile := plainPart_script hslash.1
  rw [← hsame.isFile_eq (Path.plain_child_of_plainPart hsite.root hfile)
    ⟨stem, by simp [Path.child_of_plainPart hfile]⟩]
  exact hclash operation hmem stem hname

theorem dot_mem_compiled (stem : String) : '.' ∈ (stem ++ compiledSuffix).toList := by
  simp [String.toList_append, compiledSuffix]

/-- Without a clash of names, no compiled script lies on the way to another. -/
theorem ArePlanned.apart (hsite : Site host options project out)
    (hplanned : ArePlanned host options project ws locations) (htree : ws.IsTree)
    (hclash : NoClash project options.root ws) :
    Apart (stored host options project ws locations) := by
  intro a ha b hb hprefix
  obtain ⟨_, -, source, -, -, hof⟩ := hplanned.isOf hsite htree a ha
  obtain ⟨location, hmem, other, hplaced, hreaches, hother⟩ := hplanned.isOf hsite htree b hb
  obtain ⟨dirs, stem, -, hparts, hpath⟩ := hof.output
  obtain ⟨dirs', stem', -, hparts', hpath'⟩ := hother.output
  have hway : dirs ++ [stem ++ compiledSuffix] <+: dirs' := by
    have hparent : b.path.parent.parts = out.parts ++ dirs' := by
      rw [hpath', Path.parent, ← List.append_assoc, List.dropLast_concat]
    rw [hpath, hparent] at hprefix
    exact (List.prefix_append_right_inj _).mp hprefix
  -- below the boundary no directory has a dot in its name
  have hdotless := (hplaced.inside_of_reaches hreaches).dotless
  have hbelow := (hplaced.inside_of_reaches hreaches).below
  rw [hparts', List.dropLast_concat] at hdotless hbelow
  rcases hplaced.cases with ⟨-, hboundary⟩ | ⟨-, hboundary⟩
  · rw [hboundary] at hdotless
    refine hdotless (stem ++ compiledSuffix) ?_ (dot_mem_compiled stem)
    change _ ∈ (options.root.parts ++ dirs').drop options.root.parts.length
    rw [List.drop_left]
    exact hway.subset (by simp)
  · rw [hboundary, Path.child_of_plainPart hplaced.integration] at hdotless hbelow
    obtain ⟨more, hmore⟩ := (List.prefix_append_right_inj _).mp hbelow
    rw [← hmore] at hway hdotless
    cases dirs with
    | nil =>
        have hname := (List.cons_prefix_cons.mp hway).1
        have hfree := hclash _ (hplanned.listed location hmem).operation stem hname.symm
        have hlast := hof.script.file.plain.parts (stem ++ scriptSuffix) (by simp [hparts])
        rw [ws.isFile_parts_congr (q := source)
          (by rw [Path.child_of_plainPart hlast, hparts, List.append_nil]),
          hof.script.file.isFile] at hfree
        cases hfree
    | cons first rest =>
        refine hdotless (stem ++ compiledSuffix) ?_ (dot_mem_compiled stem)
        have hrest : stem ++ compiledSuffix ∈ more :=
          (List.cons_prefix_cons.mp hway).2.subset (by simp)
        change _ ∈ (options.root.parts ++ (_ :: more)).drop (options.root.parts ++ [_]).length
        rw [List.append_cons options.root.parts _ more, List.drop_left]
        exact hrest

end Clash

variable {start final : Workspace} {report : BuildReport}

namespace Course

section Facts

variable (course : Course host options project start report final)
  (hplain : IsPlain host options start)
  (hload : Project.load start options.root = .ok project)

include hplain hload

theorem site : Site host options project course.out :=
  hplain.site hload (gives_prepare_iff.mp course.prepares).1

theorem isPrepared : Prepared host options project course.out course.prepared ∧
    start.Grown (· <+: course.out.parts) BuildPlace course.prepared :=
  prepared_of_gives_prepare (course.site hplain hload) hplain.models hplain.tree course.prepares

theorem alike :
    project.Alike options.root course.out course.prepared course.prepared := by
  obtain ⟨hprepared, -⟩ := course.isPrepared hplain hload
  exact ⟨.refl hprepared.tree, fun _ _ => rfl, hprepared.directory⟩

theorem arePlanned :
    ArePlanned host options project course.prepared course.locations :=
  arePlanned_of_gives (course.site hplain hload) (isListed_of_scripts course.finds)
    (course.alike hplain hload) course.runs

/-- The jobs give what was planned, and store it. -/
theorem gives_storeAll :
    report.files = course.locations.map
        (fun location => (planned host options project course.prepared location).1) ∧
      Gives (storeAll (stored host options project course.prepared course.locations))
        course.prepared () course.compiled :=
  ((course.arePlanned hplain hload).gives_iff (course.site hplain hload)
    (course.alike hplain hload)).mp course.runs

/-- What the jobs store lies below the output directory. -/
theorem below : ∀ a ∈ stored host options project course.prepared course.locations,
    a.Below course.out :=
  (course.arePlanned hplain hload).below (course.site hplain hload)
    (course.isPrepared hplain hload).1.tree

/-- What the jobs store is there once they are done. -/
theorem holds_compiled :
    let artifacts := stored host options project course.prepared course.locations
    StoresInto artifacts course.prepared course.compiled ∧
      (∀ a ∈ artifacts, a.Holds course.compiled) ∧
      ∀ a ∈ artifacts, course.prepared.entry? a.path.parts ≠ some .directory :=
  (course.arePlanned hplain hload).holds (course.site hplain hload)
    (course.isPrepared hplain hload).1.tree (course.gives_storeAll hplain hload).2

end Facts

end Course

end IntegrationBuild.Build
