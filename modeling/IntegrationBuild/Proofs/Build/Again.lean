import IntegrationBuild.Proofs.Build.Planned
import IntegrationBuild.Proofs.Ignore.Matcher

/-!
Building again.  A build that has come to its end leaves everything in place
that it would prepare, store and write, and finds the same scripts again.  So
on the file system that it leaves it changes nothing and answers the same,
unless a directory stands where a script that does not compile would go.
-/

namespace IntegrationBuild.Build

open Workspace (Extends Grown)

section Extends

theorem keeps_store (artifact : Artifact) : Keeps Extends (store artifact) := by
  refine keeps_bind (keeps_change fun _ _ => Workspace.extends_makeDirectories) fun _ => ?_
  refine keeps_bind (keeps_checkFree _) fun _ => ?_
  split
  · exact keeps_change fun _ _ => Workspace.extends_write
  · exact keeps_pure _

/-- To store compiled scripts puts new directories after those that are there. -/
theorem keeps_storeAll (artifacts : List Artifact) : Keeps Extends (storeAll artifacts) := by
  induction artifacts with
  | nil => exact keeps_pure _
  | cons artifact rest ih => exact keeps_bind (keeps_store artifact) fun _ => ih

theorem extends_of_gives_writeJson {ws ws' : Workspace} {path : Path} {json : Json}
    (hgives : Gives (writeJson path json) ws () ws') : Extends ws ws' := by
  obtain ⟨mid, text, hmake, -, hwrite⟩ := gives_writeJson_iff.mp hgives
  exact trans_of Extends (Workspace.extends_makeDirectories hmake)
    (Workspace.extends_write hwrite)

end Extends

/-- A build writes no file of another name. -/
theorem not_buildPlace {location : Location} {name : String}
    (hlast : location.getLast? = some name) (hscript : name.toList.getLast? ≠ some 'y')
    (hcompiled : name.toList.getLast? ≠ some 'c') (hproject : name ≠ projectDocument)
    (hreport : name ≠ reportDocument) : ¬BuildPlace location := by
  rintro ⟨-, hplace | hplace | hplace | hplace⟩
  · exact not_scriptPlace hlast hscript hplace
  · exact not_compiledPlace hlast hcompiled hplace
  · exact hproject (Option.some.inj (hlast.symm.trans hplace))
  · exact hreport (Option.some.inj (hlast.symm.trans hplace))

variable {host : Host} {options : BuildOptions} {project : Project} {start final : Workspace}
  {report : BuildReport}

namespace Course

section Facts

variable (course : Course host options project start report final)
  (hplain : IsPlain host options start)
  (hload : Project.load start options.root = .ok project)

include course hplain hload

/-- The report is there in the end, and nothing else has come with it. -/
theorem holdsJson_report :
    course.compiled.Grown (· <+: course.out.parts)
        (· = (course.out.child reportDocument).parts) final ∧
      HoldsJson final (course.out.child reportDocument) report.toJson := by
  have hsite := course.site hplain hload
  obtain ⟨hstores, -, -⟩ := course.holds_compiled hplain hload
  obtain ⟨-, hparent⟩ := document_place course.out plainPart_reportDocument
  rw [← hparent]
  exact holds_of_gives_writeJson hstores.after
    (Path.plain_child_of_plainPart hsite.plain plainPart_reportDocument) course.reports

/-- Whatever the jobs stored is still there in the end. -/
theorem holds_final {artifact : Artifact} (hplace : CompiledPlace artifact.path.parts)
    (hholds : artifact.Holds course.compiled) : artifact.Holds final := by
  obtain ⟨hgrown, -⟩ := course.holdsJson_report hplain hload
  refine Holds.of_grown hholds hgrown fun hpath => ?_
  obtain ⟨hlast, -⟩ := document_place course.out plainPart_reportDocument
  exact not_compiledPlace (hpath ▸ hlast) (by decide) hplace

/-- In the end everything is as it was for the scripts when their jobs began. -/
theorem alike_final : project.Alike options.root course.out course.prepared final := by
  have hsite := course.site hplain hload
  have hplanned := course.arePlanned hplain hload
  have halike := course.alike hplain hload
  obtain ⟨hgrown, -⟩ := course.holdsJson_report hplain hload
  have hcompiled := hplanned.alike hsite halike (course.gives_storeAll hplain hload).2
  refine hcompiled.of_grown hsite.root hsite.integrations hsite.strict hgrown
    (fun _ hway _ => hway) ?_
  rintro _ rfl
  obtain ⟨hlast, -⟩ := document_place course.out plainPart_reportDocument
  exact not_scriptPlace hlast (by decide)

/-- Since the jobs began, directories have come at plain places and files where
a build writes them. -/
theorem grown_final :
    course.prepared.Grown (fun location => ∀ part ∈ location, Path.PlainPart part)
      BuildPlace final := by
  have hsite := course.site hplain hload
  have hbelow := course.below hplain hload
  obtain ⟨hstores, -, -⟩ := course.holds_compiled hplain hload
  obtain ⟨hgrown, -⟩ := course.holdsJson_report hplain hload
  refine (Grown.mono hstores ?_ ?_).trans (hgrown.mono ?_ ?_)
  · rintro location ⟨a, ha, hway⟩ part hpart
    exact (hbelow a ha).parent_plain.parts part (hway.subset hpart)
  · rintro location ⟨a, ha, rfl, -⟩
    exact ⟨(hbelow a ha).plain.parts, Or.inr (Or.inl (hbelow a ha).place)⟩
  · exact fun location hway part hpart => hsite.plain.parts part (hway.subset hpart)
  · rintro _ rfl
    have hpath := Path.plain_child_of_plainPart hsite.plain plainPart_reportDocument
    obtain ⟨hlast, -⟩ := document_place course.out plainPart_reportDocument
    exact ⟨hpath.parts, Or.inr (Or.inr (Or.inr hlast))⟩

/-- The project file is not touched. -/
theorem load_final : Project.load final options.root = .ok project := by
  obtain ⟨-, hprepared⟩ := course.isPrepared hplain hload
  have hfile : Path.PlainPart Project.fileName := by decide
  have hpath := Path.plain_child_of_plainPart hplain.root hfile
  have hplace : ¬BuildPlace (options.root.child Project.fileName).parts := by
    have hlast : (options.root.child Project.fileName).parts.getLast? = some Project.fileName := by
      simp [Path.child_of_plainPart hfile]
    exact not_buildPlace hlast (by decide) (by decide) (by decide) (by decide)
  rw [← hload, Project.load, Project.load, Project.filePath, hprepared.read?_eq hpath hplace,
    (course.grown_final hplain hload).read?_eq hpath hplace]

/-- What was prepared is still prepared in the end. -/
theorem prepared_final : Prepared host options project course.out final := by
  have hsite := course.site hplain hload
  have hplanned := course.arePlanned hplain hload
  obtain ⟨hprepared, -⟩ := course.isPrepared hplain hload
  obtain ⟨hstores, hholds, -⟩ := course.holds_compiled hplain hload
  obtain ⟨hgrown, -⟩ := course.holdsJson_report hplain hload
  have htree := hprepared.tree
  have hof := isOf_models host course.out hplain.models hprepared.source
  -- the compiled models module may be stored again, with the code that it has
  have hsources : ∀ a ∈
      host.artifact course.prepared options.root (options.settings.modelsPath options.root)
          (compiledModels course.out options.settings) ::
        stored host options project course.prepared course.locations,
      ∃ source, a.IsOf host course.prepared options.root course.out source :=
    List.forall_mem_cons.mpr ⟨⟨_, hof⟩, hplanned.exists_isOf hsite htree⟩
  have hconsistent := Artifact.consistent_of_isOf htree hsite.root hsources
  have hcompiled := Holds.of_storesInto hconsistent (hprepared.holds_models hplain.models)
    hstores hholds
  refine hprepared.of_alike hsite (course.alike_final hplain hload)
    (course.holds_final hplain hload (hof.below hsite.plain).place hcompiled) ?_
  obtain ⟨hlast, -⟩ := document_place course.out plainPart_projectDocument
  have hdocument := hprepared.document.of_grown hstores (by
    rintro ⟨a, ha, hplace, -⟩
    exact not_compiledPlace (hplace ▸ hlast) (by decide) (course.below hplain hload a ha).place)
  refine hdocument.of_grown hgrown fun hplace => ?_
  rw [Path.child_of_plainPart plainPart_projectDocument,
    Path.child_of_plainPart plainPart_reportDocument] at hplace
  simp [projectDocument, reportDocument] at hplace

/-- The same scripts are found again. -/
theorem finds_final :
    project.scripts final host.cwd options.root
      (outputFolder final host.cwd course.out options.root) options.settings.nestedIgnore =
        .ok course.locations := by
  have hsite := course.site hplain hload
  have hsame := (course.alike_final hplain hload).scripts
  have hgrown := course.grown_final hplain hload
  obtain ⟨hprepared, hstart⟩ := course.isPrepared hplain hload
  have hplaces : final.PlainPlaces := by
    have hprepared : course.prepared.PlainPlaces :=
      (Workspace.plainPlaces_of_forall_mem hplain.places).of_grown hstart
        (fun location hway part hpart => hsite.plain.parts part (hway.subset hpart))
        fun location hplace => hplace.parts
    exact hprepared.of_grown hgrown (fun _ => id) fun location hplace => hplace.parts
  have hextends : Extends course.prepared final := by
    have hstore := keeps_storeAll (stored host options project course.prepared course.locations)
      course.prepared
    rw [(course.gives_storeAll hplain hload).2.after_eq] at hstore
    exact trans_of Extends hstore (extends_of_gives_writeJson course.reports)
  have hroot : course.prepared.entry? options.root.parts = some .directory :=
    hprepared.tree.entry?_of_prefix hsite.below hprepared.directory
  have hmatcher := Ignore.matcher?_congr hgrown (fun location hlast =>
      not_buildPlace hlast (by decide) (by decide) (by decide) (by decide))
    hextends hplaces hplain.root hroot options.settings.nestedIgnore
  rw [outputFolder, ← hsame.shownText_eq,
    ← Project.scripts_congr hsame hplain.root hsite.operations hmatcher]
  exact course.finds

/-- Without a clash of names, no directory has come where a script is stored. -/
theorem entry?_ne_directory_of_noClash (hclash : NoClash project options.root course.prepared) :
    ∀ a ∈ stored host options project course.prepared course.locations,
      final.entry? a.path.parts ≠ some .directory := by
  have hsite := course.site hplain hload
  have hplanned := course.arePlanned hplain hload
  have htree := (course.isPrepared hplain hload).1.tree
  have hapart := hplanned.apart hsite htree hclash
  obtain ⟨hstores, -, hplaces⟩ := course.holds_compiled hplain hload
  obtain ⟨hgrown, -⟩ := course.holdsJson_report hplain hload
  intro a ha hdirectory
  have hbelow := course.below hplain hload a ha
  obtain ⟨part, hparts⟩ := hbelow.exists_concat
  have hcompiled : course.compiled.entry? a.path.parts = some .directory := by
    refine (hgrown.directory_iff fun hway => ?_).mp hdirectory
    exact Path.not_prefix_parent hparts (hway.trans hbelow.below)
  refine hplaces a ha ((Workspace.Grown.directory_iff hstores ?_).mp hcompiled)
  rintro ⟨b, hb, hway⟩
  exact hapart a ha b hb hway

/-- To build again is to store again what is stored, and to report it again. -/
theorem run_again :
    (compileLoaded host options project).run.run final =
      (do storeAll (stored host options project course.prepared course.locations)
          writeJson (course.out.child reportDocument) report.toJson
          pure report : Build BuildReport).run.run final := by
  have hsite := course.site hplain hload
  have hprepare := (course.prepared_final hplain hload).gives_prepare hsite hplain.models
  have hfinds : Gives (orStop .ignored (project.scripts final host.cwd options.root
      (outputFolder final host.cwd course.out options.root) options.settings.nestedIgnore))
      final course.locations final :=
    gives_orStop_iff.mpr ⟨course.finds_final hplain hload, rfl⟩
  have hfiles := (course.gives_storeAll hplain hload).1
  rw [compileLoaded_eq, hprepare.run_bind_eq,
    Gives.run_bind_eq (gives_get_iff.mpr ⟨rfl, rfl⟩), hfinds.run_bind_eq,
    if_neg (not_le.mpr course.workers),
    run_bind_left ((course.arePlanned hplain hload).run_eq hsite
      (course.alike_final hplain hload)), ← hfiles]
  simp only [bind_assoc, pure_bind]
  rw [← course.report_eq]

end Facts

end Course

/-- A build that has come to its end, made again, changes nothing.  It answers
the same, unless a directory stands where a script that does not compile would
go; and none does where no integration is named like the compiled form of a
script at the root. -/
theorem run_compileProject_of_gives (hplain : IsPlain host options start)
    (hgives : Gives (compileProject host options) start report final) :
    (compileProject host options).run.run final = (.ok report, final) ∨
      ∃ project path, Project.load start options.root = .ok project ∧
        ¬NoClash project options.root final ∧
        (compileProject host options).run.run final = (.error (.occupied path false), final) := by
  rcases gives_compileProject_iff.mp hgives with ⟨project, hload, hloaded⟩ | ⟨_, -, -, rfl⟩
  · obtain ⟨course⟩ := gives_compileLoaded_iff.mp hloaded
    have hsite := course.site hplain hload
    have hbelow := course.below hplain hload
    obtain ⟨hstores, hholds, hplaces⟩ := course.holds_compiled hplain hload
    obtain ⟨hgrown, hreport⟩ := course.holdsJson_report hplain hload
    have hagain : (compileProject host options).run.run final =
        (compileLoaded host options project).run.run final := by
      rw [compileProject, Gives.run_bind_eq (gives_get_iff.mpr ⟨rfl, rfl⟩),
        course.load_final hplain hload]
    rw [hagain, course.run_again hplain hload]
    rcases run_storeAll_of_holds hgrown.after hbelow
      (fun a ha => course.holds_final hplain hload (hbelow a ha).place (hholds a ha)) with
      hdone | ⟨a, ha, -, hdirectory, hstop⟩
    · left
      have hwrite := hreport.gives_writeJson hgrown.after
        (Path.plain_child_of_plainPart hsite.plain plainPart_reportDocument)
      rw [Gives.run_bind_eq hdone, hwrite.run_bind_eq]
      rfl
    · right
      refine ⟨project, a.path, hload, fun hclash => ?_, ?_⟩
      · have hclash := hclash.of_sameScripts (course.alike_final hplain hload).scripts.symm
          hsite
        exact course.entry?_ne_directory_of_noClash hplain hload hclash a ha hdirectory
      · rw [run_bind, hstop]
  · exact Or.inl hgives

/-- The build of the pair, made again, changes nothing and answers the same. -/
theorem run_compileProject_of_gives_pair :
    IsPlain pairHost pairOptions pairWorkspace ∧ ∃ report final,
      Gives (compileProject pairHost pairOptions) pairWorkspace report final ∧
      report.success = true ∧
      (compileProject pairHost pairOptions).run.run final = (.ok report, final) := by
  obtain ⟨project, report, final, hload, hrun, hsuccess⟩ := exists_pairRun_eq
  refine ⟨isPlain_pair, report, final, hrun, hsuccess, ?_⟩
  rcases run_compileProject_of_gives isPlain_pair hrun with hagain | ⟨other, _, hother, hclash, -⟩
  · exact hagain
  · exact absurd (noClash_pair hother final) hclash

section Clash

/-- A script at the root that does not compile, and an integration that has the
name of its compiled form. -/
def clashWorkspace : Workspace :=
  { entries :=
      [(["p"], .directory),
        (["p", "nango.yaml"], .file ("\x7bintegrations: \x7bg: \x7bsyncs: \x7ba: " ++
          "\x7bendpoint: GET /a\x7d\x7d\x7d, a.pyc: \x7bsyncs: \x7bb: " ++
          "\x7bendpoint: GET /b\x7d\x7d\x7d\x7d\x7d").toUTF8),
        (["p", "a.py"], .file "async def fetch_data(nango): pass\nreturn\n".toUTF8),
        (["p", "a.pyc"], .directory), (["p", "a.pyc", "syncs"], .directory),
        (["p", "a.pyc", "syncs", "b.py"],
          .file "async def fetch_data(nango): pass\n".toUTF8)] }

/-- The first build makes a directory where the second one would store the
script that does not compile. -/
theorem exists_clash_stops : ∃ project report final error,
    Project.load clashWorkspace pairOptions.root = .ok project ∧
      Gives (compileProject pairHost pairOptions) clashWorkspace report final ∧
      ((compileProject pairHost pairOptions).run.run final).1 = .error error ∧
      (∀ integration ∈ project.integrations, Path.PlainPart integration.name) ∧
      ∀ operation ∈ project.operations, Path.PlainPart operation.name := by
  obtain ⟨project, report, final, hload, hrun, hstop, hnames⟩ : ∃ project report final,
      Project.load clashWorkspace pairOptions.root = .ok project ∧
        Gives (compileProject pairHost pairOptions) clashWorkspace report final ∧
        ((compileProject pairHost pairOptions).run.run final).1.isOk = false ∧
        (∀ integration ∈ project.integrations, Path.PlainPart integration.name) ∧
        ∀ operation ∈ project.operations, Path.PlainPart operation.name :=
    exists_report_of_decide (by decide +kernel)
  cases hagain : ((compileProject pairHost pairOptions).run.run final).1 with
  | ok _ =>
      rw [hagain] at hstop
      cases hstop
  | error error => exact ⟨project, report, final, error, hload, hrun, hagain, hnames⟩

theorem isPlain_clash : IsPlain pairHost pairOptions clashWorkspace := by
  have htree : clashWorkspace.IsTree := Workspace.isTree_of_all (by decide)
  refine ⟨htree, ?_, isPlain_pair.cwd, isPlain_pair.root, isPlain_pair.models, ?_, ?_⟩
  · intro place hplace
    simp only [clashWorkspace, List.mem_cons, List.not_mem_nil, or_false] at hplace
    rcases hplace with rfl | rfl | rfl | rfl | rfl | rfl <;> decide
  · intro path hpath
    rw [Settings.outputPath_congr htree isPlain_pair.tree]
    exact isPlain_pair.outDir path hpath
  · intro project hload
    obtain ⟨loaded, _, _, _, hloaded, -, -, hnames⟩ := exists_clash_stops
    cases hload.symm.trans hloaded
    exact hnames

/-- A build that has come to its end may stop when it is made again. -/
theorem exists_not_gives_again :
    IsPlain pairHost pairOptions clashWorkspace ∧ ∃ report final,
      Gives (compileProject pairHost pairOptions) clashWorkspace report final ∧
      ¬Gives (compileProject pairHost pairOptions) final report final := by
  obtain ⟨_, report, final, error, -, hrun, hstop, -⟩ := exists_clash_stops
  refine ⟨isPlain_clash, report, final, hrun, fun hagain => ?_⟩
  have hok : (compileProject pairHost pairOptions).run.run final = (.ok report, final) := hagain
  rw [hok] at hstop
  cases hstop

end Clash

end IntegrationBuild.Build
