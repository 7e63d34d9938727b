import IntegrationBuild.Proofs.Build.Planned

/-!
Schedules of a build.  Whatever the number of workers and whatever the order in
which the scripts are compiled, a build without links comes to the same report
and the same file system, unless a write fails.
-/

namespace IntegrationBuild.Build

open Workspace (SameEntries)

section Report

variable {ws ws' other : Workspace} {path : Path} {json : Json}

/-- A document is written alike into file systems with the same entries. -/
theorem exists_gives_writeJson (hsame : SameEntries other ws) (htree : ws.IsTree)
    (hother : other.IsTree) (hpath : path.Plain) {part : String}
    (hparts : path.parts = path.parent.parts ++ [part])
    (hdirectory : ws.entry? path.parent.parts = some .directory)
    (hgives : Gives (writeJson path json) ws () ws') :
    ∃ other', Gives (writeJson path json) other () other' ∧ SameEntries other' ws' := by
  have hparent := Path.plain_parent hpath
  obtain ⟨made, text, hmake, htext, hwrite⟩ := gives_writeJson_iff.mp hgives
  obtain rfl : ws = made :=
    Except.ok.inj ((htree.makeDirectories_of_directory hparent hdirectory).symm.trans hmake)
  obtain ⟨hgrown, hentry⟩ := htree.grown_write_plain (fun _ => False) hpath hwrite
  have hold : other.entry? path.parts ≠ some .directory := by
    rw [hsame]
    intro hthere
    simp [hgrown.directory_kept hthere] at hentry
  have hdirectory' : other.entry? path.parent.parts = some .directory := by
    rw [hsame, hdirectory]
  obtain ⟨other', hwrite', -⟩ := hother.write_of_parent (fun _ => False) hpath
    hparts hdirectory' hold text.toUTF8
  obtain ⟨hgrown', hentry'⟩ :=
    hother.grown_write_plain (fun _ => False) hpath hwrite'
  refine ⟨other', gives_writeJson_iff.mpr ⟨other, text,
    hother.makeDirectories_of_directory hparent hdirectory', htext, hwrite'⟩, fun location => ?_⟩
  by_cases hlocation : location = path.parts
  · rw [hlocation, hentry, hentry']
  · rw [hgrown.entry?_eq id hlocation, hgrown'.entry?_eq id hlocation, hsame]

end Report

variable {host : Host} {options : BuildOptions} {project : Project} {start final : Workspace}
  {report : BuildReport}

section Perm

variable {out : Path} {ws ws' : Workspace} {locations : List ScriptLocation}
variable (hsite : Site host options project out) {order : List ScriptLocation}
  (hperm : order.Perm locations) {results : List FileResult}
  (halike : project.Alike options.root out ws ws)
  (hplanned : ArePlanned host options project ws locations)
  (hgives : Gives (runAll host options project locations) ws results ws')

include hsite hperm halike hplanned hgives

/-- In another order the jobs come to the same results and the same file system,
unless a write fails. -/
theorem run_perm :
    (∃ error stopped, (runAll host options project order).run.run ws = (.error error, stopped) ∧
        error.isOfWrite = true) ∨
      ∃ other, Gives (runAll host options project order) ws
          (order.map fun location => (planned host options project ws location).1) other ∧
        SameEntries other ws' := by
  have horder := hplanned.subset hperm.subset
  have htree := halike.scripts.before
  obtain ⟨-, hstore⟩ := (hplanned.gives_iff hsite halike).mp hgives
  rcases hrun : (runAll host options project order).run.run ws with ⟨error | others, other⟩
  · refine Or.inl ⟨error, other, rfl, ?_⟩
    rw [horder.run_eq hsite halike] at hrun
    exact ((stopsOfWrite_storeAll _).bind fun _ => stopsOfWrite_pure _) _ _ _ hrun
  · obtain ⟨rfl, hother⟩ := (horder.gives_iff hsite halike).mp hrun
    refine Or.inr ⟨other, hrun, ?_⟩
    obtain ⟨hstores, hholds, -⟩ := hplanned.holds hsite htree hstore
    obtain ⟨hstores', hholds', -⟩ := horder.holds hsite htree hother
    refine sameEntries_of_holds (fun a => ?_) hstores' hholds' hstores hholds
    simp only [stored, List.mem_flatMap, hperm.mem_iff]

/-- Without a clash of names, no order makes a write fail. -/
theorem exists_gives_of_perm (hclash : NoClash project options.root ws) :
    ∃ others other, Gives (runAll host options project order) ws others other := by
  have horder := hplanned.subset hperm.subset
  have htree := halike.scripts.before
  obtain ⟨-, hstore⟩ := (hplanned.gives_iff hsite halike).mp hgives
  obtain ⟨hstores, hholds, hplaces⟩ := hplanned.holds hsite htree hstore
  obtain ⟨other, hother⟩ := exists_gives_storeAll htree (horder.below hsite htree) (fun a ha => by
    have hmem : a ∈ stored host options project ws locations := by
      simpa only [stored, List.mem_flatMap, hperm.mem_iff] using ha
    exact hasRoom_of_holds hstores (hholds a hmem) (hplaces a hmem))
    (horder.apart hsite htree hclash)
  exact ⟨_, other, (horder.gives_iff hsite halike).mpr ⟨rfl, hother⟩⟩

end Perm

namespace Course

/-- The scripts, compiled in an order of their own, come to the given results,
and the build comes to the same end. -/
def EndsAlike (course : Course host options project start report final)
    (result : ScriptLocation → FileResult) (order : List ScriptLocation) : Prop :=
  ∃ compiled ended,
    Gives (runAll host options project order) course.prepared (order.map result) compiled ∧
    SameEntries compiled course.compiled ∧
    Gives (writeJson (course.out.child reportDocument) report.toJson) compiled () ended ∧
    SameEntries ended final

/-- The jobs in some order are stopped by a write that fails. -/
def StopsOfWrite (course : Course host options project start report final)
    (order : List ScriptLocation) : Prop :=
  ∃ error stopped,
    (runAll host options project order).run.run course.prepared = (.error error, stopped) ∧
      error.isOfWrite = true

/-- The report is written alike whatever the order in which the jobs were run. -/
theorem endsAlike_of_gives (course : Course host options project start report final)
    (hplain : IsPlain host options start)
    (hload : Project.load start options.root = .ok project) {order : List ScriptLocation}
    {compiled : Workspace} (hperm : order.Perm course.locations)
    (hrun : Gives (runAll host options project order) course.prepared
      (order.map fun location => (planned host options project course.prepared location).1)
      compiled)
    (hsame : SameEntries compiled course.compiled) :
    course.EndsAlike (fun location => (planned host options project course.prepared location).1)
      order := by
  have hsite := course.site hplain hload
  have halike := course.alike hplain hload
  have hplanned := course.arePlanned hplain hload
  have horder := hplanned.subset hperm.subset
  have hafter := hplanned.alike hsite halike (course.gives_storeAll hplain hload).2
  have hafter' := horder.alike hsite halike ((horder.gives_iff hsite halike).mp hrun).2
  obtain ⟨-, hparent⟩ := document_place course.out plainPart_reportDocument
  have hparts : (course.out.child reportDocument).parts =
      (course.out.child reportDocument).parent.parts ++ [reportDocument] := by
    rw [hparent, Path.child_of_plainPart plainPart_reportDocument]
  obtain ⟨ended, hreport, hended⟩ := exists_gives_writeJson hsame hafter.scripts.after
    hafter'.scripts.after (Path.plain_child_of_plainPart hsite.plain plainPart_reportDocument)
    hparts (by rw [hparent]; exact hafter.out) course.reports
  exact ⟨compiled, ended, hrun, hsame, hreport, hended⟩

end Course

/-- The options with other numbers of workers, given and in the settings. -/
def withWorkers (options : BuildOptions) (given : Option Int) (usual : Int) : BuildOptions :=
  { options with workers := given, settings := { options.settings with workers := usual } }

/-- What a job does is not up to the number of workers. -/
theorem run_withWorkers (project : Project) (options : BuildOptions) (given : Option Int)
    (usual : Int) (location : ScriptLocation) :
    (job project (Build.withWorkers options given usual) location).run host =
      (job project options location).run host := by
  have hfrom : ∀ depth,
      (job project (Build.withWorkers options given usual) location).compileFrom host depth =
        (job project options location).compileFrom host depth := by
    intro depth
    induction depth with
    | zero => rfl
    | succ depth ih =>
        funext progress path
        rw [ScriptJob.compileFrom, ScriptJob.compileFrom, ih]
        rfl
  rw [ScriptJob.run, ScriptJob.run, ScriptJob.compile, ScriptJob.compile]
  simp only [hfrom]
  rfl

/-- The course of a build does not depend on the number of workers. -/
def Course.withWorkers (course : Course host options project start report final)
    (given : Option Int) (usual : Int)
    (hworkers : 0 < (Build.withWorkers options given usual).workerCount) :
    Course host (Build.withWorkers options given usual) project start report final where
  out := course.out
  prepared := course.prepared
  locations := course.locations
  compiled := course.compiled
  prepares := course.prepares
  finds := course.finds
  workers := hworkers
  runs := by
    have hruns := course.runs
    simp only [runAll, run_withWorkers] at hruns ⊢
    exact hruns
  report_eq := course.report_eq
  reports := course.reports

/-- A build of a project without links whose names are plain, into the output
directory of its settings, gives every script a result of its own.  Its jobs,
run in any order, come to these results and to the same file system, unless a
write fails; and none fails where no integration is named like the compiled
form of a script at the root.  The number of workers makes no difference. -/
theorem exists_course_of_gives_compileProject (hplain : IsPlain host options start)
    (hload : Project.load start options.root = .ok project)
    (hgives : Gives (compileProject host options) start report final) :
    ∃ (course : Course host options project start report final)
        (result : ScriptLocation → FileResult),
      report.files = course.locations.map result ∧
      (∀ order, order.Perm course.locations →
        course.StopsOfWrite order ∨ course.EndsAlike result order) ∧
      (NoClash project options.root course.prepared →
        ∀ order, order.Perm course.locations → course.EndsAlike result order) ∧
      ∀ given usual, 0 < (withWorkers options given usual).workerCount →
        Gives (compileProject host (withWorkers options given usual)) start report final := by
  obtain ⟨course⟩ := nonempty_course_of_load hload hgives
  have hsite := course.site hplain hload
  have halike := course.alike hplain hload
  have hplanned := course.arePlanned hplain hload
  refine ⟨course, _, (course.gives_storeAll hplain hload).1, fun order hperm => ?_,
    fun hclash order hperm => ?_, ?_⟩
  · rcases run_perm hsite hperm halike hplanned course.runs with hstops | ⟨compiled, hrun, hsame⟩
    · exact Or.inl hstops
    · exact Or.inr (course.endsAlike_of_gives hplain hload hperm hrun hsame)
  · obtain ⟨others, other, hother⟩ :=
      exists_gives_of_perm hsite hperm halike hplanned course.runs hclash
    rcases run_perm hsite hperm halike hplanned course.runs with
      ⟨error, stopped, hstops, -⟩ | ⟨compiled, hrun, hsame⟩
    · rw [Gives, hstops] at hother
      cases hother
    · exact course.endsAlike_of_gives hplain hload hperm hrun hsame
  · intro given usual hworkers
    refine gives_compileProject_iff.mpr (Or.inl ⟨project, hload, ?_⟩)
    exact gives_compileLoaded_iff.mpr ⟨course.withWorkers given usual hworkers⟩

/-- The two scripts of the pair can be compiled in any order. -/
theorem exists_course_of_gives_compileProject_pair :
    IsPlain pairHost pairOptions pairWorkspace ∧ ∃ project report final,
      Project.load pairWorkspace pairOptions.root = .ok project ∧
      Gives (compileProject pairHost pairOptions) pairWorkspace report final ∧
      report.success = true ∧
      ∃ (course : Course pairHost pairOptions project pairWorkspace report final)
          (result : ScriptLocation → FileResult),
        report.files = course.locations.map result ∧
        ∀ order, order.Perm course.locations → course.EndsAlike result order := by
  obtain ⟨project, report, final, hload, hrun, hsuccess⟩ := exists_pairRun_eq
  obtain ⟨course, result, hfiles, -, horders, -⟩ :=
    exists_course_of_gives_compileProject isPlain_pair hload hrun
  exact ⟨isPlain_pair, project, report, final, hload, hrun, hsuccess, course, result, hfiles,
    horders (noClash_pair hload course.prepared)⟩

end IntegrationBuild.Build
