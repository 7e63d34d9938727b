import IntegrationBuild.Proofs.Build.Single
import IntegrationBuild.Proofs.Workspace.Names

/-!
What a build reports.  The report has one entry for each declared operation, in
the order of their declaration, and leaves out those whose script is there but
takes no part in the build.
-/

namespace IntegrationBuild.Build

open IntegrationBuild.Path (AreNames)

section Output

variable {ws : Workspace} {cwd root out path : Path}

/-- Where the output directory lies below the root, if it does. -/
def outputParts? (ws : Workspace) (cwd out root : Path) : Option (List String) :=
  match out.relativeTo? root with
  | some relative => some relative.parts
  | none => ((ws.resolve cwd out).relativeTo? (ws.resolve cwd root)).map (·.parts)

/-- A path lies in the output directory: it is written below the place of that below the
root or, if the directory does not lie below the root, below its own path. -/
def IsInOutput (ws : Workspace) (cwd root out path : Path) : Prop :=
  match outputParts? ws cwd out root with
  | some below => ∃ relative, path.relativeTo? root = some relative ∧ below <+: relative.parts
  | none => (path.relativeTo? out).isSome = true

/-- Whether a path takes part is told from its first folder, so that it can be told
wrongly. -/
inductive IsMisjudged (ws : Workspace) (cwd root out path : Path) : Prop
  /-- It shares the first folder with the output directory, but does not lie in it. -/
  | beside {relative : Path} (houtside : ¬IsInOutput ws cwd root out path)
      (hrelative : path.relativeTo? root = some relative)
      (hfolder : relative.parts.head? = some (outputFolder ws cwd out root))
  /-- It lies in the output directory, and that is the root or lies elsewhere. -/
  | around (hinside : IsInOutput ws cwd root out path)
      (hout : ∀ below, outputParts? ws cwd out root = some below → below = [])
  /-- It leads into the project, but is not written below the root. -/
  | unwritten (hwithin : ws.isWithin cwd path root = true)
      (hrelative : path.relativeTo? root = none)

/-- Where the output directory lies below the root, it is shown so. -/
theorem shown_of_outputParts? {below : List String}
    (hbelow : outputParts? ws cwd out root = some below) :
    Path.shown ws cwd out root = { parts := below } := by
  rw [outputParts?] at hbelow
  rw [Path.shown]
  cases hrelative : out.relativeTo? root with
  | some relative =>
      rw [hrelative] at hbelow
      obtain rfl := Option.some.inj hbelow
      rw [Path.eq_drop_of_relativeTo? hrelative]
  | none =>
      rw [hrelative] at hbelow
      obtain ⟨relative, hresolved, rfl⟩ := Option.map_eq_some_iff.mp hbelow
      rw [hresolved, Path.eq_drop_of_relativeTo? hresolved]

variable (hcwd : AreNames cwd.parts) (hout : AreNames out.parts)

include hcwd hout

theorem areNames_of_outputParts? {below : List String}
    (hbelow : outputParts? ws cwd out root = some below) : AreNames below := by
  rw [outputParts?] at hbelow
  split at hbelow
  · next relative hrelative =>
    obtain rfl := Option.some.inj hbelow
    rw [Path.eq_drop_of_relativeTo? hrelative]
    exact hout.subset (List.drop_subset _ _)
  · obtain ⟨relative, hrelative, rfl⟩ := Option.map_eq_some_iff.mp hbelow
    rw [Path.eq_drop_of_relativeTo? hrelative]
    exact (Workspace.areNames_resolve hcwd hout).subset (List.drop_subset _ _)

/-- The folder of an output directory strictly below the root is the first on the way
to it. -/
theorem outputFolder_of_outputParts? {first : String} {rest : List String}
    (hbelow : outputParts? ws cwd out root = some (first :: rest)) :
    first ≠ "" ∧ outputFolder ws cwd out root = first := by
  obtain ⟨hfirst, hslash⟩ :=
    areNames_of_outputParts? hcwd hout hbelow first List.mem_cons_self
  refine ⟨hfirst, ?_⟩
  rw [outputFolder, Path.shownText, shown_of_outputParts? hbelow, Path.takeWhile_text hslash]

/-- Unless it is told wrongly, a path that is written below the root begins with the
folder of the output directory exactly when it lies in that. -/
theorem isInOutput_iff {relative : Path} (hrelative : path.relativeTo? root = some relative)
    (hjudged : ¬IsMisjudged ws cwd root out path) :
    (outputFolder ws cwd out root ≠ "" ∧
        relative.parts.head? = some (outputFolder ws cwd out root)) ↔
      IsInOutput ws cwd root out path := by
  constructor
  · rintro ⟨-, hfolder⟩
    by_contra houtside
    exact hjudged (.beside houtside hrelative hfolder)
  · intro hinside
    by_cases hbelow : ∀ below, outputParts? ws cwd out root = some below → below = []
    · exact absurd (.around hinside hbelow) hjudged
    · simp only [not_forall] at hbelow
      obtain ⟨below, hbelow, hne⟩ := hbelow
      obtain ⟨first, rest, rfl⟩ := List.exists_cons_of_ne_nil hne
      rw [IsInOutput, hbelow] at hinside
      obtain ⟨other, hother, more, hmore⟩ := hinside
      cases hrelative.symm.trans hother
      obtain ⟨hfirst, hfolder⟩ := outputFolder_of_outputParts? hcwd hout hbelow
      rw [hfolder, ← hmore]
      exact ⟨hfirst, rfl⟩

/-- With an output directory directly below the root, nothing that is written below the
root is told wrongly. -/
theorem not_isMisjudged_of_child {folder : String}
    (hbelow : outputParts? ws cwd out root = some [folder]) {relative : Path}
    (hrelative : path.relativeTo? root = some relative) :
    ¬IsMisjudged ws cwd root out path := by
  rintro (⟨houtside, hother, hfolder⟩ | ⟨-, hout⟩ | ⟨-, hnone⟩)
  · refine houtside ?_
    rw [(outputFolder_of_outputParts? hcwd hout hbelow).2] at hfolder
    obtain ⟨more, hmore⟩ := List.head?_eq_some_iff.mp hfolder
    rw [IsInOutput, hbelow]
    exact ⟨_, hother, more, hmore.symm⟩
  · exact absurd (hout _ hbelow) (List.cons_ne_nil _ _)
  · cases hrelative.symm.trans hnone

end Output

variable {host : Host} {options : BuildOptions} {project : Project} {start final : Workspace}
  {report : BuildReport}

/-- The ignore files of a project ignore a path. -/
def IsIgnored (ws : Workspace) (options : BuildOptions) (path : Path) : Prop :=
  ∃ rules, Ignore.matcher? ws options.root options.settings.nestedIgnore = .ok (some rules) ∧
    rules.ignores path = .ok true

/-- The script of an operation is there but takes no part in the build: it leads out of
the project, is ignored, or lies in the output directory. -/
structure IsLeftOut (host : Host) (options : BuildOptions) (out : Path) (ws : Workspace)
    (operation : Operation) : Prop where
  isThere : (operation.locate ws options.root).isThere ws = true
  reason :
    let path := (operation.locate ws options.root).path
    ws.isWithin host.cwd path options.root = false ∨ IsIgnored ws options path ∨
      IsInOutput ws host.cwd options.root out path

/-- Jobs give one result each, under the names of their operations. -/
theorem operations_of_gives_runAll {locations : List ScriptLocation} {ws ws' : Workspace}
    {files : List FileResult}
    (hgives : Gives (runAll host options project locations) ws files ws') :
    files.map (·.operation) = locations.map (·.operation.name) := by
  induction locations generalizing ws files with
  | nil =>
      obtain ⟨rfl, -⟩ := gives_pure_iff.mp hgives
      rfl
  | cons location rest ih =>
      simp only [runAll, List.mapM_cons, gives_bind_iff, gives_pure_iff] at hgives
      obtain ⟨result, mid, hrun, others, _, hothers, rfl, rfl⟩ := hgives
      rw [List.map_cons, List.map_cons, ih hothers,
        ScriptJob.operation_of_gives_run hrun]
      rfl

/-- The output directory of a build has a path as it is read from a text. -/
theorem areNames_outputPath {ws : Workspace} {cwd out : Path} (hcwd : AreNames cwd.parts)
    (hroot : AreNames options.root.parts)
    (hdirectory : ∀ path, options.outDir = some path → AreNames path.parts)
    (hout : options.outputPath ws cwd = .ok out) : AreNames out.parts := by
  rw [BuildOptions.outputPath] at hout
  split at hout
  · next path hpath =>
    obtain rfl := Except.ok.inj hout
    exact hdirectory path hpath
  · rw [Settings.eq_resolve_of_outputPath hout]
    apply Workspace.areNames_resolve hcwd
    exact (Workspace.areNames_resolve hcwd hroot).join (Path.areNames_ofString _)

/-- A script that is there takes no part exactly when there is a reason to leave it out,
unless that is told wrongly. -/
theorem takesPart_eq_false_iff_of_not_isMisjudged {ws : Workspace} {cwd out path : Path}
    {matcher : Option Ignore.Matcher} {listed : Bool} (hcwd : AreNames cwd.parts)
    (hout : AreNames out.parts)
    (hmatcher : Ignore.matcher? ws options.root options.settings.nestedIgnore = .ok matcher)
    (htold : takesPart ws cwd options.root (outputFolder ws cwd out options.root) matcher path =
      .ok listed)
    (hjudged : ¬IsMisjudged ws cwd options.root out path) :
    listed = false ↔ ws.isWithin cwd path options.root = false ∨ IsIgnored ws options path ∨
      IsInOutput ws cwd options.root out path := by
  have hignored : (∃ rules, matcher = some rules ∧ rules.ignores path = .ok true) ↔
      IsIgnored ws options path := by
    rw [IsIgnored, hmatcher]
    simp
  rw [takesPart_eq_false_iff htold, hignored]
  cases hwithin : ws.isWithin cwd path options.root with
  | false => simp
  | true =>
    cases hrelative : path.relativeTo? options.root with
    | none => exact absurd (.unwritten hwithin hrelative) hjudged
    | some relative =>
      have hinside := isInOutput_iff hcwd hout hrelative hjudged
      simp only [Bool.true_eq_false, reduceCtorEq, false_or, Option.some.injEq,
        exists_eq_left', hinside]
      exact or_comm

/-- An operation is left out of the scripts exactly when it is to be. -/
theorem isKept_eq_false_iff_isLeftOut {ws : Workspace} {out : Path} {operation : Operation}
    {matcher : Option Ignore.Matcher} (hcwd : AreNames host.cwd.parts) (hout : AreNames out.parts)
    (hmatcher : Ignore.matcher? ws options.root options.settings.nestedIgnore = .ok matcher)
    (htold : ∃ listed, operation.isListed ws host.cwd options.root
      (outputFolder ws host.cwd out options.root) matcher = .ok listed)
    (hjudged : ¬IsMisjudged ws host.cwd options.root out
      (operation.locate ws options.root).path) :
    operation.isKept ws host.cwd options.root (outputFolder ws host.cwd out options.root)
        matcher = false ↔ IsLeftOut host options out ws operation := by
  rw [Operation.isKept_eq_false_iff htold]
  obtain ⟨listed, hlisted⟩ := htold
  rw [Operation.isListed] at hlisted
  constructor
  · rintro ⟨hthere, hpart⟩
    exact ⟨hthere, (takesPart_eq_false_iff_of_not_isMisjudged hcwd hout hmatcher hpart
      hjudged).mp rfl⟩
  · rintro ⟨hthere, hreason⟩
    rw [if_pos hthere] at hlisted
    rw [hlisted, (takesPart_eq_false_iff_of_not_isMisjudged hcwd hout hmatcher hlisted
      hjudged).mpr hreason]
    exact ⟨hthere, rfl⟩

/-- The report of a build that comes to its end has one entry for each declared
operation, in the order of their declaration, and no two under one name.  It leaves out
exactly the operations whose script is there but takes no part, except where that is
told wrongly; under an output directory directly below the root, nothing that is written
below the root is. -/
theorem exists_kept_of_gives_compileProject (hcwd : AreNames host.cwd.parts)
    (hroot : AreNames options.root.parts)
    (hdirectory : ∀ path, options.outDir = some path → AreNames path.parts)
    (hload : Project.load start options.root = .ok project)
    (hgives : Gives (compileProject host options) start report final) :
    ∃ (course : Course host options project start report final) (kept : List Operation),
      kept.Sublist project.operations ∧
      report.files.map (·.operation) = kept.map (·.name) ∧
      (report.files.map (·.operation)).Nodup ∧
      (∀ operation ∈ project.operations,
        ¬IsMisjudged course.prepared host.cwd options.root course.out
          (operation.locate course.prepared options.root).path →
        (operation ∉ kept ↔ IsLeftOut host options course.out course.prepared operation)) ∧
      ∀ folder, outputParts? course.prepared host.cwd course.out options.root = some [folder] →
        ∀ path relative, path.relativeTo? options.root = some relative →
          ¬IsMisjudged course.prepared host.cwd options.root course.out path := by
  obtain ⟨course⟩ := nonempty_course_of_load hload hgives
  have hout := areNames_outputPath hcwd hroot hdirectory (gives_prepare_iff.mp course.prepares).1
  have hfinds := course.finds
  rw [Project.scripts] at hfinds
  split at hfinds
  · cases hfinds
  · next matcher hmatcher =>
    obtain ⟨htold, hlocations⟩ := locateAll_eq_ok_iff.mp hfinds
    have hnames : report.files.map (·.operation) =
        (project.operations.filter fun operation => operation.isKept course.prepared host.cwd
          options.root (outputFolder course.prepared host.cwd course.out options.root)
          matcher).map (·.name) := by
      rw [operations_of_gives_runAll course.runs, hlocations, List.map_map]
      apply List.map_congr_left
      intro operation _
      rw [Function.comp_apply, Operation.operation_locate]
    refine ⟨course, _, List.filter_sublist, hnames, ?_, fun operation hmem hjudged => ?_,
      fun folder hbelow path relative => not_isMisjudged_of_child hcwd hout hbelow⟩
    · rw [hnames]
      exact (Project.closed_of_load hload).operationNames_nodup.sublist
        (List.filter_sublist.map _)
    · rw [← isKept_eq_false_iff_isLeftOut hcwd hout hmatcher (htold operation hmem) hjudged,
        List.mem_filter]
      simp [hmem]

/-- The report of the pair has an entry for each operation that is kept, and the
directory that the pair is compiled to lies directly below its root. -/
theorem exists_kept_of_gives_compileProject_pair :
    ∃ project report final,
      Project.load pairWorkspace pairOptions.root = .ok project ∧
      Gives (compileProject pairHost pairOptions) pairWorkspace report final ∧
      report.success = true ∧
      ∃ (course : Course pairHost pairOptions project pairWorkspace report final)
          (kept : List Operation),
        kept.Sublist project.operations ∧
        report.files.map (·.operation) = kept.map (·.name) ∧
        ∀ operation ∈ project.operations,
          (operation ∉ kept ↔
            IsLeftOut pairHost pairOptions course.out course.prepared operation) := by
  obtain ⟨project, report, final, hload, hrun, hsuccess⟩ := exists_pairRun_eq
  have hcwd : AreNames pairHost.cwd.parts := by unfold AreNames; decide
  have hroot : AreNames pairOptions.root.parts := by unfold AreNames; decide
  have hout : ∀ path, pairOptions.outDir = some path → AreNames path.parts := by
    rintro path ⟨⟩
    unfold AreNames
    decide
  obtain ⟨course, kept, hsublist, hnames, -, hkept, hjudged⟩ :=
    exists_kept_of_gives_compileProject hcwd hroot hout hload hrun
  refine ⟨project, report, final, hload, hrun, hsuccess, course, kept, hsublist, hnames,
    fun operation hmem => hkept operation hmem ?_⟩
  obtain ⟨hintegration, hname⟩ := (names_pair hload).2 operation hmem
  obtain ⟨parts, -, -, hpath⟩ := exists_parts_locate hname (hintegration ▸ by decide)
    course.prepared pairOptions.root
  have hdist : course.out = .absolute ["p", "dist"] :=
    (Except.ok.inj (gives_prepare_iff.mp course.prepares).1).symm
  refine hjudged "dist" (by rw [hdist]; rfl) _ { parts := parts } ?_
  rw [hpath, Path.relativeTo?]
  simp

/-- A project whose output directory lies in the folder of its integration. -/
def nestedWorkspace : Workspace :=
  { entries :=
      [(["p"], .directory),
        (["p", "nango.yaml"], .file ("\x7bintegrations: \x7bbuild: \x7bsyncs: " ++
          "\x7bissues: \x7bendpoint: GET /issues\x7d\x7d\x7d\x7d\x7d").toUTF8),
        (["p", "build"], .directory), (["p", "build", "syncs"], .directory),
        (["p", "build", "syncs", "issues.py"],
          .file "async def fetch_data(nango): pass\n".toUTF8)] }

def nestedOptions : BuildOptions :=
  { root := .absolute ["p"], outDir := some (.absolute ["p", "build", "out"]) }

/-- A script that there is no reason to leave out is missing from the report, and the
build is reported to succeed: it lies beside the output directory. -/
theorem exists_not_isLeftOut_of_nested :
    ∃ project report final out,
      Project.load nestedWorkspace nestedOptions.root = .ok project ∧
      Gives (compileProject pairHost nestedOptions) nestedWorkspace report final ∧
      nestedOptions.outputPath nestedWorkspace pairHost.cwd = .ok out ∧
      report.success = true ∧ report.files = [] ∧
      ∃ operation ∈ project.operations,
        (operation.locate nestedWorkspace nestedOptions.root).isThere nestedWorkspace = true ∧
        ¬IsLeftOut pairHost nestedOptions out nestedWorkspace operation := by
  obtain ⟨project, report, final, hload, hrun, hsuccess, hfiles, operation, hmem, hthere,
      hpath⟩ : ∃ project report final,
      Project.load nestedWorkspace nestedOptions.root = .ok project ∧
        Gives (compileProject pairHost nestedOptions) nestedWorkspace report final ∧
        report.success = true ∧ report.files = [] ∧
        ∃ operation ∈ project.operations,
          (operation.locate nestedWorkspace nestedOptions.root).isThere nestedWorkspace = true ∧
          (operation.locate nestedWorkspace nestedOptions.root).path =
            .absolute ["p", "build", "syncs", "issues.py"] :=
    exists_report_of_decide (by decide +kernel)
  refine ⟨project, report, final, _, hload, hrun, rfl, hsuccess, hfiles, operation, hmem,
    hthere, fun hleft => ?_⟩
  have hreason := hleft.reason
  rw [hpath] at hreason
  rcases hreason with houtside | ⟨rules, hrules, -⟩ | ⟨relative, hrelative, hbelow⟩
  · revert houtside
    decide +kernel
  · cases hrules
  · cases hrelative
    revert hbelow
    decide

end IntegrationBuild.Build
