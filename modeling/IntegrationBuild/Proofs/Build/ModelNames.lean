import IntegrationBuild.Proofs.Build.Course
import IntegrationBuild.Proofs.Build.Unresolved

/-!
Names imported from the models module.  In a build that comes to its end, a script
with a good result imports by the name of the models module nothing but declared
models, and so does every file that it brings in.  A relative import that leads to
the models module is passed over, whatever names it imports.
-/

namespace IntegrationBuild

namespace ImportScope

variable {scope : ImportScope} {ws : Workspace} {cwd path : Path} {ref : ImportRef}

theorem modelIssue?_eq_none_iff {generated : List String} {name : String} :
    scope.modelIssue? generated name = none ↔
      (name ≠ "*" → name ∈ scope.modelNames ∧ name ∈ generated) := by
  rw [modelIssue?]
  by_cases hstar : name = "*"
  · simp [hstar]
  · by_cases hdeclared : name ∈ scope.modelNames
    · by_cases hgenerated : name ∈ generated
      · simp [hstar, hdeclared, hgenerated]
      · simp [hstar, hdeclared, hgenerated]
    · simp [hstar, hdeclared]

/-- An import of the models module passes exactly if the generated module can be
read and all names are declared and generated. -/
theorem checkModels_passes_iff :
    (∃ check, scope.checkModels ref = .ok check ∧ check.issues = []) ↔
      ∃ generated, scope.generated = .ok generated ∧
        ∀ name ∈ ref.names, name ≠ "*" → name ∈ scope.modelNames ∧ name ∈ generated := by
  have hissues : ∀ generated,
      (ref.names.filterMap (scope.modelIssue? generated)).map (fun issue => (ref.line, issue)) =
          [] ↔
        ∀ name ∈ ref.names, name ≠ "*" → name ∈ scope.modelNames ∧ name ∈ generated := by
    intro generated
    rw [List.map_eq_nil_iff, List.filterMap_eq_nil_iff]
    simp only [modelIssue?_eq_none_iff]
  simp only [checkModels, Outcome.bind_eq_ok_iff, pure, Except.pure, Except.ok.injEq]
  constructor
  · rintro ⟨_, ⟨generated, hgenerated, rfl⟩, hnone⟩
    exact ⟨generated, hgenerated, (hissues generated).mp hnone⟩
  · rintro ⟨generated, hgenerated, hnames⟩
    exact ⟨_, ⟨generated, hgenerated, rfl⟩, (hissues generated).mpr hnames⟩

/-- Where the imports of a file pass, it imports declared models only by the name of
the models module. -/
theorem ImportsPass.declared (hpass : scope.ImportsPass ws cwd path)
    (href : ref ∈ importsOfFile ws path) (habsolute : ref.isRelative = false)
    (hsource : ref.source = scope.modelsModule) :
    ∀ name ∈ ref.names, name ≠ "*" → name ∈ scope.modelNames := by
  obtain ⟨check, hchecked, hnone⟩ := (checkAll_issues_iff _).mp hpass ref href
  have hcheck := (checkOne_eq_ok_iff.mp hchecked).2
  have hmodels : scope.check ws cwd path ref = scope.checkModels ref := by
    simp [ImportScope.check, habsolute, hsource]
  rw [hmodels] at hcheck
  obtain ⟨generated, -, hnames⟩ := checkModels_passes_iff.mp ⟨check, hcheck, hnone⟩
  exact fun name hname hstar => (hnames name hname hstar).1

/-- A relative import that leads to the models module alone is passed over, and its
names are not looked at. -/
theorem check_of_leadsToModels (hrelative : ref.isRelative = true)
    (hleads : scope.LeadsToModels ws cwd (ref.resolve ws path)) :
    scope.check ws cwd path ref = .ok {} := by
  obtain ⟨hfiles, hothers⟩ := leadsToModels_iff.mp hleads
  rw [ImportScope.check, if_pos hrelative, checkRelative]
  simp [hfiles, hothers]

end ImportScope

namespace ScriptJob

variable {job : ScriptJob} {host : Host} {ws ws' : Workspace} {path : Path}

/-- A tree imports declared models only by the name of the models module. -/
def ImportsDeclared (job : ScriptJob) (tree : Script.Tree) : Prop :=
  ∀ node ∈ tree.preorder, ∀ names,
    node.kind = .importFrom 0 job.options.settings.modelsModule names →
      ∀ imported ∈ names, imported.name ≠ "*" → imported.name ∈ job.modelNames

/-- Every file of a script is read, at its turn, as a tree that imports declared
models only by the name of the models module, as long as the file is in UTF-8, begins
with no mark and declares no other encoding. -/
def FilesImportDeclared (job : ScriptJob) (host : Host) (ws : Workspace) : Prop :=
  ∀ before path rest, job.order host ws = before ++ path :: rest →
    ∀ content, (job.afterTurns host ws before).read? path = some content →
      ∃ tree, Script.compiledTree? content = some tree ∧
        (Script.IsUtf8 content → job.ImportsDeclared tree)

theorem modelsModule_scope (job : ScriptJob) :
    job.scope.modelsModule = job.options.settings.modelsModule := by
  dsimp only [scope]

theorem importsDeclared_of_importsPass {content : ByteArray} {tree : Script.Tree}
    (hpass : job.scope.ImportsPass ws host.cwd path) (hread : ws.read? path = some content)
    (htree : Script.compiledTree? content = some tree) (hutf8 : Script.IsUtf8 content) :
    job.ImportsDeclared tree := by
  intro node hnode names hkind imported himported hstar
  have href : { line := node.start.line, source := job.options.settings.modelsModule
                names := names.map Script.ImportedName.name, level := 0 } ∈
      importsOfFile ws path := by
    rw [importsOfFile, hread]
    dsimp only
    rw [hutf8.importsOf_eq htree]
    refine Script.mem_imports hnode ?_
    rw [Script.importsAt, hkind]
    exact List.mem_cons_self
  have hsource := (modelsModule_scope job).symm
  have hname : imported.name ∈ names.map Script.ImportedName.name :=
    List.mem_map_of_mem himported
  exact hpass.declared href (decide_eq_false (lt_irrefl 0)) hsource _ hname hstar

/-- A good result comes from files that import declared models only by the name of
the models module. -/
theorem filesImportDeclared_of_run_ok (hreads : host.Reads) {result : FileResult}
    (hgives : Build.Gives (job.run host) ws result ws') (hok : result.ok = true) :
    job.FilesImportDeclared host ws := by
  intro before path rest horder content hread
  obtain ⟨after, hturn⟩ := exists_gives_turn_of_run_ok hgives hok horder
  obtain ⟨hpass, name, line?, code, hcompile⟩ :=
    compiles_of_gives_compileFile_nil hread hturn
  obtain ⟨tree, htree⟩ := hreads name line? content code hcompile
  exact ⟨tree, htree, importsDeclared_of_importsPass hpass hread htree⟩

end ScriptJob

namespace Build

variable {host : Host} {options : BuildOptions} {project : Project} {start final : Workspace}
  {report : BuildReport}

/-- Every result of some jobs is that of one of them. -/
theorem exists_gives_run_of_mem {locations : List ScriptLocation} {ws ws' : Workspace}
    {files : List FileResult} {result : FileResult}
    (hgives : Gives (runAll host options project locations) ws files ws')
    (hresult : result ∈ files) :
    ∃ location ∈ locations, ∃ mid mid',
      Gives ((job project options location).run host) mid result mid' := by
  induction locations generalizing ws files with
  | nil =>
      obtain ⟨rfl, -⟩ := gives_pure_iff.mp hgives
      cases hresult
  | cons location rest ih =>
      simp only [runAll, List.mapM_cons, gives_bind_iff, gives_pure_iff] at hgives
      obtain ⟨first, mid, hrun, others, _, hothers, rfl, rfl⟩ := hgives
      rcases List.mem_cons.mp hresult with rfl | hmem
      · exact ⟨location, List.mem_cons_self, ws, mid, hrun⟩
      · obtain ⟨other, hother, hrest⟩ := ih hothers hmem
        exact ⟨other, List.mem_cons_of_mem _ hother, hrest⟩

section Absent

/-- A project without models, a models module from before, and a script that imports
what is no model by a relative import. -/
def absentWorkspace : Workspace :=
  { entries :=
      [(["p"], .directory),
        (["p", "nango.yaml"], .file "\x7bintegrations: \x7bg: \x7bb: \x7b\x7d\x7d\x7d\x7d".toUTF8),
        (["p", "models.py"], .file ByteArray.empty),
        (["p", "b.py"], .file
          "from .models import Absent\nasync def fetch_data(nango): pass\n".toUTF8)] }

end Absent

end Build

end IntegrationBuild
