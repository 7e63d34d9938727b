import IntegrationBuild.Proofs.Build.Imports

/-!
Relative imports of names that lead to no file.  Such an import is reported,
and the script that makes it or brings it in does not pass, unless all files
that its other names lead to are the models module: the check of an import
stops there before it comes to the names that lead nowhere.  Links that lead in
a circle stop the build instead: then nothing is reported, and nothing passes.
-/

namespace IntegrationBuild

namespace ImportScope

variable {scope : ImportScope} {ws : Workspace} {cwd path : Path} {ref : ImportRef}

/-- A relative import leads to the models module and to no other file. -/
def LeadsToModels (scope : ImportScope) (ws : Workspace) (cwd : Path)
    (target : ImportTarget) : Prop :=
  target.files ≠ [] ∧
    ∀ file ∈ target.files, ws.resolve cwd file = ws.resolve cwd scope.modelsFile

instance (scope : ImportScope) (ws : Workspace) (cwd : Path) (target : ImportTarget) :
    Decidable (scope.LeadsToModels ws cwd target) :=
  inferInstanceAs (Decidable (_ ∧ _))

theorem leadsToModels_iff {target : ImportTarget} :
    scope.LeadsToModels ws cwd target ↔
      target.files ≠ [] ∧ scope.otherFiles ws cwd target = [] := by
  rw [LeadsToModels, otherFiles, List.filter_eq_nil_iff]
  simp only [bne_iff_ne, ne_eq, not_not]

/-- A relative import of a name that leads nowhere gives no issue exactly if
its other names lead to the models module alone. -/
theorem issues_eq_nil_iff_of_unresolved
    (hunresolved : (ref.resolve ws path).unresolved ≠ []) :
    (scope.checkRelative ws cwd path ref).issues = [] ↔
      scope.LeadsToModels ws cwd (ref.resolve ws path) := by
  rw [issues_checkRelative_iff, leadsToModels_iff, or_iff_left]
  exact fun hnone => hunresolved hnone.2

/-- All issues of a relative import bear its line. -/
theorem line_of_mem_issues {line : Nat} {issue : ImportIssue}
    (hissue : (line, issue) ∈ (scope.checkRelative ws cwd path ref).issues) :
    line = ref.line := by
  rw [checkRelative] at hissue
  split at hissue
  · cases hissue
  · split at hissue
    · rw [List.mem_singleton] at hissue
      exact (Prod.mk.inj hissue).1
    · obtain ⟨name, -, hsame⟩ := List.mem_map.mp hissue
      exact (Prod.mk.inj hsame).1.symm

/-- Where all imports are checked, so is each, and its issues are among theirs. -/
theorem exists_check_of_checkAll {refs : List ImportRef} {found : ImportCheck}
    (hall : scope.checkAll ws cwd path refs = .ok found) (href : ref ∈ refs) :
    ∃ first, scope.check ws cwd path ref = .ok first ∧ first.issues ⊆ found.issues := by
  induction refs generalizing found with
  | nil => cases href
  | cons other rest ih =>
      simp only [checkAll, Outcome.bind_eq_ok_iff, pure, Except.pure,
        Except.ok.injEq] at hall
      obtain ⟨here, hhere, others, hothers, rfl⟩ := hall
      rcases List.mem_cons.mp href with rfl | hmem
      · exact ⟨here, (checkOne_eq_ok_iff.mp hhere).2, List.subset_append_left _ _⟩
      · obtain ⟨first, hfirst, hsubset⟩ := ih hothers hmem
        exact ⟨first, hfirst, List.Subset.trans hsubset (List.subset_append_right _ _)⟩

/-- The check of a relative import with a name that leads nowhere gives an issue unless
the other names lead to the models module alone; or it stops at a circle of links. -/
theorem check_of_unresolved (hrelative : ref.isRelative = true)
    (hunresolved : (ref.resolve ws path).unresolved ≠ []) :
    (∃ check, scope.checkOne ws cwd path ref = .ok check ∧
        (check.issues = [] ↔ scope.LeadsToModels ws cwd (ref.resolve ws path))) ∨
      ∃ place ∈ scope.resolvedBy ws cwd path ref, ∃ circle,
        ws.circle? cwd place = some circle ∧
          scope.checkOne ws cwd path ref = .error (.circle circle) := by
  refine (checkOne_eq_or_circle path ref).imp_left fun hchecked => ?_
  rw [ImportScope.check, if_pos hrelative] at hchecked
  exact ⟨_, hchecked, issues_eq_nil_iff_of_unresolved hunresolved⟩

end ImportScope

namespace ScriptJob

variable {job : ScriptJob} {host : Host} {ws ws' : Workspace} {path : Path}
  {ref : ImportRef}

/-- The complaint about an import of a file. -/
def importComplaint (job : ScriptJob) (ws : Workspace) (cwd path : Path)
    (line : Nat) (issue : ImportIssue) : String :=
  job.lead ws cwd path ++ ("line " ++ toString line ++ ": " ++ issue.message)

/-- At the turn of a file, each issue of each of its imports is complained of. -/
theorem exists_check_of_gives_compileFile {found found' : List String}
    (hgives : Build.Gives (job.compileFile host found path) ws found' ws')
    (href : ref ∈ importsOfFile ws path) :
    ∃ check, job.scope.check ws host.cwd path ref = .ok check ∧
      ∀ line issue, (line, issue) ∈ check.issues →
        job.importComplaint ws host.cwd path line issue ∈ found' := by
  obtain ⟨complaints, hcomplaints, hturn⟩ := gives_compileFile_iff.mp hgives
  obtain ⟨all, hall, rfl⟩ := exists_check_of_complaints hcomplaints
  obtain ⟨check, hcheck, hsubset⟩ := ImportScope.exists_check_of_checkAll hall href
  refine ⟨check, hcheck, fun line issue hissue => ?_⟩
  have hsaid : job.importComplaint ws host.cwd path line issue ∈
      job.said ws host.cwd path found (complaintsOf (job.usage ws path) all) := by
    refine List.mem_append_right _ (List.mem_map_of_mem (List.mem_append_right _ ?_))
    exact List.mem_map.mpr ⟨_, hsubset hissue, rfl⟩
  rcases hturn with ⟨-, _, error, -, -, rfl⟩ | ⟨-, rfl, -⟩
  · exact List.mem_append_left _ hsaid
  · exact hsaid

/-- At the turn of a file, a relative import with a name that leads nowhere is
complained of, unless it leads to the models module alone. -/
theorem exists_complaint_of_unresolved {found found' : List String}
    (hgives : Build.Gives (job.compileFile host found path) ws found' ws')
    (href : ref ∈ importsOfFile ws path) (hrelative : ref.isRelative = true)
    (hunresolved : (ref.resolve ws path).unresolved ≠ [])
    (hother : ¬job.scope.LeadsToModels ws host.cwd (ref.resolve ws path)) :
    ∃ issue, job.importComplaint ws host.cwd path ref.line issue ∈ found' := by
  have hissues := mt (ImportScope.issues_eq_nil_iff_of_unresolved hunresolved).mp hother
  obtain ⟨⟨line, issue⟩, hissue⟩ := List.exists_mem_of_ne_nil _ hissues
  obtain ⟨check, hcheck, hsaid⟩ := exists_check_of_gives_compileFile hgives href
  rw [ImportScope.check, if_pos hrelative] at hcheck
  obtain rfl := Except.ok.inj hcheck
  refine ⟨issue, ?_⟩
  rw [← ImportScope.line_of_mem_issues hissue]
  exact hsaid line issue hissue

/-- A good result comes from turns without any complaint. -/
theorem exists_gives_turn_of_run_ok {result : FileResult}
    (hgives : Build.Gives (job.run host) ws result ws') (hok : result.ok = true)
    {before rest : List Path} (horder : job.order host ws = before ++ path :: rest) :
    ∃ after, Build.Gives (job.compileFile host [] path) (job.afterTurns host ws before) []
      after := by
  obtain ⟨found, hturns, rfl⟩ := (gives_run_iff (isThere_of_run_ok hgives hok)).mp hgives
  obtain rfl : found = [] := by simpa using hok
  rw [horder, List.foldlM_append] at hturns
  obtain ⟨said, mid, hbefore, hturns⟩ := Build.gives_bind_iff.mp hturns
  obtain rfl := List.prefix_nil.mp (prefix_of_gives_turns hturns)
  rw [List.foldlM_cons] at hturns
  obtain ⟨said, after, hturn, hrest⟩ := Build.gives_bind_iff.mp hturns
  obtain rfl := List.prefix_nil.mp (prefix_of_gives_turns hrest)
  rw [afterTurns, hbefore.after_eq]
  exact ⟨after, hturn⟩

/-- In any file system, the check of a relative import with names that lead nowhere
gives no issue exactly if its other names lead to the models module alone, or it stops
at a circle of links.  Any other one adds a complaint at the turn of its file, if that
comes to its end; so if the result of a script is good, there is none in the script or
in any file that it brings in. -/
theorem leadsToModels_of_unresolved (job : ScriptJob) (host : Host) (ws : Workspace) :
    (∀ (path : Path) (ref : ImportRef), ref.isRelative = true →
      (ref.resolve ws path).unresolved ≠ [] →
      ((∃ check, job.scope.checkOne ws host.cwd path ref = .ok check ∧
          (check.issues = [] ↔
            job.scope.LeadsToModels ws host.cwd (ref.resolve ws path))) ∨
        ∃ place ∈ job.scope.resolvedBy ws host.cwd path ref, ∃ circle,
          ws.circle? host.cwd place = some circle ∧
            job.scope.checkOne ws host.cwd path ref = .error (.circle circle)) ∧
      ∀ found found' ws', Build.Gives (job.compileFile host found path) ws found' ws' →
        ref ∈ importsOfFile ws path →
        ¬job.scope.LeadsToModels ws host.cwd (ref.resolve ws path) →
        ∃ issue, job.importComplaint ws host.cwd path ref.line issue ∈ found') ∧
    ∀ result ws', Build.Gives (job.run host) ws result ws' → result.ok = true →
      ∀ before path rest, job.order host ws = before ++ path :: rest →
        let turn := job.afterTurns host ws before
        ∀ ref ∈ importsOfFile turn path, ref.isRelative = true →
          (ref.resolve turn path).unresolved ≠ [] →
          job.scope.LeadsToModels turn host.cwd (ref.resolve turn path) := by
  refine ⟨fun path ref hrelative hunresolved => ⟨?_, ?_⟩, ?_⟩
  · exact ImportScope.check_of_unresolved hrelative hunresolved
  · intro found found' ws' hgives href hother
    exact exists_complaint_of_unresolved hgives href hrelative hunresolved hother
  · intro result ws' hgives hok before path rest horder turn ref href hrelative hunresolved
    obtain ⟨after, hturn⟩ := exists_gives_turn_of_run_ok hgives hok horder
    by_contra hother
    obtain ⟨issue, hissue⟩ :=
      exists_complaint_of_unresolved hturn href hrelative hunresolved hother
    cases hissue

/-- A project with the models module and one script, both at its root. -/
def flatWorkspace (script : ByteArray) : Workspace :=
  { entries :=
      [(["p"], .directory), (["p", "models.py"], .file ByteArray.empty),
        (["p", "issues.py"], .file script)] }

def flatJob (script : ByteArray) : ScriptJob :=
  { circleJob with
    location := circleOperation.locate (flatWorkspace script) (.absolute ["p"]) }

/-- A script that imports some names from its own directory. -/
def importingScript (names : String) : ByteArray :=
  ("from . import " ++ names ++ "\n\n\nasync def fetch_data(nango):\n    pass\n").toUTF8

/-- The import that such a script makes. -/
def ownImport (names : List String) : ImportRef :=
  { line := 1, source := "", names := names, level := 1 }

/-- Beside the script itself, a missing name is complained of, and the result is
not good. -/
theorem leadsToModels_of_unresolved_beside_itself :
    let script := importingScript "issues, missing"
    let ws := flatWorkspace script
    let job := flatJob script
    ∃ ref ∈ importsOfFile ws job.location.path, ref.isRelative = true ∧
      (ref.resolve ws job.location.path).unresolved = ["missing"] ∧
      (∃ found ws', Build.Gives (job.compileFile checkingHost [] job.location.path) ws
        found ws' ∧ ∃ issue, job.importComplaint ws checkingHost.cwd job.location.path
          ref.line issue ∈ found) ∧
      (∃ result ws', Build.Gives (job.run checkingHost) ws result ws') ∧
      ∀ result ws', Build.Gives (job.run checkingHost) ws result ws' →
        result.ok = false := by
  intro script ws job
  have href : ownImport ["issues", "missing"] ∈ importsOfFile ws job.location.path := by
    decide +kernel
  have hmissing : ((ownImport ["issues", "missing"]).resolve ws
      job.location.path).unresolved = ["missing"] := by decide +kernel
  have hsome : ((ownImport ["issues", "missing"]).resolve ws
      job.location.path).unresolved ≠ [] := hmissing ▸ List.cons_ne_nil _ _
  have hother : ¬job.scope.LeadsToModels ws checkingHost.cwd
      ((ownImport ["issues", "missing"]).resolve ws job.location.path) := by
    decide +kernel
  have hturns : ∃ found ws', Build.Gives (job.compileFile checkingHost [] job.location.path) ws
      found ws' ∧ True := Build.exists_gives_of_decide (by decide +kernel)
  have hruns : ∃ result ws', Build.Gives (job.run checkingHost) ws result ws' ∧ True :=
    Build.exists_gives_of_decide (by decide +kernel)
  obtain ⟨found, ws', hturn, -⟩ := hturns
  obtain ⟨hfile, hrun⟩ := leadsToModels_of_unresolved job checkingHost ws
  refine ⟨_, href, rfl, hmissing, ⟨found, ws', hturn, ?_⟩, ?_, fun result ws' hgives => ?_⟩
  · exact (hfile _ _ rfl hsome).2 _ _ _ hturn href hother
  · obtain ⟨result, ws', hgives, -⟩ := hruns
    exact ⟨result, ws', hgives⟩
  · by_contra hok
    obtain ⟨others, horder, -⟩ := job.exists_order_eq_cons checkingHost ws
    exact hother (hrun result ws' hgives (by simpa using hok) [] _ others horder _ href rfl
      hsome)

/-- Beside the models module, a missing name is passed over, and the result is
good. -/
theorem passes_missing_beside_models :
    let script := importingScript "models, missing"
    let ws := flatWorkspace script
    let job := flatJob script
    ∃ ref ∈ importsOfFile ws job.location.path, ref.isRelative = true ∧
      (ref.resolve ws job.location.path).unresolved = ["missing"] ∧
      (job.scope.checkRelative ws checkingHost.cwd job.location.path ref).issues = [] ∧
      ∃ result ws', Build.Gives (job.run checkingHost) ws result ws' ∧
        result.ok = true := by
  intro script ws job
  refine ⟨ownImport ["models", "missing"], by decide +kernel, rfl, by decide +kernel,
    by decide +kernel, ?_⟩
  exact Build.exists_gives_of_decide (by decide +kernel)

end ScriptJob

end IntegrationBuild
