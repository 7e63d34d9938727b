import IntegrationBuild.Proofs.Build.Contained
import IntegrationBuild.Proofs.Script.Encoding
import IntegrationBuild.Proofs.Script.Tree

/-!
What a script that passes may import.  The imports that are checked are those
of the text of the script in UTF-8, so they are all imports of the script that
is compiled only where the script is that text.
-/

namespace IntegrationBuild

/-- A relative import leads to the models module alone, or else its place lies
within the boundary and so do its files, the models module apart. -/
def ImportScope.Allows (scope : ImportScope) (ws : Workspace) (cwd : Path)
    (target : ImportTarget) : Prop :=
  (target.files ≠ [] ∧
      ∀ file ∈ target.files, ws.resolve cwd file = ws.resolve cwd scope.modelsFile) ∨
    ((ws.resolve cwd scope.boundary).parts <+: (ws.resolve cwd target.location).parts ∧
      ∀ file ∈ target.files, ws.resolve cwd file = ws.resolve cwd scope.modelsFile ∨
        (ws.resolve cwd scope.boundary).parts <+: (ws.resolve cwd file).parts)

instance (scope : ImportScope) (ws : Workspace) (cwd : Path) (target : ImportTarget) :
    Decidable (scope.Allows ws cwd target) :=
  inferInstanceAs (Decidable (_ ∨ _))

/-- The line of an import does not matter for where it leads. -/
theorem ImportRef.resolve_line (ws : Workspace) (importer : Path) (line : Nat)
    (ref : ImportRef) : ref.resolve ws importer = { ref with line := line }.resolve ws importer :=
  rfl

namespace ImportScope

variable {scope : ImportScope} {ws : Workspace} {cwd path : Path}

/-- A relative import without issues is allowed. -/
theorem allows_of_issues_eq_nil {ref : ImportRef}
    (hnone : (scope.checkRelative ws cwd path ref).issues = []) :
    scope.Allows ws cwd (ref.resolve ws path) := by
  rcases issues_checkRelative_iff.mp hnone with ⟨hfiles, hothers⟩ | ⟨hwithin, -⟩
  · left
    refine ⟨hfiles, fun file hfile => ?_⟩
    simpa using List.filter_eq_nil_iff.mp hothers file hfile
  · right
    refine ⟨Workspace.isWithin_iff_prefix.mp (hwithin _ List.mem_cons_self), ?_⟩
    intro file hfile
    by_cases hmodels : ws.resolve cwd file = ws.resolve cwd scope.modelsFile
    · exact Or.inl hmodels
    · right
      have hother : file ∈ scope.otherFiles ws cwd (ref.resolve ws path) :=
        List.mem_filter.mpr ⟨hfile, bne_iff_ne.mpr hmodels⟩
      exact Workspace.isWithin_iff_prefix.mp
        (hwithin file (List.mem_cons_of_mem _ hother))

theorem ImportsPass.allows (hpass : scope.ImportsPass ws cwd path) {ref : ImportRef}
    (href : ref ∈ importsOfFile ws path) (hrelative : ref.isRelative = true) :
    scope.Allows ws cwd (ref.resolve ws path) := by
  obtain ⟨check, hchecked, hnone⟩ := (checkAll_issues_iff _).mp hpass ref href
  have hcheck := (checkOne_eq_ok_iff.mp hchecked).2
  rw [ImportScope.check, if_pos hrelative] at hcheck
  cases hcheck
  exact allows_of_issues_eq_nil hnone

end ImportScope

/-- Only scripts that can be read are compiled. -/
def Host.Reads (host : Host) : Prop :=
  ∀ name line? source code, host.compile name line? source = .ok code →
    ∃ tree, Script.compiledTree? source = some tree

theorem reads_checkingCompiler (cwd : Path) : Host.Reads ⟨cwd, checkingCompiler⟩ := by
  intro name line? source code hcompile
  have hresult : checkingCompiler name line? source = .ok code := hcompile
  rw [checkingCompiler] at hresult
  split at hresult
  · cases hresult
  · next herror => exact Script.exists_compiledTree? herror

namespace ScriptJob

variable {job : ScriptJob} {host : Host} {ws ws' : Workspace} {path : Path}

/-- A turn adds complaints to those found before. -/
theorem prefix_of_gives_compileFile {found found' : List String}
    (hgives : Build.Gives (job.compileFile host found path) ws found' ws') :
    found <+: found' := by
  obtain ⟨complaints, -, ⟨-, _, error, -, -, rfl⟩ | ⟨-, rfl, -⟩⟩ :=
    gives_compileFile_iff.mp hgives
  · rw [said, List.append_assoc]
    exact List.prefix_append _ _
  · exact List.prefix_append _ _

theorem prefix_of_gives_turns {files : List Path} {found found' : List String}
    (hgives : Build.Gives (files.foldlM (job.compileFile host) found) ws found' ws') :
    found <+: found' := by
  induction files generalizing found ws with
  | nil =>
      obtain ⟨rfl, -⟩ := Build.gives_pure_iff.mp hgives
      exact List.prefix_rfl
  | cons file rest ih =>
      rw [List.foldlM_cons] at hgives
      obtain ⟨said, mid, hfirst, hrest⟩ := Build.gives_bind_iff.mp hgives
      exact (prefix_of_gives_compileFile hfirst).trans (ih hrest)

/-- A turn without complaints: the imports of the file pass, and its content,
the same as before the turn, is compiled. -/
theorem compiles_of_gives_compileFile_nil {content : ByteArray}
    (hread : ws.read? path = some content)
    (hgives : Build.Gives (job.compileFile host [] path) ws [] ws') :
    job.scope.ImportsPass ws host.cwd path ∧
      ∃ name line? code, host.compile name line? content = .ok code := by
  obtain ⟨complaints, hcomplaints, hturn⟩ := gives_compileFile_iff.mp hgives
  rcases hturn with ⟨-, output, error, -, hcompile, hnil⟩ | ⟨hdirty, hnil, -⟩
  · obtain ⟨hsaid, herror⟩ := List.append_eq_nil_iff.mp hnil.symm
    have hnone := ((job.said_eq_nil_iff ws host.cwd path [] complaints).mp hsaid).2
    refine ⟨((complaints_eq_nil_iff hcomplaints).mp hnone).2, ?_⟩
    obtain ⟨mid, source, hmake, -, hsource, hcompiled⟩ :=
      Build.gives_byteCompile_iff.mp hcompile
    obtain rfl : source = content := by
      have hsame := (Workspace.retains_makeDirectories hmake).read?_eq hread
      rw [Workspace.readFile_eq_ok_iff, hsame] at hsource
      exact (Option.some.inj hsource).symm
    cases hcompiled with
    | error hresult => simp at herror
    | code hresult hwrite => exact ⟨_, _, _, hresult⟩
  · simp [isClean_of_said_eq_nil hcomplaints hnil.symm] at hdirty

/-- A script that is not there has no good result. -/
theorem isThere_of_run_ok {result : FileResult}
    (hgives : Build.Gives (job.run host) ws result ws') (hok : result.ok = true) :
    job.location.isThere ws = true := by
  by_contra hthere
  obtain ⟨rfl, -⟩ := eq_missing_of_gives_run hthere hgives
  cases hok

/-- A script with a good result is there, its imports pass at the start, and it
is compiled. -/
theorem compiles_of_run_ok {result : FileResult}
    (hgives : Build.Gives (job.run host) ws result ws') (hok : result.ok = true) :
    ∃ content, ws.read? job.location.path = some content ∧
      job.scope.ImportsPass ws host.cwd job.location.path ∧
      ∃ name line? code, host.compile name line? content = .ok code := by
  have hthere := isThere_of_run_ok hgives hok
  obtain ⟨found, hturns, rfl⟩ := (gives_run_iff hthere).mp hgives
  obtain rfl : found = [] := by simpa using hok
  obtain ⟨content, hread⟩ := Workspace.exists_read?_of_isFile hthere
  obtain ⟨others, horder, -⟩ := job.exists_order_eq_cons host ws
  rw [horder, List.foldlM_cons] at hturns
  obtain ⟨said, mid, hfirst, hrest⟩ := Build.gives_bind_iff.mp hturns
  obtain rfl := List.prefix_nil.mp (prefix_of_gives_turns hrest)
  exact ⟨content, hread, compiles_of_gives_compileFile_nil hread hfirst⟩

section Scripts

/-- A project with a script, a file beside it and a file outside of its
integration. -/
def scriptWorkspace (script : ByteArray) : Workspace :=
  { entries :=
      [(["p"], .directory), (["p", "secret.py"], .file ByteArray.empty),
        (["p", "github"], .directory), (["p", "github", "syncs"], .directory),
        (["p", "github", "syncs", "issues.py"], .file script),
        (["p", "github", "syncs", "pages.py"], .file ByteArray.empty)] }

def scriptJob (script : ByteArray) : ScriptJob :=
  { circleJob with
    location := circleOperation.locate (scriptWorkspace script) (.absolute ["p"]) }

def checkingHost : Host := ⟨.absolute [], checkingCompiler⟩

/-- Whether the run of a script gives a good result. -/
def isAccepted (script : ByteArray) : Bool :=
  match (((scriptJob script).run checkingHost).run.run (scriptWorkspace script)).1 with
  | .ok result => result.ok
  | .error _ => false

theorem exists_gives_of_isAccepted {script : ByteArray} (haccepted : isAccepted script = true) :
    ∃ result ws', Build.Gives ((scriptJob script).run checkingHost) (scriptWorkspace script)
      result ws' ∧ result.ok = true := by
  rw [isAccepted] at haccepted
  rcases hrun : ((scriptJob script).run checkingHost).run.run (scriptWorkspace script) with
    ⟨error | result, ws'⟩
  · simp [hrun] at haccepted
  · rw [hrun] at haccepted
    exact ⟨result, ws', hrun, haccepted⟩

/-- A script that imports the file beside it. -/
def plainScript : ByteArray :=
  "from . import pages\n\n\nasync def fetch_data(nango):\n    pass\n".toUTF8

/-- A script that begins with a mark and imports a file outside of its
integration. -/
def markedScript : ByteArray :=
  "\ufefffrom ...secret import token\n\n\nasync def fetch_data(nango):\n    pass\n".toUTF8

end Scripts

end ScriptJob

end IntegrationBuild
