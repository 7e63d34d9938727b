import IntegrationBuild.Proofs.Build.Script

/-!
The verdict on a script.  It is good exactly when every file that the script
brings in passes at its turn; what a file is judged by depends on its place
and, but for directories made on the way, on the scripts alone.
-/

namespace IntegrationBuild

namespace Usage

/-- A file that can be read is judged by its content. -/
theorem analyzeFile_of_read? {ws : Workspace} {path : Path} {content : ByteArray}
    (hread : ws.read? path = some content) (e : Expectation) (required : Bool) :
    analyzeFile ws e required path = analyze e required content := by
  rw [analyzeFile, Workspace.readFile_eq_ok_iff.mpr hread]

end Usage

namespace ScriptJob

variable {job : ScriptJob} {ws ws' : Workspace} {cwd : Path}
  {accepts : ByteArray → Bool} {required : Bool}

/-- Of paths to one place, either all pass or none. -/
theorem Passes.congr {p q : Path} (htree : ws.IsTree) (hp : p.Plain) (hq : q.Plain)
    (hparts : p.parts = q.parts) (hpasses : job.Passes accepts required ws cwd p) :
    job.Passes accepts required ws cwd q := by
  obtain ⟨husage, himports, content, hread, haccepts⟩ := hpasses
  have hread' : ws.read? q = some content := by
    rw [← ws.read?_parts_congr hparts, hread]
  rw [Usage.analyzeFile_of_read? hread] at husage
  rw [← Usage.analyzeFile_of_read? hread'] at husage
  exact ⟨husage, himports.congr htree hp hq hparts, content, hread', haccepts⟩

theorem Passes.of_sameScripts (hsame : SameScripts ws ws')
    (hsiblings : ∀ name, job.scope.isSibling ws name = job.scope.isSibling ws' name)
    {path : Path} (hfile : ScriptFile ws path)
    (hpasses : job.Passes accepts required ws cwd path) :
    job.Passes accepts required ws' cwd path := by
  obtain ⟨husage, himports, content, hread, haccepts⟩ := hpasses
  have hread' : ws'.read? path = some content := by
    rw [← hsame.read?_eq hfile.plain hfile.place, hread]
  rw [Usage.analyzeFile_of_read? hread] at husage
  rw [← Usage.analyzeFile_of_read? hread'] at husage
  exact ⟨husage, himports.of_sameScripts hsame hfile.plain hfile.place hsiblings,
    content, hread', haccepts⟩

/-- Whether a path leads to the script itself. -/
def isScript (job : ScriptJob) (ws : Workspace) (cwd path : Path) : Bool :=
  ws.resolve cwd path == ws.resolve cwd job.location.path

/-- The files whose turn comes before that of a file. -/
def filesBefore (job : ScriptJob) (ws : Workspace) (cwd path : Path) : List Path :=
  (job.files ws cwd).takeWhile fun file =>
    ws.resolve cwd file != ws.resolve cwd path

/-- The file system when the turn of a file comes. -/
def atTurn (job : ScriptJob) (host : Host) (ws : Workspace) (path : Path) :
    Workspace :=
  Build.after
    ((job.filesBefore ws host.cwd path).foldlM (job.compileFile host) []) ws

theorem filesBefore_eq {before rest : List Path} {file path : Path}
    (hnodup : ((job.files ws cwd).map (ws.resolve cwd)).Nodup)
    (hsplit : job.files ws cwd = before ++ file :: rest)
    (hsame : ws.resolve cwd file = ws.resolve cwd path) :
    job.filesBefore ws cwd path = before := by
  rw [hsplit, List.map_append, List.map_cons] at hnodup
  have hbefore : ∀ other ∈ before,
      (ws.resolve cwd other != ws.resolve cwd path) = true := by
    intro other hother
    rw [← hsame, bne_iff_ne]
    exact (List.nodup_append.mp hnodup).2.2 _ (List.mem_map_of_mem hother) _
      List.mem_cons_self
  rw [filesBefore, hsplit, List.takeWhile_append_of_pos hbefore,
    List.takeWhile_cons_of_neg (by simp [hsame]), List.append_nil]

/-- No directory of an integration is made. -/
def KeepsSiblings (job : ScriptJob) (ws ws' : Workspace) : Prop :=
  ∀ integration ∈ job.project.integrations,
    ws'.isDirectory (job.options.root.child integration.name) = true →
      ws.isDirectory (job.options.root.child integration.name) = true

/-- If no directory of an integration is made between two file systems, the
other integrations are the same at any time between. -/
theorem KeepsSiblings.isSibling_eq {mid : Workspace}
    (hroot : job.options.root.Plain)
    (hnames : ∀ integration ∈ job.project.integrations,
      Path.PlainPart integration.name)
    (hkeeps : job.KeepsSiblings ws ws')
    {directories files : Location → Prop} (hgrown : ws.Grown directories files mid)
    (hmore : mid.Grown directories files ws') (name : String) :
    job.scope.isSibling ws name = job.scope.isSibling mid name := by
  rw [ImportScope.isSibling, ImportScope.isSibling]
  by_cases hname : name ∈ job.project.integrations.map (·.name)
  · obtain ⟨integration, hmem, rfl⟩ := List.mem_map.mp hname
    have hplain := Path.plain_child_of_plainPart hroot (hnames integration hmem)
    have hsame : ws.isDirectory (job.options.root.child integration.name) =
        mid.isDirectory (job.options.root.child integration.name) := by
      rw [Bool.eq_iff_iff]
      constructor
      · rw [hgrown.before.isDirectory_iff hplain, hgrown.after.isDirectory_iff hplain]
        exact hgrown.directory_kept
      · intro hthere
        apply hkeeps integration hmem
        rw [hmore.before.isDirectory_iff hplain] at hthere
        rw [hmore.after.isDirectory_iff hplain]
        exact hmore.directory_kept hthere
    exact congrArg _ hsame
  · have hnone : job.scope.integrations.contains name = false := by
      rw [← Bool.not_eq_true, List.contains_iff_mem]
      exact hname
    rw [hnone]
    rfl

section Compile

variable {host : Host} (htree : ws.IsTree)
  (hscript : ScriptFile ws job.location.path) (hcompile : host.Judges accepts)
  {found : List String}
  (hgives : Build.Gives ((job.files ws host.cwd).foldlM (job.compileFile host) [])
    ws found ws')

include htree hscript

omit htree in
theorem scriptFile_of_mem_files : ∀ file ∈ job.files ws cwd, ScriptFile ws file :=
  fun _ hfile => scriptFile_of_reaches hscript (reaches_of_mem_files hfile)

theorem isScript_eq {file path : Path} (hfile : file ∈ job.files ws cwd)
    (hsame : ws.resolve cwd file = ws.resolve cwd path) :
    job.isScript ws cwd path = (file == job.location.path) := by
  rw [isScript, ← hsame, Bool.eq_iff_iff, beq_iff_eq, beq_iff_eq]
  constructor
  · exact eq_location_of_mem_files htree hscript hfile
  · rintro rfl
    rfl

include hcompile hgives

/-- At any turn, what was made so far was made after the start, and what is made
later is made on top. -/
theorem grown_atTurn {path : Path} (hreaches : job.Reaches ws host.cwd path) :
    ws.Grown (fun _ => True) CompiledPlace (job.atTurn host ws path) ∧
      (job.atTurn host ws path).Grown (fun _ => True) CompiledPlace ws' := by
  obtain ⟨file, hfile, hsame⟩ := exists_mem_files htree hscript hreaches
  obtain ⟨before, rest, hsplit⟩ := List.append_of_mem hfile
  have hbefore := filesBefore_eq (nodup_files htree hscript) hsplit hsame
  have hfiles : ∀ file ∈ job.files ws host.cwd, ScriptFile ws file :=
    scriptFile_of_mem_files hscript
  rw [hsplit, List.foldlM_append] at hgives
  obtain ⟨said, mid, hfirst, hrest⟩ := Build.gives_bind_iff.mp hgives
  obtain ⟨hgrown, -⟩ := grown_of_gives_turns hcompile htree (fun other hother =>
    hfiles other (hsplit ▸ List.mem_append_left _ hother)) hfirst
  obtain ⟨hmore, -⟩ := grown_of_gives_turns hcompile hgrown.after (fun other hother =>
    hgrown.sameScripts.scriptFile
      (hfiles other (hsplit ▸ List.mem_append_right _ hother))) hrest
  rw [atTurn, hbefore, hfirst.after_eq]
  exact ⟨hgrown, hmore⟩

/-- There are no complaints when every file brought in passes at its turn. -/
theorem found_eq_nil_iff :
    found = [] ↔ ∀ path, job.Reaches ws host.cwd path →
      job.Passes accepts (job.isScript ws host.cwd path) (job.atTurn host ws path)
        host.cwd path := by
  have hfiles : ∀ file ∈ job.files ws host.cwd, ScriptFile ws file :=
    scriptFile_of_mem_files hscript
  obtain ⟨-, hfound⟩ := grown_of_gives_turns hcompile htree hfiles hgives
  rw [hfound]
  constructor
  · rintro ⟨-, hpasses⟩ path hreaches
    obtain ⟨file, hfile, hsame⟩ := exists_mem_files htree hscript hreaches
    obtain ⟨before, rest, hsplit⟩ := List.append_of_mem hfile
    have hplain := (hfiles file hfile).plain
    have hplain' := (scriptFile_of_reaches hscript hreaches).plain
    have hparts := (htree.resolve_eq_iff host.cwd hplain hplain').mp hsame
    have hturn := (grown_atTurn htree hscript hcompile hgives hreaches).1.after
    have hpass := hpasses before file rest hsplit
    rw [← filesBefore_eq (nodup_files htree hscript) hsplit hsame] at hpass
    rw [isScript_eq htree hscript hfile hsame]
    exact Passes.congr hturn hplain hplain' hparts hpass
  · intro hpasses
    refine ⟨rfl, fun before file rest hsplit => ?_⟩
    have hfile : file ∈ job.files ws host.cwd := by simp [hsplit]
    have hpass := hpasses file (reaches_of_mem_files hfile)
    rw [isScript_eq htree hscript hfile rfl, atTurn,
      filesBefore_eq (nodup_files htree hscript) hsplit rfl] at hpass
    exact hpass

/-- At its turn a file brings in the files that it brought in at the start. -/
theorem helpers_atTurn {path : Path} (hreaches : job.Reaches ws host.cwd path) :
    job.scope.helpers (job.atTurn host ws path) host.cwd path =
      job.scope.helpers ws host.cwd path := by
  have hfile := scriptFile_of_reaches hscript hreaches
  have hsame := (grown_atTurn htree hscript hcompile hgives hreaches).1.sameScripts
  exact (ImportScope.helpers_congr hsame hfile.plain hfile.place).symm

/-- Unless directories of integrations are made, the files can all be judged at
the start. -/
theorem found_eq_nil_iff_of_keepsSiblings (hroot : job.options.root.Plain)
    (hnames : ∀ integration ∈ job.project.integrations,
      Path.PlainPart integration.name)
    (hkeeps : job.KeepsSiblings ws ws') :
    found = [] ↔ ∀ path, job.Reaches ws host.cwd path →
      job.Passes accepts (job.isScript ws host.cwd path) ws host.cwd path := by
  rw [found_eq_nil_iff htree hscript hcompile hgives]
  refine forall₂_congr fun path hreaches => ?_
  have hfile := scriptFile_of_reaches hscript hreaches
  obtain ⟨hgrown, hmore⟩ := grown_atTurn htree hscript hcompile hgives hreaches
  have hsiblings := hkeeps.isSibling_eq hroot hnames hgrown hmore
  have hsame := hgrown.sameScripts
  constructor
  · exact Passes.of_sameScripts hsame.symm (fun name => (hsiblings name).symm)
      (hsame.scriptFile hfile)
  · exact Passes.of_sameScripts hsame hsiblings hfile

end Compile

end ScriptJob

end IntegrationBuild
