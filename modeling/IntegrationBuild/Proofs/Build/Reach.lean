import IntegrationBuild.Build.Script
import IntegrationBuild.Proofs.Import.Check
import IntegrationBuild.Proofs.Import.Search

/-!
The files that a script brings in as they are found at the start.  In a tree the
search for them visits each place once, reaches everything that relative imports lead
to, and is never cut short by its bound, whether or not files import each other in
circles.
-/

namespace IntegrationBuild

namespace Workspace

variable {ws : Workspace}

/-- Plain paths resolve to the same path when they have the same parts. -/
theorem IsTree.resolve_eq_iff (htree : ws.IsTree) {p q : Path} (cwd : Path)
    (hp : p.Plain) (hq : q.Plain) :
    ws.resolve cwd p = ws.resolve cwd q ↔ p.parts = q.parts := by
  rw [htree.resolve_plain cwd hp, htree.resolve_plain cwd hq]
  constructor
  · intro hsame
    exact (Path.mk.inj hsame).2
  · intro hparts
    rw [hparts]

/-- The places of a file system, as paths. -/
def places (ws : Workspace) : List Path :=
  ws.entries.map fun entry => .absolute entry.1

theorem mem_places_of_file {location : Location} {content : ByteArray}
    (hentry : ws.entry? location = some (.file content)) :
    .absolute location ∈ ws.places := by
  have hlocation : location ≠ [] := by
    rintro rfl
    cases hentry
  exact List.mem_map.mpr ⟨_, mem_entries_of_some hentry hlocation, rfl⟩

end Workspace

namespace ScriptJob

/-- A file that the script brings in, directly or through others. -/
def Reaches (job : ScriptJob) (ws : Workspace) (cwd path : Path) : Prop :=
  Brings (job.scope.helpers ws cwd) job.location.path path

/-- The files that the script brings in, itself first.  A file is known by the
path it resolves to, so none comes twice. -/
def files (job : ScriptJob) (ws : Workspace) (cwd : Path) : List Path :=
  reached (ws.resolve cwd) (job.scope.helpers ws cwd) (ws.entries.length + 2) job.location.path

variable {job : ScriptJob} {ws : Workspace} {cwd : Path} (htree : ws.IsTree)
  (hscript : ScriptFile ws job.location.path)

include hscript in
theorem scriptFile_of_reaches {path : Path} (hreaches : job.Reaches ws cwd path) :
    ScriptFile ws path := by
  induction hreaches with
  | refl => exact hscript
  | tail _ huses ih => exact ImportScope.scriptFile_of_mem_helpers ih.plain huses

include htree hscript

theorem resolve_mem_places {path : Path} (hreaches : job.Reaches ws cwd path) :
    ws.resolve cwd path ∈ ws.places := by
  have hfile := scriptFile_of_reaches hscript hreaches
  obtain ⟨content, hentry⟩ :=
    (htree.isFile_iff hfile.plain.ne_dots).mp hfile.isFile
  rw [htree.resolve_plain cwd hfile.plain]
  exact Workspace.mem_places_of_file hentry

/-- Files at one place bring in files at the same places. -/
theorem exists_helper_of_resolve_eq {p q file : Path}
    (hp : job.Reaches ws cwd p) (hq : job.Reaches ws cwd q)
    (hsame : ws.resolve cwd p = ws.resolve cwd q)
    (hfile : file ∈ job.scope.helpers ws cwd q) :
    ∃ other ∈ job.scope.helpers ws cwd p,
      ws.resolve cwd other = ws.resolve cwd file := by
  have hplain := (scriptFile_of_reaches hscript hp).plain
  have hplain' := (scriptFile_of_reaches hscript hq).plain
  have hparts := (htree.resolve_eq_iff cwd hplain hplain').mp hsame
  exact ImportScope.exists_mem_helpers htree hplain hplain' hparts hfile

omit htree hscript in
theorem length_places_lt : ws.places.length < ws.entries.length + 2 := by
  rw [Workspace.places, List.length_map]
  omega

/-- No place is visited twice. -/
theorem nodup_files : ((job.files ws cwd).map (ws.resolve cwd)).Nodup :=
  (searches_reached length_places_lt fun _ => resolve_mem_places htree hscript).nodup
    List.nodup_nil

omit htree hscript in
theorem reaches_of_mem_files {path : Path} (hpath : path ∈ job.files ws cwd) :
    job.Reaches ws cwd path :=
  brings_of_mem_reached hpath

theorem exists_mem_files {path : Path} (hreaches : job.Reaches ws cwd path) :
    ∃ file ∈ job.files ws cwd, ws.resolve cwd file = ws.resolve cwd path :=
  exists_mem_reached length_places_lt (fun _ => resolve_mem_places htree hscript)
    (fun _ _ hp hq hsame _ => exists_helper_of_resolve_eq htree hscript hp hq hsame) hreaches

/-- The places visited are those of the files that are brought in. -/
theorem mem_resolved_files_iff {place : Path} :
    place ∈ (job.files ws cwd).map (ws.resolve cwd) ↔
      ∃ path, job.Reaches ws cwd path ∧ ws.resolve cwd path = place := by
  constructor
  · intro hplace
    obtain ⟨path, hpath, rfl⟩ := List.mem_map.mp hplace
    exact ⟨path, reaches_of_mem_files hpath, rfl⟩
  · rintro ⟨path, hreaches, rfl⟩
    obtain ⟨file, hfile, hsame⟩ := exists_mem_files htree hscript hreaches
    exact List.mem_map.mpr ⟨file, hfile, hsame⟩

/-- The bound of the search does not matter. -/
theorem reached_add_eq_files (extra : Nat) :
    reached (ws.resolve cwd) (job.scope.helpers ws cwd)
      (ws.entries.length + 2 + extra) job.location.path = job.files ws cwd :=
  reached_add length_places_lt (fun _ => resolve_mem_places htree hscript) extra

/-- The script itself is visited under its own path. -/
theorem eq_location_of_mem_files {path : Path} (hpath : path ∈ job.files ws cwd)
    (hsame : ws.resolve cwd path = ws.resolve cwd job.location.path) :
    path = job.location.path := by
  have hlocation : job.location.path ∈ job.files ws cwd := by
    obtain ⟨others, hfiles, -⟩ : ∃ others, job.files ws cwd = job.location.path :: others ∧ _ :=
      visit_succ_eq_cons (ws.entries.length + 1) job.location.path
    rw [hfiles]
    exact List.mem_cons_self
  exact List.inj_on_of_nodup_map (nodup_files htree hscript) hpath hlocation hsame

omit htree in
/-- The files brought in stay the same as long as the scripts do. -/
theorem files_congr {ws' : Workspace} (hsame : SameScripts ws ws') :
    job.files ws cwd = job.files ws' cwd := by
  rw [← reached_add_eq_files hsame.before hscript ws'.entries.length,
    ← reached_add_eq_files hsame.after (hsame.scriptFile hscript) ws.entries.length,
    reached, reached, hsame.resolvePath_eq, Nat.add_right_comm, Nat.add_comm ws.entries.length,
    Nat.add_right_comm ws'.entries.length]
  apply visit_congr
  intro _ file hreaches
  have hfile := scriptFile_of_reaches hscript hreaches
  exact ImportScope.helpers_congr hsame hfile.plain hfile.place

end ScriptJob

end IntegrationBuild
