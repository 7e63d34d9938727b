import IntegrationBuild.Proofs.Build.Order
import IntegrationBuild.Proofs.Workspace.Confined

/-!
The bound on chains of files.  Scripts are never made while a script is compiled, so
every file that is brought in at some turn stands at one of the places of the start, or
a link does that leads to it.  There are no more places than entries, so the search for
the files of a script comes to its end by itself, in any file system: the bound is never
met.
-/

namespace IntegrationBuild

open Workspace (Confined SameLinks confined_write gains_makeDirectories)

namespace Workspace

variable {ws ws' : Workspace} {path : Path}

/-- Where what stands at a place leads, if the place is reached along no link. -/
def destination (ws : Workspace) (location : Location) : Location :=
  (ws.realFrom (ws.entries.length + 1) [] location.dropLast location.getLast?.toList).1

theorem SameLinks.destination_eq (hsame : SameLinks ws ws') :
    ws.destination = ws'.destination := by
  funext location
  rw [destination, destination, hsame.realFrom_eq List.nodup_nil ws.hasRoom_entries
    (hsame.hasRoom ws'.hasRoom_entries)]

/-- A path to a file comes, with its last part, to a place where a file or a link
stands, and resolves to where that leads. -/
theorem exists_resolve_eq_destination {part : String} (hlast : path.parts.getLast? = some part)
    (hpart : part ≠ "..") (hfile : ws.isFile path = true) :
    ∃ location, location.getLast? = some part ∧
      ((∃ content, ws.entry? location = some (.file content)) ∨ ws.LinkAt location) ∧
      ws.resolve (.absolute []) path = .absolute (ws.destination location) := by
  rw [isFile] at hfile
  split at hfile
  · next place content hlocate =>
    obtain ⟨init, hinit⟩ := List.getLast?_eq_some_iff.mp hlast
    obtain ⟨n, hleads⟩ := leads_of_find (congrArg Found.place? hlocate)
    have hresolve := resolve_of_leads hleads
    rw [hinit] at hleads
    obtain ⟨-, k, mid, -, hname⟩ := hleads.split
    have hplace : ws.destination (mid ++ [part]) = place := by
      have hreal := hname.realFrom_eq List.nodup_nil ws.hasRoom_entries (by simp)
      simp [destination, hreal]
    refine ⟨mid ++ [part], by simp, ?_, by rw [hresolve, hplace]⟩
    cases hname with
    | up => exact absurd rfl hpart
    | down _ _ hrest =>
        cases hrest
        exact Or.inl ⟨content, entry?_of_locate_entry hlocate⟩
    | link _ hlink => exact Or.inr ⟨_, hlink⟩
  · cases hfile

/-- An absolute path resolves to the same place from anywhere. -/
theorem resolve_of_isAbsolute (habsolute : path.isAbsolute = true) (cwd : Path) :
    ws.resolve cwd path = ws.resolve (.absolute []) path := by
  rw [resolve, resolve, Path.join_of_absolute habsolute, Path.join_of_absolute habsolute]

end Workspace

section Absolute

theorem Path.isAbsolute_child {path : Path} (hpath : path.isAbsolute = true) (text : String) :
    (path.child text).isAbsolute = true := by
  rw [child, join]
  split
  · assumption
  · exact hpath

theorem isAbsolute_dottedPath {base : Path} (hbase : base.isAbsolute = true) (dotted : String) :
    (dottedPath base dotted).isAbsolute = true := by
  apply List.foldlRecOn (motive := fun path : Path => path.isAbsolute = true) _ _ hbase
  intro path hpath piece _
  exact Path.isAbsolute_child hpath piece

theorem ImportRef.isAbsolute_base {importer : Path} (himporter : importer.isAbsolute = true)
    (ref : ImportRef) : (ref.base importer).isAbsolute = true := by
  apply List.foldlRecOn (motive := fun path : Path => path.isAbsolute = true)
  · exact himporter
  · exact fun _ hpath _ _ => hpath

/-- The files that an import leads to are scripts, and absolute if its file is. -/
theorem ImportRef.script_of_mem_resolve {ws : Workspace} {importer file : Path} {ref : ImportRef}
    (himporter : importer.isAbsolute = true) (hfile : file ∈ (ref.resolve ws importer).files) :
    file.isAbsolute = true ∧ ws.isFile file = true ∧ ScriptPlace file.parts := by
  have hbase := isAbsolute_base himporter ref
  obtain ⟨name, -, hname⟩ := (mem_files_resolve ws importer ref file).mp hfile
  obtain ⟨hthere, rfl | ⟨dotted, -, rfl | rfl⟩⟩ := fileOf?_cases hname
  · exact ⟨Path.isAbsolute_child hbase _, hthere, scriptPlace_packageFile _⟩
  · exact ⟨isAbsolute_dottedPath hbase dotted, hthere, scriptPlace_ownFile _ _⟩
  · exact ⟨Path.isAbsolute_child (isAbsolute_dottedPath hbase dotted) _, hthere,
      scriptPlace_packageFile _⟩

end Absolute

namespace ScriptJob

variable {job : ScriptJob} {host : Host} {ws : Workspace} {path : Path}

/-- Compiling a script into a file makes no other file than the compiled script. -/
theorem confined_compileFile (job : ScriptJob) (host : Host) (found : List String)
    (path : Path) : Build.Keeps (Confined CompiledPlace) (job.compileFile host found path) := by
  refine fun _ => after_compileFile fun output houtput => ?_
  refine Build.keeps_byteCompile (Build.keeps_change fun _ _ hmake =>
    (gains_makeDirectories hmake).confined) fun ws code ws' hfree hwrite => ?_
  obtain ⟨stem, hlast⟩ := compiledPlace_of_output houtput
  refine confined_write (fun written hlocate => ⟨stem, ?_⟩) hwrite
  exact Workspace.getLast?_of_locate hlast (compiled_ne_dots stem) hfree.noLink hlocate

theorem confined_afterTurns (job : ScriptJob) (host : Host) (ws : Workspace)
    (files : List Path) : Confined CompiledPlace ws (job.afterTurns host ws files) :=
  Build.keeps_foldlM (job.confined_compileFile host) files [] ws

/-- A file that may have a turn: the script itself, or a script that is there at some
turn. -/
structure MayTurn (job : ScriptJob) (host : Host) (ws : Workspace) (path : Path) : Prop where
  absolute : path.isAbsolute = true
  there : path = job.location.path ∨ ∃ files,
    (job.afterTurns host ws files).isFile path = true ∧ ScriptPlace path.parts

theorem MayTurn.helper {files : List Path} (hpath : job.MayTurn host ws path) :
    ∀ helper ∈ job.helpersAfter host ws files path, job.MayTurn host ws helper := by
  intro helper hhelper
  obtain ⟨ref, -, hmem⟩ := List.mem_flatMap.mp hhelper
  have hother := (ImportScope.mem_helpers_checkRelative.mp hmem).1
  obtain ⟨habsolute, hfile, hplace⟩ :=
    ImportRef.script_of_mem_resolve hpath.absolute (List.mem_filter.mp hother).1
  exact ⟨habsolute, Or.inr ⟨files, hfile, hplace⟩⟩

/-- The places of the files that may have a turn. -/
def turnPlaces (job : ScriptJob) (host : Host) (ws : Workspace) : List Path :=
  ws.resolve host.cwd job.location.path ::
    ws.entries.map fun entry => .absolute (ws.destination entry.1)

theorem MayTurn.resolve_mem (hpath : job.MayTurn host ws path) :
    ws.resolve host.cwd path ∈ job.turnPlaces host ws := by
  rcases hpath.there with rfl | ⟨files, hfile, stem, hlast⟩
  · exact List.mem_cons_self
  · have hconfined := job.confined_afterTurns host ws files
    obtain ⟨location, hname, hentry, hresolve⟩ :=
      Workspace.exists_resolve_eq_destination hlast (script_ne_dots stem) hfile
    have hlocation : location ≠ [] := by
      rintro rfl
      cases hname
    -- what stands there at that turn stood there at the start
    have hstart : ∃ entry, ws.entry? location = some entry := by
      rcases hentry with ⟨content, hentry⟩ | ⟨target, hlink⟩
      · rcases hconfined.file location content hentry with hold | hcompiled
        · exact ⟨_, hold⟩
        · exact absurd ⟨stem, hname⟩ hcompiled.not_scriptPlace
      · exact ⟨_, (hconfined.links location target).mpr hlink⟩
    obtain ⟨entry, hentry⟩ := hstart
    rw [Workspace.resolve_of_isAbsolute hpath.absolute, hconfined.links.resolve_eq, hresolve,
      ← hconfined.links.destination_eq]
    exact List.mem_cons_of_mem _
      (List.mem_map.mpr ⟨_, Workspace.mem_entries_of_some hentry hlocation, rfl⟩)

theorem length_turnPlaces_lt : (job.turnPlaces host ws).length < ws.entries.length + 2 := by
  simp [turnPlaces]

section Bound

variable (habsolute : job.location.path.isAbsolute = true)

include habsolute

theorem mayTurn_location : job.MayTurn host ws job.location.path :=
  ⟨habsolute, Or.inl rfl⟩

theorem mayTurn_of_mem_order (hpath : path ∈ job.order host ws) : job.MayTurn host ws path := by
  obtain ⟨new, hvisit, hnew⟩ : ∃ new, visit (ws.resolve host.cwd) (job.helpersAfter host ws)
      (ws.entries.length + 2) [] job.location.path = [] ++ new ∧
      ∀ x ∈ new, job.MayTurn host ws x :=
    visit_eq_append (fun _ _ => MayTurn.helper) _ [] _ (mayTurn_location habsolute)
  rw [order, hvisit, List.nil_append] at hpath
  exact hnew path hpath

/-- A larger bound makes no difference to a script. -/
theorem run_compileFrom_add (extra : Nat) :
    (job.compileFrom host (ws.entries.length + 2 + extra) {} job.location.path).run.run ws =
      (job.compile host).run.run ws := by
  have horder : visit (ws.resolve host.cwd) (job.helpersAfter host ws)
      (ws.entries.length + 2 + extra) [] job.location.path = job.order host ws :=
    visit_add (fun _ _ => MayTurn.helper) (fun _ => MayTurn.resolve_mem) extra
      (searchable_nil length_turnPlaces_lt) (mayTurn_location habsolute)
  rw [run_compile]
  exact run_compileFrom_start horder

end Bound

end ScriptJob

end IntegrationBuild
