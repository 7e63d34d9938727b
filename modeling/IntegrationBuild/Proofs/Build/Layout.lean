import IntegrationBuild.Proofs.Build.Verdict

/-!
Where the scripts of a project and their compiled forms lie.  A script that is
found lies below its boundary, and so does everything that it brings in;
directories that imports lead through have no dots in their names, so that no
compiled script stands in the way of another.
-/

namespace IntegrationBuild

/-- From some part on, no part has a dot in it. -/
def Dotless (start : Nat) (parts : List String) : Prop :=
  ∀ part ∈ parts.drop start, '.' ∉ part.toList

section Dotless

variable {start : Nat}

theorem Dotless.dropLast {parts : List String} (hparts : Dotless start parts) :
    Dotless start parts.dropLast := fun part hpart =>
  hparts part (((List.dropLast_sublist parts).drop start).subset hpart)

theorem Dotless.append {parts more : List String} (hparts : Dotless start parts)
    (hmore : ∀ part ∈ more, '.' ∉ part.toList) : Dotless start (parts ++ more) := by
  intro part hpart
  rw [List.drop_append] at hpart
  rcases List.mem_append.mp hpart with hold | hnew
  · exact hparts part hold
  · exact hmore part (List.mem_of_mem_drop hnew)

theorem dotless_child {path : Path} (hpath : Dotless start path.parts)
    {text : String} (htext : '.' ∉ text.toList) :
    Dotless start (path.child text).parts := by
  have hparts : ∀ part ∈ Path.partsOf text, '.' ∉ part.toList := by
    intro part hpart hdot
    have hpiece := Text.of_mem_splitOn (List.mem_filter.mp hpart).1
    exact htext (hpiece.2 hdot)
  rw [Path.child, Path.join]
  split
  · exact fun part hpart => hparts part (List.mem_of_mem_drop hpart)
  · exact hpath.append hparts

theorem dotless_dottedPath {base : Path} (hbase : Dotless start base.parts)
    (dotted : String) : Dotless start (dottedPath base dotted).parts := by
  refine List.foldlRecOn (motive := fun path : Path => Dotless start path.parts)
    _ _ hbase ?_
  intro path hpath piece hpiece
  exact dotless_child hpath (Text.of_mem_splitOn hpiece).1

theorem dotless_packageFile {directory : Path}
    (hdirectory : Dotless start directory.parts) :
    Dotless start (packageFile directory).parts.dropLast := by
  rw [packageFile, Path.child_of_plainPart plainPart_init, List.dropLast_concat]
  exact hdirectory

namespace ImportRef

theorem dotless_base {importer : Path}
    (himporter : Dotless start importer.parts.dropLast) (ref : ImportRef) :
    Dotless start (ref.base importer).parts := by
  refine List.foldlRecOn (motive := fun path : Path => Dotless start path.parts)
    _ _ himporter ?_
  intro path hpath _ _
  exact hpath.dropLast

/-- Imports lead to files in directories without dots. -/
theorem dotless_of_mem_resolve {ws : Workspace} {importer file : Path}
    (himporter : Dotless start importer.parts.dropLast) {ref : ImportRef}
    (hfile : file ∈ (ref.resolve ws importer).files) :
    Dotless start file.parts.dropLast := by
  have hbase := dotless_base himporter ref
  obtain ⟨name, -, hname⟩ := (mem_files_resolve ws importer ref file).mp hfile
  obtain ⟨-, rfl | ⟨dotted, -, rfl | rfl⟩⟩ := fileOf?_cases hname
  · exact dotless_packageFile hbase
  · rw [ownFile, Path.withName, List.dropLast_concat]
    exact (dotless_dottedPath hbase dotted).dropLast
  · exact dotless_packageFile (dotless_dottedPath hbase dotted)

end ImportRef

end Dotless

/-- A path below a boundary, with no dots in the directories between. -/
structure Inside (boundary path : Path) : Prop where
  below : boundary.parts <+: path.parts.dropLast
  dotless : Dotless boundary.parts.length path.parts.dropLast

theorem isWithin_iff {ws : Workspace} {path root : Path} (htree : ws.IsTree)
    (cwd : Path) (hpath : path.Plain) (hroot : root.Plain) :
    ws.isWithin cwd path root = true ↔ root.parts <+: path.parts := by
  rw [Workspace.isWithin, htree.resolve_plain cwd hpath,
    htree.resolve_plain cwd hroot, Path.relativeTo?]
  simp [Path.absolute]

theorem plainPart_folder (operation : Operation) :
    Path.PlainPart operation.folder := by
  rw [Operation.folder]
  cases operation.kind <;> decide

theorem dotless_folder (operation : Operation) : '.' ∉ operation.folder.toList := by
  rw [Operation.folder]
  cases operation.kind <;> decide

namespace Operation

theorem operation_locate (operation : Operation) (ws : Workspace)
    (root : Path) : (operation.locate ws root).operation = operation := by
  rw [locate]
  split <;> rfl

section Place

variable {operation : Operation} {root : Path} (hroot : root.Plain)
  (hname : Path.PlainPart operation.name)

include hroot hname

theorem place_flatPath :
    (operation.flatPath root).Plain ∧ ScriptPlace (operation.flatPath root).parts := by
  have hfile := plainPart_script hname.no_slash
  refine ⟨Path.plain_child_of_plainPart hroot hfile, operation.name, ?_⟩
  simp [flatPath, Path.child_of_plainPart hfile]

variable (hintegration : Path.PlainPart operation.integration)

include hintegration

theorem place_nestedPath :
    (operation.nestedPath root).Plain ∧ ScriptPlace (operation.nestedPath root).parts := by
  have hfile := plainPart_script hname.no_slash
  refine ⟨Path.plain_child_of_plainPart (Path.plain_child_of_plainPart
    (Path.plain_child_of_plainPart hroot hintegration) (plainPart_folder _)) hfile,
    operation.name, ?_⟩
  simp [nestedPath, Path.child_of_plainPart hfile]

/-- The script of an operation has a plain path, wherever it is. -/
theorem place_locate (ws : Workspace) : (operation.locate ws root).path.Plain ∧
    ScriptPlace (operation.locate ws root).path.parts := by
  rw [locate]
  split
  · exact place_nestedPath hroot hname hintegration
  · exact place_flatPath hroot hname

end Place

end Operation

namespace ScriptJob

/-- A script that is there, in a project without links whose integrations and
operations have plain names. -/
structure Placed (job : ScriptJob) (ws : Workspace) : Prop where
  tree : ws.IsTree
  root : job.options.root.Plain
  integrations : ∀ integration ∈ job.project.integrations,
    Path.PlainPart integration.name
  integration : Path.PlainPart job.location.operation.integration
  operation : Path.PlainPart job.location.operation.name
  located : job.location = job.location.operation.locate ws job.options.root
  isThere : job.location.isThere ws = true

variable {job : ScriptJob} {ws : Workspace} {cwd : Path}

namespace Placed

variable (hplaced : job.Placed ws)

include hplaced

theorem plainPart_file :
    Path.PlainPart (job.location.operation.name ++ scriptSuffix) :=
  plainPart_script hplaced.operation.no_slash

/-- The script lies at the root, or in a folder of its integration. -/
theorem cases :
    (job.location.path = job.location.operation.flatPath job.options.root ∧
      job.location.boundary = job.options.root) ∨
    (job.location.path = job.location.operation.nestedPath job.options.root ∧
      job.location.boundary =
        job.options.root.child job.location.operation.integration) := by
  have hlocated := hplaced.located
  rw [Operation.locate] at hlocated
  split at hlocated
  · right
    exact ⟨congrArg ScriptLocation.path hlocated,
      congrArg ScriptLocation.boundary hlocated⟩
  · left
    exact ⟨congrArg ScriptLocation.path hlocated,
      congrArg ScriptLocation.boundary hlocated⟩

theorem plain_boundary : job.location.boundary.Plain := by
  rcases hplaced.cases with ⟨-, hboundary⟩ | ⟨-, hboundary⟩
  · rw [hboundary]
    exact hplaced.root
  · rw [hboundary]
    exact Path.plain_child_of_plainPart hplaced.root hplaced.integration

theorem root_prefix_boundary :
    job.options.root.parts <+: job.location.boundary.parts := by
  rcases hplaced.cases with ⟨-, hboundary⟩ | ⟨-, hboundary⟩
  · simp [hboundary]
  · rw [hboundary, Path.child_of_plainPart hplaced.integration]
    exact List.prefix_append _ _

theorem scriptFile : ScriptFile ws job.location.path := by
  have hplace := Operation.place_locate hplaced.root hplaced.operation hplaced.integration ws
  rw [← hplaced.located] at hplace
  exact ⟨hplace.1, hplace.2, hplaced.isThere⟩

theorem inside : Inside job.location.boundary job.location.path := by
  have hfile := hplaced.plainPart_file
  rcases hplaced.cases with ⟨hpath, hboundary⟩ | ⟨hpath, hboundary⟩
  · rw [hpath, hboundary, Operation.flatPath]
    constructor
    · simp [Path.child_of_plainPart hfile]
    · simp [Path.child_of_plainPart hfile, Dotless]
  · rw [hpath, hboundary, Operation.nestedPath]
    have hdot := dotless_folder job.location.operation
    have hfolder := plainPart_folder job.location.operation
    constructor
    · simp [Path.child_of_plainPart hfile, Path.child_of_plainPart hfolder]
    · simp [Path.child_of_plainPart hfile, Path.child_of_plainPart hfolder,
        Dotless, hdot]

/-- The boundary is a directory. -/
theorem entry?_boundary :
    ws.entry? job.location.boundary.parts = some .directory := by
  have hscript := hplaced.scriptFile
  obtain ⟨content, hentry⟩ :=
    (hplaced.tree.isFile_iff hscript.plain.ne_dots).mp hscript.isFile
  obtain ⟨more, hmore⟩ := hplaced.inside.below
  have hne : job.location.path.parts ≠ [] := by
    obtain ⟨stem, hlast⟩ := hscript.place
    intro hnil
    simp [hnil] at hlast
  rw [← List.dropLast_concat_getLast hne, ← hmore, List.append_assoc] at hentry
  by_contra hdirectory
  rw [hplaced.tree.entry?_below hdirectory (by simp)] at hentry
  simp at hentry

/-- Everything that the script brings in lies inside the boundary. -/
theorem inside_of_reaches {path : Path} (hreaches : job.Reaches ws cwd path) :
    Inside job.location.boundary path := by
  induction hreaches with
  | refl => exact hplaced.inside
  | @tail path file hbefore huses ih =>
      have hpath := scriptFile_of_reaches hplaced.scriptFile hbefore
      have hfile := ImportScope.scriptFile_of_mem_helpers hpath.plain huses
      obtain ⟨ref, -, hmem⟩ := List.mem_flatMap.mp huses
      obtain ⟨hother, hwithin⟩ := ImportScope.mem_helpers_checkRelative.mp hmem
      have hresolved := (List.mem_filter.mp hother).1
      refine ⟨?_, ImportRef.dotless_of_mem_resolve ih.dotless hresolved⟩
      have hstays := hwithin file (List.mem_cons_of_mem _ hother)
      obtain ⟨more, hmore⟩ := (isWithin_iff hplaced.tree cwd hfile.plain
        hplaced.plain_boundary).mp hstays
      have hne : more ≠ [] := by
        rintro rfl
        obtain ⟨content, hentry⟩ :=
          (hplaced.tree.isFile_iff hfile.plain.ne_dots).mp hfile.isFile
        have hdirectory := hplaced.entry?_boundary
        rw [List.append_nil] at hmore
        rw [hmore, hentry] at hdirectory
        simp at hdirectory
      rw [← hmore, List.dropLast_append_of_ne_nil hne]
      exact List.prefix_append _ _

end Placed

end ScriptJob

end IntegrationBuild
