import IntegrationBuild.Proofs.Build.Spared
import IntegrationBuild.Proofs.Workspace.Confined

/-!
Paths that never lead above the project root.  Where the path of a script is one,
so is that of every file it brings in: an import drops parts and adds names.
Shown relative to the root such a path never leads above where it starts, so its
compiled form goes on from the output directory and never leads above it.
-/

namespace IntegrationBuild

namespace Path

/-- An absolute path as it is read from texts. -/
structure IsRead (path : Path) : Prop where
  rooted : path.root = "/" ∨ path.root = "//"
  names : AreNames path.parts

/-- A path that goes on from a root never leads above it. -/
def IsInward (path root : Path) : Prop :=
  ∀ rest, path.parts = root.parts ++ rest → NeverAbove 0 rest

/-- An absolute path that never leads above a root. -/
structure Descends (path root : Path) : Prop extends IsRead path where
  inward : path.IsInward root

theorem rootOf_cases (text : String) :
    rootOf text = "" ∨ rootOf text = "/" ∨ rootOf text = "//" := by
  rw [rootOf]
  split
  · exact Or.inr (Or.inl rfl)
  · exact Or.inr (Or.inr rfl)
  · exact Or.inr (Or.inl rfl)
  · exact Or.inl rfl

theorem isAbsolute_ofString {text : String} (htext : text.toList.head? = some '/') :
    (ofString text).isAbsolute = true := by
  have hroot : rootOf text ≠ "" := by
    rw [rootOf]
    split
    · simp
    · simp
    · simp
    · next hslash =>
      obtain ⟨rest, hrest⟩ := List.head?_eq_some_iff.mp htext
      exact absurd hrest (hslash rest)
  exact bne_iff_ne.mpr hroot

theorem AreNames.name_no_slash {path : Path} (hpath : AreNames path.parts) :
    '/' ∉ path.name.toList := by
  rw [name]
  cases hlast : path.parts.getLast? with
  | none => simp
  | some part => exact (hpath part (List.mem_of_getLast? hlast)).2

/-- Parts that are read from their text again lead where they did. -/
theorem neverAbove_partsOf_text {depth : Nat} {parts : List String} (hnames : AreNames parts)
    (hparts : NeverAbove depth parts) : NeverAbove depth (partsOf (text { parts := parts })) := by
  by_cases hne : parts = []
  · subst hne
    exact .nil depth
  · rw [partsOf, splitOn_text (fun part hpart => (hnames part hpart).2) hne]
    exact hparts.filter hnames

theorem IsRead.child {path : Path} (hpath : path.IsRead) (text : String) :
    (path.child text).IsRead := by
  refine ⟨?_, hpath.names.join (areNames_ofString text)⟩
  rw [Path.child, join]
  split
  · next habsolute => exact (rootOf_cases text).resolve_left (bne_iff_ne.mp habsolute)
  · exact hpath.rooted

section Descends

variable {root path : Path} (hpath : path.Descends root)

include hpath

theorem Descends.append {more : List String} (hmore : AreNames more) (hdots : ".." ∉ more) :
    Descends { path with parts := path.parts ++ more } root := by
  refine ⟨⟨hpath.rooted, hpath.names.append hmore⟩, fun rest hrest => ?_⟩
  rcases List.append_eq_append_iff.mp hrest with ⟨_, -, rfl⟩ | ⟨first, hfirst, rfl⟩
  · exact .of_names fun hmem => hdots (List.mem_append_right _ hmem)
  · exact (hpath.inward first hfirst).append hdots

theorem Descends.child {text : String} (htext : ".." ∉ (ofString text).parts) :
    (path.child text).Descends root := by
  refine ⟨hpath.toIsRead.child text, ?_⟩
  rw [Path.child, join]
  split
  · intro rest hrest
    exact .of_names fun hdots => htext (hrest ▸ List.mem_append_right _ hdots)
  · exact (hpath.append (areNames_ofString text) htext).inward

theorem Descends.child_of_dotless {text : String} (htext : '.' ∉ text.toList) :
    (path.child text).Descends root :=
  hpath.child fun hdots => (plainPart_of_mem_partsOf htext hdots).ne_dots rfl

theorem Descends.parent : path.parent.Descends root := by
  refine ⟨⟨hpath.rooted, hpath.names.subset (List.dropLast_subset _)⟩, fun rest hrest => ?_⟩
  obtain ⟨last, hlast⟩ := List.dropLast_prefix path.parts
  change path.parts.dropLast = root.parts ++ rest at hrest
  rw [hrest, List.append_assoc] at hlast
  exact (hpath.inward _ hlast.symm).of_append

theorem Descends.withName {name : String} (hname : PlainPart name) :
    (path.withName name).Descends root := by
  have hmore : AreNames [name] := by
    intro part hpart
    rw [List.mem_singleton.mp hpart]
    exact ⟨hname.ne_empty, hname.no_slash⟩
  exact hpath.parent.append hmore (by simpa using hname.ne_dots.symm)

theorem descends_packageFile : (packageFile path).Descends root :=
  hpath.child (by decide)

theorem descends_dottedPath (dotted : String) : (dottedPath path dotted).Descends root := by
  refine List.foldlRecOn (motive := fun path : Path => path.Descends root) _ _ hpath ?_
  intro base hbase piece hpiece
  exact hbase.child_of_dotless (Text.of_mem_splitOn hpiece).1

theorem descends_ownFile (dotted : String) : (ownFile path dotted).Descends root := by
  have htarget := descends_dottedPath hpath dotted
  exact htarget.withName (plainPart_script htarget.names.name_no_slash)

end Descends

end Path

section Imports

variable {ws : Workspace} {cwd root : Path}

theorem ImportRef.descends_base {importer : Path} (himporter : importer.Descends root)
    (ref : ImportRef) : (ref.base importer).Descends root := by
  refine List.foldlRecOn (motive := fun path : Path => path.Descends root) _ _ himporter.parent ?_
  exact fun _ hpath _ _ => hpath.parent

theorem ImportRef.descends_of_mem_resolve {importer file : Path}
    (himporter : importer.Descends root) {ref : ImportRef}
    (hfile : file ∈ (ref.resolve ws importer).files) : file.Descends root := by
  have hbase := descends_base himporter ref
  obtain ⟨name, -, hname⟩ := (mem_files_resolve ws importer ref file).mp hfile
  obtain ⟨-, rfl | ⟨dotted, -, rfl | rfl⟩⟩ := fileOf?_cases hname
  · exact Path.descends_packageFile hbase
  · exact Path.descends_ownFile hbase dotted
  · exact Path.descends_packageFile (Path.descends_dottedPath hbase dotted)

/-- Whatever a file brings in lies where its path and imports lead, without `..`. -/
theorem ScriptJob.descends_of_mem_helpers {job : ScriptJob} {path helper : Path}
    (hpath : path.Descends root) (hhelper : helper ∈ job.scope.helpers ws cwd path) :
    helper.Descends root := by
  obtain ⟨ref, -, hmem⟩ := List.mem_flatMap.mp hhelper
  have hother := (ImportScope.mem_helpers_checkRelative.mp hmem).1
  exact ImportRef.descends_of_mem_resolve hpath (List.mem_filter.mp hother).1

end Imports

section Scripts

variable {root : Path} {operation : Operation}

/-- Wherever the script of an operation is, its path never leads above the root. -/
structure Operation.IsInward (operation : Operation) (root : Path) : Prop where
  nested : (operation.nestedPath root).IsInward root
  flat : (operation.flatPath root).IsInward root

theorem Operation.IsInward.descends_locate (hinward : operation.IsInward root)
    (hroot : root.IsRead) (ws : Workspace) : (operation.locate ws root).path.Descends root := by
  rw [locate]
  split
  · exact ⟨((hroot.child _).child _).child _, hinward.nested⟩
  · exact ⟨hroot.child _, hinward.flat⟩

/-- Names without `..` are enough. -/
theorem Build.IsDownward.isInward (hdown : IsDownward operation) (hroot : root.IsRead) :
    operation.IsInward root := by
  have hstart : root.Descends root := by
    refine ⟨hroot, fun rest hrest => ?_⟩
    rw [List.append_right_eq_self.mp hrest.symm]
    exact .nil 0
  have hfolder := (hstart.child hdown.integration).child_of_dotless (dotless_folder operation)
  exact ⟨(hfolder.child hdown.name).inward, (hstart.child hdown.name).inward⟩

end Scripts

section Compiled

variable {ws : Workspace} {cwd path root out output : Path}

/-- A path that never leads above the root is shown by parts that do not, or else
as it is. -/
theorem Path.Descends.shown_cases (hpath : path.Descends root) (hcwd : AreNames cwd.parts) :
    Path.shown ws cwd path root = path ∨ ∃ rest, AreNames rest ∧ NeverAbove 0 rest ∧
      Path.shown ws cwd path root = { parts := rest } := by
  rw [shown]
  cases hwritten : path.relativeTo? root with
  | some relative =>
      obtain ⟨rest, hrest, rfl⟩ := exists_parts_of_relativeTo? hwritten
      refine Or.inr ⟨rest, ?_, hpath.inward rest hrest, rfl⟩
      exact hpath.names.subset (hrest ▸ List.subset_append_right _ _)
  | none =>
      cases hresolved : (ws.resolve cwd path).relativeTo? (ws.resolve cwd root) with
      | none => exact Or.inl rfl
      | some relative =>
          obtain ⟨rest, hrest, rfl⟩ := exists_parts_of_relativeTo? hresolved
          have hsubset : rest ⊆ (ws.resolve cwd path).parts :=
            hrest ▸ List.subset_append_right _ _
          refine Or.inr ⟨rest, ?_, .of_names fun hdots => ?_, rfl⟩
          · exact (Workspace.areNames_resolve hcwd hpath.names).subset hsubset
          · exact (mem_of_mem_normalParts (hsubset hdots)).2 rfl

/-- The text of an absolute path is read as an absolute path. -/
theorem Path.IsRead.isAbsolute_text (hpath : path.IsRead) :
    (Path.ofString path.text).isAbsolute = true := by
  apply isAbsolute_ofString
  rw [text]
  rcases hpath.rooted with hroot | hroot
  · simp [hroot]
  · simp [hroot]

theorem Path.exists_parts_of_withSuffix? {file : Path} {suffix : String}
    (hfile : path.withSuffix? suffix = some file) :
    file.root = path.root ∧ ∃ stem, file.parts = path.parts.dropLast ++ [stem ++ suffix] := by
  rw [withSuffix?] at hfile
  split at hfile
  · cases hfile
  · obtain rfl := Option.some.inj hfile
    exact ⟨rfl, _, rfl⟩

/-- The compiled form of such a path goes on from the output directory and never
leads above it. -/
theorem Path.Descends.exists_parts_of_compiledPath (hpath : path.Descends root)
    (hcwd : AreNames cwd.parts) (houtput : compiledPath ws cwd path root out = .ok output) :
    ∃ rest, output.parts = out.parts ++ rest ∧ NeverAbove 0 rest := by
  rw [compiledPath, Path.shownText] at houtput
  split at houtput
  · cases houtput
  · next hrelative =>
    rcases hpath.shown_cases hcwd with hshown | ⟨rest, hnames, hrest, hshown⟩
    · rw [hshown] at hrelative
      exact absurd hpath.isAbsolute_text hrelative
    · rw [hshown] at houtput hrelative
      split at houtput
      · next file hfile =>
        obtain rfl := Except.ok.inj houtput
        obtain ⟨hroot, stem, hparts⟩ := exists_parts_of_withSuffix? hfile
        refine ⟨file.parts, ?_, ?_⟩
        · rw [join, isAbsolute, hroot, ← isAbsolute, if_neg hrelative]
        · rw [hparts]
          refine (neverAbove_partsOf_text hnames hrest).dropLast.append ?_
          simpa using (compiled_ne_dots stem).symm
      · cases houtput

end Compiled

end IntegrationBuild
