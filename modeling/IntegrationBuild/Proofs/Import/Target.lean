import IntegrationBuild.Import.Resolve
import IntegrationBuild.Layout.Compiled
import IntegrationBuild.Layout.Script
import IntegrationBuild.Proofs.Workspace.Tree

/-!
Where relative imports lead.  From a plain path they lead to plain paths of
scripts that are there.  Which files they are depends on the parts of the
importing path and on the scripts of the file system, and on nothing else.
-/

namespace IntegrationBuild

/-- The place of a script. -/
def ScriptPlace (location : Location) : Prop :=
  ∃ stem, location.getLast? = some (stem ++ scriptSuffix)

/-- A plain path to a script that is there. -/
structure ScriptFile (ws : Workspace) (path : Path) : Prop where
  plain : path.Plain
  place : ScriptPlace path.parts
  isFile : ws.isFile path = true

theorem plain_dottedPath {base : Path} (hbase : base.Plain) (dotted : String) :
    (dottedPath base dotted).Plain := by
  apply List.foldlRecOn _ _ hbase
  intro path hpath piece hpiece
  exact Path.plain_child hpath (Text.of_mem_splitOn hpiece).1

theorem plainPart_script {name : String} (hname : '/' ∉ name.toList) :
    Path.PlainPart (name ++ scriptSuffix) :=
  Path.plainPart_append hname (by decide) rfl (by decide)

theorem plainPart_init : Path.PlainPart "__init__.py" := by
  decide

theorem plain_packageFile {directory : Path} (hdirectory : directory.Plain) :
    (packageFile directory).Plain :=
  Path.plain_child_of_plainPart hdirectory plainPart_init

theorem scriptPlace_packageFile (directory : Path) :
    ScriptPlace (packageFile directory).parts := by
  rw [packageFile, Path.child_of_plainPart plainPart_init]
  exact ⟨"__init__", by simp [scriptSuffix]⟩

/-- The file of its own that a dotted name stands for. -/
def ownFile (base : Path) (dotted : String) : Path :=
  (dottedPath base dotted).withName ((dottedPath base dotted).name ++ scriptSuffix)

theorem plain_ownFile {base : Path} (hbase : base.Plain) (dotted : String) :
    (ownFile base dotted).Plain := by
  have htarget := plain_dottedPath hbase dotted
  exact Path.plain_withName htarget (plainPart_script htarget.name_no_slash)

theorem scriptPlace_ownFile (base : Path) (dotted : String) :
    ScriptPlace (ownFile base dotted).parts :=
  ⟨(dottedPath base dotted).name, by simp [ownFile, Path.withName]⟩

theorem moduleFile?_eq (ws : Workspace) (base : Path) (dotted : String) :
    moduleFile? ws base dotted =
      if (dottedPath base dotted).parts.isEmpty then none
      else if ws.isFile (ownFile base dotted) then some (ownFile base dotted)
      else if ws.isFile (packageFile (dottedPath base dotted)) then
        some (packageFile (dottedPath base dotted))
      else none :=
  rfl

theorem moduleFile?_cases {ws : Workspace} {base file : Path} {dotted : String}
    (hfile : moduleFile? ws base dotted = some file) :
    ws.isFile file = true ∧ (dottedPath base dotted).parts ≠ [] ∧
      (file = ownFile base dotted ∨ file = packageFile (dottedPath base dotted)) := by
  rw [moduleFile?_eq] at hfile
  split at hfile
  · simp at hfile
  · next hparts =>
    have hparts : (dottedPath base dotted).parts ≠ [] := by simpa using hparts
    split at hfile
    · next hown =>
      cases hfile
      exact ⟨hown, hparts, Or.inl rfl⟩
    · split at hfile
      · next hpackage =>
        cases hfile
        exact ⟨hpackage, hparts, Or.inr rfl⟩
      · simp at hfile

namespace ImportRef

theorem plain_base {importer : Path} (himporter : importer.Plain)
    (ref : ImportRef) : (ref.base importer).Plain := by
  apply List.foldlRecOn _ _ (Path.plain_parent himporter)
  intro path hpath _ _
  exact Path.plain_parent hpath

/-- The names that an import looks for: its module, or without one each name. -/
def wanted (ref : ImportRef) : List String :=
  if ref.source.isEmpty then ref.names else [ref.source]

/-- The file that a name of `from . import` leads to. -/
def nameFile? (ws : Workspace) (base : Path) (name : String) : Option Path :=
  (if name == "*" then none else moduleFile? ws base name).or
    (if ws.isFile (packageFile base) then some (packageFile base) else none)

/-- The file that a name looked for leads to. -/
def fileOf? (ws : Workspace) (base : Path) (ref : ImportRef) (name : String) :
    Option Path :=
  if ref.source.isEmpty then nameFile? ws base name else moduleFile? ws base name

/-- The place that an import names. -/
def place (ref : ImportRef) (importer : Path) : Path :=
  if ref.source.isEmpty then ref.base importer
  else dottedPath (ref.base importer) ref.source

theorem mem_files_addName {ws : Workspace} {base : Path} {target : ImportTarget}
    {name : String} {file : Path} :
    file ∈ (addName ws base target name).files ↔
      file ∈ target.files ∨ nameFile? ws base name = some file := by
  rw [addName, nameFile?]
  cases if name == "*" then none else moduleFile? ws base name with
  | some found =>
      simp only [List.mem_append, List.mem_singleton, Option.some_or,
        Option.some.injEq, @eq_comm Path found file]
  | none =>
      by_cases hpackage : ws.isFile (packageFile base) = true
      · by_cases hseen : packageFile base ∈ target.files
        · simp only [hpackage, if_true, List.contains_iff_mem.mpr hseen,
            Option.none_or, Option.some.injEq]
          constructor
          · exact Or.inl
          · rintro (hold | rfl)
            · exact hold
            · exact hseen
        · simp [hpackage, hseen, @eq_comm Path (packageFile base) file]
      · simp [hpackage]

theorem unresolved_addName (ws : Workspace) (base : Path) (target : ImportTarget)
    (name : String) :
    (addName ws base target name).unresolved =
      target.unresolved ++
        [name].filter fun name => (nameFile? ws base name).isNone := by
  rw [addName]
  simp only [List.filter_cons, List.filter_nil, nameFile?]
  cases if name == "*" then none else moduleFile? ws base name with
  | some found => simp
  | none =>
      by_cases hpackage : ws.isFile (packageFile base) = true
      · by_cases hseen : packageFile base ∈ target.files <;> simp [hpackage, hseen]
      · simp [hpackage]

theorem location_addName (ws : Workspace) (base : Path) (target : ImportTarget)
    (name : String) : (addName ws base target name).location = target.location := by
  rw [addName]
  cases if name == "*" then none else moduleFile? ws base name with
  | some found => rfl
  | none =>
      by_cases hpackage : ws.isFile (packageFile base) = true
      · by_cases hseen : packageFile base ∈ target.files <;> simp [hpackage, hseen]
      · simp [hpackage]

/-- The names of `from . import`, one after the other. -/
theorem foldl_addName (ws : Workspace) (base : Path) (names : List String)
    (target : ImportTarget) :
    (names.foldl (addName ws base) target).location = target.location ∧
      (names.foldl (addName ws base) target).unresolved =
        target.unresolved ++
          names.filter (fun name => (nameFile? ws base name).isNone) ∧
      ∀ file, file ∈ (names.foldl (addName ws base) target).files ↔
        file ∈ target.files ∨
          ∃ name ∈ names, nameFile? ws base name = some file := by
  induction names generalizing target with
  | nil => simp
  | cons name rest ih =>
      obtain ⟨hlocation, hunresolved, hfiles⟩ := ih (addName ws base target name)
      rw [List.foldl_cons]
      refine ⟨?_, ?_, ?_⟩
      · rw [hlocation, location_addName]
      · rw [hunresolved, unresolved_addName, List.append_assoc,
          ← List.filter_append, List.singleton_append]
      · intro file
        rw [hfiles, mem_files_addName, or_assoc]
        simp only [List.mem_cons, or_and_right, exists_or, exists_eq_left]

section Target

variable (ws : Workspace) (importer : Path) (ref : ImportRef)

theorem location_resolve :
    (ref.resolve ws importer).location = ref.place importer := by
  rw [resolve, place]
  split
  · exact (foldl_addName ws _ _ _).1
  · split <;> rfl

theorem unresolved_resolve :
    (ref.resolve ws importer).unresolved =
      ref.wanted.filter fun name =>
        (ref.fileOf? ws (ref.base importer) name).isNone := by
  simp only [resolve, wanted, fileOf?]
  split
  · exact (foldl_addName ws _ _ _).2.1
  · split <;> simp [*]

/-- The files of an import are those that its names lead to. -/
theorem mem_files_resolve (file : Path) :
    file ∈ (ref.resolve ws importer).files ↔
      ∃ name ∈ ref.wanted, ref.fileOf? ws (ref.base importer) name = some file := by
  simp only [resolve, wanted, fileOf?]
  split
  · simpa using (foldl_addName ws _ _ { location := _ }).2.2 file
  · split <;> simp [*, eq_comm]

end Target

theorem plain_place {importer : Path} (himporter : importer.Plain)
    (ref : ImportRef) : (ref.place importer).Plain := by
  have hbase := plain_base himporter ref
  rw [place]
  split
  · exact hbase
  · exact plain_dottedPath hbase ref.source

/-- A file that an import leads to has a name of its own or makes a package. -/
theorem fileOf?_cases {ws : Workspace} {base file : Path} {ref : ImportRef}
    {name : String} (hfile : ref.fileOf? ws base name = some file) :
    ws.isFile file = true ∧ (file = packageFile base ∨
      ∃ dotted, (dottedPath base dotted).parts ≠ [] ∧
        (file = ownFile base dotted ∨ file = packageFile (dottedPath base dotted))) := by
  have hmodule : ∀ {dotted}, moduleFile? ws base dotted = some file →
      ws.isFile file = true ∧ (file = packageFile base ∨
        ∃ dotted, (dottedPath base dotted).parts ≠ [] ∧
          (file = ownFile base dotted ∨ file = packageFile (dottedPath base dotted))) := by
    intro dotted hfile
    obtain ⟨hthere, hplace⟩ := moduleFile?_cases hfile
    exact ⟨hthere, Or.inr ⟨dotted, hplace⟩⟩
  rw [fileOf?] at hfile
  split at hfile
  · rcases Option.or_eq_some_iff.mp hfile with hown | ⟨-, hpackage⟩
    · split at hown
      · simp at hown
      · exact hmodule hown
    · split at hpackage
      · next hthere =>
        cases hpackage
        exact ⟨hthere, Or.inl rfl⟩
      · simp at hpackage
  · exact hmodule hfile

theorem scriptFile_of_mem_resolve {ws : Workspace} {importer file : Path}
    (himporter : importer.Plain) {ref : ImportRef}
    (hfile : file ∈ (ref.resolve ws importer).files) : ScriptFile ws file := by
  have hbase := plain_base himporter ref
  obtain ⟨name, -, hname⟩ := (mem_files_resolve ws importer ref file).mp hfile
  obtain ⟨hthere, rfl | ⟨dotted, -, rfl | rfl⟩⟩ := fileOf?_cases hname
  · exact ⟨plain_packageFile hbase, scriptPlace_packageFile _, hthere⟩
  · exact ⟨plain_ownFile hbase dotted, scriptPlace_ownFile _ dotted, hthere⟩
  · exact ⟨plain_packageFile (plain_dottedPath hbase dotted),
      scriptPlace_packageFile _, hthere⟩

/-- A file that an import leads to has more in its name than the suffix. -/
theorem exists_stem_of_mem_resolve {ws : Workspace} {importer file : Path}
    (himporter : importer.Plain) {ref : ImportRef}
    (hfile : file ∈ (ref.resolve ws importer).files) :
    ∃ stem, stem ≠ "" ∧ file.parts.getLast? = some (stem ++ scriptSuffix) := by
  have hbase := plain_base himporter ref
  have hpackage : ∀ directory : Path, ∃ stem, stem ≠ "" ∧
      (packageFile directory).parts.getLast? = some (stem ++ scriptSuffix) := by
    intro directory
    rw [packageFile, Path.child_of_plainPart plainPart_init]
    exact ⟨"__init__", by decide, by simp [scriptSuffix]⟩
  obtain ⟨name, -, hname⟩ := (mem_files_resolve ws importer ref file).mp hfile
  obtain ⟨-, rfl | ⟨dotted, hparts, rfl | rfl⟩⟩ := fileOf?_cases hname
  · exact hpackage _
  · refine ⟨(dottedPath (ref.base importer) dotted).name, ?_, by simp [ownFile, Path.withName]⟩
    rw [Path.name, List.getLast?_eq_some_getLast hparts]
    exact ((plain_dottedPath hbase dotted).parts _ (List.getLast_mem hparts)).ne_empty
  · exact hpackage _

end ImportRef

section SameParts

variable {p q : Path}

theorem dottedPath_parts_congr (hparts : p.parts = q.parts) (dotted : String) :
    (dottedPath p dotted).parts = (dottedPath q dotted).parts := by
  rw [dottedPath, dottedPath]
  induction Text.splitOn '.' dotted generalizing p q with
  | nil => exact hparts
  | cons piece rest ih => exact ih (Path.child_parts_congr hparts piece)

theorem ownFile_parts_congr (hparts : p.parts = q.parts) (dotted : String) :
    (ownFile p dotted).parts = (ownFile q dotted).parts := by
  have htarget := dottedPath_parts_congr hparts dotted
  rw [ownFile, ownFile, Path.name_congr htarget]
  exact Path.withName_parts_congr htarget _

theorem packageFile_parts_congr (hparts : p.parts = q.parts) :
    (packageFile p).parts = (packageFile q).parts :=
  Path.child_parts_congr hparts _

theorem moduleFile?_parts_congr (ws : Workspace) (hparts : p.parts = q.parts)
    (dotted : String) :
    (moduleFile? ws p dotted).map Path.parts =
      (moduleFile? ws q dotted).map Path.parts := by
  have htarget := dottedPath_parts_congr hparts dotted
  have hown := ownFile_parts_congr hparts dotted
  have hpackage := packageFile_parts_congr htarget
  rw [moduleFile?_eq, moduleFile?_eq, htarget, ws.isFile_parts_congr hown,
    ws.isFile_parts_congr hpackage]
  split
  · rfl
  · split
    · exact congrArg some hown
    · split
      · exact congrArg some hpackage
      · rfl

namespace ImportRef

theorem base_parts_congr (hparts : p.parts = q.parts) (ref : ImportRef) :
    (ref.base p).parts = (ref.base q).parts := by
  rw [base, base]
  have hparent := Path.parent_parts_congr hparts
  generalize p.parent = p at *
  generalize q.parent = q at *
  induction List.range (ref.level - 1) generalizing p q with
  | nil => exact hparent
  | cons _ rest ih =>
      exact ih p.parent q.parent (Path.parent_parts_congr hparent)

theorem place_parts_congr (hparts : p.parts = q.parts) (ref : ImportRef) :
    (ref.place p).parts = (ref.place q).parts := by
  have hbase := base_parts_congr hparts ref
  rw [place, place]
  split
  · exact hbase
  · exact dottedPath_parts_congr hbase _

theorem fileOf?_parts_congr (ws : Workspace) (hparts : p.parts = q.parts)
    (ref : ImportRef) (name : String) :
    (ref.fileOf? ws p name).map Path.parts =
      (ref.fileOf? ws q name).map Path.parts := by
  have hpackage := packageFile_parts_congr hparts
  have hmodule := moduleFile?_parts_congr ws hparts name
  rw [fileOf?, fileOf?]
  split
  · rw [nameFile?, nameFile?, Option.map_or, Option.map_or,
      ws.isFile_parts_congr hpackage]
    congr 1
    · split
      · rfl
      · exact hmodule
    · split
      · exact congrArg some hpackage
      · rfl
  · exact hmodule

theorem unresolved_parts_congr (ws : Workspace) (hparts : p.parts = q.parts)
    (ref : ImportRef) :
    (ref.resolve ws p).unresolved = (ref.resolve ws q).unresolved := by
  rw [unresolved_resolve, unresolved_resolve]
  congr 1
  funext name
  have hfile := fileOf?_parts_congr ws (base_parts_congr hparts ref) ref name
  rw [← Option.isNone_map, hfile, Option.isNone_map]

theorem exists_mem_files_resolve {ws : Workspace} (hparts : p.parts = q.parts)
    {ref : ImportRef} {file : Path} (hfile : file ∈ (ref.resolve ws q).files) :
    ∃ other ∈ (ref.resolve ws p).files, other.parts = file.parts := by
  obtain ⟨name, hname, hfound⟩ := (mem_files_resolve ws q ref file).mp hfile
  have hsame := fileOf?_parts_congr ws (base_parts_congr hparts ref) ref name
  rw [hfound, Option.map_some, Option.map_eq_some_iff] at hsame
  obtain ⟨other, hother, heq⟩ := hsame
  exact ⟨other, (mem_files_resolve ws p ref other).mpr ⟨name, hname, hother⟩, heq⟩

end ImportRef

end SameParts

section SameScripts

/-- Two trees with the same scripts at the same places. -/
structure SameScripts (ws ws' : Workspace) : Prop where
  before : ws.IsTree
  after : ws'.IsTree
  file : ∀ location content, ScriptPlace location →
    (ws.entry? location = some (.file content) ↔
      ws'.entry? location = some (.file content))

namespace SameScripts

variable {ws ws' : Workspace}

theorem refl (htree : ws.IsTree) : SameScripts ws ws :=
  ⟨htree, htree, fun _ _ _ => Iff.rfl⟩

theorem symm (hsame : SameScripts ws ws') : SameScripts ws' ws :=
  ⟨hsame.after, hsame.before, fun location content hplace =>
    (hsame.file location content hplace).symm⟩

theorem trans {ws'' : Workspace} (hfirst : SameScripts ws ws')
    (hnext : SameScripts ws' ws'') : SameScripts ws ws'' :=
  ⟨hfirst.before, hnext.after, fun location content hplace =>
    (hfirst.file location content hplace).trans
      (hnext.file location content hplace)⟩

variable (hsame : SameScripts ws ws')

include hsame

theorem isFile_eq {path : Path} (hpath : path.Plain)
    (hplace : ScriptPlace path.parts) : ws.isFile path = ws'.isFile path := by
  rw [Bool.eq_iff_iff, hsame.before.isFile_iff hpath.ne_dots,
    hsame.after.isFile_iff hpath.ne_dots]
  exact exists_congr fun content => hsame.file path.parts content hplace

theorem scriptFile {path : Path} (hfile : ScriptFile ws path) :
    ScriptFile ws' path :=
  ⟨hfile.plain, hfile.place, hsame.isFile_eq hfile.plain hfile.place ▸ hfile.isFile⟩

theorem read?_eq {path : Path} (hpath : path.Plain)
    (hplace : ScriptPlace path.parts) : ws.read? path = ws'.read? path := by
  ext content
  rw [hsame.before.read?_eq_some_iff hpath.ne_dots,
    hsame.after.read?_eq_some_iff hpath.ne_dots]
  exact hsame.file path.parts content hplace

theorem moduleFile?_congr {base : Path} (hbase : base.Plain) (dotted : String) :
    moduleFile? ws base dotted = moduleFile? ws' base dotted := by
  have hown := hsame.isFile_eq (plain_ownFile hbase dotted)
    (scriptPlace_ownFile base dotted)
  have hpackage := hsame.isFile_eq (plain_packageFile (plain_dottedPath hbase dotted))
    (scriptPlace_packageFile _)
  rw [moduleFile?_eq, moduleFile?_eq, hown, hpackage]

/-- Relative imports lead to the same files when the scripts are the same. -/
theorem resolve_congr {importer : Path} (himporter : importer.Plain)
    (ref : ImportRef) : ref.resolve ws importer = ref.resolve ws' importer := by
  have hbase := ImportRef.plain_base himporter ref
  have hpackage := hsame.isFile_eq (plain_packageFile hbase)
    (scriptPlace_packageFile _)
  have hadd : ImportRef.addName ws (ref.base importer) =
      ImportRef.addName ws' (ref.base importer) := by
    funext target name
    simp only [ImportRef.addName, hsame.moduleFile?_congr hbase, hpackage]
  rw [ImportRef.resolve, ImportRef.resolve, hadd, hsame.moduleFile?_congr hbase]

/-- Resolving does not look at the file system at all. -/
theorem resolvePath_eq : ws.resolve = ws'.resolve := by
  funext cwd path
  rw [hsame.before.resolve_eq, hsame.after.resolve_eq]

theorem isWithin_eq : ws.isWithin = ws'.isWithin := by
  funext cwd path root
  rw [Workspace.isWithin, hsame.resolvePath_eq, Workspace.isWithin]

theorem shownText_eq : Path.shownText ws = Path.shownText ws' := by
  funext cwd path root
  rw [Path.shownText, Path.shown, hsame.resolvePath_eq]
  rfl

end SameScripts

end SameScripts

end IntegrationBuild
