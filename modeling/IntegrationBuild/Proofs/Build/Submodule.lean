import IntegrationBuild.Proofs.Build.Unresolved

/-!
Names imported from a package.  An import that names a package leads to the
initial file of the package and to nothing else, while the package itself, when it
imports the same names from its own directory, is led to its submodules.  So the
submodules among the names are exactly what the import lacks.
-/

namespace IntegrationBuild

namespace ImportRef

variable {ws : Workspace} {importer file found : Path} {ref : ImportRef} {name : String}

/-- The import that a package makes of the same names from its own directory. -/
def fromWithin (ref : ImportRef) : ImportRef :=
  { ref with source := "", level := 1 }

/-- A name stands for a module in the directory of a file, and not for that file. -/
def IsSubmodule (ws : Workspace) (file : Path) (name : String) (found : Path) : Prop :=
  name ≠ "*" ∧ moduleFile? ws file.parent name = some found ∧ found ≠ file

theorem packageFile_parent (hname : file.name = "__init__.py") :
    packageFile file.parent = file := by
  obtain ⟨root, parts⟩ := file
  have hlast : parts.getLast? = some "__init__.py" := by
    rw [Path.name] at hname
    cases hparts : parts.getLast? with
    | none => simp [hparts] at hname
    | some part => simpa [hparts] using hname
  rw [packageFile, Path.child_of_plainPart plainPart_init]
  simp only [Path.parent]
  rw [List.dropLast_append_getLast? _ hlast]

theorem base_fromWithin (ref : ImportRef) (importer : Path) :
    ref.fromWithin.base importer = importer.parent :=
  rfl

theorem wanted_fromWithin (ref : ImportRef) : ref.fromWithin.wanted = ref.names :=
  if_pos (show "".isEmpty = true by decide)

theorem fileOf?_fromWithin (ws : Workspace) (base : Path) (ref : ImportRef) (name : String) :
    ref.fromWithin.fileOf? ws base name = nameFile? ws base name :=
  if_pos (show "".isEmpty = true by decide)

/-- From within a package, each name leads to its submodule or else to the
package itself. -/
theorem nameFile?_parent (hname : file.name = "__init__.py") (hfile : ws.isFile file = true) :
    nameFile? ws file.parent name =
      some (if name = "*" then file else (moduleFile? ws file.parent name).getD file) := by
  rw [nameFile?, packageFile_parent hname, if_pos hfile]
  by_cases hstar : name = "*"
  · simp [hstar]
  · cases moduleFile? ws file.parent name with
    | none => simp [hstar]
    | some found => simp [hstar]

theorem mem_files_fromWithin (hname : file.name = "__init__.py") (hfile : ws.isFile file = true) :
    found ∈ (ref.fromWithin.resolve ws file).files ↔
      ∃ name ∈ ref.names,
        found = if name = "*" then file else (moduleFile? ws file.parent name).getD file := by
  rw [mem_files_resolve, wanted_fromWithin]
  simp only [fileOf?_fromWithin, base_fromWithin, nameFile?_parent hname hfile,
    Option.some.injEq, @eq_comm Path found]

theorem unresolved_fromWithin (hname : file.name = "__init__.py")
    (hfile : ws.isFile file = true) :
    (ref.fromWithin.resolve ws file).unresolved = [] := by
  rw [unresolved_resolve, List.filter_eq_nil_iff]
  intro name _
  rw [fileOf?_fromWithin, base_fromWithin, nameFile?_parent hname hfile]
  exact Bool.false_ne_true

/-- An import that names a module leads to the file of the module alone. -/
theorem files_resolve_of_moduleFile? (hsource : ref.source ≠ "")
    (hmodule : moduleFile? ws (ref.base importer) ref.source = some file) :
    (ref.resolve ws importer).files = [file] ∧
      (ref.resolve ws importer).unresolved = [] := by
  have hempty : ref.source.isEmpty = false := by simpa using hsource
  simp [resolve, hempty, hmodule]

/-- The files that a package is led to by some names, without being the package
itself, are the submodules among the names. -/
theorem mem_files_fromWithin_and_ne_iff (hname : file.name = "__init__.py")
    (hfile : ws.isFile file = true) :
    found ∈ (ref.fromWithin.resolve ws file).files ∧ found ≠ file ↔
      ∃ name ∈ ref.names, IsSubmodule ws file name found := by
  rw [mem_files_fromWithin hname hfile]
  constructor
  · rintro ⟨⟨name, hmem, hfound⟩, hne⟩
    refine ⟨name, hmem, ?_⟩
    split at hfound
    · exact absurd hfound hne
    · next hstar =>
      cases hmodule : moduleFile? ws file.parent name with
      | none => exact absurd (by simpa [hmodule] using hfound) hne
      | some other =>
          obtain rfl : found = other := by simpa [hmodule] using hfound
          exact ⟨hstar, hmodule, hne⟩
  · rintro ⟨name, hmem, hstar, hmodule, hne⟩
    refine ⟨⟨name, hmem, ?_⟩, hne⟩
    rw [if_neg hstar, hmodule, Option.getD_some]

/-- In any file system, let an import name a package.  It leads to the initial file
of the package alone and leaves no name unresolved.  The files that the package is
led to when it imports the same names from its own directory, and which the import
lacks, are the submodules among the names; so the import has all of these files
exactly if no name is that of a submodule. -/
theorem lacks_iff_isSubmodule (hsource : ref.source ≠ "")
    (hmodule : moduleFile? ws (ref.base importer) ref.source = some file)
    (hname : file.name = "__init__.py") :
    (ref.resolve ws importer).files = [file] ∧
      (ref.resolve ws importer).unresolved = [] ∧
      (ref.fromWithin.resolve ws file).unresolved = [] ∧
      (∀ found, (found ∈ (ref.fromWithin.resolve ws file).files ∧
          found ∉ (ref.resolve ws importer).files) ↔
        ∃ name ∈ ref.names, IsSubmodule ws file name found) ∧
      ((ref.fromWithin.resolve ws file).files ⊆ (ref.resolve ws importer).files ↔
        ∀ name ∈ ref.names, ∀ found, ¬IsSubmodule ws file name found) := by
  obtain ⟨hfile, -, -⟩ := moduleFile?_cases hmodule
  obtain ⟨hfiles, hunresolved⟩ := files_resolve_of_moduleFile? hsource hmodule
  have hlacks : ∀ found, (found ∈ (ref.fromWithin.resolve ws file).files ∧
      found ∉ (ref.resolve ws importer).files) ↔
      ∃ name ∈ ref.names, IsSubmodule ws file name found := by
    intro found
    rw [hfiles, List.mem_singleton]
    exact mem_files_fromWithin_and_ne_iff hname hfile
  refine ⟨hfiles, hunresolved, unresolved_fromWithin hname hfile, hlacks, ?_⟩
  constructor
  · intro hsubset name hmem found hsubmodule
    obtain ⟨hfound, hmissing⟩ := (hlacks found).mpr ⟨name, hmem, hsubmodule⟩
    exact hmissing (hsubset hfound)
  · intro hnone found hfound
    by_contra hmissing
    obtain ⟨name, hmem, hsubmodule⟩ := (hlacks found).mp ⟨hfound, hmissing⟩
    exact hnone name hmem found hsubmodule

end ImportRef

namespace ScriptJob

/-- A script beside a package with one submodule, which cannot be read. -/
def packageWorkspace (script : ByteArray) : Workspace :=
  { entries :=
      [(["p"], .directory), (["p", "issues.py"], .file script), (["p", "helpers"], .directory),
        (["p", "helpers", "__init__.py"], .file "limit = 10\n".toUTF8),
        (["p", "helpers", "paginate.py"], .file "def paginate(\n".toUTF8)] }

/-- A script that imports the submodule from the package. -/
def submoduleScript : ByteArray :=
  "from .helpers import paginate\n\n\nasync def fetch_data(nango):\n    pass\n".toUTF8

/-- The import of some names from the package. -/
def helpersImport (names : List String) : ImportRef :=
  { line := 1, source := "helpers", names := names, level := 1 }

/-- An import of what the package itself defines lacks no file, an import of the
submodule does. -/
theorem lacks_iff_isSubmodule_helpers :
    let ws := packageWorkspace submoduleScript
    let importer := Path.absolute ["p", "issues.py"]
    let package := Path.absolute ["p", "helpers", "__init__.py"]
    moduleFile? ws ((helpersImport []).base importer) "helpers" = some package ∧
      package.name = "__init__.py" ∧
      ((helpersImport ["limit", "*"]).fromWithin.resolve ws package).files ⊆
        ((helpersImport ["limit", "*"]).resolve ws importer).files ∧
      ¬((helpersImport ["limit", "paginate"]).fromWithin.resolve ws package).files ⊆
        ((helpersImport ["limit", "paginate"]).resolve ws importer).files := by
  intro ws importer package
  have hsource : ∀ names, (helpersImport names).source ≠ "" :=
    fun _ => show "helpers" ≠ "" by decide
  have hmodule : ∀ names, moduleFile? ws ((helpersImport names).base importer)
      (helpersImport names).source = some package := by
    intro names
    change moduleFile? ws ((helpersImport []).base importer) "helpers" = some package
    decide +kernel
  have hlimit : ∀ name ∈ ["limit", "*"], name = "*" ∨
      moduleFile? ws package.parent name = none := by
    decide +kernel
  refine ⟨hmodule [], rfl, ?_, ?_⟩
  · obtain ⟨-, -, -, -, hall⟩ := ImportRef.lacks_iff_isSubmodule (hsource _) (hmodule _) rfl
    refine hall.mpr fun name hname found hsubmodule => ?_
    rcases hlimit name hname with hstar | hnone
    · exact hsubmodule.1 hstar
    · cases hnone.symm.trans hsubmodule.2.1
  · obtain ⟨-, -, -, -, hall⟩ := ImportRef.lacks_iff_isSubmodule (hsource _) (hmodule _) rfl
    intro hsubset
    refine hall.mp hsubset "paginate" (List.mem_cons_of_mem _ List.mem_cons_self)
      (.absolute ["p", "helpers", "paginate.py"]) ⟨by decide, ?_, by decide⟩
    decide +kernel

/-- The submodule that the script imports is not among the files it brings in, so the
script passes although the submodule cannot be read. -/
theorem passes_unreadable_submodule :
    let ws := packageWorkspace submoduleScript
    let job := flatJob submoduleScript
    let package := Path.absolute ["p", "helpers", "__init__.py"]
    let submodule := Path.absolute ["p", "helpers", "paginate.py"]
    ∃ ref ∈ importsOfFile ws job.location.path, ref.isRelative = true ∧
      moduleFile? ws (ref.base job.location.path) ref.source = some package ∧
      submodule ∈ (ref.fromWithin.resolve ws package).files ∧
      submodule ∉ (ref.resolve ws job.location.path).files ∧
      submodule ∉ job.order checkingHost ws ∧
      (job.usage ws submodule).ok = false ∧
      ∃ result ws', Build.Gives (job.run checkingHost) ws result ws' ∧ result.ok = true := by
  intro ws job package submodule
  refine ⟨helpersImport ["paginate"], by decide +kernel, rfl, by decide +kernel,
    by decide +kernel, by decide +kernel, by decide +kernel, by decide +kernel, ?_⟩
  exact Build.exists_gives_of_decide (by decide +kernel)

end ScriptJob

end IntegrationBuild
