import IntegrationBuild.Proofs.Build.Spared

/-!
Whether the models module is up to date.  A file is when its bytes are those of
the module that the project has now.  Generating and compiling bring the module
up to date: whatever they write after it has another name than the module and
the project file.
-/

namespace IntegrationBuild

open Workspace (SameLinks Spares exists_of_write keepsParents_makeDirectories keepsParents_write
  keepsWays_write read?_of_locate read?_write sameLinks_makeDirectories sameLinks_write)

namespace Build

variable {ws ws' : Workspace} {root path : Path} {project : Project}

section Names

variable {place : Location} {settings : Settings}

theorem getLast?_filePath (root : Path) :
    (Project.filePath root).parts.getLast? = some Project.fileName := by
  simp [parts_filePath]

/-- Without links, the models module is not the project file. -/
theorem resolve_modelsPath_ne (htree : ws.IsTree)
    (hmodels : Settings.isModuleFile settings.modelsFile = true)
    (hplace : place.getLast? = some Project.fileName) :
    ws.resolve (.absolute []) (settings.modelsPath root) ≠ .absolute place := by
  obtain ⟨stem, hlast⟩ := scriptPlace_modelsPath hmodels root
  have hname : stem ++ scriptSuffix ≠ Project.fileName := append_ne rfl (by decide)
  apply htree.resolve_ne _ hlast (append_ne rfl (by decide))
  rw [hplace]
  exact fun heq => hname (Option.some.inj heq).symm

end Names

section Verify

/-- A file is up to date when its bytes are the module of the project. -/
theorem exists_gives_verifyModels (hload : Project.load ws root = .ok project)
    {content : ByteArray} (hread : ws.read? path = some content) :
    ∃ check, Gives (verifyModels root path) ws check ws ∧ check.missing = false ∧
      (check.ok = true ↔ content = project.modelsSource.toUTF8) := by
  refine ⟨{ ok := content == project.modelsSource.toUTF8, path := path.text }, ?_, rfl, ?_⟩
  · refine gives_bind_iff.mpr ⟨ws, ws, gives_get_iff.mpr ⟨rfl, rfl⟩, ?_⟩
    rw [hread]
    exact gives_bind_iff.mpr
      ⟨project, ws, gives_loadProject_iff.mpr ⟨hload, rfl⟩, gives_pure_iff.mpr ⟨rfl, rfl⟩⟩
  · -- bytes are compared as arrays
    have hbytes : (content.data == project.modelsSource.toUTF8.data) = true ↔
        content.data = project.modelsSource.toUTF8.data := beq_iff_eq
    rw [ByteArray.ext_iff]
    exact hbytes

/-- A file holds the models module that the project has now. -/
def HoldsModels (ws : Workspace) (root path : Path) : Prop :=
  ∃ project, Project.load ws root = .ok project ∧
    ws.read? path = some project.modelsSource.toUTF8

theorem HoldsModels.exists_gives (hholds : HoldsModels ws root path) :
    ∃ check, Gives (verifyModels root path) ws check ws ∧ check.ok = true := by
  obtain ⟨project, hload, hread⟩ := hholds
  obtain ⟨check, hgives, -, hok⟩ := exists_gives_verifyModels hload hread
  exact ⟨check, hgives, hok.mpr rfl⟩

/-- The project is read off its file. -/
theorem load_congr (hread : ws.read? (Project.filePath root) = ws'.read? (Project.filePath root)) :
    Project.load ws root = Project.load ws' root := by
  rw [Project.load, Project.load, hread]

theorem load_of_locate {place : Location} {content : ByteArray}
    (hload : Project.load ws root = .ok project)
    (hlocate : ws.locate (Project.filePath root) = .entry place (.file content))
    (hlocate' : ws'.locate (Project.filePath root) = .entry place (.file content)) :
    Project.load ws' root = .ok project := by
  rw [← hload]
  apply load_congr
  rw [read?_of_locate hlocate, read?_of_locate hlocate']

end Verify

/-- Generating writes the models module and then goes through the operations. -/
theorem gives_generate_iff {given : Option Settings} {settings : Settings} {generated : Generated}
    (hsettings : settingsFor ws root given = .ok settings)
    (hload : Project.load ws root = .ok project) :
    Gives (generate root given) ws generated ws' ↔ ∃ written created,
      ws.write (settings.modelsPath root) project.modelsSource.toUTF8 = .ok written ∧
      Gives (project.operations.mapM (scaffold root project.dialect settings.modelsModule))
        written created ws' ∧
      generated = { models := settings.modelsPath root, created := created.filterMap id } := by
  have hwith : Gives (generate root given) ws generated ws' ↔
      Gives (generateWith root settings) ws generated ws' := by
    rw [Gives, Gives, run_generate hsettings]
  rw [hwith]
  simp only [generateWith, gives_bind_iff, gives_loadProject_iff, writeModels, writeText, write,
    gives_change_iff, gives_pure_iff]
  constructor
  · rintro ⟨other, _, ⟨hother, rfl⟩, _, written, hwrite, created, _, hscaffold, rfl, rfl⟩
    cases hload.symm.trans hother
    exact ⟨written, created, hwrite, hscaffold, rfl⟩
  · rintro ⟨written, created, hwrite, hscaffold, rfl⟩
    exact ⟨project, ws, ⟨hload, rfl⟩, (), written, hwrite, created, ws', hscaffold, rfl, rfl⟩

section Written

variable (htree : ws.IsTree) (hload : Project.load ws root = .ok project)

include htree hload

/-- The project file of a tree is known by its name. -/
theorem exists_place_of_load : ∃ place content,
    ws.locate (Project.filePath root) = .entry place (.file content) ∧
      place.getLast? = some Project.fileName := by
  obtain ⟨place, content, hlocate⟩ := exists_locate_of_load hload
  refine ⟨place, content, hlocate, ?_⟩
  exact htree.getLast?_of_locate (getLast?_filePath root) (by decide)
    (congrArg Found.place? hlocate)

/-- Generating brings the models module up to date. -/
theorem holdsModels_of_gives_generate {given : Option Settings} {settings : Settings}
    {generated : Generated} (hdown : ∀ operation ∈ project.operations, IsDownward operation)
    (hsettings : settingsFor ws root given = .ok settings)
    (hmodels : Settings.isModuleFile settings.modelsFile = true)
    (hgives : Gives (generate root given) ws generated ws') :
    HoldsModels ws' root (settings.modelsPath root) := by
  obtain ⟨place, content, hlocate, hplace⟩ := exists_place_of_load htree hload
  have hkept : KeepsFile (Project.filePath root) place content ws ws' := by
    rw [← hgives.after_eq]
    apply keepsFile_after_generate htree.hasParents
    · intro other hother
      cases hsettings.symm.trans hother
      exact resolve_modelsPath_ne htree hmodels hplace
    · intro other hother
      cases hload.symm.trans hother
      exact hdown
  refine ⟨project, load_of_locate hload hlocate (hkept hlocate), ?_⟩
  -- the starter scripts are new files
  obtain ⟨written, created, hwrite, hscaffold, -⟩ := (gives_generate_iff hsettings hload).mp hgives
  have hroot : HasRoot root written :=
    HasRoot.of_keepsWays ⟨htree.hasParents, isDirectory_of_load hload⟩
      (keepsWays_write hwrite) (keepsParents_write hwrite htree.hasParents)
  have hretains := (keeps_scaffoldAll hdown root project.dialect _).of_gives hscaffold hroot
  exact hretains.1.read?_eq (read?_write hwrite)

omit hload in
/-- Compiling brings the models module up to date. -/
theorem holdsModels_of_gives_compileProject {host : Host} {options : BuildOptions}
    {report : BuildReport} (hload : Project.load ws options.root = .ok project)
    (hmodels : Settings.isModuleFile options.settings.modelsFile = true)
    (hgives : Gives (compileProject host options) ws report ws') :
    HoldsModels ws' options.root (options.settings.modelsPath options.root) := by
  obtain ⟨place, content, hlocate, hplace⟩ := exists_place_of_load htree hload
  have hspares : Spares place ws ws' := by
    rw [← hgives.after_eq]
    apply spares_after_compileProject hmodels
    intro out _
    exact ⟨avoidsOutput_of_getLast? htree hplace (by decide) (by decide) (by decide) out,
      resolve_modelsPath_ne htree hmodels hplace⟩
  refine ⟨project, load_of_locate hload hlocate (hspares.locate_eq hlocate), ?_⟩
  obtain ⟨course⟩ := nonempty_course_of_load hload hgives
  obtain ⟨made, written, hmake, hwrite, hrest⟩ := course.exists_written hmodels
  obtain ⟨models, -, hmodelsLocate, -⟩ := exists_of_write hwrite
  -- the models module is no document and no compiled script
  have hwritten : written.IsTree := htree.of_sameLinks
    (trans_of SameLinks (sameLinks_makeDirectories hmake) (sameLinks_write hwrite))
    (keepsParents_write hwrite (keepsParents_makeDirectories hmake htree.hasParents))
  have hname := scriptPlace_of_locate hwritten (scriptPlace_modelsPath hmodels options.root)
    (congrArg Found.place? hmodelsLocate)
  have havoids := avoidsOutput_of_scriptPlace hwritten hname course.out
  exact read?_of_locate ((hrest models havoids).locate_eq hmodelsLocate)

end Written

/-- In a project without links and with plain names, a file is up to date
exactly if its bytes are the models module of the project; and the models module
is up to date after every run that generates or compiles. -/
theorem verifyModels_ok_iff (htree : ws.IsTree) (hload : Project.load ws root = .ok project)
    (hintegrations : ∀ integration ∈ project.integrations, Path.PlainPart integration.name)
    (hoperations : ∀ operation ∈ project.operations, Path.PlainPart operation.name) :
    (∀ path content, ws.read? path = some content →
      ∃ check, Gives (verifyModels root path) ws check ws ∧ check.missing = false ∧
        (check.ok = true ↔ content = project.modelsSource.toUTF8)) ∧
    (∀ given settings generated ws', settingsFor ws root given = .ok settings →
      Settings.isModuleFile settings.modelsFile = true →
      Gives (generate root given) ws generated ws' →
      ∃ check, Gives (verifyModels root (settings.modelsPath root)) ws' check ws' ∧
        check.ok = true) ∧
    (∀ host options report ws', options.root = root →
      Settings.isModuleFile options.settings.modelsFile = true →
      Gives (compileProject host options) ws report ws' →
      ∃ check, Gives (verifyModels root (options.settings.modelsPath root)) ws' check ws' ∧
        check.ok = true) := by
  refine ⟨fun path content hread => exists_gives_verifyModels hload hread, ?_, ?_⟩
  · intro given settings generated ws' hsettings hmodels hgives
    have hintegration := Project.plainPart_integration hload hintegrations
    refine (holdsModels_of_gives_generate htree hload (fun operation hmem => ?_) hsettings hmodels
      hgives).exists_gives
    exact isDownward_of_plainPart (hintegration operation hmem) (hoperations operation hmem)
  · rintro host options report ws' rfl hmodels hgives
    exact (holdsModels_of_gives_compileProject htree hload hmodels hgives).exists_gives

/-- Generating comes to its end for the pair. -/
theorem exists_gives_generate_pair : ∃ generated ws',
    Gives (generate pairOptions.root (some {})) pairWorkspace generated ws' := by
  have hends : ∃ generated ws',
      Gives (generate pairOptions.root (some {})) pairWorkspace generated ws' ∧ True :=
    exists_gives_of_decide (by decide +kernel)
  obtain ⟨generated, ws', hgives, -⟩ := hends
  exact ⟨generated, ws', hgives⟩

theorem verifyModels_ok_iff_pair : ∃ project generated ws' report final,
    Project.load pairWorkspace pairOptions.root = .ok project ∧
    Gives (generate pairOptions.root (some {})) pairWorkspace generated ws' ∧
    (∃ check, Gives (verifyModels pairOptions.root (.absolute ["p", "models.py"])) ws' check ws' ∧
      check.ok = true) ∧
    Gives (compileProject pairHost pairOptions) pairWorkspace report final ∧
    ∃ check, Gives (verifyModels pairOptions.root (.absolute ["p", "models.py"])) final check
      final ∧ check.ok = true := by
  obtain ⟨project, report, final, hload, hrun, -⟩ := exists_pairRun_eq
  obtain ⟨generated, ws', hgenerate⟩ := exists_gives_generate_pair
  obtain ⟨hintegrations, hoperations⟩ := isPlain_pair.names project hload
  obtain ⟨-, hgenerated, hcompiled⟩ :=
    verifyModels_ok_iff isPlain_pair.tree hload hintegrations hoperations
  have hpath : pairOptions.settings.modelsPath pairOptions.root = .absolute ["p", "models.py"] := by
    decide
  refine ⟨project, generated, ws', report, final, hload, hgenerate, ?_, hrun, ?_⟩
  · rw [← hpath]
    exact hgenerated (some {}) {} generated ws' rfl isPlain_pair.models hgenerate
  · rw [← hpath]
    exact hcompiled pairHost pairOptions report final rfl isPlain_pair.models hrun

end Build

end IntegrationBuild
