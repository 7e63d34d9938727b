import IntegrationBuild.Proofs.Build.Course

/-!
What a build prepares: the models module, its compiled form and the document of
the project.  All of it is there when the jobs begin, and to prepare it again
where it is there changes nothing.
-/

namespace IntegrationBuild.Build

open Workspace (Grown)

section Documents

variable {ws ws' : Workspace} {path : Path} {json : Json}

theorem gives_writeJson_iff :
    Gives (writeJson path json) ws () ws' ↔
      ∃ mid text, ws.makeDirectories path.parent = .ok mid ∧ json.artifact? = some text ∧
        mid.write path text.toUTF8 = .ok ws' := by
  simp only [writeJson, gives_bind_iff, makeDirectories, gives_change_iff]
  constructor
  · rintro ⟨_, mid, hmake, hgives⟩
    split at hgives
    · next text htext => exact ⟨mid, text, hmake, htext, gives_change_iff.mp hgives⟩
    · exact absurd hgives not_gives_throw
  · rintro ⟨mid, text, hmake, htext, hwrite⟩
    refine ⟨(), mid, hmake, ?_⟩
    rw [htext]
    exact gives_change_iff.mpr hwrite

/-- A document is written at a path. -/
structure HoldsJson (ws : Workspace) (path : Path) (json : Json) : Prop where
  directory : ws.entry? path.parent.parts = some .directory
  text : ∃ text, json.artifact? = some text ∧
    ws.entry? path.parts = some (.file text.toUTF8)

/-- A document that is written is there. -/
theorem holds_of_gives_writeJson (htree : ws.IsTree) (hpath : path.Plain)
    (hgives : Gives (writeJson path json) ws () ws') :
    Grown (· <+: path.parent.parts) (· = path.parts) ws ws' ∧ HoldsJson ws' path json := by
  obtain ⟨mid, text, hmake, htext, hwrite⟩ := gives_writeJson_iff.mp hgives
  have hparent := Path.plain_parent hpath
  have hmade : Grown (· <+: path.parent.parts) (· = path.parts) ws mid :=
    htree.grown_makeDirectories hparent hmake
  have hdirectory := htree.entry?_of_makeDirectories hparent hmake
  obtain ⟨hgrown, hentry⟩ := hmade.after.grown_write_plain
    (· <+: path.parent.parts) hpath hwrite
  exact ⟨hmade.trans hgrown, hgrown.directory_kept hdirectory, text, htext, hentry⟩

/-- To write a document where it is written changes nothing. -/
theorem HoldsJson.gives_writeJson (hholds : HoldsJson ws path json) (htree : ws.IsTree)
    (hpath : path.Plain) : Gives (writeJson path json) ws () ws := by
  obtain ⟨hdirectory, text, htext, hentry⟩ := hholds
  exact gives_writeJson_iff.mpr ⟨ws, text,
    htree.makeDirectories_of_directory (Path.plain_parent hpath) hdirectory, htext,
    htree.write_of_file hpath hentry⟩

/-- A document stays where nothing is written in its place. -/
theorem HoldsJson.of_grown {directories files : Location → Prop}
    (hholds : HoldsJson ws path json) (hgrown : Grown directories files ws ws')
    (hpath : ¬files path.parts) : HoldsJson ws' path json := by
  obtain ⟨hdirectory, text, htext, hentry⟩ := hholds
  exact ⟨hgrown.directory_kept hdirectory, text, htext, (hgrown.file_iff hpath _).mp hentry⟩

end Documents

section Names

/-- The end of a name tells the names apart. -/
theorem append_ne {stem suffix name : String} {last : Char}
    (hsuffix : suffix.toList.getLast? = some last) (hname : name.toList.getLast? ≠ some last) :
    stem ++ suffix ≠ name := by
  rintro rfl
  rw [String.toList_append, List.getLast?_append, hsuffix] at hname
  exact hname rfl

variable {location : Location} {name : String}

theorem not_compiledPlace (hlast : location.getLast? = some name)
    (hname : name.toList.getLast? ≠ some 'c') : ¬CompiledPlace location := by
  rintro ⟨stem, hstem⟩
  rw [hlast] at hstem
  exact append_ne rfl hname (Option.some.inj hstem).symm

theorem not_scriptPlace (hlast : location.getLast? = some name)
    (hname : name.toList.getLast? ≠ some 'y') : ¬ScriptPlace location := by
  rintro ⟨stem, hstem⟩
  rw [hlast] at hstem
  exact append_ne rfl hname (Option.some.inj hstem).symm

/-- A document in a directory, under a name that no script and no compiled script has. -/
theorem document_place (directory : Path) (hname : Path.PlainPart name) :
    (directory.child name).parts.getLast? = some name ∧
      (directory.child name).parent.parts = directory.parts := by
  rw [Path.child_of_plainPart hname]
  simp [Path.parent]

theorem plainPart_projectDocument : Path.PlainPart projectDocument := by
  decide

theorem plainPart_reportDocument : Path.PlainPart reportDocument := by
  decide

end Names

section Models

variable {host : Host} {options : BuildOptions} {project : Project} {out : Path}
  {settings : Settings}

/-- The models module lies at the root, and its compiled form at the top of the
output directory. -/
theorem exists_modelsPath (hmodels : Settings.isModuleFile settings.modelsFile = true)
    (root out : Path) : ∃ stem, stem ≠ "" ∧ Path.PlainPart (stem ++ scriptSuffix) ∧
      settings.modelsPath root = { root with parts := root.parts ++ [stem ++ scriptSuffix] } ∧
      compiledModels out settings =
        { out with parts := out.parts ++ ([] ++ [stem ++ compiledSuffix]) } := by
  obtain ⟨stem, hstem, hplain, hfile⟩ := Settings.exists_stem_of_isModuleFile hmodels
  refine ⟨stem, hstem, hplain, ?_, ?_⟩
  · rw [Settings.modelsPath, Path.child, hfile]
    rfl
  · rw [compiledModels, hfile]
    simp [Path.withSuffix?, Path.withName, Path.stem, Path.name, Path.splitName_script hstem,
      Path.join, Path.isAbsolute]

end Models

/-- What a build prepares is there: the models module, its compiled form and the
document of the project. -/
structure Prepared (host : Host) (options : BuildOptions) (project : Project) (out : Path)
    (ws : Workspace) : Prop where
  tree : ws.IsTree
  directory : ws.entry? out.parts = some .directory
  models : ws.entry? (options.settings.modelsPath options.root).parts =
    some (.file project.modelsSource.toUTF8)
  source : IsSource options.root ws (options.settings.modelsPath options.root)
  compiled : ∃ code, host.verdict ws options.root (options.settings.modelsPath options.root) =
      .ok code ∧
    ws.entry? (compiledModels out options.settings).parts = some (.file code)
  document : HoldsJson ws (out.child projectDocument) project.toJson

/-- The place of a file that a build may write: a script, a compiled script or
a document. -/
structure BuildPlace (location : Location) : Prop where
  parts : ∀ part ∈ location, Path.PlainPart part
  named : ScriptPlace location ∨ CompiledPlace location ∨
    location.getLast? = some projectDocument ∨ location.getLast? = some reportDocument

section Prepare

variable {host : Host} {options : BuildOptions} {project : Project} {out : Path}
  {ws ws' : Workspace}

theorem gives_writeModelsArtifacts_iff :
    Gives (writeModelsArtifacts host project options out) ws () ws' ↔
      ∃ written compiled,
        ws.write (options.settings.modelsPath options.root) project.modelsSource.toUTF8 =
          .ok written ∧
        Gives (byteCompile host options.root (options.settings.modelsPath options.root)
          (compiledModels out options.settings)) written none compiled ∧
        Gives (writeJson (out.child projectDocument) project.toJson) compiled () ws' := by
  simp only [writeModelsArtifacts, writeModels, writeText, write, gives_bind_iff,
    gives_change_iff]
  constructor
  · rintro ⟨_, written, hwrite, fault, compiled, hcompile, hgives⟩
    split at hgives
    · exact absurd hgives not_gives_throw
    · exact ⟨written, compiled, hwrite, hcompile, hgives⟩
  · rintro ⟨written, compiled, hwrite, hcompile, hdocument⟩
    exact ⟨(), written, hwrite, none, compiled, hcompile, hdocument⟩

theorem gives_prepare_iff {given : Path} :
    Gives (prepare host options project) ws given ws' ↔
      options.outputPath ws host.cwd = .ok given ∧ ∃ made, ws.makeDirectories given = .ok made ∧
        Gives (writeModelsArtifacts host project options given) made () ws' := by
  simp only [prepare, gives_bind_iff, gives_get_iff, gives_orStop_iff, makeDirectories,
    gives_change_iff, gives_pure_iff]
  constructor
  · rintro ⟨_, _, ⟨rfl, rfl⟩, _, _, ⟨hout, rfl⟩, _, made, hmake, _, _, hwrite, rfl, rfl⟩
    exact ⟨hout, made, hmake, hwrite⟩
  · rintro ⟨hout, made, hmake, hwrite⟩
    exact ⟨ws, ws, ⟨rfl, rfl⟩, given, ws, ⟨hout, rfl⟩, (), made, hmake, (), ws', hwrite, rfl, rfl⟩

/-- The compiled models module is an artifact like that of any script. -/
theorem isOf_models (host : Host) (out : Path)
    (hmodels : Settings.isModuleFile options.settings.modelsFile = true)
    (hsource : IsSource options.root ws (options.settings.modelsPath options.root)) :
    (host.artifact ws options.root (options.settings.modelsPath options.root)
      (compiledModels out options.settings)).IsOf host ws options.root out
      (options.settings.modelsPath options.root) := by
  obtain ⟨stem, hstem, -, hpath, hcompiled⟩ := exists_modelsPath hmodels options.root out
  refine ⟨hsource, ⟨[], stem, hstem, ?_, hcompiled⟩, rfl⟩
  rw [hpath, List.append_nil]

theorem place_modelsPath (hroot : options.root.Plain)
    (hmodels : Settings.isModuleFile options.settings.modelsFile = true) :
    (options.settings.modelsPath options.root).Plain ∧
      ScriptPlace (options.settings.modelsPath options.root).parts := by
  obtain ⟨stem, -, hpart, hpath, -⟩ := exists_modelsPath hmodels options.root options.root
  refine ⟨?_, stem, by simp [hpath]⟩
  rw [hpath, ← Path.child_of_plainPart hpart]
  exact Path.plain_child_of_plainPart hroot hpart

theorem isSource_modelsPath (htree : ws.IsTree) (hroot : options.root.Plain)
    (hmodels : Settings.isModuleFile options.settings.modelsFile = true) {content : ByteArray}
    (hentry : ws.entry? (options.settings.modelsPath options.root).parts =
      some (.file content)) :
    IsSource options.root ws (options.settings.modelsPath options.root) := by
  obtain ⟨stem, hstem, -, hpath, -⟩ := exists_modelsPath hmodels options.root options.root
  obtain ⟨hplain, hplace⟩ := place_modelsPath hroot hmodels
  refine ⟨⟨hplain, hplace, ?_⟩, by simp [hpath], stem, hstem, by simp [hpath]⟩
  exact (htree.isFile_iff hplain.ne_dots).mpr ⟨content, hentry⟩

variable (hsite : Site host options project out)
  (hmodels : Settings.isModuleFile options.settings.modelsFile = true)

include hsite hmodels

/-- The models module, compiled without a fault, is there with its code. -/
theorem exists_code_of_gives_byteCompile (htree : ws.IsTree)
    (hsource : IsSource options.root ws (options.settings.modelsPath options.root))
    (hgives : Gives (byteCompile host options.root (options.settings.modelsPath options.root)
      (compiledModels out options.settings)) ws none ws') :
    Grown (· <+: out.parts) (· = (compiledModels out options.settings).parts) ws ws' ∧
      ∃ code, host.verdict ws options.root (options.settings.modelsPath options.root) = .ok code ∧
        ws'.entry? (compiledModels out options.settings).parts = some (.file code) := by
  have hbelow := (isOf_models host out hmodels hsource).below hsite.plain
  rw [Gives, run_byteCompile (.refl htree) hsite.cwd hsite.root hsource] at hgives
  obtain ⟨_, stored, hstore, hfault⟩ := gives_bind_iff.mp hgives
  obtain ⟨hfault, rfl⟩ := gives_pure_iff.mp hfault
  obtain ⟨hstores, hholds, -⟩ := holds_of_gives_store htree hbelow hstore
  constructor
  · refine Grown.mono hstores ?_ ?_
    · rintro location ⟨a, ha, hway⟩
      obtain rfl := List.mem_singleton.mp ha
      obtain ⟨stem, -, -, -, hcompiled⟩ := exists_modelsPath hmodels options.root out
      simpa [Host.artifact, hcompiled, Path.parent] using hway
    · rintro location ⟨a, ha, rfl, -⟩
      obtain rfl := List.mem_singleton.mp ha
      rfl
  · rw [Host.fault?] at hfault
    split at hfault
    · cases hfault
    · next code hverdict =>
      refine ⟨code, hverdict, hholds.code code ?_⟩
      rw [Host.artifact, hverdict]
      rfl

/-- A build prepares what it is to prepare, and makes no directory besides the
output directory and those on the way to it. -/
theorem prepared_of_gives_prepare (htree : ws.IsTree)
    (hgives : Gives (prepare host options project) ws out ws') :
    Prepared host options project out ws' ∧ Grown (· <+: out.parts) BuildPlace ws ws' := by
  obtain ⟨-, made, hmake, hwrite⟩ := gives_prepare_iff.mp hgives
  obtain ⟨written, stored, hwrite, hcompile, hjson⟩ := gives_writeModelsArtifacts_iff.mp hwrite
  -- the output directory
  have hmade : Grown (· <+: out.parts) BuildPlace ws made :=
    htree.grown_makeDirectories hsite.plain hmake
  have hdirectory := htree.entry?_of_makeDirectories hsite.plain hmake
  -- the models module
  obtain ⟨hplain, hplace⟩ := place_modelsPath hsite.root hmodels
  obtain ⟨hwritten, hentry⟩ := hmade.after.grown_write_plain (· <+: out.parts) hplain hwrite
  have hsource := isSource_modelsPath hwritten.after hsite.root hmodels hentry
  -- its compiled form
  have hbelow := (isOf_models host out hmodels hsource).below hsite.plain
  obtain ⟨hcompiled, code, hverdict, hcode⟩ :=
    exists_code_of_gives_byteCompile hsite hmodels hwritten.after hsource hcompile
  have hsame : SameScripts written stored :=
    (hcompiled.mono (fun _ => id) fun _ heq => heq ▸ hbelow.place).sameScripts
  -- the document of the project
  obtain ⟨hlast, hparent⟩ := document_place out plainPart_projectDocument
  have hdocumentPlain := Path.plain_child_of_plainPart hsite.plain plainPart_projectDocument
  obtain ⟨hdocument, hjson⟩ := holds_of_gives_writeJson hcompiled.after hdocumentPlain hjson
  rw [hparent] at hdocument
  have hscripts : SameScripts written ws' := by
    refine hsame.trans (sameScripts_of_grown hdocument ?_)
    rintro _ rfl
    exact not_scriptPlace hlast (by decide)
  constructor
  · refine ⟨hdocument.after, ?_, ?_, hsource.of_sameScripts hscripts, ⟨code, ?_, ?_⟩, hjson⟩
    · exact hdocument.directory_kept (hcompiled.directory_kept (hwritten.directory_kept hdirectory))
    · exact (hscripts.file _ _ hplace).mp hentry
    · rw [← hverdict]
      exact (Host.verdict_congr hscripts hsite.cwd hsite.root hsource).symm
    · refine (hdocument.file_iff ?_ code).mp hcode
      intro hplace
      exact not_compiledPlace (hplace ▸ hlast) (by decide) hbelow.place
  · refine hmade.trans ((hwritten.mono (fun _ => id) ?_).trans
      ((hcompiled.mono (fun _ => id) ?_).trans (hdocument.mono (fun _ => id) ?_)))
    · rintro _ rfl
      exact ⟨hplain.parts, Or.inl hplace⟩
    · rintro _ rfl
      exact ⟨hbelow.plain.parts, Or.inr (Or.inl hbelow.place)⟩
    · rintro _ rfl
      exact ⟨hdocumentPlain.parts, Or.inr (Or.inr (Or.inl hlast))⟩

omit hsite in
/-- The compiled models module is stored. -/
theorem Prepared.holds_models (hprepared : Prepared host options project out ws) :
    Artifact.Holds (host.artifact ws options.root (options.settings.modelsPath options.root)
      (compiledModels out options.settings)) ws := by
  obtain ⟨stem, -, -, -, hcompiled⟩ := exists_modelsPath hmodels options.root out
  obtain ⟨code, hverdict, hcode⟩ := hprepared.compiled
  refine ⟨?_, fun other hother => ?_⟩
  · simpa [Host.artifact, hcompiled, Path.parent] using hprepared.directory
  · rw [Host.artifact, hverdict] at hother
    obtain rfl := Option.some.inj hother
    exact hcode

omit hmodels in
/-- What is prepared stays prepared where the scripts are alike, the models
module is still compiled and the document is still there. -/
theorem Prepared.of_alike (hprepared : Prepared host options project out ws)
    (halike : project.Alike options.root out ws ws')
    (hcompiled : Artifact.Holds (host.artifact ws options.root
      (options.settings.modelsPath options.root) (compiledModels out options.settings)) ws')
    (hdocument : HoldsJson ws' (out.child projectDocument) project.toJson) :
    Prepared host options project out ws' := by
  have hsource := hprepared.source
  obtain ⟨code, hverdict, -⟩ := hprepared.compiled
  refine ⟨halike.scripts.after, halike.out, ?_, hsource.of_sameScripts halike.scripts,
    ⟨code, ?_, ?_⟩, hdocument⟩
  · exact (halike.scripts.file _ _ hsource.file.place).mp hprepared.models
  · rw [← hverdict]
    exact (Host.verdict_congr halike.scripts hsite.cwd hsite.root hsource).symm
  · apply hcompiled.code
    rw [Host.artifact, hverdict]
    rfl

/-- To prepare what is prepared changes nothing. -/
theorem Prepared.gives_prepare (hprepared : Prepared host options project out ws) :
    Gives (prepare host options project) ws out ws := by
  have htree := hprepared.tree
  have hsource := hprepared.source
  have hbelow := (isOf_models host out hmodels hsource).below hsite.plain
  obtain ⟨code, hverdict, hcode⟩ := hprepared.compiled
  refine gives_prepare_iff.mpr ⟨hsite.output ws htree, ws,
    htree.makeDirectories_of_directory hsite.plain hprepared.directory, ?_⟩
  refine gives_writeModelsArtifacts_iff.mpr ⟨ws, ws,
    htree.write_of_file hsource.file.plain hprepared.models, ?_,
    hprepared.document.gives_writeJson htree
      (Path.plain_child_of_plainPart hsite.plain plainPart_projectDocument)⟩
  have hstore := run_store_of_holds htree hbelow (hprepared.holds_models hmodels)
  have hfile : ¬ws.hasDirectory (compiledModels out options.settings).parts = true := by
    rw [Workspace.hasDirectory_iff, hcode]
    simp
  rw [Host.artifact, if_neg hfile] at hstore
  rw [Gives, run_byteCompile (.refl htree) hsite.cwd hsite.root hsource]
  refine gives_bind_iff.mpr ⟨(), ws, hstore, gives_pure_iff.mpr ⟨?_, rfl⟩⟩
  rw [Host.fault?, hverdict]

end Prepare

end IntegrationBuild.Build
