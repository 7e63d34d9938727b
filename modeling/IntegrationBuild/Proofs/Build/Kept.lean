import IntegrationBuild.Proofs.Build.Spared
import IntegrationBuild.Proofs.Workspace.Names

/-!
Scripts that are there are kept.  A script has the name of a script wherever it
is, so that of all that a run writes only the models module can go to its place,
and a starter script only along a name that leads upwards.
-/

namespace IntegrationBuild

section Names

/-- The last part of the path of a script ends like one, whatever its name. -/
theorem Path.exists_getLast?_script (name : String) :
    ∃ stem, (ofString (name ++ scriptSuffix)).parts.getLast? = some (stem ++ scriptSuffix) := by
  have hslash : '/' ∉ scriptSuffix.toList := by decide
  obtain ⟨init, last, hsplit⟩ := Text.exists_splitOn_append hslash name.toList
  have hlast : String.ofList (last ++ scriptSuffix.toList) =
      String.ofList last ++ scriptSuffix := by
    rw [String.ofList_append, String.ofList_toList]
  have hkept : (String.ofList last ++ scriptSuffix != "" &&
      String.ofList last ++ scriptSuffix != ".") = true := by
    simp only [Bool.and_eq_true, bne_iff_ne]
    exact ⟨Build.append_ne rfl (by decide), Build.append_ne rfl (by decide)⟩
  refine ⟨String.ofList last, ?_⟩
  rw [ofString, partsOf, Text.splitOn, String.toList_append, hsplit, List.map_append,
    List.map_singleton, hlast, List.filter_append, List.filter_singleton, hkept]
  simp

theorem scriptPlace_child_script (path : Path) (name : String) :
    ScriptPlace (path.child (name ++ scriptSuffix)).parts := by
  obtain ⟨stem, hlast⟩ := Path.exists_getLast?_script name
  refine ⟨stem, ?_⟩
  rw [Path.child, Path.join]
  split
  · exact hlast
  · simp [hlast]

theorem Operation.scriptPlace_locate (operation : Operation) (ws : Workspace) (root : Path) :
    ScriptPlace (operation.locate ws root).path.parts := by
  rw [locate]
  split
  · exact scriptPlace_child_script _ _
  · exact scriptPlace_child_script _ _

end Names

namespace Build

/-- No run overwrites the script of an operation, as long as the models module
does not go to its place.  Starter scripts need names that do not lead upwards;
where there are links, none may lead from the output to the script. -/
theorem locate_script_after (ws : Workspace) (hparents : ws.HasParents) (root : Path)
    (operation : Operation) {place : Location} {content : ByteArray}
    (hscript : ws.locate (operation.locate ws root).path = .entry place (.file content)) :
    (∀ given,
      (∀ settings, settingsFor ws root given = .ok settings →
        ws.resolve (.absolute []) (settings.modelsPath root) ≠ .absolute place) →
      (∀ project, Project.load ws root = .ok project →
        ∀ other ∈ project.operations, IsDownward other) →
      ((generate root given).after ws).locate (operation.locate ws root).path =
        .entry place (.file content)) ∧
    ∀ host options, options.root = root →
      Settings.isModuleFile options.settings.modelsFile = true →
      ws.resolve (.absolute []) (options.settings.modelsPath root) ≠ .absolute place →
      (¬ws.IsTree → ∀ out, options.outputPath ws host.cwd = .ok out →
        AvoidsOutput out ws place) →
      ((compileProject host options).after ws).locate (operation.locate ws root).path =
        .entry place (.file content) := by
  constructor
  · intro given hmodels hdown
    exact keepsFile_after_generate hparents hmodels hdown hscript
  · rintro host options rfl hfile hmodels hlinked
    refine (spares_after_compileProject hfile fun out hout => ⟨?_, hmodels⟩).locate_eq hscript
    by_cases htree : ws.IsTree
    · apply avoidsOutput_of_scriptPlace htree
      exact scriptPlace_of_locate htree (operation.scriptPlace_locate ws options.root)
        (congrArg Found.place? hscript)
    · exact hlinked htree out hout

/-- One of the scripts of the pair is there. -/
theorem exists_locate_script_pair : ∃ project,
    Project.load pairWorkspace pairOptions.root = .ok project ∧
    ∃ operation ∈ project.operations, ∃ content,
      pairWorkspace.locate (operation.locate pairWorkspace pairOptions.root).path =
        .entry ["p", "g", "syncs", "a.py"] (.file content) := by
  have hfound : ∃ project, Project.load pairWorkspace pairOptions.root = .ok project ∧
      ∃ operation ∈ project.operations,
        (operation.locate pairWorkspace pairOptions.root).path =
          .absolute ["p", "g", "syncs", "a.py"] :=
    Outcome.exists_ok_of_decide (by decide +kernel)
  obtain ⟨project, hload, operation, hoperation, hpath⟩ := hfound
  refine ⟨project, hload, operation, hoperation, ?_⟩
  rw [hpath]
  exact ⟨_, (isPlain_pair.tree.locate_eq_entry_iff (by decide) _ _).mpr ⟨rfl, rfl⟩⟩

theorem locate_script_after_pair : ∃ project,
    Project.load pairWorkspace pairOptions.root = .ok project ∧
    ∃ operation ∈ project.operations, ∃ place content,
      pairWorkspace.locate (operation.locate pairWorkspace pairOptions.root).path =
        .entry place (.file content) ∧
      ((generate pairOptions.root (some {})).after pairWorkspace).locate
        (operation.locate pairWorkspace pairOptions.root).path = .entry place (.file content) ∧
      ((compileProject pairHost pairOptions).after pairWorkspace).locate
        (operation.locate pairWorkspace pairOptions.root).path = .entry place (.file content) := by
  obtain ⟨project, hload, operation, hoperation, content, hscript⟩ := exists_locate_script_pair
  have htree := isPlain_pair.tree
  obtain ⟨hgenerate, hcompile⟩ :=
    locate_script_after pairWorkspace htree.hasParents pairOptions.root operation hscript
  have hlast : (Settings.modelsPath {} pairOptions.root).parts.getLast? = some "models.py" := by
    decide
  have hmodels : pairWorkspace.resolve (.absolute [])
      (Settings.modelsPath {} pairOptions.root) ≠ .absolute ["p", "g", "syncs", "a.py"] :=
    htree.resolve_ne _ hlast (by decide) (by decide)
  refine ⟨project, hload, operation, hoperation, _, content, hscript, ?_, ?_⟩
  · apply hgenerate
    · rintro settings hsettings
      cases hsettings
      exact hmodels
    · rintro loaded hloaded other hmem
      obtain ⟨hintegration, hname⟩ := (names_pair hloaded).2 other hmem
      refine isDownward_of_plainPart ?_ hname
      rw [hintegration]
      decide
  · exact hcompile pairHost pairOptions rfl isPlain_pair.models hmodels
      fun hlinks => absurd htree hlinks

/-- Generating changes the script of an operation that is there. -/
def OverwritesScript (ws : Workspace) (root : Path) : Prop :=
  ∃ project, Project.load ws root = .ok project ∧
    ∃ operation ∈ project.operations, ∃ content other,
      ws.read? (operation.locate ws root).path = some content ∧
      ((generate root none).after ws).read? (operation.locate ws root).path = some other ∧
      other ≠ content

/-- The same as a computation. -/
def overwritesScript (ws : Workspace) (root : Path) : Bool :=
  match Project.load ws root with
  | .ok project => project.operations.any fun operation =>
    match ws.read? (operation.locate ws root).path,
      ((generate root none).after ws).read? (operation.locate ws root).path with
    | some content, some other => decide (other ≠ content)
    | _, _ => false
  | _ => false

theorem OverwritesScript.of_eq_true {ws : Workspace} {root : Path}
    (hfound : overwritesScript ws root = true) : OverwritesScript ws root := by
  rw [overwritesScript] at hfound
  split at hfound
  · next project hload =>
    obtain ⟨operation, hoperation, hread⟩ := List.any_eq_true.mp hfound
    split at hread
    · next content other hcontent hother =>
      exact ⟨project, hload, operation, hoperation, content, other, hcontent, hother,
        of_decide_eq_true hread⟩
    · cases hread
  · cases hfound

/-- A project in which an operation has the name of the models module. -/
def modelsWorkspace : Workspace :=
  { entries :=
      [(["p"], .directory),
        (["p", "nango.yaml"], .file ("integrations:\n  github:\n    syncs:\n      models:\n" ++
          "        endpoint: GET /models\n").toUTF8),
        (["p", "models.py"], .file "async def fetch_data(nango):\n    pass\n".toUTF8)] }

/-- A project in which the name of an operation leads down and up again. -/
def upwardWorkspace : Workspace :=
  { entries :=
      [(["p"], .directory),
        (["p", "nango.yaml"], .file ("integrations:\n  github:\n    issues:\n" ++
          "      runs: every day\n    new/../issues:\n      runs: every day\n").toUTF8),
        (["p", "issues.py"], .file "async def fetch_data(nango):\n    pass\n".toUTF8)] }

/-- The models module overwrites the script of its own name, and a starter script
one that its name leads to. -/
theorem overwritesScript_models_and_upward :
    OverwritesScript modelsWorkspace (.absolute ["p"]) ∧
      OverwritesScript upwardWorkspace (.absolute ["p"]) :=
  ⟨.of_eq_true (by decide +kernel), .of_eq_true (by decide +kernel)⟩

end Build

end IntegrationBuild
