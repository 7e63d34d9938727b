import IntegrationBuild.Proofs.Schema.Bases
import IntegrationBuild.Proofs.Schema.Named
import IntegrationBuild.Project.Load
import IntegrationBuild.Settings.Load

/-!
What reading the two files of a project gives, whatever their bytes are.  A
project file that is a text, and is either no document at all or one with a value,
gives a project or the rule that it breaks, and a settings file in UTF-8 gives
settings or an error that is reported.  Bytes that are no text stop both readings.
-/

namespace IntegrationBuild

/-- An error tells of the file at a path: as a whole it names the file, and for
its document it names a problem. -/
def SchemaError.TellsOf (path : String) : SchemaError → Prop
  | .invalid (.missingFile file) => file = path
  | .invalid (.unreadable file) => file = path
  | .invalid (.notMapping file) => file = path
  | .invalid (.malformed file _ problems) => file = path ∧ problems ≠ []
  | _ => True

/-- An error tells of the settings file at a path. -/
def SettingsError.TellsOf (path : Path) : SettingsError → Prop
  | .malformed file => file = path
  | .invalid file problems => file = path ∧ problems ≠ []
  | _ => False

namespace Schema

variable {α β : Type} {path : String}

/-- A step all of whose errors tell of the file at a path. -/
def Telling (path : String) (step : Except SchemaError α) : Prop :=
  ∀ error, step = .error error → error.TellsOf path

theorem telling_ok (value : α) : Telling path (.ok value) :=
  fun _ hfail => by cases hfail

theorem telling_error {error : SchemaError} (htells : error.TellsOf path) :
    Telling path (.error error : Except SchemaError α) :=
  fun _ hfail => by cases hfail; exact htells

theorem Telling.bind {first : Except SchemaError α} {next : α → Except SchemaError β}
    (hfirst : Telling path first) (hnext : ∀ value, Telling path (next value)) :
    Telling path (first >>= next) := by
  intro error hfail
  rcases Outcome.bind_eq_error_iff.mp hfail with hfail | ⟨value, -, hfail⟩
  · exact hfirst error hfail
  · exact hnext value error hfail

theorem telling_mapM {step : α → Except SchemaError β} {items : List α}
    (hstep : ∀ item, Telling path (step item)) : Telling path (items.mapM step) := by
  intro error hfail
  obtain ⟨item, -, hfail⟩ := Outcome.exists_of_mapM_eq_error hfail
  exact hstep item error hfail

theorem telling_collectModels (raw : List (String × Value)) :
    Telling path (collectModels raw) := by
  induction raw with
  | nil => exact telling_ok []
  | cons entry rest ih =>
      refine Telling.bind ?_ fun first => Telling.bind ih fun others => telling_ok _
      unfold sectionModels
      split
      · exact telling_ok _
      · exact telling_ok _
      · exact telling_error trivial

theorem telling_checkModelNames (names seen : List String) :
    Telling path (checkModelNames names seen) := by
  induction names generalizing seen with
  | nil => exact telling_ok ()
  | cons name rest ih =>
      rw [checkModelNames]
      split_ifs
      · exact telling_error trivial
      · exact telling_error trivial
      · exact ih (name :: seen)

theorem telling_buildModels (raw : List (String × Value)) : Telling path (buildModels raw) := by
  refine Telling.bind (telling_collectModels raw) fun collected => ?_
  refine Telling.bind (telling_checkModelNames _ []) fun _ => telling_mapM fun model => ?_
  intro error hfail
  obtain ⟨cause, rfl⟩ := exists_field_of_buildEntries hfail
  trivial

theorem telling_operationTypes (integration operation : String) (models texts : List String) :
    Telling path (operationTypes integration operation models texts) := by
  refine telling_mapM fun text => ?_
  split
  · exact telling_ok _
  · exact telling_error trivial

theorem telling_signature (integration operation : String) (models : List String)
    (output : Option TextOrList) (input : Option String) :
    Telling path (signature integration operation models output input) :=
  (telling_operationTypes _ _ _ _).bind fun _ =>
    (telling_operationTypes _ _ _ _).bind fun _ => telling_ok _

theorem telling_normalize (models : List String) (document : Document) :
    Telling path (normalize models document) := by
  cases document with
  | flat integrations _ =>
      refine telling_mapM fun integration => Telling.bind (telling_mapM fun operation => ?_)
        fun _ => telling_ok _
      exact (telling_signature _ _ _ _ _).bind fun _ => telling_ok _
  | grouped integrations _ =>
      refine telling_mapM fun integration => Telling.bind (telling_mapM fun sync => ?_)
        fun _ => Telling.bind (telling_mapM fun action => ?_) fun _ => telling_ok _
      · exact (telling_signature _ _ _ _ _).bind fun _ => telling_ok _
      · exact (telling_signature _ _ _ _ _).bind fun _ => telling_ok _

theorem telling_checkOperationNames (operations : List Operation)
    (seen : List (String × String)) : Telling path (checkOperationNames operations seen) := by
  induction operations generalizing seen with
  | nil => exact telling_ok ()
  | cons operation rest ih =>
      rw [checkOperationNames]
      split
      · exact telling_error trivial
      · exact ih _

theorem telling_checkSyncOutputs (integrations : List Integration) (models : List Model) :
    Telling path (checkSyncOutputs integrations models) := by
  unfold checkSyncOutputs
  split
  · exact telling_error trivial
  · exact telling_ok ()

/-- A document that is refused is refused for a rule, and the error tells of its
file. -/
theorem telling_projectOf (path : String) (entries : List (Value × Value)) :
    Telling path (projectOf path entries) := by
  have hnamed := named_document (detectDialect entries) entries
  rw [projectOf]
  split
  · next problems hdocument =>
    rw [hdocument] at hnamed
    exact telling_error ⟨rfl, hnamed⟩
  · next document hdocument =>
    refine (telling_buildModels document.models).bind fun models => ?_
    refine (telling_normalize _ document).bind fun integrations => ?_
    refine (telling_checkOperationNames _ []).bind fun _ => ?_
    exact (telling_checkSyncOutputs integrations models).bind fun _ => telling_ok _

end Schema

namespace Settings

variable {path : Path} {content : ByteArray}

/-- The bytes of a settings file are a text when reading them gives settings or
an error that is reported. -/
theorem ofBytes_settles_iff :
    ((∃ settings, ofBytes path content = .ok settings) ∨
      ∃ error, ofBytes path content = .error error ∧ error.isReported = true ∧
        error.TellsOf path) ↔
      (String.fromUTF8? content).isSome = true := by
  rw [ofBytes]
  cases hdecode : String.fromUTF8? content with
  | none => simp [SettingsError.isReported]
  | some text =>
      refine iff_of_true ?_ rfl
      dsimp only
      split
      · exact .inr ⟨_, rfl, rfl, rfl⟩
      · next entries _ =>
        have hnamed := named_ofEntries entries
        split
        · exact .inl ⟨_, rfl⟩
        · next problems hrefused =>
          rw [hrefused] at hnamed
          exact .inr ⟨_, rfl, rfl, rfl, hnamed⟩

/-- Without a settings file the settings are the usual ones; with one they are
those of its bytes. -/
theorem load_settles_iff (ws : Workspace) (root : Path) :
    ((∃ settings, load ws root = .ok settings) ∨
      ∃ error, load ws root = .error error ∧ error.isReported = true ∧
        error.TellsOf (root.child fileName)) ↔
      ∀ content, ws.read? (root.child fileName) = some content →
        (String.fromUTF8? content).isSome = true := by
  rw [load]
  cases ws.read? (root.child fileName) with
  | none => simp
  | some content => simpa using ofBytes_settles_iff

end Settings

namespace Project

/-- Bytes that are a text in UTF-8 which reads as a value or is no document. -/
def Readable (content : ByteArray) : Prop :=
  ∃ text, Text.decodeText? content = some text ∧
    (Yaml.load text = .error .malformed ∨ ∃ value, Yaml.load text = .ok value)

variable {path : Path} {content : ByteArray}

/-- A computation shows that bytes are readable. -/
theorem readable_of_any
    (hreads : (Text.decodeText? content).any (fun text => (Yaml.load text).isOk) = true) :
    Readable content := by
  cases hdecode : Text.decodeText? content with
  | none =>
      rw [hdecode] at hreads
      cases hreads
  | some text =>
      rw [hdecode, Option.any_some] at hreads
      cases hvalue : Yaml.load text with
      | ok value => exact ⟨text, hdecode, .inr ⟨value, hvalue⟩⟩
      | error fault =>
          rw [hvalue] at hreads
          cases hreads

/-- A value is a project or breaks a rule, and the error tells of the file. -/
theorem ofValue_settles (path : Path) (value : Value) :
    (∃ project, ofValue path value = .ok project) ∨
      ∃ error, ofValue path value = .error (.schema error) ∧ error.TellsOf path.text := by
  rw [ofValue.eq_def]
  split
  · next entries =>
    cases hproject : Schema.projectOf path.text entries with
    | ok project => exact .inl ⟨project, rfl⟩
    | error error =>
        exact .inr ⟨error, rfl, Schema.telling_projectOf path.text entries error hproject⟩
  · exact .inr ⟨_, rfl, rfl⟩

theorem ofBytes_settles (hreadable : Readable content) :
    (∃ project, ofBytes path content = .ok project) ∨
      ∃ error, ofBytes path content = .error (.schema error) ∧ error.TellsOf path.text := by
  obtain ⟨text, hdecode, hmalformed | ⟨value, hvalue⟩⟩ := hreadable
  · rw [ofBytes, hdecode]
    dsimp only
    rw [hmalformed]
    exact .inr ⟨_, rfl, rfl⟩
  · rw [ofBytes, hdecode]
    dsimp only
    rw [hvalue]
    exact ofValue_settles path value

/-- A project whose two files both say too little: no integrations, no workers. -/
def idleWorkspace : Workspace :=
  { entries :=
      [(["p"], .directory),
        (["p", "nango.yaml"], .file "models: \x7b\x7d".toUTF8),
        (["p", "nango-compiler.toml"], .file "workers = 0".toUTF8)] }

/-- A project whose two files hold one byte each that is no UTF-8. -/
def bytesWorkspace : Workspace :=
  { entries :=
      [(["p"], .directory),
        (["p", "nango.yaml"], .file ⟨#[0xFF]⟩),
        (["p", "nango-compiler.toml"], .file ⟨#[0xFF]⟩)] }

end Project

end IntegrationBuild
