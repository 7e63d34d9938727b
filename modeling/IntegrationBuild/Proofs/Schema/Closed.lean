import Mathlib
import IntegrationBuild.Project.Load
import IntegrationBuild.Proofs.Schema.Models
import IntegrationBuild.Proofs.TypeExpr.Reading

/-!
A loaded project is closed: its models and operations have names of their own,
and whatever stands in a field, an input or an output is declared.
-/

namespace IntegrationBuild

/-- A project in which every reference is to something that is declared. -/
structure Project.Closed (project : Project) : Prop where
  modelNames_nodup : project.modelNames.Nodup
  modelNames_valid : ∀ name ∈ project.modelNames, isModelName name = true
  bases_declared : ∀ model ∈ project.models, ∀ base ∈ model.bases,
    base ∈ project.modelNames ∧ base ≠ model.name
  fields_closed : ∀ model ∈ project.models, ∀ field ∈ model.fields,
    field.type.ClosedOver project.modelNames
  fields_optional : ∀ model ∈ project.models, ∀ field ∈ model.fields,
    field.optional = true ↔ ∃ inner, field.type = .optional inner
  outputs_closed : ∀ op ∈ project.operations, ∀ type ∈ op.output,
    type.ClosedOver project.modelNames
  inputs_closed : ∀ op ∈ project.operations, ∀ type, op.input = some type →
    type.ClosedOver project.modelNames
  operationNames_nodup : (project.operations.map (·.name)).Nodup
  operations_home : ∀ integration ∈ project.integrations,
    ∀ op ∈ integration.operations, op.integration = integration.name

theorem ModelField.optional_iff (field : ModelField) :
    field.optional = true ↔ ∃ inner, field.type = .optional inner := by
  rw [ModelField.optional]
  cases field.type <;> simp [TypeRef.isOptional]

namespace Schema

/-- An operation that names its integration and mentions only the models of
the project. -/
structure OperationClosed (models : List String) (integration : String)
    (op : Operation) : Prop where
  home : op.integration = integration
  output : ∀ type ∈ op.output, type.ClosedOver models
  input : ∀ type, op.input = some type → type.ClosedOver models

/-- An operation that names its integration, and whose types are in the normal
form over the models of the project. -/
structure OperationNormal (models : List String) (integration : String)
    (op : Operation) : Prop where
  home : op.integration = integration
  output : ∀ type ∈ op.output, TypeExpr.Normal models .whole type
  input : ∀ type, op.input = some type → TypeExpr.Normal models .whole type

theorem OperationNormal.closed {models : List String} {integration : String} {op : Operation}
    (hop : OperationNormal models integration op) : OperationClosed models integration op where
  home := hop.home
  output := fun type htype => (hop.output type htype).closedOver
  input := fun type htype => (hop.input type htype).closedOver

theorem operationTypes_ok {integration operation : String}
    {models texts : List String} {types : List TypeRef}
    (htypes : operationTypes integration operation models texts = .ok types) :
    ∀ type ∈ types, TypeExpr.Normal models .whole type := by
  intro type htype
  obtain ⟨text, -, hread⟩ := Outcome.exists_of_mem_mapM htypes htype
  split at hread
  · next hcompile =>
    cases hread
    exact TypeExpr.normal_compileField hcompile
  · simp at hread

theorem signature_ok {integration operation : String} {models : List String}
    {returns : Option TextOrList} {text : Option String}
    {output : List TypeRef} {input : Option TypeRef}
    (hsignature : signature integration operation models returns text =
      .ok (output, input)) :
    (∀ type ∈ output, TypeExpr.Normal models .whole type) ∧
      ∀ type, input = some type → TypeExpr.Normal models .whole type := by
  obtain ⟨outputs, houtputs, hrest⟩ := Outcome.bind_eq_ok_iff.mp hsignature
  obtain ⟨inputs, hinputs, heq⟩ := Outcome.bind_eq_ok_iff.mp hrest
  cases heq
  refine ⟨operationTypes_ok houtputs, ?_⟩
  intro type htype
  exact operationTypes_ok hinputs type (List.mem_of_head? htype)

/-- The types of an operation built from its signature are in the normal form if
it keeps the signature and names its integration. -/
theorem operationNormal_of_signature {integration operation : String}
    {models : List String} {returns : Option TextOrList} {text : Option String}
    {build : List TypeRef × Option TypeRef → Except SchemaError Operation}
    {op : Operation}
    (hkeep : ∀ output input, build (output, input) = .ok op →
      op.integration = integration ∧ op.output = output ∧ op.input = input)
    (hop : signature integration operation models returns text >>= build =
      .ok op) :
    OperationNormal models integration op := by
  obtain ⟨⟨output, input⟩, hsignature, hbuild⟩ := Outcome.bind_eq_ok_iff.mp hop
  obtain ⟨hhome, rfl, rfl⟩ := hkeep output input hbuild
  obtain ⟨houtput, hinput⟩ := signature_ok hsignature
  exact ⟨hhome, houtput, hinput⟩

theorem operationNormal_ofFlat {models : List String} {integration name : String}
    {raw : FlatOperation} {op : Operation}
    (hop : ofFlat models integration name raw = .ok op) :
    OperationNormal models integration op := by
  refine operationNormal_of_signature ?_ hop
  intro output input hbuild
  cases hbuild
  exact ⟨rfl, rfl, rfl⟩

theorem operationNormal_ofSync {models : List String} {integration name : String}
    {raw : SyncEntry} {op : Operation}
    (hop : ofSync models integration name raw = .ok op) :
    OperationNormal models integration op := by
  refine operationNormal_of_signature ?_ hop
  intro output input hbuild
  cases hbuild
  exact ⟨rfl, rfl, rfl⟩

theorem operationNormal_ofAction {models : List String}
    {integration name : String} {raw : ActionEntry} {op : Operation}
    (hop : ofAction models integration name raw = .ok op) :
    OperationNormal models integration op := by
  refine operationNormal_of_signature ?_ hop
  intro output input hbuild
  cases hbuild
  exact ⟨rfl, rfl, rfl⟩

theorem flatIntegration_ok {models : List String} {name : String}
    {raw : List (String × FlatOperation)} {integration : Integration}
    (hbuild : flatIntegration models name raw = .ok integration) :
    ∀ op ∈ integration.operations, OperationNormal models integration.name op := by
  obtain ⟨operations, hoperations, heq⟩ := Outcome.bind_eq_ok_iff.mp hbuild
  cases heq
  intro op hop
  obtain ⟨entry, -, hentry⟩ := Outcome.exists_of_mem_mapM hoperations hop
  exact operationNormal_ofFlat hentry

theorem groupedOperations_ok {models : List String} {name : String}
    {raw : GroupedIntegration} {integration : Integration}
    (hbuild : groupedOperations models name raw = .ok integration) :
    ∀ op ∈ integration.operations, OperationNormal models integration.name op := by
  obtain ⟨syncs, hsyncs, hrest⟩ := Outcome.bind_eq_ok_iff.mp hbuild
  obtain ⟨actions, hactions, heq⟩ := Outcome.bind_eq_ok_iff.mp hrest
  cases heq
  intro op hop
  rcases List.mem_append.mp hop with hsync | haction
  · obtain ⟨entry, -, hentry⟩ := Outcome.exists_of_mem_mapM hsyncs hsync
    exact operationNormal_ofSync hentry
  · obtain ⟨entry, -, hentry⟩ := Outcome.exists_of_mem_mapM hactions haction
    exact operationNormal_ofAction hentry

/-- Both forms of a document give integrations whose operations have types in the
normal form. -/
theorem normalize_ok {models : List String} {document : Document}
    {integrations : List Integration}
    (hnormalize : normalize models document = .ok integrations) :
    ∀ integration ∈ integrations, ∀ op ∈ integration.operations,
      OperationNormal models integration.name op := by
  intro integration hmem
  cases document with
  | flat entries section_ =>
      obtain ⟨entry, -, hentry⟩ := Outcome.exists_of_mem_mapM hnormalize hmem
      exact flatIntegration_ok hentry
  | grouped entries section_ =>
      obtain ⟨entry, -, hentry⟩ := Outcome.exists_of_mem_mapM hnormalize hmem
      exact groupedOperations_ok hentry

theorem checkOperationNames_ok {operations : List Operation}
    {seen : List (String × String)}
    (hcheck : checkOperationNames operations seen = .ok ()) :
    (operations.map (·.name)).Nodup ∧
      ∀ op ∈ operations, seen.lookup op.name = none := by
  induction operations generalizing seen with
  | nil => simp
  | cons op rest ih =>
      rw [checkOperationNames] at hcheck
      split at hcheck
      · simp at hcheck
      · next hnone =>
        obtain ⟨hnodup, hfresh⟩ := ih hcheck
        have hother : ∀ other ∈ rest, other.name ≠ op.name ∧
            seen.lookup other.name = none := by
          intro other hmem
          have hlookup := hfresh other hmem
          rw [List.lookup_cons] at hlookup
          split at hlookup
          · simp at hlookup
          · next hne => exact ⟨by simpa using hne, hlookup⟩
        refine ⟨?_, ?_⟩
        · rw [List.map_cons, List.nodup_cons]
          refine ⟨?_, hnodup⟩
          intro hmem
          obtain ⟨other, hrest, hname⟩ := List.mem_map.mp hmem
          exact (hother other hrest).1 hname
        · intro other hmem
          rcases List.mem_cons.mp hmem with rfl | hrest
          · exact hnone
          · exact (hother other hrest).2

/-- The types of every operation of a project are in the normal form over its
models. -/
theorem exists_operationNormal_projectOf {path : String} {entries : List (Value × Value)}
    {project : Project} (hload : projectOf path entries = .ok project) :
    ∀ op ∈ project.operations,
      ∃ integration, OperationNormal project.modelNames integration op := by
  rw [projectOf] at hload
  split at hload
  · simp at hload
  · obtain ⟨models, -, hrest⟩ := Outcome.bind_eq_ok_iff.mp hload
    obtain ⟨integrations, hnormalize, hrest⟩ := Outcome.bind_eq_ok_iff.mp hrest
    obtain ⟨⟨⟩, -, hrest⟩ := Outcome.bind_eq_ok_iff.mp hrest
    obtain ⟨⟨⟩, -, heq⟩ := Outcome.bind_eq_ok_iff.mp hrest
    cases heq
    intro op hop
    obtain ⟨integration, hintegration, hmem⟩ := List.mem_flatMap.mp hop
    exact ⟨integration.name, normalize_ok hnormalize integration hintegration op hmem⟩

theorem closed_projectOf {path : String} {entries : List (Value × Value)}
    {project : Project} (hload : projectOf path entries = .ok project) :
    project.Closed := by
  have hnormal := exists_operationNormal_projectOf hload
  rw [projectOf] at hload
  split at hload
  · simp at hload
  · obtain ⟨models, hmodels, hrest⟩ := Outcome.bind_eq_ok_iff.mp hload
    obtain ⟨integrations, hnormalize, hrest⟩ := Outcome.bind_eq_ok_iff.mp hrest
    obtain ⟨⟨⟩, hnames, hrest⟩ := Outcome.bind_eq_ok_iff.mp hrest
    obtain ⟨⟨⟩, -, heq⟩ := Outcome.bind_eq_ok_iff.mp hrest
    cases heq
    obtain ⟨hnodup, hvalid, hclosed⟩ := buildModels_ok hmodels
    have hoperations := normalize_ok hnormalize
    exact
      { modelNames_nodup := hnodup
        modelNames_valid := by
          intro name hname
          obtain ⟨model, hmodel, rfl⟩ := List.mem_map.mp hname
          exact hvalid model hmodel
        bases_declared := fun model hmodel => (hclosed model hmodel).bases
        fields_closed := fun model hmodel => (hclosed model hmodel).fields
        fields_optional := fun _ _ field _ => field.optional_iff
        outputs_closed := by
          intro op hop
          obtain ⟨_, hnormal⟩ := hnormal op hop
          exact hnormal.closed.output
        inputs_closed := by
          intro op hop
          obtain ⟨_, hnormal⟩ := hnormal op hop
          exact hnormal.closed.input
        operationNames_nodup := (checkOperationNames_ok hnames).1
        operations_home := fun integration hmem op hop =>
          (hoperations integration hmem op hop).home }

end Schema

/-- Every project that a document gives is closed. -/
theorem Project.closed_of_ofValue {path : Path} {value : Value}
    {project : Project} (hload : Project.ofValue path value = .ok project) :
    project.Closed := by
  rw [Project.ofValue.eq_def] at hload
  split at hload
  · split at hload
    · next hproject =>
      cases hload
      exact Schema.closed_projectOf hproject
    · simp at hload
  · simp at hload

/-- A model with a mapping in it, and a sync that puts it out. -/
def issueEntries : List (Value × Value) :=
  [(.text "integrations", .mapping [(.text "github", .mapping [(.text "syncs",
      .mapping [(.text "issues", .mapping [(.text "endpoint", .text "GET /issues"),
        (.text "output", .text "Issue")])])])]),
    (.text "models", .mapping [(.text "Issue", .mapping [(.text "id", .text "string"),
      (.text "author?", .mapping [(.text "login", .text "string")])])])]

/-- The models of these entries: the mapping is a model of its own. -/
def issueModels : List Model :=
  [{ name := "Issue"
     fields := [⟨"id", "string", .primitive .string⟩,
       ⟨"author", "IssueAuthor", .optional (.model "IssueAuthor")⟩] },
    { name := "IssueAuthor", fields := [⟨"login", "string", .primitive .string⟩] }]

theorem buildModels_issueModels :
    Schema.buildModels [("Issue", .mapping [(.text "id", .text "string"),
      (.text "author?", .mapping [(.text "login", .text "string")])])] =
      .ok issueModels := by
  have hstring : ∀ model field,
      TypeExpr.compileField "string" ["Issue", "IssueAuthor"] model field =
        .ok (.primitive .string) := by
    intro model field
    rw [TypeExpr.compileField, TypeExpr.compile_of_spaced
      (.mk false (.last (.term (.primitive "string" .string (by decide)))))
      (Text.spaced_flatten _)]
    rfl
  have hcollect : Schema.collectModels [("Issue", .mapping
      [(.text "id", .text "string"),
        (.text "author?", .mapping [(.text "login", .text "string")])])] =
      .ok [⟨"Issue", [(.text "id", .text "string"),
        (.text "author?", .mapping [(.text "login", .text "string")])]⟩,
        ⟨"IssueAuthor", [(.text "login", .text "string")]⟩] := by rfl
  have hnames : Schema.checkModelNames ["Issue", "IssueAuthor"] [] = .ok () := by
    rfl
  have hauthor : pascalCase "author" = "Author" := by cbv
  rw [Schema.buildModels, hcollect]
  simp [bind, Except.bind, hnames, pure, Except.pure, Schema.buildEntries,
    Schema.buildField, hstring, Value.describe, Schema.basesKey, Schema.fieldKey,
    Schema.makeOptional, TypeRef.isOptional, hauthor, issueModels]

/-- A project whose optional field names the model of a mapping. -/
theorem Project.closed_of_ofValue_issueEntries :
    ∃ project, Project.ofValue ⟨"/", ["nango.yaml"]⟩ (.mapping issueEntries) =
        .ok project ∧
      project.models = issueModels ∧ project.Closed := by
  have hdocument : Schema.document .v2 issueEntries = .ok (.grouped
      [("github", ⟨[("issues",
        { runs := none, endpoint := .one "GET /issues"
          output := some (.one "Issue"), input := none, syncType := none
          trackDeletes := false, autoStart := true, description := none
          scopes := none, version := none, webhooks := none })], []⟩)]
      [("Issue", .mapping [(.text "id", .text "string"),
        (.text "author?", .mapping [(.text "login", .text "string")])])]) := by
    rfl
  have hissue : ∀ model field,
      TypeExpr.compileField "Issue" ["Issue", "IssueAuthor"] model field =
        .ok (.model "Issue") := by
    intro model field
    rw [TypeExpr.compileField, TypeExpr.compile_of_spaced
      (.mk false (.last (.term (.model "Issue" (by decide) (by decide)
        (by decide) (by decide))))) (Text.spaced_flatten _)]
    rfl
  have hload : ∃ project, Project.ofValue ⟨"/", ["nango.yaml"]⟩
      (.mapping issueEntries) = .ok project ∧ project.models = issueModels := by
    have hdialect : Schema.detectDialect issueEntries = .v2 := by rfl
    have hnames : issueModels.map (·.name) = ["Issue", "IssueAuthor"] := by rfl
    rw [Project.ofValue, Schema.projectOf, hdialect, hdocument]
    dsimp only [Schema.Document.models]
    rw [buildModels_issueModels]
    dsimp only [bind, Except.bind]
    rw [hnames, Schema.normalize]
    simp only [List.mapM_cons, List.mapM_nil, Schema.groupedOperations,
      Schema.ofSync, Schema.signature, Schema.operationTypes, Schema.textsOf,
      Schema.TextOrList.toList, hissue, bind, Except.bind, pure, Except.pure,
      Option.toList]
    exact ⟨_, rfl, rfl⟩
  obtain ⟨project, hproject, hmodels⟩ := hload
  exact ⟨project, hproject, hmodels, Project.closed_of_ofValue hproject⟩

end IntegrationBuild
