import IntegrationBuild.Proofs.Model.Inheritance
import IntegrationBuild.Proofs.Schema.Closed

/-!
Records that cannot be identified.  The last check of a document is about the
models that the outputs of syncs mention: from each of them a model with an
`id` has to be reached over bases.  Nothing else in the document counts.
-/

namespace IntegrationBuild

namespace Operation

/-- Listing each name once keeps the first name of a kind. -/
theorem find?_addNames (p : String → Bool) (known names : List String) :
    (addNames known names).find? p = (known.find? p).or (names.find? p) := by
  induction names generalizing known with
  | nil => simp [addNames]
  | cons name rest ih =>
      rw [addNames, List.foldl_cons, ← addNames]
      by_cases hknown : name ∈ known
      · rw [if_pos (by simpa using hknown), ih]
        by_cases hp : p name = true
        · have hfound : (known.find? p).isSome = true :=
            List.find?_isSome.mpr ⟨name, hknown, hp⟩
          obtain ⟨first, hfirst⟩ := Option.isSome_iff_exists.mp hfound
          rw [hfirst, Option.some_or, Option.some_or]
        · rw [List.find?_cons_of_neg hp]
      · rw [if_neg (by simpa using hknown), ih, List.find?_append, Option.or_assoc,
          ← List.find?_append, List.singleton_append]

theorem find?_outputModels (p : String → Bool) (op : Operation) :
    op.outputModels.find? p = (op.output.flatMap TypeRef.models).find? p := by
  rw [outputModels, find?_addNames, List.find?_nil, Option.none_or]

end Operation

namespace Schema

/-- The models that the outputs of the syncs mention, in order and with
repetition. -/
def syncMentions (integrations : List Integration) : List String :=
  integrations.flatMap fun integration =>
    integration.syncs.flatMap fun sync => sync.output.flatMap TypeRef.models

/-- A model stands in an output of a sync, at any depth. -/
def MentionedBySync (integrations : List Integration) (name : String) : Prop :=
  ∃ integration ∈ integrations, ∃ op ∈ integration.operations,
    op.kind = .sync ∧ ∃ type ∈ op.output, TypeRef.Occurs (.model name) type

/-- A declared model from which no model with an `id` can be reached. -/
def Unidentified (models : List Model) (name : String) : Prop :=
  ∃ model ∈ models, model.name = name ∧
    ∀ base, Model.Inherits models model base → "id" ∉ base.fieldNames

theorem mem_syncMentions_iff {integrations : List Integration} {name : String} :
    name ∈ syncMentions integrations ↔ MentionedBySync integrations name := by
  simp only [syncMentions, MentionedBySync, Integration.syncs, Integration.ofKind,
    List.mem_flatMap, List.mem_filter, TypeRef.mem_models_iff, beq_iff_eq, and_assoc]

theorem find?_syncOutputModels (p : String → Bool) (integrations : List Integration) :
    (syncOutputModels integrations).find? p = (syncMentions integrations).find? p := by
  simp only [syncOutputModels, syncMentions, List.find?_flatMap,
    Operation.find?_outputModels]

theorem lacksId_iff {models : List Model} (hnodup : (models.map (·.name)).Nodup)
    (name : String) : lacksId models name = true ↔ Unidentified models name := by
  rw [lacksId]
  split
  · next hnone =>
    simp only [Bool.false_eq_true, false_iff]
    rintro ⟨model, hmodel, rfl, -⟩
    rw [Model.byName?_of_mem hnodup hmodel] at hnone
    simp at hnone
  · next model hsome =>
    obtain ⟨hmodel, rfl⟩ := Model.of_byName? hsome
    rw [Bool.not_eq_true', ← Bool.not_eq_true, List.contains_iff_mem,
      Model.mem_allFieldNames_iff hnodup hmodel]
    constructor
    · intro hnone
      exact ⟨model, hmodel, rfl, fun base hbase hid => hnone ⟨base, hbase, hid⟩⟩
    · rintro ⟨other, hother, hname, hall⟩ ⟨base, hbase, hid⟩
      obtain rfl := List.inj_on_of_nodup_map hnodup hother hmodel hname
      exact hall base hbase hid

/-- A document that passes every check before the last one, with the models and
the integrations it declares. -/
structure Admits (entries : List (Value × Value)) (models : List Model)
    (integrations : List Integration) : Prop where
  sections : ∃ declared, document (detectDialect entries) entries = .ok declared ∧
    buildModels declared.models = .ok models ∧
    normalize (models.map (·.name)) declared = .ok integrations
  names : checkOperationNames (integrations.flatMap (·.operations)) [] = .ok ()

/-- What is left to decide about a document that is admitted. -/
theorem Admits.projectOf_eq {entries : List (Value × Value)} {models : List Model}
    {integrations : List Integration} (hadmits : Admits entries models integrations)
    (path : String) :
    projectOf path entries =
      match (syncMentions integrations).find? (lacksId models) with
      | some name => .error (.missingId name)
      | none => .ok ⟨detectDialect entries, integrations, models⟩ := by
  obtain ⟨declared, hdocument, hmodels, hnormalize⟩ := hadmits.sections
  rw [projectOf, hdocument]
  dsimp only [bind, Except.bind]
  rw [hmodels]
  dsimp only
  rw [hnormalize]
  dsimp only
  rw [hadmits.names, checkSyncOutputs, find?_syncOutputModels]
  cases (syncMentions integrations).find? (lacksId models) with
  | none => rfl
  | some name => rfl

theorem Admits.nodup {entries : List (Value × Value)} {models : List Model}
    {integrations : List Integration} (hadmits : Admits entries models integrations) :
    (models.map (·.name)).Nodup := by
  obtain ⟨_, -, hmodels, -⟩ := hadmits.sections
  exact (buildModels_ok hmodels).1

end Schema

namespace Project

open Schema (Admits MentionedBySync Unidentified syncMentions)

/-- A document that is admitted is refused for a model without an `id` exactly
when an output of a sync mentions, at any depth, a model from which none with an
`id` is reached; the first mention of such a model is named.  All other
documents that are admitted give a project. -/
theorem missingId_iff_of_admits {entries : List (Value × Value)}
    {models : List Model} {integrations : List Integration}
    (hadmits : Admits entries models integrations) (path : Path) :
    (∀ name, ofValue path (.mapping entries) = .error (.schema (.missingId name)) ↔
        ∃ before after, syncMentions integrations = before ++ name :: after ∧
          Unidentified models name ∧ ∀ other ∈ before, ¬Unidentified models other) ∧
      ((∃ name, ofValue path (.mapping entries) =
          .error (.schema (.missingId name))) ↔
        ∃ name, MentionedBySync integrations name ∧ Unidentified models name) ∧
      (∀ name, ofValue path (.mapping entries) = .error (.schema (.missingId name)) →
        MentionedBySync integrations name) ∧
      ((∀ name, MentionedBySync integrations name → ¬Unidentified models name) →
        ofValue path (.mapping entries) =
          .ok ⟨Schema.detectDialect entries, integrations, models⟩) := by
  have hlacks := Schema.lacksId_iff hadmits.nodup
  have hvalue : ofValue path (.mapping entries) =
      match (syncMentions integrations).find? (Schema.lacksId models) with
      | some name => .error (.schema (.missingId name))
      | none => .ok ⟨Schema.detectDialect entries, integrations, models⟩ := by
    rw [ofValue, hadmits.projectOf_eq path.text]
    cases (syncMentions integrations).find? (Schema.lacksId models) with
    | none => rfl
    | some name => rfl
  have hnamed : ∀ name,
      ofValue path (.mapping entries) = .error (.schema (.missingId name)) ↔
        (syncMentions integrations).find? (Schema.lacksId models) = some name := by
    intro name
    rw [hvalue]
    cases (syncMentions integrations).find? (Schema.lacksId models) with
    | none => simp
    | some first => simp
  refine ⟨fun name => ?_, ?_, fun name hname => ?_, fun hnone => ?_⟩
  · rw [hnamed, List.find?_eq_some_iff_append, hlacks]
    simp only [Bool.not_eq_true', ← Bool.not_eq_true, hlacks]
    constructor
    · rintro ⟨hunidentified, before, after, hsplit, hbefore⟩
      exact ⟨before, after, hsplit, hunidentified, hbefore⟩
    · rintro ⟨before, after, hsplit, hunidentified, hbefore⟩
      exact ⟨hunidentified, before, after, hsplit, hbefore⟩
  · simp only [hnamed, ← Option.isSome_iff_exists, List.find?_isSome, hlacks,
      Schema.mem_syncMentions_iff]
  · rw [hnamed] at hname
    exact Schema.mem_syncMentions_iff.mp (List.mem_of_find?_eq_some hname)
  · have hfind : (syncMentions integrations).find? (Schema.lacksId models) = none := by
      rw [List.find?_eq_none]
      intro name hname
      rw [hlacks]
      exact hnone name (Schema.mem_syncMentions_iff.mp hname)
    rw [hvalue, hfind]

/-- Two models that extend each other and have no fields, and a sync that puts
out lists of the first. -/
def circleEntries : List (Value × Value) :=
  [(.text "integrations", .mapping [(.text "github", .mapping [(.text "syncs",
      .mapping [(.text "issues", .mapping [(.text "endpoint", .text "GET /issues"),
        (.text "output", .text "Issue[]")])])])]),
    (.text "models", .mapping [(.text "Issue", .mapping [(.text "__extends", .text "Base")]),
      (.text "Base", .mapping [(.text "__extends", .text "Issue")])])]

/-- The models of these entries. -/
def circleModels : List Model :=
  [{ name := "Issue", fields := [], bases := ["Base"] },
    { name := "Base", fields := [], bases := ["Issue"] }]

/-- The integrations of these entries. -/
def circleIntegrations : List Integration :=
  [{ name := "github", operations := [
      { name := "issues", kind := .sync, integration := "github"
        endpoints := ["GET /issues"], output := [.array (.model "Issue")] }] }]

/-- No model of the circle has an `id`, so the first is refused. -/
theorem missingId_iff_of_admits_circle :
    Admits circleEntries circleModels circleIntegrations ∧
      ofValue ⟨"/", ["nango.yaml"]⟩ (.mapping circleEntries) =
        .error (.schema (.missingId "Issue")) := by
  have hissue : ∀ model field,
      TypeExpr.compileField "Issue[]" ["Issue", "Base"] model field =
        .ok (.array (.model "Issue")) := by
    intro model field
    rw [TypeExpr.compileField, TypeExpr.compile_of_spaced
      (.mk false (.last (.term (.items (.model "Issue" (by decide) (by decide)
        (by decide) (by decide)))))) (Text.spaced_flatten _)]
    rfl
  have hdocument : Schema.document (Schema.detectDialect circleEntries) circleEntries =
      .ok (.grouped
        [("github", ⟨[("issues",
          { runs := none, endpoint := .one "GET /issues"
            output := some (.one "Issue[]"), input := none, syncType := none
            trackDeletes := false, autoStart := true, description := none
            scopes := none, version := none, webhooks := none })], []⟩)]
        [("Issue", .mapping [(.text "__extends", .text "Base")]),
          ("Base", .mapping [(.text "__extends", .text "Issue")])]) := by
    rfl
  have hadmits : Admits circleEntries circleModels circleIntegrations := by
    refine ⟨⟨_, hdocument, by rfl, ?_⟩, by rfl⟩
    have hnames : circleModels.map (·.name) = ["Issue", "Base"] := by rfl
    rw [hnames, Schema.normalize]
    simp only [List.mapM_cons, List.mapM_nil, Schema.groupedOperations,
      Schema.ofSync, Schema.signature, Schema.operationTypes, Schema.textsOf,
      Schema.TextOrList.toList, hissue, bind, Except.bind, pure, Except.pure,
      Option.toList]
    rfl
  have hfields : ∀ model ∈ circleModels, model.fieldNames = [] := by decide
  have hclosed : ∀ model base, model ∈ circleModels →
      Model.Inherits circleModels model base → base ∈ circleModels := by
    intro model base hmodel hinherits
    induction hinherits with
    | refl => exact hmodel
    | tail _ hstep _ => exact hstep.1
  have hlost : Unidentified circleModels "Issue" := by
    refine ⟨_, List.mem_cons_self, rfl, fun base hbase => ?_⟩
    rw [hfields base (hclosed _ base List.mem_cons_self hbase)]
    simp
  refine ⟨hadmits, ?_⟩
  exact ((missingId_iff_of_admits hadmits ⟨"/", ["nango.yaml"]⟩).1 "Issue").mpr
    ⟨[], [], rfl, hlost, by simp⟩

end Project

end IntegrationBuild
