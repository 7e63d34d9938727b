import IntegrationBuild.Proofs.Model.Order

/-!
The names of a record's fields.  They are collected in two ways: one walk over
the bases takes the names of each model it comes to, the other one takes over
the fields of the bases and leaves out those of the model itself.  `Walks` says
what either walk comes to when nothing bounds its depth.  Both come to an end,
in circles or not, and both find the names of all models that can be reached.
-/

namespace IntegrationBuild.Model

variable {models : List Model} {path : List String} {model : Model} {β : Type}

/-- The bases that a walk goes on to: the declared ones that are not under way. -/
def openBases (models : List Model) (path : List String) (model : Model) : List Model :=
  (declaredBases models model).filter fun base => !path.contains base.name

theorem mem_openBases_iff {base : Model} :
    base ∈ openBases models path model ↔
      base ∈ declaredBases models model ∧ base.name ∉ path := by
  simp [openBases]

/-- To pass over unknown bases and those under way is to go on to the others. -/
theorem flatMap_openBases {α : Type} (visit : Model → List α) :
    (model.bases.flatMap fun base =>
      if path.contains base then []
      else
        match byName? models base with
        | none => []
        | some parent => visit parent) = (openBases models path model).flatMap visit := by
  rw [openBases, declaredBases, List.filterMap_eq_flatMap_toList, List.filter_flatMap,
    List.flatMap_assoc]
  refine List.flatMap_congr fun name _ => ?_
  cases hfind : byName? models name with
  | none => simp
  | some base =>
      obtain ⟨-, rfl⟩ := of_byName? hfind
      by_cases hunder : base.name ∈ path <;> simp [hunder]

/-- What a declared model inherits from is declared. -/
theorem Inherits.mem_models {base : Model} (hinherits : Inherits models model base)
    (hmodel : model ∈ models) : base ∈ models := by
  induction hinherits with
  | refl => exact hmodel
  | tail _ hstep _ => exact hstep.1

section Walks

variable {combine : Model → List (Model × β) → β}

/-- What a walk over bases comes to: the results of the bases that it goes on
to, put together.  The model is under way while they are visited, and nothing
bounds the depth. -/
inductive Walks (models : List Model) (combine : Model → List (Model × β) → β) :
    List String → Model → β → Prop
  | intro {path : List String} {model : Model} {result : Model → β}
      (hbases : ∀ base ∈ openBases models path model,
        Walks models combine (model.name :: path) base (result base)) :
      Walks models combine path model
        (combine model ((openBases models path model).map fun base => (base, result base)))

/-- A walk comes out in one way only. -/
theorem Walks.unique {first second : β} (hfirst : Walks models combine path model first)
    (hsecond : Walks models combine path model second) : first = second := by
  induction hfirst generalizing second with
  | @intro path model result _ ih =>
      cases hsecond with
      | @intro _ _ other hbases =>
          apply congrArg (combine model)
          apply List.map_congr_left
          intro base hbase
          rw [ih base hbase (hbases base hbase)]

/-- The models that are not under way. -/
def freeModels (models : List Model) (path : List String) : List Model :=
  models.filter fun other => !path.contains other.name

theorem freeModels_cons (name : String) (path : List String) :
    freeModels models (name :: path) =
      (freeModels models path).filter fun other => other.name != name := by
  rw [freeModels, freeModels, List.filter_filter]
  apply List.filter_congr
  intro other _
  by_cases hsame : other.name = name <;> simp [hsame]

/-- How deep a walk can still get.  A model may be met twice if it is its own
base, and is under way when it is met again. -/
def slack (models : List Model) (path : List String) (model : Model) : Nat :=
  2 * (freeModels models path).length + if model.name ∈ path then 1 else 0

theorem slack_nil : slack models [] model = 2 * models.length := by
  simp [slack, freeModels]

theorem slack_lt {base : Model} (hmodel : model ∈ models)
    (hbase : base ∈ openBases models path model) :
    slack models (model.name :: path) base < slack models path model := by
  have hfree : base.name ∉ path := (mem_openBases_iff.mp hbase).2
  rw [slack, slack, freeModels_cons]
  by_cases hunder : model.name ∈ path
  · -- the model was met before, so its name takes no other model away
    have hle := List.length_filter_le (fun other => other.name != model.name)
      (freeModels models path)
    have hother : base.name ∉ model.name :: path := by
      intro hmem
      rcases List.mem_cons.mp hmem with hsame | hmem
      · exact hfree (hsame ▸ hunder)
      · exact hfree hmem
    rw [if_neg hother, if_pos hunder]
    omega
  · have hless : ((freeModels models path).filter (·.name != model.name)).length <
        (freeModels models path).length := by
      apply List.length_filter_lt_length_iff_exists.mpr
      exact ⟨model, by simp [freeModels, hmodel, hunder], by simp⟩
    rw [if_neg hunder]
    split <;> omega

/-- A recursion with a bound on its depth walks to the end if the bound is not
met. -/
theorem walks_of_slack_lt {walk : Nat → List String → Model → β}
    (hwalk : ∀ fuel path model, walk (fuel + 1) path model =
      combine model ((openBases models path model).map fun base =>
        (base, walk fuel (model.name :: path) base)))
    (hmodel : model ∈ models) {fuel : Nat} (hfuel : slack models path model < fuel) :
    Walks models combine path model (walk fuel path model) := by
  induction fuel generalizing path model with
  | zero => exact absurd hfuel (Nat.not_lt_zero _)
  | succ fuel ih =>
      rw [hwalk]
      apply Walks.intro
      intro base hbase
      have hdeclared := mem_of_mem_declaredBases (mem_openBases_iff.mp hbase).1
      have hless := slack_lt hmodel hbase
      exact ih hdeclared (by omega)

end Walks

/-- The names of the model's own fields before those found at its bases. -/
def gatherNames (model : Model) (found : List (Model × List String)) : List String :=
  model.fieldNames ++ found.flatMap Prod.snd

/-- The fields that each base takes over before the base's own. -/
def gatherFields (_ : Model) (found : List (Model × List ModelField)) : List ModelField :=
  found.flatMap fun (base, fields) => fields ++ base.fields

theorem allFieldNamesFrom_eq_gatherNames (fuel : Nat) (path : List String) (model : Model) :
    allFieldNamesFrom models (fuel + 1) path model =
      gatherNames model ((openBases models path model).map fun base =>
        (base, allFieldNamesFrom models fuel (model.name :: path) base)) := by
  rw [allFieldNamesFrom, gatherNames, List.flatMap_map]
  exact congrArg (model.fieldNames ++ ·) (flatMap_openBases _)

theorem inheritedFrom_eq_gatherFields (fuel : Nat) (path : List String) (model : Model) :
    inheritedFrom models (fuel + 1) path model =
      gatherFields model ((openBases models path model).map fun base =>
        (base, inheritedFrom models fuel (model.name :: path) base)) := by
  rw [inheritedFrom, gatherFields, List.flatMap_map]
  exact flatMap_openBases _

/-- One step apart, the two walks find the same names, each of them equally
often. -/
theorem perm_allFieldNamesFrom_succ (fuel : Nat) (path : List String) (model : Model) :
    (allFieldNamesFrom models (fuel + 1) path model).Perm
      ((inheritedFrom models fuel path model ++ model.fields).map (·.name)) := by
  induction fuel generalizing path model with
  | zero =>
      have hnothing : ((openBases models path model).flatMap fun _ => ([] : List String)) = [] :=
        List.flatMap_eq_nil_iff.mpr fun _ _ => rfl
      rw [allFieldNamesFrom_eq_gatherNames, gatherNames, List.flatMap_map]
      simp [allFieldNamesFrom, inheritedFrom, fieldNames, hnothing]
  | succ fuel ih =>
      rw [allFieldNamesFrom_eq_gatherNames, inheritedFrom_eq_gatherFields, gatherNames,
        gatherFields, List.flatMap_map, List.flatMap_map, List.map_append, List.map_flatMap]
      apply List.perm_append_comm.trans
      apply List.Perm.append_right
      apply List.Perm.flatMap_left
      intro base _
      exact ih (model.name :: path) base

section Record

variable (hmodel : model ∈ models)

include hmodel

theorem walks_allFieldNamesFrom {fuel : Nat} (hfuel : 2 * models.length < fuel) :
    Walks models gatherNames [] model (allFieldNamesFrom models fuel [] model) := by
  apply walks_of_slack_lt allFieldNamesFrom_eq_gatherNames hmodel
  rwa [slack_nil]

theorem walks_inherited : Walks models gatherFields [] model (inherited models model) := by
  apply walks_of_slack_lt inheritedFrom_eq_gatherFields hmodel
  rw [slack_nil]
  omega

/-- A record has a name as often as its own and inherited fields have it. -/
theorem perm_allFieldNames : (allFieldNames models model).Perm
    ((inherited models model ++ model.fields).map (·.name)) := by
  -- one step more changes nothing, as the walk has come to its end
  have hsame : allFieldNames models model =
      allFieldNamesFrom models (2 * models.length + 3 + 1) [] model :=
    (walks_allFieldNamesFrom hmodel (by omega)).unique
      (walks_allFieldNamesFrom hmodel (by omega))
  rw [hsame]
  exact perm_allFieldNamesFrom_succ _ [] model

/-- Either way to collect the fields comes to an end, and the names found are
those of the model's own and inherited fields, which are the names of all models
that can be reached over bases. -/
theorem walks_iff_and_mem_allFieldNames_iff (hnodup : (models.map (·.name)).Nodup) :
    (∀ names, Walks models gatherNames [] model names ↔ names = allFieldNames models model) ∧
      (∀ fields, Walks models gatherFields [] model fields ↔ fields = inherited models model) ∧
      ∀ name,
        (name ∈ allFieldNames models model ↔
          name ∈ (inherited models model ++ model.fields).map (·.name)) ∧
        (name ∈ allFieldNames models model ↔
          ∃ base ∈ models, Inherits models model base ∧ name ∈ base.fieldNames) := by
  have hnames : Walks models gatherNames [] model (allFieldNames models model) :=
    walks_allFieldNamesFrom hmodel (by omega)
  have hfields := walks_inherited hmodel
  refine ⟨fun names => ?_, fun fields => ?_, fun name => ⟨?_, ?_⟩⟩
  · constructor
    · intro hwalks
      exact hwalks.unique hnames
    · rintro rfl
      exact hnames
  · constructor
    · intro hwalks
      exact hwalks.unique hfields
    · rintro rfl
      exact hfields
  · exact (perm_allFieldNames hmodel).mem_iff
  · rw [mem_allFieldNames_iff hnodup hmodel]
    constructor
    · rintro ⟨base, hinherits, hname⟩
      exact ⟨base, hinherits.mem_models hmodel, hinherits, hname⟩
    · rintro ⟨base, -, hinherits, hname⟩
      exact ⟨base, hinherits, hname⟩

end Record

/-- An issue that is its own base, in a circle with a record, and a base that is
not there. -/
def knottedModels : List Model :=
  [{ name := "Issue", fields := [⟨"title", "string", .primitive .string⟩]
     bases := ["Issue", "Missing", "Record"] },
    { name := "Record", fields := [⟨"id", "string", .primitive .string⟩]
      bases := ["Stamped", "Record"] },
    { name := "Stamped", fields := [⟨"at", "date", .primitive .date⟩], bases := ["Issue"] }]

/-- The walks from the issue meet it again and come to an end, and both find the
names of all three models. -/
theorem walks_iff_and_mem_allFieldNames_iff_knotted :
    (knottedModels.map (·.name)).Nodup ∧ ∃ issue ∈ knottedModels, issue.name = "Issue" ∧
      Walks knottedModels gatherNames [] issue (allFieldNames knottedModels issue) ∧
      Walks knottedModels gatherFields [] issue (inherited knottedModels issue) ∧
      (∀ name, name ∈ allFieldNames knottedModels issue ↔
        ∃ base ∈ knottedModels, Inherits knottedModels issue base ∧ name ∈ base.fieldNames) ∧
      (allFieldNames knottedModels issue).dedup = ["title", "id", "at"] ∧
      ((inherited knottedModels issue).map (·.name)).dedup = ["title", "at", "id"] := by
  have hnodup : (knottedModels.map (·.name)).Nodup := by decide
  have hissue : knottedModels[0] ∈ knottedModels := by simp [knottedModels]
  have hwalks := walks_iff_and_mem_allFieldNames_iff hissue hnodup
  exact ⟨hnodup, knottedModels[0], hissue, rfl, (hwalks.1 _).mpr rfl, (hwalks.2.1 _).mpr rfl,
    fun name => (hwalks.2.2 name).2, by decide, by decide⟩

end IntegrationBuild.Model
