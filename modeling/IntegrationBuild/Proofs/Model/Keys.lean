import Mathlib.Data.List.Induction
import IntegrationBuild.Model.Render
import IntegrationBuild.Proofs.Model.FieldNames

/-!
The keys of a typed dictionary and their annotations.  A class takes over the
mappings of its bases, the later ones over the earlier ones, and puts its own
fields on top.  A call lists the fields of all bases before its own, and the
last entry of a key counts.  Without a circle of bases the two declare the same
mapping, also where a base can be reached in several ways.
-/

namespace IntegrationBuild.Model

/-- The annotation of each key of a typed dictionary. -/
abbrev Keys := String → Option String

namespace Keys

/-- A mapping with another one on top: the upper one wins. -/
def update (lower upper : Keys) : Keys := fun key => (upper key).or (lower key)

/-- The mapping of some fields, of which the last one with a name counts. -/
def ofFields (fields : List ModelField) : Keys := fun key =>
  (fields.reverse.find? (·.name == key)).map (·.type.renderKey)

theorem ofFields_append (before after : List ModelField) :
    ofFields (before ++ after) = (ofFields before).update (ofFields after) := by
  funext key
  rw [update, ofFields, List.reverse_append, List.find?_append, Option.map_or]
  rfl

end Keys

variable {models : List Model}

/-- The mapping that models give when they are the bases of a class: that of
each model on top of those before it.  A model in turn has its own fields on
top of the mapping that its bases give. -/
inductive Merges (models : List Model) : List Model → Keys → Prop
  | nil : Merges models [] fun _ => none
  | concat {before : List Model} {model : Model} {merged taken : Keys}
      (hbefore : Merges models before merged)
      (hbases : Merges models (declaredBases models model) taken) :
      Merges models (before ++ [model])
        (merged.update (taken.update (.ofFields model.fields)))

/-- The mapping that a model declared as a class has. -/
def ClassKeys (models : List Model) (model : Model) (keys : Keys) : Prop :=
  ∃ taken, Merges models (declaredBases models model) taken ∧
    keys = taken.update (.ofFields model.fields)

/-- The mapping that a model declared by a call has. -/
def callKeys (models : List Model) (model : Model) : Keys :=
  .ofFields (inherited models model ++ model.fields)

/-- Merging comes out in one way only. -/
theorem Merges.unique {bases : List Model} {first second : Keys}
    (hfirst : Merges models bases first) (hsecond : Merges models bases second) :
    first = second := by
  induction hfirst generalizing second with
  | nil =>
      generalize hsplit : ([] : List Model) = bases at hsecond
      cases hsecond with
      | nil => rfl
      | concat => simp at hsplit
  | @concat before model merged taken _ _ ihBefore ihBases =>
      generalize hsplit : before ++ [model] = bases at hsecond
      cases hsecond with
      | nil => simp at hsplit
      | concat hbefore hbases =>
          obtain ⟨rfl, rfl⟩ := List.append_singleton_inj.mp hsplit
          rw [ihBefore hbefore, ihBases hbases]

/-- Bases one after the other, each with what it takes over before its own
fields, merge to the mapping of all these fields. -/
theorem merges_flatMap {taken : Model → List ModelField} {bases : List Model}
    (hbases : ∀ base ∈ bases,
      Merges models (declaredBases models base) (.ofFields (taken base))) :
    Merges models bases
      (.ofFields (bases.flatMap fun base => taken base ++ base.fields)) := by
  induction bases using List.reverseRecOn with
  | nil => exact .nil
  | append_singleton before base ih =>
      rw [List.forall_mem_append, List.forall_mem_singleton] at hbases
      rw [List.flatMap_append, List.flatMap_singleton, Keys.ofFields_append,
        Keys.ofFields_append (taken base)]
      exact .concat (ih hbases.1) hbases.2

/-- A walk that has met none of the bases follows each of them. -/
theorem inheritedFrom_succ {fuel : Nat} {path : List String} {model : Model}
    (hfree : ∀ base ∈ declaredBases models model, base.name ∉ path) :
    inheritedFrom models (fuel + 1) path model =
      (declaredBases models model).flatMap fun base =>
        inheritedFrom models fuel (model.name :: path) base ++ base.fields := by
  have hopen : openBases models path model = declaredBases models model := by
    apply List.filter_eq_self.mpr
    intro base hbase
    simpa using hfree base hbase
  rw [inheritedFrom_eq_gatherFields, hopen, gatherFields, List.flatMap_map]

/-- Without circles the walk is never cut short.  All models under way are built
on the one it has come to, so none of its bases is under way. -/
theorem merges_inheritedFrom (hnodup : (models.map (·.name)).Nodup)
    (hacyclic : Acyclic models) {fuel : Nat} {path : List String} {model : Model}
    (hmodel : model ∈ models) (hpath : path.Nodup) (hnames : path ⊆ models.map (·.name))
    (hfuel : models.length < fuel + path.length) (hnew : model.name ∉ path)
    (hunder : ∀ above ∈ models, above.name ∈ path →
      Relation.TransGen (Extends models) above model) :
    Merges models (declaredBases models model)
      (.ofFields (inheritedFrom models fuel path model)) := by
  induction fuel generalizing path model with
  | zero =>
      have hle := (List.subperm_of_subset hpath hnames).length_le
      rw [List.length_map] at hle
      omega
  | succ fuel ih =>
      have habove : ∀ base, Extends models model base → ∀ above ∈ models,
          above.name ∈ model.name :: path →
          Relation.TransGen (Extends models) above base := by
        intro base hstep above hdeclared hname
        rcases List.mem_cons.mp hname with hsame | hold
        · obtain rfl := List.inj_on_of_nodup_map hnodup hdeclared hmodel hsame
          exact .single hstep
        · exact (hunder above hdeclared hold).tail hstep
      have hfree : ∀ base, Extends models model base → base.name ∉ model.name :: path :=
        fun base hstep hname => hacyclic base (habove base hstep base hstep.1 hname)
      have hstep : ∀ base ∈ declaredBases models model, Extends models model base :=
        fun base hbase => (mem_declaredBases_iff hnodup).mp hbase
      rw [inheritedFrom_succ fun base hbase hname =>
        hfree base (hstep base hbase) (List.mem_cons_of_mem _ hname)]
      refine merges_flatMap fun base hbase => ih (hstep base hbase).1 ?_ ?_ ?_
        (hfree base (hstep base hbase)) (habove base (hstep base hbase))
      · exact List.nodup_cons.mpr ⟨hnew, hpath⟩
      · exact List.cons_subset.mpr ⟨List.mem_map_of_mem hmodel, hnames⟩
      · rw [List.length_cons]
        omega

/-- Without circles of bases, a model has one mapping as a class, and it is the
one that the model has when it is declared by a call. -/
theorem classKeys_iff_eq_callKeys (hnodup : (models.map (·.name)).Nodup)
    (hacyclic : Acyclic models) {model : Model} (hmodel : model ∈ models) (keys : Keys) :
    ClassKeys models model keys ↔ keys = callKeys models model := by
  have hfuel : models.length < 2 * models.length + 3 + ([] : List String).length := by
    rw [List.length_nil]
    omega
  have hmerges := merges_inheritedFrom hnodup hacyclic hmodel List.nodup_nil (List.nil_subset _)
    hfuel List.not_mem_nil (by simp)
  rw [callKeys, Keys.ofFields_append]
  constructor
  · rintro ⟨taken, htaken, rfl⟩
    rw [htaken.unique hmerges]
    rfl
  · rintro rfl
    exact ⟨_, hmerges, rfl⟩

/-- An issue is a record in two ways, one of them twice.  The title that the first
way changes is a record's again after the second, and changed again by the third. -/
def diamondModels : List Model :=
  [{ name := "Record", fields :=
      [⟨"id", "integer", .primitive .integer⟩, ⟨"title", "string", .primitive .string⟩] },
    { name := "Titled", bases := ["Record"], fields :=
      [⟨"title", "string | null", .nullable (.primitive .string)⟩] },
    { name := "Dated", bases := ["Record"], fields := [⟨"closed-at", "date", .primitive .date⟩] },
    { name := "Page", bases := ["Titled", "Dated"], fields := [] },
    { name := "Issue", bases := ["Titled", "Dated", "Titled"], fields :=
      [⟨"id", "string", .primitive .string⟩, ⟨"is-open", "boolean", .primitive .boolean⟩] }]

/-- The last base decides, also about what it only passes on. -/
theorem classKeys_iff_eq_callKeys_diamond :
    (diamondModels.map (·.name)).Nodup ∧ Acyclic diamondModels ∧
      ∃ page ∈ diamondModels, ∃ issue ∈ diamondModels,
        page.name = "Page" ∧ issue.name = "Issue" ∧
        (∃ keys, ClassKeys diamondModels page keys ∧ keys "title" = some "str" ∧
          keys "closed-at" = some "datetime") ∧
        ∃ keys, ClassKeys diamondModels issue keys ∧ keys "title" = some "str | None" ∧
          keys "id" = some "str" ∧ keys "is-open" = some "bool" := by
  have hnodup : (diamondModels.map (·.name)).Nodup := by decide
  have hacyclic : Acyclic diamondModels := acyclic_of_rank
    (fun model => ["Record", "Titled", "Dated", "Page", "Issue"].idxOf model.name) (by decide)
  have hkeys : ∀ model ∈ diamondModels,
      ClassKeys diamondModels model (callKeys diamondModels model) := fun model hmodel =>
    (classKeys_iff_eq_callKeys hnodup hacyclic hmodel _).mpr rfl
  refine ⟨hnodup, hacyclic, diamondModels[3], by simp [diamondModels], diamondModels[4],
    by simp [diamondModels], rfl, rfl, ?_, ?_⟩
  · exact ⟨_, hkeys _ (by simp [diamondModels]), by decide, by decide⟩
  · exact ⟨_, hkeys _ (by simp [diamondModels]), by decide, by decide, by decide⟩

end IntegrationBuild.Model
