import Mathlib.Data.List.Nodup
import Mathlib.Data.List.Perm.Subperm
import Mathlib.Logic.Relation
import IntegrationBuild.Model.Inheritance

/-!
What a model inherits.  The walk over the bases of a model stops at a model
that is under way, yet it misses nothing: whatever can be reached can be
reached by a way that meets no model twice, and the walk follows that way to
its end.
-/

namespace IntegrationBuild.Model

variable {models : List Model}

/-- One model names another one as a base. -/
def Extends (models : List Model) (model base : Model) : Prop :=
  base ∈ models ∧ base.name ∈ model.bases

/-- A model can be reached from another one over bases, or is the same. -/
def Inherits (models : List Model) : Model → Model → Prop :=
  Relation.ReflTransGen (Extends models)

theorem of_byName? {name : String} {model : Model}
    (hfind : byName? models name = some model) : model ∈ models ∧ model.name = name := by
  rw [byName?] at hfind
  have hmem := List.mem_of_find?_eq_some hfind
  have hname := List.find?_some hfind
  exact ⟨List.mem_reverse.mp hmem, by simpa using hname⟩

/-- Of distinct names, each leads to its own model. -/
theorem byName?_of_mem (hnodup : (models.map (·.name)).Nodup) {model : Model}
    (hmodel : model ∈ models) : byName? models model.name = some model := by
  cases hfind : byName? models model.name with
  | none =>
      rw [byName?, List.find?_eq_none] at hfind
      exact absurd (beq_self_eq_true model.name)
        (hfind model (List.mem_reverse.mpr hmodel))
  | some other =>
      obtain ⟨hother, hname⟩ := of_byName? hfind
      rw [List.inj_on_of_nodup_map hnodup hother hmodel hname]

section Way

/-- The models met on the way from a model over bases to another one. -/
inductive Way (models : List Model) : Model → List Model → Model → Prop
  | here {model : Model} : Way models model [] model
  | step {model base target : Model} {rest : List Model}
      (hbase : Extends models model base) (hrest : Way models base rest target) :
      Way models model (base :: rest) target

theorem Way.mem_models {model target : Model} {way : List Model}
    (hway : Way models model way target) : ∀ met ∈ way, met ∈ models := by
  induction hway with
  | here => simp
  | step hbase _ ih =>
      intro met hmet
      rcases List.mem_cons.mp hmet with rfl | hrest
      · exact hbase.1
      · exact ih met hrest

/-- The rest of a way from one of its models on. -/
theorem Way.rest {model target other : Model} {way : List Model}
    (hway : Way models model way target) (hother : other ∈ model :: way) :
    ∃ rest, Way models other rest target ∧ other :: rest <:+ model :: way := by
  induction hway with
  | here =>
      obtain rfl : other = _ := by simpa using hother
      exact ⟨[], .here, List.suffix_rfl⟩
  | @step model base target way hbase hrest ih =>
      rcases List.mem_cons.mp hother with rfl | hmem
      · exact ⟨_, .step hbase hrest, List.suffix_rfl⟩
      · obtain ⟨rest, hway, hsuffix⟩ := ih hmem
        exact ⟨rest, hway, hsuffix.trans (List.suffix_cons model _)⟩

/-- Whatever is inherited is inherited over a way that meets no model twice. -/
theorem exists_way_nodup (hnodup : (models.map (·.name)).Nodup)
    {model target : Model} (hmodel : model ∈ models)
    (hinherits : Inherits models model target) :
    ∃ way, Way models model way target ∧ ((model :: way).map (·.name)).Nodup := by
  induction hinherits using Relation.ReflTransGen.head_induction_on with
  | refl => exact ⟨[], .here, by simp⟩
  | @head model base hbase _ ih =>
      obtain ⟨way, hway, hdistinct⟩ := ih hbase.1
      by_cases hmet : model.name ∈ (base :: way).map (·.name)
      · -- the way comes back to the model: its loop is left out
        obtain ⟨other, hother, hname⟩ := List.mem_map.mp hmet
        have hdeclared : other ∈ models := by
          rcases List.mem_cons.mp hother with rfl | hmem
          · exact hbase.1
          · exact hway.mem_models other hmem
        obtain rfl := List.inj_on_of_nodup_map hnodup hdeclared hmodel hname
        obtain ⟨rest, hrest, hsuffix⟩ := hway.rest hother
        exact ⟨rest, hrest, hdistinct.sublist (hsuffix.sublist.map _)⟩
      · exact ⟨base :: way, .step hbase hway, List.nodup_cons.mpr ⟨hmet, hdistinct⟩⟩

theorem Way.length_lt {model target : Model} {way : List Model}
    (hmodel : model ∈ models) (hway : Way models model way target)
    (hdistinct : ((model :: way).map (·.name)).Nodup) :
    way.length < models.length := by
  have hsubset : (model :: way).map (·.name) ⊆ models.map (·.name) := by
    apply List.map_subset
    intro met hmet
    rcases List.mem_cons.mp hmet with rfl | hmem
    · exact hmodel
    · exact hway.mem_models met hmem
  have hle := (List.subperm_of_subset hdistinct hsubset).length_le
  simpa [Nat.succ_le_iff] using hle

end Way

section FieldNames

theorem exists_inherits_of_mem_allFieldNamesFrom {fuel : Nat} {path : List String}
    {model : Model} {name : String}
    (hname : name ∈ allFieldNamesFrom models fuel path model) :
    ∃ base, Inherits models model base ∧ name ∈ base.fieldNames := by
  induction fuel generalizing path model with
  | zero => simp [allFieldNamesFrom] at hname
  | succ fuel ih =>
      rw [allFieldNamesFrom, List.mem_append, List.mem_flatMap] at hname
      rcases hname with hown | ⟨base, hbase, hname⟩
      · exact ⟨model, .refl, hown⟩
      · split at hname
        · simp at hname
        · split at hname
          · simp at hname
          · next parent hparent =>
            obtain ⟨hmem, rfl⟩ := of_byName? hparent
            obtain ⟨target, hinherits, htarget⟩ := ih hname
            exact ⟨target, .head ⟨hmem, hbase⟩ hinherits, htarget⟩

/-- The walk follows a way that meets neither a model twice nor one that is
under way. -/
theorem mem_allFieldNamesFrom_of_way (hnodup : (models.map (·.name)).Nodup)
    {fuel : Nat} {path : List String} {model target : Model} {way : List Model}
    (hway : Way models model way target)
    (hdistinct : ((model :: way).map (·.name)).Nodup)
    (hpath : ∀ met ∈ way, met.name ∉ path) (hfuel : way.length < fuel)
    {name : String} (hname : name ∈ target.fieldNames) :
    name ∈ allFieldNamesFrom models fuel path model := by
  induction hway generalizing fuel path with
  | here =>
      obtain ⟨fuel, rfl⟩ := Nat.exists_eq_succ_of_ne_zero (Nat.ne_of_gt hfuel)
      rw [allFieldNamesFrom]
      exact List.mem_append_left _ hname
  | @step model base target rest hbase hrest ih =>
      obtain ⟨fuel, rfl⟩ := Nat.exists_eq_succ_of_ne_zero
        (Nat.ne_of_gt (Nat.zero_lt_of_lt hfuel))
      rw [List.map_cons, List.nodup_cons] at hdistinct
      have hfree : ∀ met ∈ rest, met.name ∉ model.name :: path := by
        intro met hmet hunder
        rcases List.mem_cons.mp hunder with hsame | hold
        · apply hdistinct.1
          rw [← hsame]
          exact List.mem_map_of_mem (List.mem_cons_of_mem base hmet)
        · exact hpath met (List.mem_cons_of_mem base hmet) hold
      have hrest := ih hdistinct.2 hfree (Nat.lt_of_succ_lt_succ hfuel) hname
      rw [allFieldNamesFrom]
      refine List.mem_append_right _ (List.mem_flatMap.mpr ⟨base.name, hbase.2, ?_⟩)
      rw [if_neg (by simpa using hpath base List.mem_cons_self),
        byName?_of_mem hnodup hbase.1]
      exact hrest

/-- The fields of a record are those of all models that can be reached over
bases, in circles or not. -/
theorem mem_allFieldNames_iff (hnodup : (models.map (·.name)).Nodup) {model : Model}
    (hmodel : model ∈ models) {name : String} :
    name ∈ allFieldNames models model ↔
      ∃ base, Inherits models model base ∧ name ∈ base.fieldNames := by
  constructor
  · exact exists_inherits_of_mem_allFieldNamesFrom
  · rintro ⟨base, hinherits, hname⟩
    obtain ⟨way, hway, hdistinct⟩ := exists_way_nodup hnodup hmodel hinherits
    have hlength := hway.length_lt hmodel hdistinct
    exact mem_allFieldNamesFrom_of_way hnodup hway hdistinct (by simp) (by omega) hname

end FieldNames

end IntegrationBuild.Model
