import IntegrationBuild.Proofs.TypeExpr.Occurrence
import IntegrationBuild.Schema.Models

/-!
The models section.  The name of an auxiliary model is found twice, once while
the mappings are collected and once while the fields are built; both ways give
the same name, so a field that is a mapping refers to a model that is there.
-/

namespace IntegrationBuild.Schema

theorem pascalChars_append_marks (atStart : Bool) (s : List Char) {marks : List Char}
    (hmarks : ∀ c ∈ marks, c = '?') :
    pascalChars atStart (s ++ marks) = pascalChars atStart s := by
  induction s generalizing atStart with
  | nil =>
      induction marks generalizing atStart with
      | nil => rfl
      | cons c rest ih =>
          have hc : c = '?' := hmarks c List.mem_cons_self
          subst hc
          have hrest := ih (fun c hc => hmarks c (List.mem_cons_of_mem _ hc)) true
          simpa [pascalChars] using hrest
  | cons c rest ih =>
      rw [List.cons_append, pascalChars, pascalChars, ih, ih]

theorem pascalCase_dropMarks (s : String) :
    pascalCase (dropMarks s) = pascalCase s := by
  have hsplit : s.toList =
      (s.toList.reverse.dropWhile (· == '?')).reverse ++
        (s.toList.reverse.takeWhile (· == '?')).reverse := by
    rw [← List.reverse_append, List.takeWhile_append_dropWhile,
      List.reverse_reverse]
  have hmarks : ∀ c ∈ (s.toList.reverse.takeWhile (· == '?')).reverse,
      c = '?' := by
    intro c hc
    have hall := List.all_takeWhile (p := (· == '?')) (l := s.toList.reverse)
    simpa using List.all_eq_true.mp hall c (List.mem_reverse.mp hc)
  rw [pascalCase, pascalCase, dropMarks, String.toList_ofList]
  conv_rhs => rw [hsplit, pascalChars_append_marks true _ hmarks]

theorem pascalCase_fieldKey (s : String) :
    pascalCase (fieldKey s).1 = pascalCase s := by
  rw [fieldKey]
  split
  · next rest hreverse =>
    have hsplit : s.toList = rest.reverse ++ ['?'] := by
      simpa using congrArg List.reverse hreverse
    rw [pascalCase, pascalCase, String.toList_ofList, hsplit,
      pascalChars_append_marks true _ (by simp)]
  · rfl

/-- Every mapping inside one of the models is itself among them, under the
name of the model and the field. -/
def InlineCollected (models : List RawModel) : Prop :=
  ∀ model ∈ models, ∀ key entries, (key, Value.mapping entries) ∈ model.entries →
    model.name ++ pascalCase key.describe ∈ models.map (·.name)

theorem InlineCollected.append {first second : List RawModel}
    (hfirst : InlineCollected first) (hsecond : InlineCollected second) :
    InlineCollected (first ++ second) := by
  intro model hmodel key entries hentry
  rw [List.map_append, List.mem_append]
  rcases List.mem_append.mp hmodel with hmem | hmem
  · exact Or.inl (hfirst model hmem key entries hentry)
  · exact Or.inr (hsecond model hmem key entries hentry)

/-- The models found in a value, and those found in the entries of a mapping,
include every mapping inside them. -/
theorem inlineCollected_rawModels_and_innerModels :
    (∀ name value, InlineCollected (rawModels name value) ∧
      ∀ entries, value = .mapping entries →
        name ∈ (rawModels name value).map (·.name)) ∧
    ∀ name entries, InlineCollected (innerModels name entries) ∧
      ∀ key inner, (key, Value.mapping inner) ∈ entries →
        name ++ pascalCase key.describe ∈
          (innerModels name entries).map (·.name) := by
  apply rawModels.mutual_induct
  case case1 =>
    intro name entries ⟨hinner, hnames⟩
    rw [rawModels]
    refine ⟨?_, fun _ _ => by simp⟩
    intro model hmodel key inner hentry
    rw [List.map_cons]
    apply List.mem_cons_of_mem
    rcases List.mem_cons.mp hmodel with rfl | hmem
    · exact hnames key inner hentry
    · exact hinner model hmem key inner hentry
  case case2 =>
    intro value name hvalue
    have hnone : rawModels name value = [] := by
      rw [rawModels.eq_def]
      split
      · exact absurd rfl (hvalue _)
      · rfl
    refine ⟨?_, fun entries heq => absurd heq (hvalue entries)⟩
    rw [hnone]
    intro model hmodel
    simp at hmodel
  case case3 =>
    intro name
    rw [innerModels]
    exact ⟨fun model hmodel => by simp at hmodel, fun _ _ hentry => by simp at hentry⟩
  case case4 =>
    intro name key value rest ⟨hvalue, hself⟩ ⟨hrest, hnames⟩
    rw [innerModels]
    refine ⟨hvalue.append hrest, ?_⟩
    intro other inner hentry
    rw [List.map_append, List.mem_append]
    rcases List.mem_cons.mp hentry with heq | hmem
    · obtain ⟨rfl, rfl⟩ := Prod.mk.inj heq
      rw [← pascalCase_dropMarks other.describe]
      exact Or.inl (hself inner rfl)
    · exact Or.inr (hnames other inner hmem)

theorem inlineCollected_sectionModels {name : String} {body : Value}
    {models : List RawModel} (hsection : sectionModels name body = .ok models) :
    InlineCollected models := by
  unfold sectionModels at hsection
  split at hsection
  · cases hsection
    intro model hmodel key entries hentry
    rw [List.mem_singleton] at hmodel
    subst hmodel
    simp at hentry
  · cases hsection
    exact (inlineCollected_rawModels_and_innerModels.1 _ _).1
  · simp at hsection

theorem inlineCollected_collectModels {raw : List (String × Value)}
    {models : List RawModel} (hcollect : collectModels raw = .ok models) :
    InlineCollected models := by
  induction raw generalizing models with
  | nil =>
      cases hcollect
      intro model hmodel
      simp at hmodel
  | cons entry rest ih =>
      obtain ⟨first, hfirst, hrest⟩ := Outcome.bind_eq_ok_iff.mp hcollect
      obtain ⟨others, hothers, heq⟩ := Outcome.bind_eq_ok_iff.mp hrest
      cases heq
      exact (inlineCollected_sectionModels hfirst).append (ih hothers)

theorem checkModelNames_ok {names seen : List String}
    (hcheck : checkModelNames names seen = .ok ()) :
    names.Nodup ∧ (∀ name ∈ names, name ∉ seen) ∧
      ∀ name ∈ names, isModelName name = true := by
  induction names generalizing seen with
  | nil => simp
  | cons name rest ih =>
      rw [checkModelNames] at hcheck
      split at hcheck
      · simp at hcheck
      · next hvalid =>
        split at hcheck
        · simp at hcheck
        · next hseen =>
          obtain ⟨hnodup, hfresh, hnames⟩ := ih hcheck
          have hnew : name ∉ rest := fun hmem =>
            hfresh name hmem List.mem_cons_self
          refine ⟨List.nodup_cons.mpr ⟨hnew, hnodup⟩, ?_, ?_⟩
          · intro other hother
            rcases List.mem_cons.mp hother with rfl | hmem
            · simpa using hseen
            · exact fun hold => hfresh other hmem (List.mem_cons_of_mem _ hold)
          · intro other hother
            rcases List.mem_cons.mp hother with rfl | hmem
            · simpa using hvalid
            · exact hnames other hmem

theorem parseBases_ok {model : String} {value : Value} {names bases : List String}
    (hparse : parseBases model value names = .ok bases) :
    ∀ base ∈ bases, base ∈ names ∧ base ≠ model := by
  rw [parseBases] at hparse
  split at hparse
  · simp at hparse
  · next hnone =>
    cases hparse
    intro base hbase
    simpa using List.find?_eq_none.mp hnone base hbase

theorem closedOver_makeOptional {names : List String} {marked : Bool}
    {type : TypeRef} (htype : type.ClosedOver names) :
    (makeOptional marked type).ClosedOver names := by
  rw [makeOptional]
  split
  · apply TypeRef.closedOver_of_models
    intro name hname
    cases hname with
    | optional hinner => exact htype.model_mem name hinner
  · exact htype

/-- The type of a field mentions only declared models if the model that a
mapping would declare is one of them. -/
theorem closedOver_buildField {model key : String} {value : Value}
    {names : List String} {field : ModelField}
    (hinline : ∀ entries, value = .mapping entries →
      model ++ pascalCase key ∈ names)
    (hbuild : buildField model key value names = .ok field) :
    field.type.ClosedOver names := by
  unfold buildField at hbuild
  dsimp only at hbuild
  split at hbuild
  · next entries =>
    cases hbuild
    apply closedOver_makeOptional
    apply TypeRef.closedOver_of_models
    intro name hname
    cases hname with
    | here =>
        rw [pascalCase_fieldKey]
        exact hinline entries rfl
  · split at hbuild
    · next hcompile =>
      cases hbuild
      exact closedOver_makeOptional
        (TypeExpr.normal_compileField hcompile).closedOver
    · simp at hbuild
  · simp at hbuild

/-- What holds of a model while its entries are added. -/
structure ModelClosed (names : List String) (model : Model) : Prop where
  bases : ∀ base ∈ model.bases, base ∈ names ∧ base ≠ model.name
  fields : ∀ field ∈ model.fields, field.type.ClosedOver names

theorem modelClosed_buildEntries {names : List String} {model built : Model}
    {entries : List (Value × Value)} (hmodel : ModelClosed names model)
    (hinline : ∀ key inner, (key, Value.mapping inner) ∈ entries →
      model.name ++ pascalCase key.describe ∈ names)
    (hbuild : buildEntries names model entries = .ok built) :
    built.name = model.name ∧ ModelClosed names built := by
  induction entries generalizing model with
  | nil =>
      cases hbuild
      exact ⟨rfl, hmodel⟩
  | cons entry rest ih =>
      obtain ⟨key, value⟩ := entry
      have hrest : ∀ key inner, (key, Value.mapping inner) ∈ rest →
          model.name ++ pascalCase key.describe ∈ names :=
        fun key inner hmem => hinline key inner (List.mem_cons_of_mem _ hmem)
      rw [buildEntries] at hbuild
      split at hbuild
      · obtain ⟨bases, hbases, hnext⟩ := Outcome.bind_eq_ok_iff.mp hbuild
        exact @ih { model with bases := bases }
          ⟨parseBases_ok hbases, hmodel.fields⟩ hrest hnext
      · obtain ⟨field, hfield, hnext⟩ := Outcome.bind_eq_ok_iff.mp hbuild
        refine @ih { model with fields := model.fields ++ [field] }
          ⟨hmodel.bases, ?_⟩ hrest hnext
        intro other hother
        rcases List.mem_append.mp hother with hold | hnew
        · exact hmodel.fields other hold
        · rw [List.mem_singleton] at hnew
          subst hnew
          refine closedOver_buildField ?_ hfield
          rintro inner rfl
          exact hinline key inner List.mem_cons_self

/-- The models of an accepted section have distinct names that can be declared,
and refer only to each other. -/
theorem buildModels_ok {raw : List (String × Value)} {models : List Model}
    (hbuild : buildModels raw = .ok models) :
    (models.map (·.name)).Nodup ∧
      (∀ model ∈ models, isModelName model.name = true) ∧
      ∀ model ∈ models, ModelClosed (models.map (·.name)) model := by
  obtain ⟨collected, hcollect, hrest⟩ := Outcome.bind_eq_ok_iff.mp hbuild
  obtain ⟨⟨⟩, hcheck, hmodels⟩ := Outcome.bind_eq_ok_iff.mp hrest
  obtain ⟨hnodup, -, hvalid⟩ := checkModelNames_ok hcheck
  have hinline := inlineCollected_collectModels hcollect
  have hbuilt : ∀ raw ∈ collected, ∀ model,
      buildEntries (collected.map (·.name)) { name := raw.name, fields := [] }
        raw.entries = .ok model →
      model.name = raw.name ∧ ModelClosed (collected.map (·.name)) model := by
    intro raw hraw model hentries
    exact modelClosed_buildEntries ⟨by simp, by simp⟩ (hinline raw hraw) hentries
  have hnames : models.map (·.name) = collected.map (·.name) :=
    Outcome.map_eq_map_of_mapM hmodels fun raw hraw model hentries =>
      (hbuilt raw hraw model hentries).1
  rw [hnames]
  refine ⟨hnodup, ?_, ?_⟩
  · intro model hmodel
    obtain ⟨raw, hraw, hentries⟩ := Outcome.exists_of_mem_mapM hmodels hmodel
    rw [(hbuilt raw hraw model hentries).1]
    exact hvalid raw.name (List.mem_map_of_mem hraw)
  · intro model hmodel
    obtain ⟨raw, hraw, hentries⟩ := Outcome.exists_of_mem_mapM hmodels hmodel
    exact (hbuilt raw hraw model hentries).2

end IntegrationBuild.Schema
