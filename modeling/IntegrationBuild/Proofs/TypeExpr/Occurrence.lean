import IntegrationBuild.Proofs.TypeExpr.Normal
import IntegrationBuild.TypeExpr.Render

/-!
What stands at any depth of a type.  A type is closed over some models when
every model in it is one of them and every primitive in it has an annotation.
-/

namespace IntegrationBuild

namespace TypeRef

/-- A type stands in another one, at any depth. -/
inductive Occurs (part : TypeRef) : TypeRef → Prop
  | here : Occurs part part
  | array {item : TypeRef} (hitem : Occurs part item) : Occurs part (.array item)
  | key {key value : TypeRef} (hkey : Occurs part key) :
      Occurs part (.record key value)
  | value {key value : TypeRef} (hvalue : Occurs part value) :
      Occurs part (.record key value)
  | nullable {inner : TypeRef} (hinner : Occurs part inner) :
      Occurs part (.nullable inner)
  | optional {inner : TypeRef} (hinner : Occurs part inner) :
      Occurs part (.optional inner)
  | member {member : TypeRef} {members : List TypeRef}
      (hmember : member ∈ members) (hpart : Occurs part member) :
      Occurs part (.union members)

theorem mem_modelsOf_iff {name : String} {types : List TypeRef} :
    name ∈ modelsOf types ↔ ∃ type ∈ types, name ∈ models type := by
  induction types with
  | nil => simp [modelsOf]
  | cons type rest ih => simp [modelsOf, ih]

theorem occurs_of_mem_models {name : String} :
    (∀ type, name ∈ models type → Occurs (.model name) type) ∧
      ∀ types : List TypeRef, ∀ type ∈ types, name ∈ models type →
        Occurs (.model name) type := by
  apply models.mutual_induct
  case case1 =>
    intro other hname
    obtain rfl : name = other := by simpa [models] using hname
    exact .here
  case case2 =>
    intro item ih hname
    exact .array (ih (by simpa [models] using hname))
  case case3 =>
    intro key value ihKey ihValue hname
    rw [models, List.mem_append] at hname
    rcases hname with hkey | hvalue
    · exact .key (ihKey hkey)
    · exact .value (ihValue hvalue)
  case case4 =>
    intro inner ih hname
    exact .nullable (ih (by simpa [models] using hname))
  case case5 =>
    intro inner ih hname
    exact .optional (ih (by simpa [models] using hname))
  case case6 =>
    intro members ih hname
    rw [models, mem_modelsOf_iff] at hname
    obtain ⟨member, hmember, hname⟩ := hname
    exact .member hmember (ih member hmember hname)
  case case7 =>
    intro p hname
    simp [models] at hname
  case case8 =>
    intro text hname
    simp [models] at hname
  case case9 =>
    intro type htype
    simp at htype
  case case10 =>
    intro first rest ihFirst ihRest type htype
    rcases List.mem_cons.mp htype with rfl | hrest
    · exact ihFirst
    · exact ihRest type hrest

/-- The models of a type are those that stand in it. -/
theorem mem_models_iff {name : String} {type : TypeRef} :
    name ∈ models type ↔ Occurs (.model name) type := by
  constructor
  · exact occurs_of_mem_models.1 type
  · intro hname
    induction hname with
    | here => simp [models]
    | array _ ih => simpa [models] using ih
    | key _ ih => exact List.mem_append_left _ ih
    | value _ ih => exact List.mem_append_right _ ih
    | nullable _ ih => simpa [models] using ih
    | optional _ ih => simpa [models] using ih
    | member hmember _ ih =>
        rw [models]
        exact mem_modelsOf_iff.mpr ⟨_, hmember, ih⟩

end TypeRef

/-- The annotations of the primitives, by canonical name. -/
def Primitive.annotations : List (String × String) :=
  [("string", "str"), ("number", "float"), ("integer", "int"),
    ("boolean", "bool"), ("date", "datetime"), ("any", "Any"),
    ("object", "dict[str, Any]"), ("null", "None")]

theorem Primitive.lookup_annotations (p : Primitive) :
    annotations.lookup p.name = some p.annotation := by
  cases p <;> decide

namespace TypeRef

/-- Every model in the type is one of the names, and every primitive in it has
an annotation under its name. -/
structure ClosedOver (names : List String) (type : TypeRef) : Prop where
  model_mem : ∀ name, Occurs (.model name) type → name ∈ names
  primitive_annotated : ∀ p, Occurs (.primitive p) type →
    Primitive.annotations.lookup p.name = some p.annotation

theorem closedOver_of_models {names : List String} {type : TypeRef}
    (hmodels : ∀ name, Occurs (.model name) type → name ∈ names) :
    ClosedOver names type :=
  ⟨hmodels, fun p _ => p.lookup_annotations⟩

end TypeRef

namespace TypeExpr

open TypeRef (Occurs ClosedOver)

/-- A type in normal form mentions only known models. -/
theorem Normal.mem_of_occurs {known : List String} {place : Place}
    {type : TypeRef} (htype : Normal known place type) {name : String}
    (hname : Occurs (.model name) type) : name ∈ known := by
  induction htype with
  | primitive p => cases hname
  | model hknown => cases hname with
    | here => exact hknown
  | literal text => cases hname
  | array _ ih => cases hname with
    | array hitem => exact ih hitem
  | record _ _ ihKey ihValue => cases hname with
    | key hkey => exact ihKey hkey
    | value hvalue => exact ihValue hvalue
  | single _ _ _ ih => exact ih hname
  | union _ _ _ ih => cases hname with
    | member hmember hpart => exact ih _ hmember hpart
  | null => cases hname
  | kernel _ ih => exact ih hname
  | nullable _ ih => cases hname with
    | nullable hinner => exact ih hinner
  | present _ ih => exact ih hname
  | optional _ ih => cases hname with
    | optional hinner => exact ih hinner

theorem Normal.closedOver {known : List String} {place : Place}
    {type : TypeRef} (htype : Normal known place type) :
    ClosedOver known type :=
  TypeRef.closedOver_of_models fun _ hname => htype.mem_of_occurs hname

end TypeExpr

end IntegrationBuild
