import IntegrationBuild.Proofs.TypeExpr.Occurrence

/-!
The normal form node by node.  What is asked of a node concerns only the node
and the types right inside it; a type is in normal form when every type that
stands in it has this shape.
-/

namespace IntegrationBuild

open Text

namespace TypeRef

/-- Whether the type may be a member of a union. -/
def mayJoin : TypeRef → Bool
  | .primitive p => p != .null
  | .nullable _ => false
  | .optional _ => false
  | .union _ => false
  | _ => true

/-- Whether `null` may be added around the type. -/
def mayBeNullable : TypeRef → Bool
  | .primitive p => p != .null
  | .nullable _ => false
  | .optional _ => false
  | type => !type.isLiteral

/-- What the normal form asks of a type and the types right inside it. -/
def HasShape (known : List String) : TypeRef → Prop
  | .primitive p => Primitive.annotations.lookup p.name = some p.annotation
  | .model name => name ∈ known ∧ isAsciiIdentifier name.toList = true ∧
      Primitive.ofName? name = none
  | .literal _ => True
  | .array item => item.isLiteral = false
  | .record key value => key.isLiteral = false ∧ value.isLiteral = false
  | .nullable inner => inner.mayBeNullable = true
  | .optional inner => inner.isLiteral = false ∧ inner.isOptional = false
  | .union members =>
      (2 ≤ members.length ∨ ∃ text, members = [.literal text]) ∧
        ∀ member ∈ members, member.mayJoin = true

/-- The type is no bare literal, and every type in it has the shape of the
normal form. -/
structure NormalForm (known : List String) (type : TypeRef) : Prop where
  isType : type.isLiteral = false
  hasShape : ∀ part, Occurs part type → HasShape known part

end TypeRef

namespace TypeExpr

open TypeRef (Occurs HasShape NormalForm)

variable {known : List String} {type : TypeRef}

theorem Normal.mayJoin (htype : Normal known .member type)
    (hnull : type ≠ .primitive .null) : type.mayJoin = true := by
  cases htype with
  | primitive p => simpa [TypeRef.mayJoin] using hnull
  | model => rfl
  | literal => rfl
  | array => rfl
  | record => rfl

theorem Normal.mayBeNullable (htype : Normal known .kernel type) :
    type.mayBeNullable = true := by
  cases htype with
  | union => rfl
  | single htype hliteral hnull =>
    cases htype with
    | primitive p => simpa [TypeRef.mayBeNullable] using hnull
    | literal text => simp [TypeRef.isLiteral] at hliteral
    | model => rfl
    | array => rfl
    | record => rfl

theorem Normal.isLiteral_kernel (htype : Normal known .kernel type) :
    type.isLiteral = false := by
  cases htype with
  | single _ hliteral _ => exact hliteral
  | union => rfl

theorem Normal.isLiteral_present (htype : Normal known .present type) :
    type.isLiteral = false := by
  cases htype with
  | null => rfl
  | kernel hkernel => exact hkernel.isLiteral_kernel
  | nullable => rfl

theorem Normal.isLiteral_whole (htype : Normal known .whole type) :
    type.isLiteral = false := by
  cases htype with
  | present hpresent => exact hpresent.isLiteral_present
  | optional => rfl

theorem Normal.isOptional_present (htype : Normal known .present type) :
    type.isOptional = false := by
  cases htype with
  | null => rfl
  | nullable => rfl
  | kernel hkernel =>
    cases hkernel with
    | union => rfl
    | single hmember => cases hmember <;> rfl

/-- Every type in a type in normal form has its shape. -/
theorem Normal.hasShape {place : Place} (htype : Normal known place type)
    {part : TypeRef} (hpart : Occurs part type) : HasShape known part := by
  induction htype with
  | primitive p =>
    cases hpart
    exact p.lookup_annotations
  | model hknown hident halias =>
    cases hpart
    exact ⟨hknown, hident, halias⟩
  | literal text =>
    cases hpart
    trivial
  | array hitem ih =>
    cases hpart with
    | here => exact hitem.isLiteral_whole
    | array hpart => exact ih hpart
  | record hkey hvalue ihKey ihValue =>
    cases hpart with
    | here => exact ⟨hkey.isLiteral_whole, hvalue.isLiteral_whole⟩
    | key hpart => exact ihKey hpart
    | value hpart => exact ihValue hpart
  | single _ _ _ ih => exact ih hpart
  | union hmembers hnull hsize ih =>
    cases hpart with
    | here =>
      exact ⟨hsize, fun member hmember =>
        (hmembers member hmember).mayJoin (hnull member hmember)⟩
    | member hmember hpart => exact ih _ hmember hpart
  | null =>
    cases hpart
    exact Primitive.lookup_annotations .null
  | kernel _ ih => exact ih hpart
  | nullable hinner ih =>
    cases hpart with
    | here => exact hinner.mayBeNullable
    | nullable hpart => exact ih hpart
  | present _ ih => exact ih hpart
  | optional hinner ih =>
    cases hpart with
    | here => exact ⟨hinner.isLiteral_present, hinner.isOptional_present⟩
    | optional hpart => exact ih hpart

theorem Normal.normalForm (htype : Normal known .whole type) :
    NormalForm known type :=
  ⟨htype.isLiteral_whole, fun _ hpart => htype.hasShape hpart⟩

end TypeExpr

end IntegrationBuild
