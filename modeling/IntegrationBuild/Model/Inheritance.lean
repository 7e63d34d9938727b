import IntegrationBuild.Model.Basic

/-!
Bases of models.  The graph of bases may have unknown names, repetitions and
cycles; every walk below carries the names on its path and stops at one it
meets again, so every walk ends.  A model that is its own base is met twice in a row at most,
which bounds a walk by twice the number of models.
-/

namespace IntegrationBuild.Model

/-- The fields a model inherits: those of its bases in order, each base's
inherited fields before its own.  `path` holds the models under way, `fuel`
bounds the length of the path. -/
def inheritedFrom (models : List Model) : Nat → List String → Model → List ModelField
  | 0, _, _ => []
  | fuel + 1, path, model =>
    model.bases.flatMap fun base =>
      if path.contains base then []
      else
        match byName? models base with
        | none => []
        | some parent =>
          inheritedFrom models fuel (model.name :: path) parent ++ parent.fields

/-- The fields a model inherits from its bases. -/
def inherited (models : List Model) (model : Model) : List ModelField :=
  inheritedFrom models (2 * models.length + 3) [] model

/-- The names of a model's own and inherited fields. -/
def allFieldNamesFrom (models : List Model) : Nat → List String → Model → List String
  | 0, _, _ => []
  | fuel + 1, path, model =>
    model.fieldNames ++ model.bases.flatMap fun base =>
      if path.contains base then []
      else
        match byName? models base with
        | none => []
        | some parent => allFieldNamesFrom models fuel (model.name :: path) parent

/-- The names of all fields a record of the model has. -/
def allFieldNames (models : List Model) (model : Model) : List String :=
  allFieldNamesFrom models (2 * models.length + 3) [] model

/-- What has been placed so far: the models in order and their names. -/
structure Placed where
  ordered : List Model := []
  names : List String := []
deriving Inhabited

/-- Places a model after its bases, unless it is placed or under way. -/
def place (models : List Model) : Nat → List String → Placed → Model → Placed
  | 0, _, placed, _ => placed
  | fuel + 1, path, placed, model =>
    if placed.names.contains model.name || path.contains model.name then placed
    else
      let placed := model.bases.foldl
        (fun placed base =>
          match byName? models base with
          | none => placed
          | some parent => place models fuel (model.name :: path) placed parent)
        placed
      { ordered := placed.ordered ++ [model], names := model.name :: placed.names }

/-- The models in declaration order, except that bases come before the models
built on them. -/
def inOrder (models : List Model) : List Model :=
  (models.foldl (fun placed model => place models (models.length + 1) [] placed model) {}).ordered

end IntegrationBuild.Model
