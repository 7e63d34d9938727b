import IntegrationBuild.Schema.Error
import IntegrationBuild.Text.Blank
import IntegrationBuild.Text.Split
import IntegrationBuild.TypeExpr.Parser
import IntegrationBuild.Value.Describe

/-!
Models of a document.  A field whose value is a mapping declares an auxiliary
model named after the model and the field; all models are listed in the order
in which their mappings are met.
-/

namespace IntegrationBuild.Schema

/-- A model as written: its name and the entries of its mapping. -/
structure RawModel where
  name : String
  entries : List (Value × Value)

/-- Drops the question marks at the end. -/
def dropMarks (s : String) : String :=
  String.ofList ((s.toList.reverse.dropWhile (· == '?')).reverse)

mutual

/-- The models declared by a mapping: itself, then those inside it. -/
def rawModels (name : String) : Value → List RawModel
  | .mapping entries => ⟨name, entries⟩ :: innerModels name entries
  | _ => []

/-- The models declared by the mappings among the entries. -/
def innerModels (name : String) : List (Value × Value) → List RawModel
  | [] => []
  | (key, value) :: rest =>
    rawModels (name ++ pascalCase (dropMarks key.describe)) value ++ innerModels name rest

end

/-- The models declared by one entry of the models section. -/
def sectionModels (name : String) (body : Value) : Except SchemaError (List RawModel) :=
  match body with
  | .null => .ok [⟨name, []⟩]
  | .mapping entries => .ok (rawModels name (.mapping entries))
  | _ => .error (.invalid (.modelBody name))

/-- All models of the models section. -/
def collectModels : List (String × Value) → Except SchemaError (List RawModel)
  | [] => .ok []
  | (name, body) :: rest => do
    let first ← sectionModels name body
    let others ← collectModels rest
    .ok (first ++ others)

/-- Checks that the names can be declared and differ. -/
def checkModelNames : List String → List String → Except SchemaError Unit
  | [], _ => .ok ()
  | name :: rest, seen =>
    if !isModelName name then .error (.invalid (.modelName name))
    else if seen.contains name then .error (.invalid (.modelTwice name))
    else checkModelNames rest (name :: seen)

/-- The key that lists the bases of a model. -/
def basesKey : String := "__extends"

/-- The names in a list separated by commas. -/
def commaNames (s : String) : List String :=
  ((Text.splitOn ',' s).map Text.strip).filter fun part => !part.isEmpty

/-- The bases of a model, which have to be other models. -/
def parseBases (model : String) (value : Value) (names : List String) :
    Except SchemaError (List String) :=
  let bases := commaNames value.describe
  match bases.find? fun base => !names.contains base || base == model with
  | some base =>
    .error (.field
      { message := "Model " ++ model ++ " extends unknown model \"" ++ base ++ "\"."
        model := model
        field := basesKey })
  | none => .ok bases

/-- The name of a field, and whether its key marks it as optional. -/
def fieldKey (key : String) : String × Bool :=
  match key.toList.reverse with
  | '?' :: rest => (String.ofList rest.reverse, true)
  | _ => (key, false)

/-- Makes a type optional unless it is already. -/
def makeOptional (marked : Bool) (type : TypeRef) : TypeRef :=
  if marked && !type.isOptional then .optional type else type

/-- One field of a model. -/
def buildField (model key : String) (value : Value) (names : List String) :
    Except SchemaError ModelField :=
  let (name, marked) := fieldKey key
  match value with
  | .mapping _ =>
    let raw := model ++ pascalCase name
    .ok { name := name, raw := raw, type := makeOptional marked (.model raw) }
  | .text raw =>
    match TypeExpr.compileField raw names model (some name) with
    | .ok type => .ok { name := name, raw := raw, type := makeOptional marked type }
    | .error error => .error (.field error)
  | value =>
    .error (.field (.ofFault value.describe model name .malformed))

/-- Adds the entries of a model one by one. -/
def buildEntries (names : List String) :
    Model → List (Value × Value) → Except SchemaError Model
  | model, [] => .ok model
  | model, (key, value) :: rest =>
    let key := key.describe
    if key == basesKey then do
      let bases ← parseBases model.name value names
      buildEntries names { model with bases := bases } rest
    else do
      let field ← buildField model.name key value names
      buildEntries names { model with fields := model.fields ++ [field] } rest

/-- The models of the models section. -/
def buildModels (raw : List (String × Value)) : Except SchemaError (List Model) := do
  let collected ← collectModels raw
  let names := collected.map (·.name)
  checkModelNames names []
  collected.mapM fun model =>
    buildEntries names { name := model.name, fields := [] } model.entries

end IntegrationBuild.Schema
