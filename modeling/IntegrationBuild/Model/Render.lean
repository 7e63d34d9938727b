import IntegrationBuild.Model.Inheritance
import IntegrationBuild.TypeExpr.Render

/-!
The generated module that declares the models as typed dictionaries.  A model
is declared as a class; a field name that cannot stand in a class body forces
the call form, which cannot inherit and so lists the inherited fields too.
-/

namespace IntegrationBuild.Model

/-- The head of the generated module. -/
def moduleHeader : String :=
  "\"\"\"Models generated from nango.yaml. Do not edit by hand.\"\"\"\n\n" ++
  "from __future__ import annotations\n\n" ++
  "from datetime import datetime\n" ++
  "from typing import Any, Literal, NotRequired, TypedDict\n"

/-- Whether some field name cannot stand in a class body. -/
def needsCallForm (model : Model) : Bool :=
  model.fields.any fun field => !Text.isIdentifier field.name || isKeyword field.name

/-- An entry of the call form. -/
def callEntry (field : ModelField) : String :=
  "        " ++ Text.quoted field.name ++ ": " ++ Text.quoted field.type.renderKey ++ ","

/-- The declaration by a call, with the inherited fields first. -/
def callForm (model : Model) (inherited : List ModelField) : String :=
  let body := String.intercalate "\n" ((inherited ++ model.fields).map callEntry)
  model.name ++ " = TypedDict(\n    \"" ++ model.name ++ "\",\n    \x7b\n" ++ body ++
    "\n    \x7d,\n)\n"

/-- The declaration by a class. -/
def classForm (model : Model) : String :=
  let bases := if model.bases.isEmpty then "TypedDict" else String.intercalate ", " model.bases
  let body :=
    if model.fields.isEmpty then ["    pass"]
    else model.fields.map fun field => "    " ++ field.name ++ ": " ++ field.type.renderKey
  String.intercalate "\n" (("class " ++ model.name ++ "(" ++ bases ++ "):") :: body) ++ "\n"

/-- The declaration of one model. -/
def render (model : Model) (inherited : List ModelField) : String :=
  if model.needsCallForm then callForm model inherited else classForm model

/-- The list of names the generated module exports. -/
def exportBlock (models : List Model) : String :=
  let names := models.map fun model => "    \"" ++ model.name ++ "\","
  "__all__ = [\n" ++ String.intercalate "\n" names ++ "\n]\n"

/-- The whole generated module. -/
def renderModule (models : List Model) : String :=
  let ordered := inOrder models
  let exported := if ordered.isEmpty then [] else [exportBlock ordered]
  let declarations := ordered.map fun model =>
    render model (if model.needsCallForm then inherited models model else [])
  String.intercalate "\n\n" (moduleHeader :: (exported ++ declarations))

end IntegrationBuild.Model
