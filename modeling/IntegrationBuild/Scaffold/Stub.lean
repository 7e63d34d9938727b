import IntegrationBuild.Project.Basic

/-!
Starter scripts for operations that have none yet.
-/

namespace IntegrationBuild.Scaffold

/-- The import of the first model, if there is one. -/
def importLine (models : List String) (modelsModule : String) : String :=
  match models with
  | [] => ""
  | model :: _ => "from " ++ modelsModule ++ " import " ++ model ++ "\n"

/-- The starter script of a sync that saves one model. -/
def syncStub (imports model : String) : String :=
  imports ++ "\n\nasync def fetch_data(nango):\n    records: list[" ++ model ++ "] = []\n" ++
    "    await nango.batch_save(records, \"" ++ model ++ "\")\n"

/-- The starter script of a sync without an output model. -/
def plainSyncStub (name : String) : String :=
  "async def fetch_data(nango):\n    await nango.log(\"" ++ name ++
    " has no output model yet\")\n"

/-- The starter script of an action. -/
def actionStub (imports returns : String) : String :=
  let text := imports ++ "\n\nasync def run_action(nango, input=None)" ++ returns ++ ":\n" ++
    "    response = await nango.get(endpoint=\"/\")\n    return response.json()\n"
  String.ofList (text.toList.dropWhile (· == '\n'))

/-- The starter script of an operation. -/
def stub (op : Operation) (modelsModule : String) : String :=
  let models := op.terminalModels
  let imports := importLine models modelsModule
  match op.kind with
  | .action =>
    match models with
    | [model] => actionStub imports (" -> " ++ model)
    | _ => actionStub imports ""
  | .sync =>
    match models with
    | [] => plainSyncStub op.name
    | model :: _ => syncStub imports model

end IntegrationBuild.Scaffold
