import IntegrationBuild.Project.Load

/-!
The example that a new project starts from: a project file with one sync and
one action, and their scripts.
-/

namespace IntegrationBuild.Scaffold

/-- The text of some lines, each ended by a line feed. -/
def textOf (lines : List String) : String :=
  String.join (lines.map (· ++ "\n"))

/-- The example project file. -/
def exampleProject : List String :=
  ["integrations:",
    "  github:",
    "    syncs:",
    "      issues:",
    "        runs: every half hour",
    "        endpoint: GET /github/issues",
    "        output: GithubIssue",
    "        track_deletes: true",
    "    actions:",
    "      create-issue:",
    "        endpoint: POST /github/issues",
    "        input: GithubIssueInput",
    "        output: GithubIssue",
    "",
    "models:",
    "  GithubIssue:",
    "    id: integer",
    "    owner: string",
    "    repo: string",
    "    title: string",
    "    state: \"'open' | 'closed'\"",
    "    labels: string[]",
    "    closed_at?: date | null",
    "  GithubIssueInput:",
    "    owner: string",
    "    repo: string",
    "    title: string"]

/-- The example script of a sync. -/
def exampleSync : List String :=
  ["from models import GithubIssue",
    "",
    "",
    "async def fetch_data(nango):",
    "    response = await nango.get(endpoint=\"/repos/nangohq/nango/issues\", retries=3)",
    "    issues: list[GithubIssue] = [",
    "        \x7b",
    "            \"id\": issue[\"id\"],",
    "            \"owner\": \"nangohq\",",
    "            \"repo\": \"nango\",",
    "            \"title\": issue[\"title\"],",
    "            \"state\": issue[\"state\"],",
    "            \"labels\": [label[\"name\"] for label in issue[\"labels\"]],",
    "        \x7d",
    "        for issue in response.json()",
    "    ]",
    "    await nango.batch_save(issues, \"GithubIssue\")"]

/-- The example script of an action. -/
def exampleAction : List String :=
  ["from models import GithubIssue, GithubIssueInput",
    "",
    "",
    "async def run_action(nango, input: GithubIssueInput) -> GithubIssue:",
    "    response = await nango.post(",
    "        endpoint=f\"/repos/\x7binput['owner']\x7d/\x7binput['repo']\x7d/issues\",",
    "        data=\x7b\"title\": input[\"title\"]\x7d,",
    "        retries=2,",
    "    )",
    "    return response.json()"]

/-- The files of the example, with their texts. -/
def exampleFiles : List (String × String) :=
  [(Project.fileName, textOf exampleProject),
    ("github/syncs/issues.py", textOf exampleSync),
    ("github/actions/create-issue.py", textOf exampleAction)]

end IntegrationBuild.Scaffold
