import IntegrationBuild.Proofs.Script.Row
import IntegrationBuild.Scaffold.Stub

/-!
Starter scripts in rows.  There are five of them: for syncs with and without an
output model, and for actions of one output model, of several and of none.
-/

namespace IntegrationBuild.Scaffold

open Script

/-- What the starter script of a sync without a model logs, as it is written between
quotes. -/
def loggedLetters (name : String) : List Char :=
  (name ++ " has no output model yet").toList

/-- A starter script, with what it is written with. -/
inductive Starter where
  /-- A sync saves records of a model. -/
  | saving (model : String)
  /-- A sync logs a text, written between quotes. -/
  | logging (letters : List Char)
  /-- An action is declared to return its only model. -/
  | returning (model : String)
  /-- An action imports the first of its models. -/
  | importing (model : String)
  /-- An action answers without a model. -/
  | answering

/-- The starter script of an operation. -/
def Starter.ofOperation (op : Operation) : Starter :=
  match op.kind, op.terminalModels with
  | .sync, [] => .logging (loggedLetters op.name)
  | .sync, model :: _ => .saving model
  | .action, [] => .answering
  | .action, [model] => .returning model
  | .action, model :: _ :: _ => .importing model

/-! ### How starter scripts are written -/

section Rows

/-- The piece that a word makes. -/
def word (text : String) : Piece := .word text.toList

def openParen : Piece := .mark ['('] .openParen

def closeParen : Piece := .mark [')'] .closeParen

def openBracket : Piece := .mark ['['] .openBracket

def closeBracket : Piece := .mark [']'] .closeBracket

def comma : Piece := .mark [','] .comma

def colon : Piece := .mark [':'] .colon

def dot : Piece := .mark ['.'] .dot

def equal : Piece := .mark ['='] .equal

def arrow : Piece := .mark ['-', '>'] .arrow

/-- The import of a model, and the empty lines after it. -/
def importRows (modelsModule model : String) : List Row :=
  [⟨0, [word "from", .blank, word modelsModule, .blank, word "import", .blank, word model]⟩,
    ⟨0, []⟩, ⟨0, []⟩]

/-- The head of the function that a sync runs. -/
def fetchRow : Row :=
  ⟨0, [word "async", .blank, word "def", .blank, word "fetch_data", openParen, word "nango",
    closeParen, colon]⟩

/-- A call that is waited for. -/
def awaitCall (method : String) (arguments : List Piece) : List Piece :=
  [word "await", .blank, word "nango", dot, word method, openParen] ++ arguments ++ [closeParen]

/-- The empty list of records that a sync saves. -/
def recordsRow (model : String) : Row :=
  ⟨4, [word "records", colon, .blank, word "list", openBracket, word model, closeBracket,
    .blank, equal, .blank, openBracket, closeBracket]⟩

/-- The call that saves the records. -/
def saveRow (model : String) : Row :=
  ⟨4, awaitCall "batch_save" [word "records", comma, .blank, .quoted model.toList]⟩

/-- The call that logs a text. -/
def logRow (letters : List Char) : Row :=
  ⟨4, awaitCall "log" [.quoted letters]⟩

/-- The head of the function that an action runs. -/
def runRow (result : List Piece) : Row :=
  ⟨0, [word "async", .blank, word "def", .blank, word "run_action", openParen, word "nango",
    comma, .blank, word "input", equal, word "None", closeParen] ++ result ++ [colon]⟩

/-- The body of the function that an action runs. -/
def answerRows : List Row :=
  [⟨4, [word "response", .blank, equal, .blank] ++
      awaitCall "get" [word "endpoint", equal, .quoted ['/']]⟩,
    ⟨4, [word "return", .blank, word "response", dot, word "json", openParen, closeParen]⟩]

/-- The rows of a starter script. -/
def Starter.rows (modelsModule : String) : Starter → List Row
  | saving model =>
    importRows modelsModule model ++
      [fetchRow, recordsRow model, saveRow model]
  | logging letters => [fetchRow, logRow letters]
  | returning model =>
    importRows modelsModule model ++ runRow [.blank, arrow, .blank, word model] :: answerRows
  | importing model => importRows modelsModule model ++ runRow [] :: answerRows
  | answering => runRow [] :: answerRows

theorem toList_importLine (modelsModule model : String) :
    (importLine [model] modelsModule ++ "\n\n").toList =
      (importRows modelsModule model).flatMap Row.letters := by
  simp [importLine, importRows, Row.letters, Piece.letters, word, spaces]

theorem letters_fetchRow : fetchRow.letters = "async def fetch_data(nango):\n".toList := by
  rfl

theorem letters_recordsRow (model : String) :
    (recordsRow model).letters =
      "    records: list[".toList ++ (model.toList ++ "] = []\n".toList) := by
  simp only [recordsRow, Row.letters, List.flatMap_cons, List.flatMap_nil, List.append_assoc, word,
    Piece.letters]
  rfl

theorem letters_saveRow (model : String) :
    (saveRow model).letters = "    await nango.batch_save(records, \"".toList ++
      (model.toList ++ "\")\n".toList) := by
  simp only [saveRow, awaitCall, Row.letters, List.flatMap_append, List.flatMap_cons,
    List.flatMap_nil, List.append_assoc, List.cons_append, word, Piece.letters]
  rfl

theorem letters_logRow (name : String) :
    (logRow (loggedLetters name)).letters = "    await nango.log(\"".toList ++
      (name.toList ++ " has no output model yet\")\n".toList) := by
  simp only [logRow, loggedLetters, awaitCall, Row.letters, List.flatMap_append,
    List.flatMap_cons, List.flatMap_nil, List.append_assoc, List.cons_append, word, Piece.letters,
    String.toList_append]
  rfl

theorem letters_runRow (result : List Piece) :
    (runRow result).letters = "async def run_action(nango, input=None)".toList ++
      (result.flatMap Piece.letters ++ ":\n".toList) := by
  simp only [runRow, Row.letters, List.flatMap_append, List.append_assoc]
  rfl

theorem letters_answerRows :
    answerRows.flatMap Row.letters =
      "    response = await nango.get(endpoint=\"/\")\n    return response.json()\n".toList := by
  rfl

theorem toList_syncStub (modelsModule model : String) :
    (syncStub (importLine [model] modelsModule) model).toList =
      ((Starter.saving model).rows modelsModule).flatMap Row.letters := by
  have hhead : "\n\nasync def fetch_data(nango):\n    records: list[" =
      "\n\n" ++ "async def fetch_data(nango):\n" ++ "    records: list[" := by
    decide +kernel
  unfold syncStub
  simp only [hhead, Starter.rows, List.flatMap_append, ← toList_importLine, List.flatMap_cons,
    List.flatMap_nil, letters_fetchRow, letters_recordsRow, letters_saveRow, String.toList_append,
    List.append_assoc, List.append_nil]

theorem toList_plainSyncStub (modelsModule name : String) :
    (plainSyncStub name).toList =
      ((Starter.logging (loggedLetters name)).rows modelsModule).flatMap Row.letters := by
  have hhead : "async def fetch_data(nango):\n    await nango.log(\"" =
      "async def fetch_data(nango):\n" ++ "    await nango.log(\"" := by
    decide +kernel
  unfold plainSyncStub
  simp only [hhead, Starter.rows, List.flatMap_cons, List.flatMap_nil, letters_fetchRow,
    letters_logRow, String.toList_append, List.append_assoc, List.append_nil]

theorem dropWhile_importLine (modelsModule model : String) (rest : List Char) :
    ((importLine [model] modelsModule).toList ++ rest).dropWhile (· == '\n') =
      (importLine [model] modelsModule).toList ++ rest := by
  have hhead : "from ".toList = 'f' :: "rom ".toList := by
    rfl
  simp only [importLine, String.toList_append, hhead, List.cons_append]
  rfl

theorem toList_actionStub (modelsModule model : String) {returns : String} {result : List Piece}
    (hreturns : returns.toList = result.flatMap Piece.letters) :
    (actionStub (importLine [model] modelsModule) returns).toList =
      (importRows modelsModule model ++ runRow result :: answerRows).flatMap Row.letters := by
  have hhead : "\n\nasync def run_action(nango, input=None)" =
      "\n\n" ++ "async def run_action(nango, input=None)" := by
    decide +kernel
  unfold actionStub
  simp only [hhead, List.flatMap_append, ← toList_importLine, List.flatMap_cons, letters_runRow,
    letters_answerRows, ← hreturns, String.toList_append, List.append_assoc, String.toList_ofList,
    dropWhile_importLine]

theorem toList_plainActionStub :
    (actionStub "" "").toList = (runRow [] :: answerRows).flatMap Row.letters := by
  have hdrop (rest : List Char) :
      ("\n\nasync def run_action(nango, input=None)".toList ++ rest).dropWhile (· == '\n') =
        "async def run_action(nango, input=None)".toList ++ rest := by
    rfl
  unfold actionStub
  simp only [hdrop, List.flatMap_cons, List.flatMap_nil, letters_runRow, letters_answerRows,
    String.toList_append, List.append_assoc, String.toList_ofList, String.toList_empty,
    List.nil_append]

/-- The stub of an operation is its starter script, row by row. -/
theorem toList_stub (op : Operation) (modelsModule : String) :
    (stub op modelsModule).toList =
      ((Starter.ofOperation op).rows modelsModule).flatMap Row.letters := by
  rw [stub, Starter.ofOperation]
  cases op.kind with
  | sync =>
      cases op.terminalModels with
      | nil => exact toList_plainSyncStub modelsModule op.name
      | cons model others => exact toList_syncStub modelsModule model
  | action =>
      cases op.terminalModels with
      | nil => exact toList_plainActionStub
      | cons model others =>
          cases others with
          | nil =>
              refine toList_actionStub modelsModule model ?_
              rw [String.toList_append]
              simp only [List.flatMap_cons, List.flatMap_nil, List.append_nil, word, Piece.letters]
              rfl
          | cons second more =>
              have hnone : ("" : String).toList = ([] : List Piece).flatMap Piece.letters := rfl
              exact toList_actionStub modelsModule model hnone

end Rows

/-! ### The tokens of starter scripts -/

section Tokens

/-- The tokens of the import of a model. -/
def importKinds (source model : String) : List TokenKind :=
  [.line 0, .keyword .from, .name source, .keyword .import, .name model]

/-- The tokens of the head of the function that a sync runs. -/
def fetchKinds : List TokenKind :=
  [.line 0, .keyword .async, .keyword .define, .name "fetch_data", .symbol .openParen,
    .name "nango", .symbol .closeParen, .symbol .colon]

/-- The tokens of a call that is waited for. -/
def awaitKinds (method : String) (arguments : List TokenKind) : List TokenKind :=
  [.keyword .await, .name "nango", .symbol .dot, .name method, .symbol .openParen] ++ arguments ++
    [.symbol .closeParen]

/-- The tokens of the empty list of records that a sync saves. -/
def recordsKinds (model : String) : List TokenKind :=
  [.line 4, .name "records", .symbol .colon, .name "list", .symbol .openBracket, .name model,
    .symbol .closeBracket, .symbol .equal, .symbol .openBracket, .symbol .closeBracket]

/-- The tokens of the head of the function that an action runs. -/
def runKinds (result : List TokenKind) : List TokenKind :=
  [.line 0, .keyword .async, .keyword .define, .name "run_action", .symbol .openParen,
    .name "nango", .symbol .comma, .name "input", .symbol .equal, .keyword .nothing,
    .symbol .closeParen] ++ result ++ [.symbol .colon]

/-- The tokens of the body of the function that an action runs. -/
def answerKinds : List TokenKind :=
  [.line 4, .name "response", .symbol .equal] ++
    awaitKinds "get" [.name "endpoint", .symbol .equal, .quoted .text (some "/")] ++
    [.line 4, .keyword .return, .name "response", .symbol .dot, .name "json", .symbol .openParen,
      .symbol .closeParen]

/-- The tokens of a starter script that imports from `source`. -/
def Starter.kinds (source : String) : Starter → List TokenKind
  | saving model =>
    importKinds source model ++ fetchKinds ++ recordsKinds model ++
      .line 4 :: awaitKinds "batch_save"
        [.name "records", .symbol .comma, .quoted .text (some model)]
  | logging letters =>
    fetchKinds ++ .line 4 ::
      awaitKinds "log" [.quoted .text ((unescape? letters).map String.ofList)]
  | returning model =>
    importKinds source model ++ runKinds [.symbol .arrow, .name model] ++ answerKinds
  | importing model => importKinds source model ++ runKinds [] ++ answerKinds
  | answering => runKinds [] ++ answerKinds

variable {fold : List Char → List Char}

/-- Whether ASCII text is left as it is. -/
def KeepsAscii (fold : List Char → List Char) : Prop :=
  ∀ text : List Char, (∀ c ∈ text, c.toNat < 128) → fold text = text

theorem wordKind_eq_name (hfold : KeepsAscii fold) {text : String}
    (hascii : ∀ c ∈ text.toList, c.toNat < 128)
    (hword : keywordTable.lookup text.toList = none) :
    Piece.wordKind fold text.toList = .name text := by
  rw [Piece.wordKind, hword, hfold _ hascii]
  exact congrArg TokenKind.name String.ofList_toList

/-- The names that starter scripts are written with. -/
def ownNames : List String :=
  ["fetch_data", "run_action", "nango", "input", "records", "list", "response", "batch_save", "log",
    "get", "endpoint", "json"]

theorem wordKind_ownNames (hfold : KeepsAscii fold) :
    ∀ text ∈ ownNames, Piece.wordKind fold text.toList = .name text := by
  have hplain : ∀ text ∈ ownNames, (∀ c ∈ text.toList, c.toNat < 128) ∧
      keywordTable.lookup text.toList = none := by
    decide +kernel
  exact fun text htext => wordKind_eq_name hfold (hplain text htext).1 (hplain text htext).2

theorem kinds_importRows (hfold : KeepsAscii fold) {modelsModule model : String}
    (hmodule : keywordTable.lookup modelsModule.toList = none)
    (hascii : ∀ c ∈ model.toList, c.toNat < 128)
    (hmodel : keywordTable.lookup model.toList = none) :
    (importRows modelsModule model).flatMap (Row.kinds fold) =
      importKinds (String.ofList (fold modelsModule.toList)) model := by
  have hsource : Piece.wordKind fold modelsModule.toList =
      .name (String.ofList (fold modelsModule.toList)) := by
    rw [Piece.wordKind, hmodule]
  have hname := wordKind_eq_name hfold hascii hmodel
  simp only [importRows, List.flatMap_cons, List.flatMap_nil, Row.kinds, word, Piece.kinds, hsource,
    hname]
  rfl

theorem kinds_fetchRow (hfold : KeepsAscii fold) : fetchRow.kinds fold = fetchKinds := by
  simp (disch := decide) only [fetchRow, List.flatMap_cons, List.flatMap_nil, Row.kinds, word,
    Piece.kinds, wordKind_ownNames hfold]
  rfl

theorem kinds_recordsRow (hfold : KeepsAscii fold) {model : String}
    (hascii : ∀ c ∈ model.toList, c.toNat < 128)
    (hmodel : keywordTable.lookup model.toList = none) :
    (recordsRow model).kinds fold = recordsKinds model := by
  simp (disch := decide) only [recordsRow, List.flatMap_cons, List.flatMap_nil, Row.kinds, word,
    Piece.kinds, wordKind_eq_name hfold hascii hmodel, wordKind_ownNames hfold]
  rfl

/-- The tokens of a line that waits for a call. -/
theorem kinds_awaitCall (hfold : KeepsAscii fold) {method : String} (hmethod : method ∈ ownNames)
    (arguments : List Piece) :
    (awaitCall method arguments).flatMap (Piece.kinds fold) =
      awaitKinds method (arguments.flatMap (Piece.kinds fold)) := by
  have hname := wordKind_ownNames hfold method hmethod
  simp (disch := decide) only [awaitCall, awaitKinds, List.flatMap_append, List.flatMap_cons,
    List.flatMap_nil, word, Piece.kinds, hname, wordKind_ownNames hfold]
  rfl

theorem kinds_saveRow (hfold : KeepsAscii fold) {model : String}
    (hplain : ∀ c ∈ model.toList, c ≠ '\\') :
    (saveRow model).kinds fold =
      .line 4 :: awaitKinds "batch_save"
        [.name "records", .symbol .comma, .quoted .text (some model)] := by
  have hvalue : unescape? model.toList = some model.toList := unescapeAfter_of_forall_ne hplain
  rw [saveRow, Row.kinds, if_neg (by simp [awaitCall]), kinds_awaitCall hfold (by decide)]
  simp (disch := decide) only [List.flatMap_cons, List.flatMap_nil, word, Piece.kinds,
    wordKind_ownNames hfold, hvalue, Option.map_some, String.ofList_toList]
  rfl

theorem kinds_logRow (hfold : KeepsAscii fold) (letters : List Char) :
    (logRow letters).kinds fold =
      .line 4 :: awaitKinds "log"
        [.quoted .text ((unescape? letters).map String.ofList)] := by
  rw [logRow, Row.kinds, if_neg (by simp [awaitCall]), kinds_awaitCall hfold (by decide)]
  rfl

theorem kinds_runRow (hfold : KeepsAscii fold) (result : List Piece) :
    (runRow result).kinds fold = runKinds (result.flatMap (Piece.kinds fold)) := by
  rw [runRow, Row.kinds, if_neg (by simp)]
  simp (disch := decide) only [List.flatMap_append, List.flatMap_cons, List.flatMap_nil, word,
    Piece.kinds, wordKind_ownNames hfold]
  rfl

theorem kinds_answerRows (hfold : KeepsAscii fold) :
    answerRows.flatMap (Row.kinds fold) = answerKinds := by
  simp (disch := decide) only [answerRows, List.flatMap_append, List.flatMap_cons,
    List.flatMap_nil, word, Row.kinds, Piece.kinds, kinds_awaitCall hfold,
    wordKind_ownNames hfold, List.cons_append]
  rfl

/-- The model that a starter script imports. -/
def Starter.model? : Starter → Option String
  | saving model | returning model | importing model => some model
  | logging _ | answering => none

/-- A starter script whose names may stand where they are written. -/
structure Starter.Sound (modelsModule : String) (starter : Starter) : Prop where
  source : starter.model? ≠ none →
    Text.isIdentifier modelsModule = true ∧ isKeyword modelsModule = false
  model : ∀ model, starter.model? = some model →
    Text.isAsciiIdentifier model.toList = true ∧ isKeyword model = false
  text : ∀ letters, starter = .logging letters → (Piece.quoted letters).Valid

theorem lookup_keywordTable {text : String} (htext : isKeyword text = false) :
    keywordTable.lookup text.toList = none := by
  have hwords : keywordTable.map Prod.fst = keywords.map String.toList := by
    decide +kernel
  rw [List.lookup_eq_none_iff]
  rintro entry hentry
  rw [bne_iff_ne]
  intro heq
  have hmem : entry.1 ∈ keywords.map String.toList :=
    hwords ▸ List.mem_map_of_mem hentry
  obtain ⟨word, hword, hsame⟩ := List.mem_map.mp hmem
  rw [← heq, String.toList_inj] at hsame
  rw [isKeyword, ← hsame, List.contains_iff_mem.mpr hword] at htext
  cases htext

theorem toNat_lt_of_isAsciiIdentifier {text : String}
    (htext : Text.isAsciiIdentifier text.toList = true) : ∀ c ∈ text.toList, c.toNat < 128 :=
  fun c hc => Nat.lt_of_le_of_lt (Text.wordChar_of_isAsciiIdentifier htext c hc).toNat_mem.2
    (by decide)

/-- A sound starter script is read as its tokens. -/
theorem Starter.Sound.kinds_rows {modelsModule : String} {starter : Starter}
    (hsound : starter.Sound modelsModule) (hfold : KeepsAscii fold) :
    (starter.rows modelsModule).flatMap (Row.kinds fold) =
      starter.kinds (String.ofList (fold modelsModule.toList)) := by
  have hascii (model : String) (hmodel : starter.model? = some model) :
      ∀ c ∈ model.toList, c.toNat < 128 :=
    toNat_lt_of_isAsciiIdentifier (hsound.model model hmodel).1
  have hlookup (model : String) (hmodel : starter.model? = some model) :
      keywordTable.lookup model.toList = none :=
    lookup_keywordTable (hsound.model model hmodel).2
  have himport (model : String) (hmodel : starter.model? = some model) :
      (importRows modelsModule model).flatMap (Row.kinds fold) =
        importKinds (String.ofList (fold modelsModule.toList)) model :=
    kinds_importRows hfold (lookup_keywordTable (hsound.source (by simp [hmodel])).2)
      (hascii model hmodel) (hlookup model hmodel)
  cases starter with
  | saving model =>
      rw [Starter.rows, Starter.kinds, List.flatMap_append, himport model rfl, List.flatMap_cons,
        List.flatMap_cons, List.flatMap_cons, List.flatMap_nil, List.append_nil,
        kinds_fetchRow hfold, kinds_recordsRow hfold (hascii model rfl) (hlookup model rfl),
        kinds_saveRow hfold fun c hc =>
          (Text.wordChar_of_isAsciiIdentifier (hsound.model model rfl).1 c hc).ne (by decide)]
      simp only [List.append_assoc]
  | logging letters =>
      rw [Starter.rows, Starter.kinds, List.flatMap_cons, List.flatMap_cons, List.flatMap_nil,
        List.append_nil, kinds_fetchRow hfold, kinds_logRow hfold]
  | returning model =>
      have hname := wordKind_eq_name hfold (hascii model rfl) (hlookup model rfl)
      rw [Starter.rows, Starter.kinds, List.flatMap_append, himport model rfl, List.flatMap_cons,
        kinds_runRow hfold, kinds_answerRows hfold, List.append_assoc]
      simp only [List.flatMap_cons, List.flatMap_nil, Piece.kinds, word, hname]
      rfl
  | importing model =>
      rw [Starter.rows, Starter.kinds, List.flatMap_append, himport model rfl, List.flatMap_cons,
        kinds_runRow hfold, kinds_answerRows hfold, List.append_assoc]
      rfl
  | answering =>
      rw [Starter.rows, Starter.kinds, List.flatMap_cons, kinds_runRow hfold,
        kinds_answerRows hfold]
      rfl

end Tokens

/-! ### Starter scripts can be read -/

section Fits

theorem fits_importRows {modelsModule model : String}
    (hmodule : (word modelsModule).Valid) (hmodel : (word model).Valid) :
    ∀ row ∈ importRows modelsModule model, row.Fits := by
  have hwords : (word "from").Valid ∧ (word "import").Valid := by
    decide
  rw [importRows, List.forall_mem_cons, List.forall_mem_cons, List.forall_mem_singleton]
  refine ⟨⟨?_, rfl, rfl⟩, ⟨by simp, rfl, rfl⟩, ⟨by simp, rfl, rfl⟩⟩
  simp only [List.forall_mem_cons, List.not_mem_nil, false_implies, implies_true, and_true]
  exact ⟨hwords.1, trivial, hmodule, trivial, hwords.2, trivial, hmodel⟩

theorem fits_fetchRow : fetchRow.Fits :=
  ⟨by decide +kernel, rfl, rfl⟩

theorem fits_recordsRow {model : String} (hmodel : (word model).Valid) :
    (recordsRow model).Fits := by
  have hbefore : ∀ piece ∈ [word "records", colon, .blank, word "list", openBracket],
      piece.Valid := by
    decide +kernel
  have hafter : ∀ piece ∈ [closeBracket, .blank, equal, .blank, openBracket, closeBracket],
      piece.Valid := by
    decide +kernel
  refine ⟨?_, rfl, rfl⟩
  rw [recordsRow]
  exact List.forall_mem_append.mpr ⟨hbefore, List.forall_mem_cons.mpr ⟨hmodel, hafter⟩⟩

theorem valid_awaitCall {method : String} {arguments : List Piece}
    (hmethod : (word method).Valid) (harguments : ∀ piece ∈ arguments, piece.Valid) :
    ∀ piece ∈ awaitCall method arguments, piece.Valid := by
  have hbefore : ∀ piece ∈ [word "await", .blank, word "nango", dot], piece.Valid := by
    decide +kernel
  have hparens : openParen.Valid ∧ closeParen.Valid := by
    decide +kernel
  rw [awaitCall]
  have hcall : ∀ piece ∈ [word method, openParen], piece.Valid :=
    List.forall_mem_cons.mpr ⟨hmethod, List.forall_mem_singleton.mpr hparens.1⟩
  exact List.forall_mem_append.mpr ⟨List.forall_mem_append.mpr
    ⟨List.forall_mem_append.mpr ⟨hbefore, hcall⟩, harguments⟩,
    List.forall_mem_singleton.mpr hparens.2⟩

theorem valid_quoted_isAsciiIdentifier {text : String}
    (htext : Text.isAsciiIdentifier text.toList = true) : (Piece.quoted text.toList).Valid := by
  refine ⟨Text.ne_nil_of_isAsciiIdentifier htext, isQuotable_of_forall_ne fun c hc => ?_⟩
  have hword := Text.wordChar_of_isAsciiIdentifier htext c hc
  exact ⟨hword.ne (by decide), hword.ne (by decide), hword.ne (by decide), hword.ne (by decide),
    hword.ne (by decide)⟩

theorem fits_saveRow {model : String} (hmodel : Text.isAsciiIdentifier model.toList = true) :
    (saveRow model).Fits := by
  refine ⟨valid_awaitCall (by decide) ?_, rfl, rfl⟩
  have hbefore : ∀ piece ∈ [word "records", comma, .blank], piece.Valid := by
    decide +kernel
  exact List.forall_mem_append.mpr
    ⟨hbefore, List.forall_mem_singleton.mpr (valid_quoted_isAsciiIdentifier hmodel)⟩

theorem fits_logRow {letters : List Char} (hletters : (Piece.quoted letters).Valid) :
    (logRow letters).Fits :=
  ⟨valid_awaitCall (by decide) (List.forall_mem_singleton.mpr hletters), rfl, rfl⟩

theorem valid_runRow {result : List Piece} (hresult : ∀ piece ∈ result, piece.Valid) :
    ∀ piece ∈ (runRow result).pieces, piece.Valid := by
  have hbefore : ∀ piece ∈ [word "async", .blank, word "def", .blank, word "run_action", openParen,
      word "nango", comma, .blank, word "input", equal, word "None", closeParen], piece.Valid := by
    decide +kernel
  have hcolon : colon.Valid := by
    decide +kernel
  exact List.forall_mem_append.mpr ⟨List.forall_mem_append.mpr ⟨hbefore, hresult⟩,
    List.forall_mem_singleton.mpr hcolon⟩

theorem fits_runRow : (runRow []).Fits :=
  ⟨valid_runRow (by simp), rfl, rfl⟩

theorem fits_runRow_arrow {model : String} (hmodel : (word model).Valid) :
    (runRow [.blank, arrow, .blank, word model]).Fits := by
  have hbefore : ∀ piece ∈ [.blank, arrow, .blank], piece.Valid := by
    decide +kernel
  exact ⟨valid_runRow (List.forall_mem_append.mpr
    ⟨hbefore, List.forall_mem_singleton.mpr hmodel⟩), rfl, rfl⟩

theorem fits_answerRows : ∀ row ∈ answerRows, row.Fits := by
  rw [answerRows, List.forall_mem_cons, List.forall_mem_singleton]
  exact ⟨⟨by decide +kernel, rfl, rfl⟩, ⟨by decide +kernel, rfl, rfl⟩⟩

theorem Starter.Sound.fits {modelsModule : String} {starter : Starter}
    (hsound : starter.Sound modelsModule) : ∀ row ∈ starter.rows modelsModule, row.Fits := by
  have hmodel (model : String) (hmodel : starter.model? = some model) : (word model).Valid :=
    Text.isIdentifierChars_of_isAsciiIdentifier (hsound.model model hmodel).1
  have himport (model : String) (heq : starter.model? = some model) :
      ∀ row ∈ importRows modelsModule model, row.Fits :=
    fits_importRows (hsound.source (by simp [heq])).1 (hmodel model heq)
  cases starter with
  | saving model =>
      refine List.forall_mem_append.mpr ⟨himport model rfl, List.forall_mem_cons.mpr
        ⟨fits_fetchRow, List.forall_mem_cons.mpr ⟨fits_recordsRow (hmodel model rfl),
          List.forall_mem_singleton.mpr (fits_saveRow (hsound.model model rfl).1)⟩⟩⟩
  | logging letters =>
      exact List.forall_mem_cons.mpr ⟨fits_fetchRow,
        List.forall_mem_singleton.mpr (fits_logRow (hsound.text letters rfl))⟩
  | returning model =>
      exact List.forall_mem_append.mpr ⟨himport model rfl, List.forall_mem_cons.mpr
        ⟨fits_runRow_arrow (hmodel model rfl), fits_answerRows⟩⟩
  | importing model =>
      exact List.forall_mem_append.mpr ⟨himport model rfl, List.forall_mem_cons.mpr
        ⟨fits_runRow, fits_answerRows⟩⟩
  | answering => exact List.forall_mem_cons.mpr ⟨fits_runRow, fits_answerRows⟩

theorem Starter.isSome_entered (starter : Starter) (modelsModule : String) :
    ((starter.rows modelsModule).foldlM Row.entered []).isSome = true := by
  cases starter <;> rfl

end Fits

end IntegrationBuild.Scaffold
