import IntegrationBuild.Model.Render
import IntegrationBuild.Proofs.Build.Course
import IntegrationBuild.Proofs.Text.OneLine
import IntegrationBuild.Text.Normalize

/-!
The keys that the declaration of a model writes, as a script reads them.  In
the body of a class a name is normalized, and one that begins with two
underscores and does not end with two is prefixed with the name of the class;
the keys of a call are plain texts.
-/

namespace IntegrationBuild

open Text

namespace TypeRef

theorem oneLine_annotation (p : Primitive) : OneLine p.annotation := by
  cases p <;> decide

theorem oneLine_literalGroup (texts : List String) :
    ∀ part ∈ literalGroup texts, OneLine part := by
  rw [literalGroup]
  split
  · simp
  · rw [List.forall_mem_singleton]
    apply OneLine.append _ (by decide)
    apply OneLine.append (by decide)
    apply oneLine_intercalate (by decide)
    intro text htext
    obtain ⟨literal, -, rfl⟩ := List.mem_map.mp htext
    exact oneLine_quoted literal

theorem oneLine_render_and_renderMembers :
    (∀ type, (∀ name ∈ models type, OneLine name) → OneLine (render type)) ∧
      ∀ types run, (∀ name ∈ modelsOf types, OneLine name) →
        ∀ part ∈ renderMembers types run, OneLine part := by
  apply render.mutual_induct
  case case1 =>
    intro p _
    rw [render]
    exact oneLine_annotation p
  case case2 =>
    intro name hname
    rw [render]
    exact hname name (by simp [models])
  case case3 =>
    intro item ih hitem
    rw [render]
    exact (OneLine.append (by decide) (ih hitem)).append (by decide)
  case case4 =>
    intro key value ihKey ihValue hboth
    rw [models, List.forall_mem_append] at hboth
    rw [render]
    exact (((OneLine.append (by decide : OneLine "dict[") (ihKey hboth.1)).append
      (by decide)).append (ihValue hboth.2)).append (by decide)
  case case5 =>
    intro inner ih hinner
    rw [render]
    exact (ih hinner).append (by decide)
  case case6 =>
    intro inner ih hinner
    rw [render]
    exact (ih hinner).append (by decide)
  case case7 =>
    intro inner hnullable ih hinner
    rw [render]
    · exact (ih hinner).append (by decide)
    · exact hnullable
  case case8 =>
    intro text _
    rw [render]
    exact (OneLine.append (by decide) (oneLine_quoted text)).append (by decide)
  case case9 =>
    intro members ih hmembers
    rw [render]
    exact oneLine_intercalate (by decide) (ih hmembers)
  case case10 =>
    intro run _
    rw [renderMembers]
    exact oneLine_literalGroup run.reverse
  case case11 =>
    intro text rest run ih hrest
    rw [renderMembers]
    exact ih (by simpa [modelsOf, models] using hrest)
  case case12 =>
    intro type rest run hliteral ih ihRest hall
    rw [modelsOf, List.forall_mem_append] at hall
    rw [renderMembers, List.forall_mem_append, List.forall_mem_cons]
    · exact ⟨oneLine_literalGroup run.reverse, ih hall.1, ihRest hall.2⟩
    · exact hliteral

/-- The annotation of a key stands on one line. -/
theorem ClosedOver.oneLine_renderKey {names : List String} {type : TypeRef}
    (hclosed : type.ClosedOver names) (hnames : ∀ name ∈ names, OneLine name) :
    OneLine type.renderKey := by
  have hmodels : ∀ name ∈ models type, OneLine name := fun name hname =>
    hnames name (hclosed.model_mem name (mem_models_iff.mp hname))
  cases type with
  | optional inner =>
    have hinner := oneLine_render_and_renderMembers.1 inner hmodels
    exact (OneLine.append (by decide) hinner).append (by decide)
  | _ => exact oneLine_render_and_renderMembers.1 _ hmodels

end TypeRef

namespace Model

/-- What a name in the body of a class stands for. -/
def mangle (owner name : List Char) : List Char :=
  let stem := owner.dropWhile (· == '_')
  if ['_', '_'].isPrefixOf name && !List.isSuffixOf ['_', '_'] name && !stem.isEmpty then
    '_' :: stem ++ name
  else name

/-- The key that a name declares in the body of a class; `__debug__` cannot be
declared. -/
def classKey? (owner name : String) : Option String :=
  if isIdentifier name && !isKeyword name &&
      normalize name.toList != "__debug__".toList then
    some (String.ofList (mangle (normalize owner.toList) (normalize name.toList)))
  else none

/-- The keys that a line in the body of a class declares. -/
def classLine? (owner : String) (line : List Char) : Option (List String) :=
  match "    ".toList.isPrefixOf? line with
  | none => if line.isEmpty then some [] else none
  | some statement =>
    if statement = "pass".toList then some []
    else if statement.contains ':' then
      (classKey? owner (String.ofList (statement.takeWhile (· != ':')))).map ([·])
    else none

/-- The keys that a line of a call lists. -/
def callLine? (line : List Char) : Option (List String) :=
  match "        ".toList.isPrefixOf? line with
  | none => some []
  | some entry => (readQuoted? entry).map fun read => [String.ofList read.1]

/-- The keys of some lines, in order. -/
def lineKeys? (line? : List Char → Option (List String)) :
    List (List Char) → Option (List String)
  | [] => some []
  | line :: rest =>
    match line? line, lineKeys? line? rest with
    | some keys, some others => some (keys ++ others)
    | _, _ => none

/-- The keys that a declaration writes, in order. -/
def writtenKeys? (text : String) : Option (List String) :=
  match text.toList.splitOn '\n' with
  | [] => none
  | head :: lines =>
    match "class ".toList.isPrefixOf? head with
    | some signature =>
      lineKeys? (classLine? (String.ofList (signature.takeWhile (· != '(')))) lines
    | none => lineKeys? callLine? lines

/-- A declaration writes these keys of its own, each once, behind the keys that
it takes over. -/
structure Declares (text : String) (taken names : List String) : Prop where
  written : writtenKeys? text = some (taken ++ names)
  nodup : names.Nodup

section Lines

variable {line? : List Char → Option (List String)}

theorem lineKeys?_append (before after : List (List Char)) :
    lineKeys? line? (before ++ after) =
      (lineKeys? line? before).bind fun keys =>
        (lineKeys? line? after).map fun others => keys ++ others := by
  induction before with
  | nil => simp [lineKeys?]
  | cons line rest ih =>
      rw [List.cons_append, lineKeys?, lineKeys?, ih]
      cases line? line with
      | none => rfl
      | some keys =>
        cases lineKeys? line? rest with
        | none => rfl
        | some others => cases lineKeys? line? after <;> simp

theorem lineKeys?_eq_nil {lines : List (List Char)}
    (hlines : ∀ line ∈ lines, line? line = some []) :
    lineKeys? line? lines = some [] := by
  induction lines with
  | nil => rfl
  | cons line rest ih =>
      rw [lineKeys?, hlines line List.mem_cons_self,
        ih fun other hother => hlines other (List.mem_cons_of_mem line hother)]
      rfl

/-- Lines with one key each give the names they were made of exactly if each
name is its key. -/
theorem lineKeys?_map_eq_some_iff {line : ModelField → String}
    {key? : String → Option String} {fields : List ModelField}
    (hkey : ∀ field ∈ fields,
      line? (line field).toList = (key? field.name).map ([·])) :
    lineKeys? line? (fields.map fun field => (line field).toList) =
        some (fields.map (·.name)) ↔
      ∀ field ∈ fields, key? field.name = some field.name := by
  induction fields with
  | nil => simp [lineKeys?]
  | cons field rest ih =>
      have hrest := ih fun other hother => hkey other (List.mem_cons_of_mem _ hother)
      rw [List.map_cons, List.map_cons, lineKeys?,
        hkey field List.mem_cons_self, List.forall_mem_cons, ← hrest]
      cases key? field.name with
      | none => simp
      | some key =>
        cases lineKeys? line? (rest.map fun field => (line field).toList) with
        | none => simp
        | some others => simp

end Lines

theorem takeWhile_identifier {name : String} (hname : isIdentifier name = true)
    {mark : Char} (hascii : mark.toNat < 128) (hmark : ¬WordChar mark)
    (rest : List Char) :
    (name.toList ++ mark :: rest).takeWhile (· != mark) = name.toList := by
  rw [List.takeWhile_append_of_pos]
  · simp
  · intro c hc
    have hchar := identifierChar_of_isIdentifierChars hname c hc
    simpa using hchar.ne hascii hmark

/-- The bases that the head of a class lists. -/
def classBases (model : Model) : String :=
  if model.bases.isEmpty then "TypedDict" else String.intercalate ", " model.bases

/-- The line of a field in the body of a class. -/
def classEntry (field : ModelField) : String :=
  "    " ++ field.name ++ ": " ++ field.type.renderKey

/-- The lines of a class. -/
def classLines (model : Model) : List String :=
  ("class " ++ model.name ++ "(" ++ model.classBases ++ "):") ::
    (if model.fields.isEmpty then ["    pass"] else model.fields.map classEntry) ++ [""]

theorem classForm_eq (model : Model) :
    classForm model = "\n".intercalate (classLines model) := by
  rw [classLines, intercalate_append (by simp) (by simp),
    String.intercalate_singleton, String.append_empty]
  rfl

/-- The lines of a call. -/
def callLines (model : Model) (inherited : List ModelField) : List String :=
  [model.name ++ " = TypedDict(", "    \"" ++ model.name ++ "\",", "    \x7b"] ++
    (inherited ++ model.fields).map callEntry ++ ["    \x7d,", ")", ""]

theorem callForm_eq {model : Model} (inherited : List ModelField)
    (hfields : model.fields ≠ []) :
    callForm model inherited = "\n".intercalate (callLines model inherited) := by
  rw [callLines, intercalate_append (by simp) (by simp),
    intercalate_append (by simp) (by simp [hfields]), callForm, ← String.toList_inj]
  simp [String.intercalate_cons_cons]

theorem classLine?_classEntry {owner : String} {field : ModelField}
    (hname : isIdentifier field.name = true) :
    classLine? owner (classEntry field).toList =
      (classKey? owner field.name).map ([·]) := by
  obtain ⟨name, raw, type⟩ := field
  have hline : (classEntry ⟨name, raw, type⟩).toList =
      "    ".toList ++ (name.toList ++ ':' :: ' ' :: type.renderKey.toList) := by
    simp [classEntry]
  have hsignature := List.isPrefixOf?_eq_some_iff_append_eq.mpr hline.symm
  have hpass : name.toList ++ ':' :: ' ' :: type.renderKey.toList ≠ "pass".toList := by
    intro heq
    have hmem : ':' ∈ "pass".toList := by
      rw [← heq]
      simp
    revert hmem
    decide
  have hkey : (name.toList ++ ':' :: ' ' :: type.renderKey.toList).takeWhile
      (· != ':') = name.toList :=
    takeWhile_identifier hname (by decide) (by decide) _
  rw [classLine?, hsignature]
  simp only [if_neg hpass, hkey, String.ofList_toList]
  simp

theorem callLine?_callEntry (field : ModelField) :
    callLine? (callEntry field).toList = some [field.name] := by
  have hline : (callEntry field).toList = "        ".toList ++
      (quotedChars field.name.toList ++
        (": " ++ quoted field.type.renderKey ++ ",").toList) := by
    simp [callEntry, quoted]
  have hsignature : "        ".toList.isPrefixOf? (callEntry field).toList =
      some (quotedChars field.name.toList ++
        (": " ++ quoted field.type.renderKey ++ ",").toList) :=
    List.isPrefixOf?_eq_some_iff_append_eq.mpr hline.symm
  rw [callLine?, hsignature]
  dsimp only
  rw [readQuoted?_quotedChars]
  simp

theorem isIdentifier_of_isModelName {name : String}
    (hname : isModelName name = true) :
    isIdentifier name = true ∧ isKeyword name = false := by
  simp only [isModelName, Bool.and_eq_true, Bool.not_eq_true'] at hname
  exact hname.1

section Read

variable {model : Model}

/-- The fields of a class have identifiers as names. -/
theorem isIdentifier_of_not_needsCallForm (hform : model.needsCallForm = false) :
    ∀ field ∈ model.fields,
      isIdentifier field.name = true ∧ isKeyword field.name = false := by
  intro field hfield
  rw [needsCallForm, List.any_eq_false] at hform
  simpa using hform field hfield

theorem oneLine_classLines (hname : isModelName model.name = true)
    (hbases : ∀ base ∈ model.bases, isModelName base = true)
    (htypes : ∀ field ∈ model.fields, OneLine field.type.renderKey)
    (hform : model.needsCallForm = false) :
    ∀ line ∈ classLines model, OneLine line := by
  have hnameLine := oneLine_of_isIdentifier (isIdentifier_of_isModelName hname).1
  have hbasesLine : OneLine model.classBases := by
    rw [classBases]
    split
    · decide
    · apply oneLine_intercalate (by decide)
      intro base hbase
      exact oneLine_of_isIdentifier (isIdentifier_of_isModelName (hbases base hbase)).1
  have hheadLine := (((OneLine.append (by decide : OneLine "class ") hnameLine).append
    (by decide : OneLine "(")).append hbasesLine).append (by decide : OneLine "):")
  have hentries : ∀ field ∈ model.fields, OneLine (classEntry field) := by
    intro field hfield
    have hident := (isIdentifier_of_not_needsCallForm hform field hfield).1
    exact ((OneLine.append (by decide) (oneLine_of_isIdentifier hident)).append
      (by decide)).append (htypes field hfield)
  intro line hline
  rw [classLines, List.cons_append, List.mem_cons, List.mem_append,
    List.mem_singleton] at hline
  rcases hline with rfl | hbody | rfl
  · exact hheadLine
  · split at hbody
    · rw [List.mem_singleton.mp hbody]
      decide
    · obtain ⟨field, hfield, rfl⟩ := List.mem_map.mp hbody
      exact hentries field hfield
  · decide

/-- A class writes the keys of the lines in its body. -/
theorem writtenKeys?_classForm (hname : isModelName model.name = true)
    (hbases : ∀ base ∈ model.bases, isModelName base = true)
    (htypes : ∀ field ∈ model.fields, OneLine field.type.renderKey)
    (hform : model.needsCallForm = false) :
    writtenKeys? (classForm model) =
      lineKeys? (classLine? model.name)
        (model.fields.map fun field => (classEntry field).toList) := by
  have hlines := oneLine_classLines hname hbases htypes hform
  have hhead : ("class " ++ model.name ++ "(" ++ model.classBases ++ "):").toList =
      "class ".toList ++ (model.name.toList ++ '(' ::
        (model.classBases ++ "):").toList) := by
    simp
  have hsignature := List.isPrefixOf?_eq_some_iff_append_eq.mpr hhead.symm
  have howner : (model.name.toList ++ '(' :: (model.classBases ++ "):").toList).takeWhile
      (· != '(') = model.name.toList :=
    takeWhile_identifier (isIdentifier_of_isModelName hname).1 (by decide)
      (by decide) _
  rw [writtenKeys?, classForm_eq, splitOn_lines (by simp [classLines]) hlines,
    classLines, List.cons_append, List.map_cons]
  dsimp only
  rw [hsignature]
  dsimp only
  rw [howner, String.ofList_toList, List.map_append, lineKeys?_append]
  cases hfields : model.fields with
  | nil => rfl
  | cons field rest =>
    have hlast : lineKeys? (classLine? model.name) ([""].map String.toList) =
        some [] := by
      rfl
    rw [hlast]
    simp [Function.comp_def]

theorem oneLine_callLines (hname : isModelName model.name = true)
    (inherited : List ModelField) :
    ∀ line ∈ callLines model inherited, OneLine line := by
  have hnameLine := oneLine_of_isIdentifier (isIdentifier_of_isModelName hname).1
  have hentry : ∀ field, OneLine (callEntry field) := fun field =>
    ((((by decide : OneLine "        ").append (oneLine_quoted field.name)).append
      (by decide : OneLine ": ")).append (oneLine_quoted field.type.renderKey)).append
      (by decide : OneLine ",")
  intro line hline
  rw [callLines, List.mem_append, List.mem_append] at hline
  rcases hline with (hhead | hentries) | hlast
  · simp only [List.mem_cons, List.not_mem_nil, or_false] at hhead
    rcases hhead with rfl | rfl | rfl
    · exact hnameLine.append (by decide)
    · exact (OneLine.append (by decide : OneLine "    \"") hnameLine).append (by decide)
    · decide
  · obtain ⟨field, -, rfl⟩ := List.mem_map.mp hentries
    exact hentry field
  · simp only [List.mem_cons, List.not_mem_nil, or_false] at hlast
    rcases hlast with rfl | rfl | rfl <;> decide

/-- The head of a call is not the head of a class. -/
theorem isPrefixOf?_callHead (hname : isModelName model.name = true) :
    "class ".toList.isPrefixOf? (model.name ++ " = TypedDict(").toList = none := by
  obtain ⟨hident, hkeyword⟩ := isIdentifier_of_isModelName hname
  cases hsignature : "class ".toList.isPrefixOf? (model.name ++ " = TypedDict(").toList with
  | none => rfl
  | some rest =>
    have hsplit := List.isPrefixOf?_eq_some_iff_append_eq.mp hsignature
    have hword := congrArg (List.takeWhile (· != ' ')) hsplit
    rw [String.toList_append, show " = TypedDict(".toList = ' ' :: "= TypedDict(".toList
      from rfl, takeWhile_identifier hident (by decide) (by decide)] at hword
    have hclass : "class" = model.name := String.toList_inj.mp hword
    rw [← hclass] at hkeyword
    cases hkeyword

/-- A call writes the names of all its fields. -/
theorem writtenKeys?_callForm (hname : isModelName model.name = true)
    (hfields : model.fields ≠ []) (inherited : List ModelField) :
    writtenKeys? (callForm model inherited) =
      some (inherited.map (·.name) ++ model.fieldNames) := by
  have hentries : lineKeys? callLine?
      ((inherited ++ model.fields).map fun field => (callEntry field).toList) =
      some ((inherited ++ model.fields).map (·.name)) := by
    have hkey : ∀ field ∈ inherited ++ model.fields,
        callLine? (callEntry field).toList = (some field.name).map ([·]) :=
      fun field _ => callLine?_callEntry field
    exact (lineKeys?_map_eq_some_iff hkey).mpr fun _ _ => rfl
  have hbefore : lineKeys? callLine?
      (["    \"" ++ model.name ++ "\",", "    \x7b"].map String.toList) = some [] := by
    apply lineKeys?_eq_nil
    simp [callLine?, List.isPrefixOf?]
  have hafter : lineKeys? callLine? (["    \x7d,", ")", ""].map String.toList) =
      some [] := by
    rfl
  rw [writtenKeys?, callForm_eq inherited hfields,
    splitOn_lines (by simp [callLines]) (oneLine_callLines hname inherited), callLines,
    List.cons_append, List.cons_append, List.map_cons]
  dsimp only
  rw [isPrefixOf?_callHead hname]
  dsimp only
  rw [List.map_append, lineKeys?_append, List.map_append, lineKeys?_append, hbefore, hafter,
    List.map_map, Function.comp_def, hentries]
  simp [fieldNames]

/-- The declaration of a model writes exactly its field names, each once, if no
field name occurs twice and either the model is declared by a call or each name
stands for itself in the body of a class. -/
theorem declares_render_iff_of_oneLine (hname : isModelName model.name = true)
    (hbases : ∀ base ∈ model.bases, isModelName base = true)
    (htypes : ∀ field ∈ model.fields, OneLine field.type.renderKey)
    (inherited : List ModelField) :
    Declares (model.render inherited)
        (if model.needsCallForm then inherited.map (·.name) else []) model.fieldNames ↔
      model.fieldNames.Nodup ∧ (model.needsCallForm = true ∨
        ∀ name ∈ model.fieldNames, classKey? model.name name = some name) := by
  have hwritten : writtenKeys? (model.render inherited) =
      some ((if model.needsCallForm then inherited.map (·.name) else []) ++
        model.fieldNames) ↔ (model.needsCallForm = true ∨
        ∀ name ∈ model.fieldNames, classKey? model.name name = some name) := by
    cases hform : model.needsCallForm with
    | true =>
      have hfields : model.fields ≠ [] := by
        intro hnil
        rw [needsCallForm, hnil] at hform
        cases hform
      rw [render, if_pos hform, writtenKeys?_callForm hname hfields]
      simp
    | false =>
      have hkeys : ∀ field ∈ model.fields,
          classLine? model.name (classEntry field).toList =
            (classKey? model.name field.name).map ([·]) := fun field hfield =>
        classLine?_classEntry (isIdentifier_of_not_needsCallForm hform field hfield).1
      have hlines := lineKeys?_map_eq_some_iff hkeys
      rw [render, if_neg (by simp [hform]),
        writtenKeys?_classForm hname hbases htypes hform]
      simpa [fieldNames] using hlines
  rw [← hwritten]
  exact ⟨fun h => ⟨h.nodup, h.written⟩, fun h => ⟨h.2, h.1⟩⟩

end Read

end Model

/-- The declaration of a loaded model writes exactly its field names, each once
and in order, if and only if no field name occurs twice and either the model is
declared by a call or each name stands for itself in the body of a class. -/
theorem Project.declares_render_iff {ws : Workspace} {root : Path} {project : Project}
    (hload : Project.load ws root = .ok project) {model : Model}
    (hmodel : model ∈ project.models) (inherited : List ModelField) :
    Model.Declares (model.render inherited)
        (if model.needsCallForm then inherited.map (·.name) else []) model.fieldNames ↔
      model.fieldNames.Nodup ∧ (model.needsCallForm = true ∨
        ∀ name ∈ model.fieldNames, Model.classKey? model.name name = some name) := by
  have hclosed := Project.closed_of_load hload
  have hnames : ∀ name ∈ project.modelNames, OneLine name := fun name hname =>
    oneLine_of_isIdentifier
      (Model.isIdentifier_of_isModelName (hclosed.modelNames_valid name hname)).1
  apply Model.declares_render_iff_of_oneLine
  · exact hclosed.modelNames_valid model.name (List.mem_map_of_mem hmodel)
  · intro base hbase
    exact hclosed.modelNames_valid base (hclosed.bases_declared model hmodel base hbase).1
  · intro field hfield
    exact (hclosed.fields_closed model hmodel field hfield).oneLine_renderKey hnames

/-- A project with a model whose second name is private. -/
def loginWorkspace : Workspace :=
  { entries :=
      [(["p"], .directory),
        (["p", "nango.yaml"], .file ("\x7bintegrations: \x7b\x7d, models: " ++
          "\x7bPerson: \x7bname: \x7b\x7d, pass_: \x7b\x7d\x7d, " ++
          "Login: \x7bkey: \x7b\x7d, __token: \x7b\x7d\x7d\x7d\x7d").toUTF8)] }

theorem exists_load_loginWorkspace : ∃ project,
    Project.load loginWorkspace (.absolute ["p"]) = .ok project ∧
      (∃ model ∈ project.models, model.name = "Person" ∧
        model.fieldNames = ["name", "pass_"]) ∧
      ∃ model ∈ project.models, model.name = "Login" ∧
        model.fieldNames = ["key", "__token"] ∧ model.needsCallForm = false ∧
        Model.writtenKeys? (model.render []) = some ["key", "_Login__token"] :=
  Outcome.exists_ok_of_decide (by decide +kernel)

/-- Both names of a person are declared. -/
theorem Project.declares_render_person : ∃ project,
    Project.load loginWorkspace (.absolute ["p"]) = .ok project ∧
      ∃ model ∈ project.models, model.name = "Person" ∧
        Model.Declares (model.render []) [] ["name", "pass_"] := by
  obtain ⟨project, hload, ⟨model, hmodel, hname, hfields⟩, -⟩ :=
    exists_load_loginWorkspace
  have hkeys : ∀ name ∈ ["name", "pass_"],
      Model.classKey? "Person" name = some name := by
    decide
  have hdeclares := (Project.declares_render_iff hload hmodel []).mpr
    (by rw [hfields, hname]; exact ⟨by decide, Or.inr hkeys⟩)
  rw [List.map_nil, ite_self, hfields] at hdeclares
  exact ⟨project, hload, model, hmodel, hname, hdeclares⟩

/-- The second name of a login is not declared: its key bears the name of the
class. -/
theorem Project.not_declares_render_login : ∃ project,
    Project.load loginWorkspace (.absolute ["p"]) = .ok project ∧
      ∃ model ∈ project.models, model.name = "Login" ∧
        model.fieldNames = ["key", "__token"] ∧ model.needsCallForm = false ∧
        Model.writtenKeys? (model.render []) = some ["key", "_Login__token"] ∧
        ¬Model.Declares (model.render []) [] model.fieldNames := by
  obtain ⟨project, hload, -, model, hmodel, hname, hfields, hform, hwritten⟩ :=
    exists_load_loginWorkspace
  refine ⟨project, hload, model, hmodel, hname, hfields, hform, hwritten, ?_⟩
  intro hdeclares
  have hkeys := hwritten.symm.trans hdeclares.written
  rw [hfields] at hkeys
  simp at hkeys

end IntegrationBuild
