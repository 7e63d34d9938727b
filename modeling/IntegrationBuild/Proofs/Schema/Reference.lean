import IntegrationBuild.Proofs.Build.Course
import IntegrationBuild.Proofs.Text.Identifier

/-!
Names as references.  A model may have any identifier as its name, but an
expression that is only this name is read as a reference to the model for ASCII
identifiers alone, and the words for primitives and `undefined` come before the
models.
-/

namespace IntegrationBuild

open Text

namespace TypeExpr

/-- What an expression that is only the name of a known model is read as. -/
def readName (name : String) : Except TypeFault TypeRef :=
  match Primitive.ofName? name with
  | some p => .ok (.primitive p)
  | none =>
    if name = "undefined" then .ok (.optional (.primitive .null))
    else if isAsciiIdentifier name.toList then .ok (.model name)
    else .error .malformed

theorem passes_identifier {separator : Char} (depth : Nat) {word : List Char}
    (hseparator : separator ∈ marks) (hword : isIdentifierChars word = true) :
    Passes separator depth word := by
  have hmarks : marks.all (fun mark =>
      decide (mark.toNat < 128) && !decide (WordChar mark)) = true := by decide
  apply passes_of_plain
  intro c hc
  apply plain_of_not_mem_marks depth hseparator
  intro hmem
  have hmark := List.all_eq_true.mp hmarks c hmem
  simp only [Bool.and_eq_true, decide_eq_true_eq, Bool.not_eq_true',
    decide_eq_false_iff_not] at hmark
  exact (identifierChar_of_isIdentifierChars hword c hc).ne hmark.1 hmark.2 rfl

/-- An identifier is a member that names something, if it is an ASCII one. -/
theorem parseMember_identifier (known : List String) {word : List Char}
    (hword : isIdentifierChars word = true) :
    parseMember known word =
      if isAsciiIdentifier word then named known (String.ofList word)
      else .error .malformed := by
  have hne := ne_nil_of_isIdentifierChars hword
  have hchars := identifierChar_of_isIdentifierChars hword
  have hlast := List.getLast?_eq_some_getLast hne
  have hlastChar := hchars _ (List.getLast_mem hne)
  have hbrackets :=
    not_endsWithBrackets hlast (hlastChar.ne (by decide) (by decide))
  have hgeneric : isGeneric word = false := by
    have hangle : word.getLast hne ≠ '>' :=
      hlastChar.ne (by decide) (by decide)
    rw [isGeneric, hlast]
    simp [hangle]
  obtain ⟨first, rest, rfl⟩ := List.exists_cons_of_ne_nil hne
  have hfirst := hchars first List.mem_cons_self
  have hquote : isQuote first = false := by
    have hsingle : first ≠ '\x27' := hfirst.ne (by decide) (by decide)
    have hdouble : first ≠ '"' := hfirst.ne (by decide) (by decide)
    simp [isQuote, hsingle, hdouble]
  rw [parseMember, hquote, hbrackets, hgeneric]
  simp

/-- An identifier has no mark and is one part of a split at the bars. -/
theorem isMarked_and_unmarked_of_identifier {word : List Char}
    (hword : isIdentifierChars word = true) :
    isMarked word = false ∧ unmarked word = word ∧
      splitTopLevel '|' word = [word] := by
  have hne := ne_nil_of_isIdentifierChars hword
  have hhead := identifierChar_of_isIdentifierChars hword _ (List.head_mem hne)
  have hmark : word.head hne ≠ '?' := hhead.ne (by decide) (by decide)
  obtain ⟨hmarked, hunmarked⟩ := isMarked_and_unmarked_of_solid
    (solid_of_isIdentifierChars hword)
    (by simpa [List.head?_eq_some_head hne] using hmark)
  exact ⟨hmarked, hunmarked,
    (passes_identifier 0 (by decide) hword).splitTopLevel_eq⟩

theorem compile_eq_parseExpression_identifier (known : List String)
    {name : String} (hname : isIdentifier name = true) :
    compile name known = parseExpression known name.toList := by
  have hne := ne_nil_of_isIdentifierChars hname
  have hlast := identifierChar_of_isIdentifierChars hname _
    (List.getLast_mem hne)
  apply @compile_eq name (name.toList.getLast hne) known
  · rw [(solid_of_isIdentifierChars hname).trimRight_eq,
      List.getLast?_eq_some_getLast hne]
  · exact hlast.ne (by decide) (by decide)
  · exact hlast.ne (by decide) (by decide)

/-- What the name of a known model is read as. -/
theorem compile_name {known : List String} {name : String}
    (hknown : name ∈ known) (hname : isIdentifier name = true) :
    compile name known = readName name := by
  have htrim := (solid_of_isIdentifierChars hname).trim_eq
  obtain ⟨hmarked, hunmarked, hsplit⟩ := isMarked_and_unmarked_of_identifier hname
  rw [compile_eq_parseExpression_identifier known hname]
  by_cases habsent : name = "undefined"
  · subst habsent
    rw [parseExpression, hunmarked, hsplit, parseParts, htrim, parseParts]
    rfl
  · have hread : parseExpression known name.toList =
        (parseMember known (trim name.toList)).map asType := by
      apply parseExpression_single hmarked
      · rw [htrim, hsplit]
      · rw [htrim]
        exact ne_nil_of_isIdentifierChars hname
      · rw [htrim]
        exact fun heq => habsent (String.toList_inj.mp heq)
    rw [hread, htrim, parseMember_identifier known hname, readName, named,
      String.ofList_toList]
    cases halias : Primitive.ofName? name with
    | some p =>
      rw [if_pos (isAsciiIdentifier_of_ofName? halias)]
      rfl
    | none =>
      simp only [List.contains_eq_mem, hknown, decide_true, if_true, habsent,
        if_false]
      split <;> rfl

/-- The reading is a reference to the model itself only for these names. -/
theorem readName_eq_model_iff {name : String} :
    readName name = .ok (.model name) ↔
      isAsciiIdentifier name.toList = true ∧ Primitive.ofName? name = none ∧
        name ≠ "undefined" := by
  rw [readName]
  cases halias : Primitive.ofName? name with
  | some p => simp
  | none =>
    by_cases habsent : name = "undefined"
    · simp [habsent]
    · by_cases hident : isAsciiIdentifier name.toList = true
      · simp [habsent, hident]
      · simp [habsent, hident]

end TypeExpr

/-- What the name of a declared model is read as in a field, an input or an
output. -/
theorem Project.compileField_name {ws : Workspace} {root : Path}
    {project : Project} (hload : Project.load ws root = .ok project)
    {name : String} (hname : name ∈ project.modelNames) (model : String)
    (field : Option String) :
    TypeExpr.compileField name project.modelNames model field =
      (TypeExpr.readName name).mapError
        (.ofFault name model (field.getD name)) := by
  have hvalid := (Project.closed_of_load hload).modelNames_valid name hname
  simp only [isModelName, Bool.and_eq_true] at hvalid
  rw [TypeExpr.compileField, TypeExpr.compile_name hname hvalid.1.1]
  cases TypeExpr.readName name <;> rfl

/-- A declared model can be referred to by its name exactly if this is an ASCII
identifier and neither a word for a primitive nor `undefined`. -/
theorem Project.compileField_eq_model_iff {ws : Workspace} {root : Path}
    {project : Project} (hload : Project.load ws root = .ok project)
    {name : String} (hname : name ∈ project.modelNames) (model : String)
    (field : Option String) :
    TypeExpr.compileField name project.modelNames model field =
        .ok (.model name) ↔
      isAsciiIdentifier name.toList = true ∧ Primitive.ofName? name = none ∧
        name ≠ "undefined" := by
  rw [Project.compileField_name hload hname, ← TypeExpr.readName_eq_model_iff]
  cases TypeExpr.readName name <;> simp [Except.mapError]

/-- A project that declares models with names of all kinds. -/
def namesWorkspace : Workspace :=
  { entries :=
      [(["p"], .directory),
        (["p", "nango.yaml"], .file ("\x7bintegrations: \x7b\x7d, models: " ++
          "\x7bIssue: null, Größe: null, Date: null, undefined: null\x7d\x7d").toUTF8)] }

theorem exists_load_namesWorkspace : ∃ project,
    Project.load namesWorkspace (.absolute ["p"]) = .ok project ∧
      project.modelNames = ["Issue", "Größe", "Date", "undefined"] :=
  Outcome.exists_ok_of_decide (by decide +kernel)

/-- An ASCII name that is no word of its own refers to its model. -/
theorem Project.compileField_eq_model_issue : ∃ project,
    Project.load namesWorkspace (.absolute ["p"]) = .ok project ∧
      "Issue" ∈ project.modelNames ∧
      TypeExpr.compileField "Issue" project.modelNames "Item" (some "issue") =
        .ok (.model "Issue") := by
  obtain ⟨project, hload, hnames⟩ := exists_load_namesWorkspace
  have hissue : "Issue" ∈ project.modelNames := by simp [hnames]
  exact ⟨project, hload, hissue, (Project.compileField_eq_model_iff hload hissue
    "Item" (some "issue")).mpr (by decide)⟩

/-- Three declared models that no expression of their name refers to. -/
theorem Project.compileField_ne_model_names : ∃ project,
    Project.load namesWorkspace (.absolute ["p"]) = .ok project ∧
      ("Größe" ∈ project.modelNames ∧
        TypeExpr.compileField "Größe" project.modelNames "Item" (some "size") =
          .error (.ofFault "Größe" "Item" "size" .malformed)) ∧
      ("Date" ∈ project.modelNames ∧
        TypeExpr.compileField "Date" project.modelNames "Item" (some "day") =
          .ok (.primitive .date)) ∧
      ("undefined" ∈ project.modelNames ∧
        TypeExpr.compileField "undefined" project.modelNames "Item" (some "none") =
          .ok (.optional (.primitive .null))) := by
  obtain ⟨project, hload, hnames⟩ := exists_load_namesWorkspace
  have hall : ∀ name ∈ ["Größe", "Date", "undefined"],
      name ∈ project.modelNames := by
    simp [hnames]
  have hsize := hall "Größe" (by simp)
  have hday := hall "Date" (by simp)
  have hnone := hall "undefined" (by simp)
  refine ⟨project, hload, ⟨hsize, ?_⟩, ⟨hday, ?_⟩, ⟨hnone, ?_⟩⟩
  · rw [Project.compileField_name hload hsize]
    rfl
  · rw [Project.compileField_name hload hday]
    rfl
  · rw [Project.compileField_name hload hnone]
    rfl

end IntegrationBuild
