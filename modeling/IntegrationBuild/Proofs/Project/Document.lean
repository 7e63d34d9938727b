import Mathlib.Data.List.Basic
import IntegrationBuild.Proofs.Build.Course

/-!
The document of a project tells the project.  Types, fields, models and
operations are read off their JSON forms one by one; the integration of an
operation is not written, but a loaded operation stands in the integration that
it names.
-/

namespace IntegrationBuild

/-- Lists of items that are told by their images are told by the images. -/
theorem eq_of_map_eq {α β : Type} {P : α → Prop} {f : α → β}
    (htold : ∀ item, P item → ∀ other, P other → f item = f other → item = other)
    {items others : List α} (hitems : ∀ item ∈ items, P item) (hothers : ∀ item ∈ others, P item)
    (hsame : items.map f = others.map f) : items = others := by
  induction items generalizing others with
  | nil => exact (List.map_eq_nil_iff.mp hsame.symm).symm
  | cons item rest ih =>
      cases others with
      | nil => simp at hsame
      | cons other more =>
          obtain ⟨hfirst, hrest⟩ := List.cons.inj hsame
          rw [htold item (hitems item List.mem_cons_self) other (hothers other List.mem_cons_self)
              hfirst,
            ih (fun next hmem => hitems next (List.mem_cons_of_mem _ hmem))
              (fun next hmem => hothers next (List.mem_cons_of_mem _ hmem)) hrest]

namespace Json

theorem strings_inj {first second : List String} :
    strings first = strings second ↔ first = second := by
  have hinjective : Function.Injective Json.str := fun _ _ => Json.str.inj
  rw [strings, strings, Json.arr.injEq, hinjective.list_map.eq_iff]

theorem optional_inj {first second : Option String} :
    optional first = optional second ↔ first = second := by
  cases first <;> cases second <;> simp [optional]

end Json

theorem OperationKind.name_inj {first second : OperationKind} :
    first.name = second.name ↔ first = second := by
  cases first <;> cases second <;> decide

theorem Dialect.name_inj {first second : Dialect} : first.name = second.name ↔ first = second := by
  cases first <;> cases second <;> decide

namespace TypeRef

mutual

/-- The tagged form of a type tells the type. -/
theorem eq_of_toJson_eq : ∀ {ref other : TypeRef}, ref.toJson = other.toJson → ref = other
  | .primitive type, other, hsame => by
      cases other with
      | primitive type' =>
          have hname : type.name = type'.name := by simpa [toJson] using hsame
          have htype := (Primitive.ofName?_name type).symm.trans
            (hname ▸ Primitive.ofName?_name type')
          rw [Option.some.inj htype]
      | _ => simp [toJson] at hsame
  | .model name, other, hsame => by
      cases other with
      | model name' => simpa [toJson] using hsame
      | _ => simp [toJson] at hsame
  | .array item, other, hsame => by
      cases other with
      | array item' =>
          have hitem : item.toJson = item'.toJson := by simpa [toJson] using hsame
          rw [eq_of_toJson_eq hitem]
      | _ => simp [toJson] at hsame
  | .record key value, other, hsame => by
      cases other with
      | record key' value' =>
          have hboth : key.toJson = key'.toJson ∧ value.toJson = value'.toJson := by
            simpa [toJson] using hsame
          rw [eq_of_toJson_eq hboth.1, eq_of_toJson_eq hboth.2]
      | _ => simp [toJson] at hsame
  | .nullable inner, other, hsame => by
      cases other with
      | nullable inner' =>
          have hinner : inner.toJson = inner'.toJson := by simpa [toJson] using hsame
          rw [eq_of_toJson_eq hinner]
      | _ => simp [toJson] at hsame
  | .optional inner, other, hsame => by
      cases other with
      | optional inner' =>
          have hinner : inner.toJson = inner'.toJson := by simpa [toJson] using hsame
          rw [eq_of_toJson_eq hinner]
      | _ => simp [toJson] at hsame
  | .literal text, other, hsame => by
      cases other with
      | literal text' => simpa [toJson] using hsame
      | _ => simp [toJson] at hsame
  | .union members, other, hsame => by
      cases other with
      | union members' =>
          have hmembers : toJsonList members = toJsonList members' := by
            simpa [toJson] using hsame
          rw [eq_of_toJsonList_eq hmembers]
      | _ => simp [toJson] at hsame

/-- The forms of a list of types tell the types. -/
theorem eq_of_toJsonList_eq : ∀ {refs others : List TypeRef},
    toJsonList refs = toJsonList others → refs = others
  | [], others, hsame => by
      cases others with
      | nil => rfl
      | cons other rest => simp [toJsonList] at hsame
  | ref :: refs, others, hsame => by
      cases others with
      | nil => simp [toJsonList] at hsame
      | cons other rest =>
          have hboth : ref.toJson = other.toJson ∧ toJsonList refs = toJsonList rest := by
            simpa [toJsonList] using hsame
          rw [eq_of_toJson_eq hboth.1, eq_of_toJsonList_eq hboth.2]

end

/-- A type that is left out is told from any that is written. -/
theorem eq_of_input_eq {input other : Option TypeRef}
    (hsame : (match input with | some ref => ref.toJson | none => .null) =
      match other with | some ref => ref.toJson | none => .null) : input = other := by
  have hwritten : ∀ ref : TypeRef, ref.toJson ≠ .null := by
    intro ref
    cases ref <;> simp [toJson]
  cases input with
  | none =>
      cases other with
      | none => rfl
      | some ref => exact absurd hsame.symm (hwritten ref)
  | some ref =>
      cases other with
      | none => exact absurd hsame (hwritten ref)
      | some ref' => rw [eq_of_toJson_eq hsame]

end TypeRef

theorem ModelField.toJson_injective : Function.Injective ModelField.toJson := by
  intro field other hsame
  simp only [ModelField.toJson, Json.obj.injEq, List.cons.injEq, Prod.mk.injEq, Json.str.injEq,
    true_and, and_true] at hsame
  obtain ⟨hname, hraw, -, htype⟩ := hsame
  cases field
  cases other
  simp only at hname hraw htype
  rw [hname, hraw, TypeRef.eq_of_toJson_eq htype]

theorem Model.toJson_injective : Function.Injective Model.toJson := by
  intro model other hsame
  simp only [Model.toJson, Json.obj.injEq, List.cons.injEq, Prod.mk.injEq, Json.str.injEq,
    Json.arr.injEq, Json.strings_inj, ModelField.toJson_injective.list_map.eq_iff, true_and,
    and_true] at hsame
  obtain ⟨hname, hbases, hfields⟩ := hsame
  cases model
  cases other
  simp only at hname hbases hfields
  rw [hname, hbases, hfields]

/-- The form of an operation tells all of it but its integration. -/
theorem Operation.eq_of_toJson_eq {op other : Operation} (hsame : op.toJson = other.toJson)
    (hhome : op.integration = other.integration) : op = other := by
  simp only [Operation.toJson, Json.obj.injEq, List.cons.injEq, Prod.mk.injEq, Json.str.injEq,
    Json.bool.injEq, Json.arr.injEq, Json.strings_inj, Json.optional_inj, OperationKind.name_inj,
    true_and, and_true] at hsame
  obtain ⟨hname, hkind, hruns, hendpoints, hinput, houtput, hwebhooks, hsync, hdeletes, hstart,
    hscopes, hdescription, hversion⟩ := hsame
  have hinput := TypeRef.eq_of_input_eq hinput
  have houtput := TypeRef.eq_of_toJsonList_eq houtput
  cases op
  cases other
  simp_all

/-- Every operation stands in the integration that it names. -/
def Integration.IsHome (integration : Integration) : Prop :=
  ∀ op ∈ integration.operations, op.integration = integration.name

theorem Integration.eq_of_toJson_eq {integration other : Integration}
    (hhome : integration.IsHome) (hother : other.IsHome)
    (hsame : integration.toJson = other.toJson) : integration = other := by
  simp only [Integration.toJson, Json.obj.injEq, List.cons.injEq, Prod.mk.injEq, Json.str.injEq,
    Json.arr.injEq, true_and, and_true] at hsame
  obtain ⟨hname, hforms⟩ := hsame
  have hoperations : integration.operations = other.operations := by
    have htold : ∀ op : Operation, op.integration = integration.name → ∀ op' : Operation,
        op'.integration = integration.name → op.toJson = op'.toJson → op = op' := by
      intro op hop op' hop' hform
      exact Operation.eq_of_toJson_eq hform (hop.trans hop'.symm)
    have hmoved : ∀ op ∈ other.operations, op.integration = integration.name := by
      intro op hmem
      exact (hother op hmem).trans hname.symm
    exact eq_of_map_eq htold hhome hmoved hforms
  cases integration
  cases other
  simp only at hname hoperations
  rw [hname, hoperations]

namespace Project

/-- Loaded projects with the same document are the same: dialect, models with
their bases, fields, expressions and types, and operations with all they say. -/
theorem eq_of_load_of_toJson_eq {ws ws' : Workspace} {root root' : Path} {project other : Project}
    (hload : Project.load ws root = .ok project) (hother : Project.load ws' root' = .ok other)
    (hsame : project.toJson = other.toJson) : project = other := by
  simp only [Project.toJson, Json.obj.injEq, List.cons.injEq, Prod.mk.injEq, Json.str.injEq,
    Json.arr.injEq, Dialect.name_inj, Model.toJson_injective.list_map.eq_iff, true_and,
    and_true] at hsame
  obtain ⟨hdialect, hintegrations, hmodels⟩ := hsame
  have hall := eq_of_map_eq
    (fun integration hhome next hnext => Integration.eq_of_toJson_eq hhome hnext)
    (closed_of_load hload).operations_home (closed_of_load hother).operations_home hintegrations
  cases project
  cases other
  simp only at hdialect hall hmodels
  rw [hdialect, hall, hmodels]

/-- A project of one sync and the model that it saves. -/
def issueProject : Project :=
  { dialect := .v2
    integrations := [{ name := "g", operations := [
      { name := "a", kind := .sync, integration := "g", output := [.model "M"],
        endpoints := ["GET /a"] }] }]
    models := [{ name := "M", fields := [⟨"id", "string", .primitive .string⟩] }] }

/-- A project file in the directory of a project. -/
def fileWorkspace (text : String) : Workspace :=
  { entries := [(["p"], .directory), (["p", fileName], .file text.toUTF8)] }

/-- The texts and flags of the one sync and the one model of a project, if it has no others. -/
def issueTexts? : Except LoadError Project → Option (List String × Bool × Bool)
  | .ok ⟨.v2, [⟨integration, [⟨name, .sync, home, [.model output], none, none, [endpoint], [],
      none, deletes, starts, [], none, none⟩]⟩], [⟨model, [⟨field, raw, .primitive .string⟩], []⟩]⟩ =>
    some ([integration, name, home, output, endpoint, model, field, raw], deletes, starts)
  | _ => none

theorem eq_issueProject_of_issueTexts? {result : Except LoadError Project}
    (htexts : issueTexts? result =
      some (["g", "a", "g", "M", "GET /a", "M", "id", "string"], false, true)) :
    result = .ok issueProject := by
  rw [issueTexts?.eq_def] at htexts
  split at htexts
  · simp_all [issueProject]
  · cases htexts

/-- The project written on one line. -/
def issueLine : String :=
  "\x7bintegrations: \x7bg: \x7bsyncs: \x7ba: \x7bendpoint: GET /a, output: M\x7d\x7d\x7d\x7d, " ++
    "models: \x7bM: \x7bid: string\x7d\x7d\x7d"

/-- The project written over several lines. -/
def issueLines : String :=
  "integrations:\n  g:\n    syncs:\n      a:\n        output: [M]\n" ++
    "        endpoint: [GET /a]\nmodels:\n  M:\n    id: 'string'\n"

/-- The two spellings of the project have one document, and are one project. -/
theorem eq_of_load_of_toJson_eq_issueProject :
    ∃ project other,
      load (fileWorkspace issueLine) (.absolute ["p"]) = .ok project ∧
      load (fileWorkspace issueLines) (.absolute ["p"]) = .ok other ∧
      project.toJson = other.toJson ∧ project = other := by
  have hline : load (fileWorkspace issueLine) (.absolute ["p"]) = .ok issueProject :=
    eq_issueProject_of_issueTexts? (by decide +kernel)
  have hlines : load (fileWorkspace issueLines) (.absolute ["p"]) = .ok issueProject :=
    eq_issueProject_of_issueTexts? (by decide +kernel)
  exact ⟨_, _, hline, hlines, rfl, eq_of_load_of_toJson_eq hline hlines rfl⟩

end Project

end IntegrationBuild
