import IntegrationBuild.Project.Load
import IntegrationBuild.Proofs.Schema.Operations
import IntegrationBuild.Proofs.Text.Spacing

/-!
The structural rules of project files.  They are stated of a document as it is
written: which keys it may have, and what its operations have to declare.  A
document that loads keeps them all, and one that breaks any of them is refused
with the coarse message, whatever else is wrong with it.
-/

namespace IntegrationBuild.Schema

/-- The entries of a mapping; other values have none. -/
def membersOf (value : Value) : List (Value × Value) :=
  value.entries?.getD []

@[simp]
theorem membersOf_mapping (entries : List (Value × Value)) :
    membersOf (.mapping entries) = entries :=
  rfl

@[simp]
theorem membersOf_nullAsEmpty (value : Value) :
    membersOf (nullAsEmpty value) = membersOf value := by
  cases value <;> rfl

/-- The values in the mapping under a key. -/
def sectionOf (value : Value) (key : String) : List Value :=
  ((Value.lookup (membersOf value) key).elim [] membersOf).map Prod.snd

theorem mem_sectionOf_iff {value item : Value} {key : String} :
    item ∈ sectionOf value key ↔ ∃ found, Value.lookup (membersOf value) key = some found ∧
      ∃ entry ∈ membersOf found, entry.2 = item := by
  rw [sectionOf, List.mem_map]
  cases Value.lookup (membersOf value) key <;> simp

/-- The form in which a document is written. -/
def dialectOf (doc : Value) : Dialect :=
  detectDialect (membersOf doc)

/-- The kind of an operation of the flat form as it is written. -/
def writtenKind (op : Value) : OperationKind :=
  match Value.lookup (membersOf op) "type" with
  | some (.text "action") => .action
  | _ => .sync

/-- The operations that a document declares, with their kinds. -/
inductive DeclaresOperation (doc : Value) : OperationKind → Value → Prop
  | flat {body key op : Value} (hdialect : dialectOf doc = .v1)
      (hbody : body ∈ sectionOf doc "integrations") (hop : (key, op) ∈ membersOf body) :
      DeclaresOperation doc (writtenKind op) op
  | sync {body op : Value} (hdialect : dialectOf doc = .v2)
      (hbody : body ∈ sectionOf doc "integrations") (hop : op ∈ sectionOf body "syncs") :
      DeclaresOperation doc .sync op
  | action {body op : Value} (hdialect : dialectOf doc = .v2)
      (hbody : body ∈ sectionOf doc "integrations") (hop : op ∈ sectionOf body "actions") :
      DeclaresOperation doc .action op

/-- The keys of a document. -/
def documentKeys : List String :=
  ["integrations", "models"]

/-- The keys of an integration of the grouped form. -/
def integrationKeys : List String :=
  ["syncs", "actions"]

/-- The keys of an operation. -/
def operationKeys : Dialect → OperationKind → List String
  | .v1, _ =>
    ["type", "runs", "returns", "input", "track_deletes", "auto_start", "description",
      "scopes", "version", "webhook-subscriptions", "webhook_subscriptions"]
  | .v2, .sync =>
    ["type", "runs", "endpoint", "output", "input", "sync_type", "track_deletes",
      "auto_start", "description", "scopes", "version", "webhook-subscriptions",
      "webhook_subscriptions"]
  | .v2, .action =>
    ["type", "endpoint", "output", "input", "description", "scopes", "version"]

/-- All keys of a value are texts among the given ones. -/
def KeysAmong (names : List String) (value : Value) : Prop :=
  ∀ entry ∈ membersOf value, ∃ name ∈ names, entry.1 = .text name

/-- Whether a value is null, or a text or a collection with nothing in it. -/
def isVoid : Value → Bool
  | .null => true
  | .text s => s.isEmpty
  | .bytes bytes => bytes.isEmpty
  | .list items => items.isEmpty
  | .set items => items.isEmpty
  | .mapping entries => entries.isEmpty
  | _ => false

/-- A value has something under a key. -/
def Fills (value : Value) (key : String) : Prop :=
  ∃ item, Value.lookup (membersOf value) key = some item ∧ isVoid item = false

/-- A value lists endpoints, at least one, and none of them is blank. -/
def ListsEndpoints (op : Value) : Prop :=
  ∃ item endpoints, Value.lookup (membersOf op) "endpoint" = some item ∧
    textOrList item = .ok endpoints ∧ endpoints.toList ≠ [] ∧
    ∀ endpoint ∈ endpoints.toList, ¬Text.Blank endpoint.toList

/-- The structural rules of one operation. -/
structure KeepsOperationRules (dialect : Dialect) (kind : OperationKind) (op : Value) :
    Prop where
  keys : KeysAmong (operationKeys dialect kind) op
  sync_endpoints : dialect = .v2 → kind = .sync → ListsEndpoints op
  action_endpoint : dialect = .v2 → kind = .action → Fills op "input" ∨ Fills op "output" →
    Fills op "endpoint"
  action_webhooks : kind = .action → ∀ name ∈ webhookSpellings, ¬Fills op name

/-- The structural rules of a document. -/
structure KeepsRules (doc : Value) : Prop where
  keys : KeysAmong documentKeys doc
  integration_keys : dialectOf doc = .v2 →
    ∀ body ∈ sectionOf doc "integrations", KeysAmong integrationKeys body
  operations : ∀ kind op, DeclaresOperation doc kind op →
    KeepsOperationRules (dialectOf doc) kind op

section Reading

theorem keysAmong_of_extraProblems {entries : List (Value × Value)}
    {fields : List (List String)} (hkeys : extraProblems entries fields = []) :
    KeysAmong fields.flatten (.mapping entries) := by
  intro entry hentry
  obtain ⟨spellings, hspellings, name, value, hkey, hfind⟩ :=
    extraProblems_eq_nil_iff.mp hkeys entry hentry
  obtain ⟨hname, -⟩ := of_findField hfind
  exact ⟨name, List.mem_flatten.mpr ⟨spellings, hspellings, hname⟩, hkey⟩

theorem isBlankText_iff {s : String} : isBlankText s = true ↔ Text.Blank s.toList := by
  have hempty : isBlankText s = true ↔ Text.trim s.toList = [] := by
    rw [isBlankText, Text.strip, String.isEmpty_iff, String.ofList_eq_empty_iff]
  rw [hempty]
  constructor
  · intro htrim c hc
    have hdropped : ∀ c ∈ s.toList.dropWhile Text.isBlank, Text.isBlank c = true := by
      simpa [Text.trim, Text.trimRight, Text.trimLeft, List.dropWhile_eq_nil_iff] using htrim
    rw [← List.takeWhile_append_dropWhile (p := Text.isBlank) (l := s.toList),
      List.mem_append] at hc
    rcases hc with htaken | hrest
    · exact List.mem_takeWhile_imp htaken
    · exact hdropped c hrest
  · intro hblank
    rw [Text.trim, Text.trimLeft_of_blank hblank]
    rfl

theorem listsEndpoints_of_reads {entries : List (Value × Value)} {sync : SyncEntry}
    (hreads : sync.Reads entries) : ListsEndpoints (.mapping entries) := by
  obtain ⟨item, hitem, hendpoint⟩ := requiredField_eq_ok_iff.mp hreads.endpoint
  obtain ⟨endpoints, hread, hrule⟩ := Checked.andThen_eq_ok_iff.mp hendpoint
  split at hrule
  · cases hrule
  · next hnot =>
    simp only [Bool.or_eq_true, List.isEmpty_iff, List.any_eq_true, not_or, not_exists,
      not_and] at hnot
    refine ⟨item, endpoints, hitem, hread, hnot.1, ?_⟩
    intro endpoint hmem hblank
    exact hnot.2 endpoint hmem (isBlankText_iff.mpr hblank)

theorem isEmpty_of_fromUTF8? {bytes : List UInt8} {s : String}
    (hdecode : String.fromUTF8? (ByteArray.mk bytes.toArray) = some s) :
    bytes.isEmpty = s.isEmpty := by
  rw [String.fromUTF8?] at hdecode
  split at hdecode
  · cases hdecode
    rw [String.isEmpty, String.utf8ByteSize]
    cases bytes <;> rfl
  · cases hdecode

/-- What is read as one text is void exactly when the text is empty. -/
theorem isVoid_of_text {value : Value} {s : String} (hread : text value = .ok s) :
    isVoid value = s.isEmpty := by
  cases value with
  | text t =>
      cases hread
      rfl
  | bytes bytes =>
      rw [text] at hread
      split at hread
      · next hdecode =>
        cases hread
        exact isEmpty_of_fromUTF8? hdecode
      · cases hread
  | _ => cases hread

theorem isEmpty_of_textItems {items : List Value} {texts : List String}
    (hread : textItems items = .ok texts) : items.isEmpty = texts.isEmpty := by
  have hlength := (Checked.all_eq_ok_iff.mp hread).length_eq
  rw [List.length_map, List.length_zipIdx] at hlength
  cases items <;> cases texts <;> simp_all

theorem isVoid_of_textList {value : Value} {texts : List String}
    (hread : textList value = .ok texts) : isVoid value = texts.isEmpty := by
  cases value with
  | list items => exact isEmpty_of_textItems hread
  | set items => exact isEmpty_of_textItems hread
  | pair first second => exact isEmpty_of_textItems hread
  | _ => cases hread

/-- What is read as texts is void exactly when there is no content. -/
theorem isVoid_of_textOrList {value : Value} {texts : TextOrList}
    (hread : textOrList value = .ok texts) : isVoid value = texts.isEmpty := by
  rw [textOrList] at hread
  split at hread
  · next htext =>
    cases hread
    exact isVoid_of_text htext
  · split at hread
    · next hlist =>
      cases hread
      exact isVoid_of_textList hlist
    · cases hread

/-- A value that may be null is void exactly when nothing is read from it. -/
theorem isVoid_of_nullable {α : Type} {check : Value → Checked α} {isEmpty : α → Bool}
    (hcheck : ∀ {value result}, check value = .ok result → isVoid value = isEmpty result)
    {value : Value} {result : Option α} (hread : nullable check value = .ok result) :
    isVoid value = result.all isEmpty := by
  rw [nullable.eq_def] at hread
  split at hread
  · cases hread
    rfl
  · obtain ⟨inner, hinner, rfl⟩ := Checked.map_eq_ok_iff.mp hread
    exact hcheck hinner

theorem hasContent_eq (texts : Option TextOrList) :
    hasContent texts = !texts.all TextOrList.isEmpty := by
  cases texts <;> rfl

theorem fills_iff_of_field {α : Type} {check : Value → Checked α} {isEmpty : α → Bool}
    (hcheck : ∀ {value result}, check value = .ok result → isVoid value = isEmpty result)
    {entries : List (Value × Value)} {key : String} {result : Option α}
    (hread : field entries [key] none (nullable check) = .ok result) :
    Fills (.mapping entries) key ↔ result.all isEmpty = false := by
  rw [Fills, membersOf_mapping]
  cases hlookup : Value.lookup entries key with
  | none =>
      rcases field_eq_ok_iff.mp hread with ⟨-, rfl⟩ | ⟨spelling, value, hfind, -⟩
      · simp
      · rw [findField_singleton, hlookup] at hfind
        simp at hfind
  | some value =>
      rw [← isVoid_of_nullable hcheck (check_of_field hread hlookup)]
      simp

/-- No webhooks are declared when none are read. -/
theorem not_fills_webhooks {entries : List (Value × Value)} {op : FlatOperation}
    (hreads : op.Reads entries) (hnone : hasContent op.webhooks = false) {name : String}
    (hname : name ∈ webhookSpellings) : ¬Fills (.mapping entries) name := by
  rintro ⟨item, hlookup, hfilled⟩
  obtain ⟨spellings, hspellings, hfind⟩ := exists_findField_of_lookup hreads.keys hlookup
  have honly : ∀ spellings ∈ flatFields, ∀ name ∈ webhookSpellings, name ∈ spellings →
      spellings = webhookSpellings := by
    decide
  cases honly spellings hspellings name hname (of_findField hfind).1
  have hread : nullable textOrList item = .ok op.webhooks := by
    have hwebhooks := hreads.webhooks
    rw [field, hfind] at hwebhooks
    exact Checked.inside_eq_ok_iff.mp hwebhooks
  rw [hasContent_eq, ← isVoid_of_nullable isVoid_of_textOrList hread, hfilled] at hnone
  simp at hnone

end Reading

section Operations

theorem keepsOperationRules_of_syncEntry {op : Value} {sync : SyncEntry}
    (hop : syncEntry op = .ok sync) : KeepsOperationRules .v2 .sync op := by
  obtain ⟨entries, rfl, hreads⟩ := syncEntry_eq_ok_iff.mp hop
  refine ⟨keysAmong_of_extraProblems hreads.keys, ?_, ?_, ?_⟩
  · intro _ _
    exact listsEndpoints_of_reads hreads
  · intro _ hkind
    cases hkind
  · intro hkind
    cases hkind

theorem keepsOperationRules_of_actionEntry {op : Value} {action : ActionEntry}
    (hop : actionEntry op = .ok action) : KeepsOperationRules .v2 .action op := by
  obtain ⟨entries, rfl, hreads, hrule⟩ := actionEntry_eq_ok hop
  have hkeys : KeysAmong (operationKeys .v2 .action) (.mapping entries) :=
    keysAmong_of_extraProblems hreads.keys
  refine ⟨hkeys, ?_, ?_, ?_⟩
  · intro _ hkind
    cases hkind
  · intro _ _ hfills
    rw [fills_iff_of_field isVoid_of_text hreads.input,
      fills_iff_of_field isVoid_of_textOrList hreads.output] at hfills
    rw [fills_iff_of_field isVoid_of_textOrList hreads.endpoint]
    have hendpoint : hasContent action.endpoint = true := by
      apply hrule
      rcases hfills with hinput | houtput
      · right
        cases hvalue : action.input with
        | none => simp [hvalue] at hinput
        | some input => simpa [hvalue] using hinput
      · left
        rw [hasContent_eq, houtput]
        rfl
    simpa [hasContent_eq] using hendpoint
  · rintro _ name hname ⟨item, hlookup, -⟩
    -- The keys of an action leave no room for webhooks.
    obtain ⟨key, hkey, heq⟩ := hkeys _ (mem_of_lookup hlookup)
    cases heq
    have hnone : ∀ name ∈ webhookSpellings, name ∉ operationKeys .v2 .action := by
      decide
    exact hnone name hname hkey

/-- A kind is written by its name. -/
theorem eq_name_of_lookup {word : String} {kind : OperationKind}
    (hword : [("sync", OperationKind.sync), ("action", OperationKind.action)].lookup word =
      some kind) : word = kind.name := by
  by_cases hsync : word = "sync"
  · subst hsync
    cases hword
    rfl
  · by_cases haction : word = "action"
    · subst haction
      cases hword
      rfl
    · simp [List.lookup_cons, beq_false_of_ne hsync, beq_false_of_ne haction] at hword

theorem writtenKind_of_reads {entries : List (Value × Value)} {op : FlatOperation}
    (hreads : op.Reads entries) : writtenKind (.mapping entries) = op.kind := by
  rw [writtenKind, membersOf_mapping]
  rcases field_eq_ok_iff.mp hreads.kind with ⟨hfind, hdefault⟩ | ⟨spelling, value, hfind, hkind⟩
  · rw [findField_singleton, Option.map_eq_none_iff] at hfind
    rw [hfind, ← hdefault]
  · rw [findField_singleton, Option.map_eq_some_iff] at hfind
    obtain ⟨found, hlookup, heq⟩ := hfind
    cases heq
    rw [hlookup]
    obtain ⟨word, rfl, hword⟩ := oneOf_eq_ok_iff.mp hkind
    rw [eq_name_of_lookup hword]
    cases op.kind <;> rfl

theorem keepsOperationRules_of_flatOperation {op : Value} {flat : FlatOperation}
    (hop : flatOperation op = .ok flat) : KeepsOperationRules .v1 (writtenKind op) op := by
  obtain ⟨entries, rfl, hreads, hrule⟩ := flatOperation_eq_ok hop
  refine ⟨keysAmong_of_extraProblems hreads.keys, ?_, ?_, ?_⟩
  · intro hdialect
    cases hdialect
  · intro hdialect
    cases hdialect
  · intro hkind name hname
    rw [writtenKind_of_reads hreads] at hkind
    exact not_fills_webhooks hreads (hrule hkind) hname

end Operations

section Sections

/-- Every value of a mapping that is read passes the check. -/
theorem exists_ok_of_mem_membersOf {α : Type} {check : Value → Checked α} {value : Value}
    {results : List (String × α)} (hread : mappingOf check value = .ok results)
    {entry : Value × Value} (hentry : entry ∈ membersOf value) :
    ∃ result, check entry.2 = .ok result := by
  obtain ⟨entries, pairs, rfl, hpairs, -⟩ := mappingOf_eq_ok_iff.mp hread
  rw [membersOf_mapping] at hentry
  clear hread
  induction hpairs with
  | nil => simp at hentry
  | cons hfirst hothers ih =>
      rcases List.mem_cons.mp hentry with rfl | hrest
      · exact ⟨_, hfirst.2⟩
      · exact ih hrest

/-- Every value of a section that is read passes the check. -/
theorem exists_ok_of_mem_sectionOf {α : Type} {check : Value → Checked α} {value : Value}
    {key : String} {results : List (String × α)}
    (hread : ∀ item, Value.lookup (membersOf value) key = some item →
      mappingOf check (nullAsEmpty item) = .ok results)
    {op : Value} (hop : op ∈ sectionOf value key) : ∃ result, check op = .ok result := by
  obtain ⟨item, hlookup, entry, hentry, rfl⟩ := mem_sectionOf_iff.mp hop
  rw [← membersOf_nullAsEmpty] at hentry
  exact exists_ok_of_mem_membersOf (hread item hlookup) hentry

/-- What an integration of the grouped form has to keep to. -/
theorem of_groupedIntegration {body : Value} {grouped : GroupedIntegration}
    (hbody : groupedIntegration (nullAsEmpty body) = .ok grouped) :
    KeysAmong integrationKeys body ∧
      (∀ op ∈ sectionOf body "syncs", ∃ sync, syncEntry op = .ok sync) ∧
      ∀ op ∈ sectionOf body "actions", ∃ action, actionEntry op = .ok action := by
  obtain ⟨entries, heq, hread, hkeys⟩ := record_eq_ok_iff.mp hbody
  have hmembers : membersOf body = entries := by
    rw [← membersOf_nullAsEmpty, heq, membersOf_mapping]
  obtain ⟨_, actions, hrest, hactions, rfl⟩ := Checked.seq_eq_ok_iff.mp hread
  obtain ⟨syncs, hsyncs, rfl⟩ := Checked.map_eq_ok_iff.mp hrest
  refine ⟨?_, ?_, ?_⟩
  · intro entry hentry
    rw [hmembers] at hentry
    exact keysAmong_of_extraProblems hkeys entry hentry
  · intro op hop
    have hsection : ∀ item, Value.lookup (membersOf body) "syncs" = some item →
        mappingOf syncEntry (nullAsEmpty item) = .ok syncs := by
      intro item hitem
      rw [hmembers] at hitem
      exact check_of_field hsyncs hitem
    exact exists_ok_of_mem_sectionOf hsection hop
  · intro op hop
    have hsection : ∀ item, Value.lookup (membersOf body) "actions" = some item →
        mappingOf actionEntry (nullAsEmpty item) = .ok actions := by
      intro item hitem
      rw [hmembers] at hitem
      exact check_of_field hactions hitem
    exact exists_ok_of_mem_sectionOf hsection hop

/-- Every body of an integrations section that is read passes the check. -/
theorem exists_ok_of_integrations {α : Type} {check : Value → Checked α}
    {entries : List (Value × Value)} {results : List (String × α)}
    (hread : requiredField entries "integrations" (integrations check) = .ok results)
    {body : Value} (hbody : body ∈ sectionOf (.mapping entries) "integrations") :
    ∃ result, check (nullAsEmpty body) = .ok result := by
  obtain ⟨item, hitem, hbodies⟩ := requiredField_eq_ok_iff.mp hread
  obtain ⟨found, hfound, entry, hentry, rfl⟩ := mem_sectionOf_iff.mp hbody
  rw [membersOf_mapping, hitem] at hfound
  cases hfound
  exact exists_ok_of_mem_membersOf hbodies hentry

/-- A document that is read keeps the structural rules. -/
theorem keepsRules_of_document {entries : List (Value × Value)} {declared : Document}
    (hread : document (detectDialect entries) entries = .ok declared) :
    KeepsRules (.mapping entries) := by
  have hdialect : dialectOf (.mapping entries) = detectDialect entries := rfl
  rw [← hdialect] at hread
  refine ⟨?_, ?_, ?_⟩
  · have hkeys : extraProblems entries documentFields = [] :=
      (Checked.withProblems_eq_ok_iff.mp hread).2
    exact keysAmong_of_extraProblems hkeys
  · intro hv2 body hbody
    rw [hv2] at hread
    obtain ⟨_, _, hbodies, -, -, -⟩ := document_v2_eq_ok_iff.mp hread
    obtain ⟨_, hgrouped⟩ := exists_ok_of_integrations hbodies hbody
    exact (of_groupedIntegration hgrouped).1
  · intro kind op hop
    cases hop with
    | flat hv1 hbody hop =>
        rw [hv1] at hread
        obtain ⟨_, _, hbodies, -, -, -⟩ := document_v1_eq_ok_iff.mp hread
        obtain ⟨_, hops⟩ := exists_ok_of_integrations hbodies hbody
        rw [← membersOf_nullAsEmpty] at hop
        obtain ⟨flat, hflat⟩ := exists_ok_of_mem_membersOf hops hop
        rw [hv1]
        exact keepsOperationRules_of_flatOperation hflat
    | sync hv2 hbody hop =>
        rw [hv2] at hread
        obtain ⟨_, _, hbodies, -, -, -⟩ := document_v2_eq_ok_iff.mp hread
        obtain ⟨_, hgrouped⟩ := exists_ok_of_integrations hbodies hbody
        obtain ⟨sync, hsync⟩ := (of_groupedIntegration hgrouped).2.1 op hop
        rw [hv2]
        exact keepsOperationRules_of_syncEntry hsync
    | action hv2 hbody hop =>
        rw [hv2] at hread
        obtain ⟨_, _, hbodies, -, -, -⟩ := document_v2_eq_ok_iff.mp hread
        obtain ⟨_, hgrouped⟩ := exists_ok_of_integrations hbodies hbody
        obtain ⟨action, haction⟩ := (of_groupedIntegration hgrouped).2.2 op hop
        rw [hv2]
        exact keepsOperationRules_of_actionEntry haction

end Sections

/-- A document of which nothing is read breaks no rule. -/
theorem keepsRules_of_membersOf_eq_nil {doc : Value} (hnone : membersOf doc = []) :
    KeepsRules doc := by
  have hsection : sectionOf doc "integrations" = [] := by
    rw [sectionOf, hnone]
    rfl
  refine ⟨?_, ?_, ?_⟩
  · intro entry hentry
    simp [hnone] at hentry
  · intro _ body hbody
    simp [hsection] at hbody
  · intro kind op hop
    cases hop <;> simp_all

end IntegrationBuild.Schema

namespace IntegrationBuild.Project

open Schema

/-- Only documents that keep the structural rules load.  A broken rule is found
before the models are built, so the document is refused with the coarse message
whatever else is wrong with it. -/
theorem keepsRules_or_malformed (path : Path) (doc : Value) :
    (∀ project, ofValue path doc = .ok project → KeepsRules doc) ∧
      (¬KeepsRules doc → ∃ problems,
        ofValue path doc =
            .error (.schema (.invalid (.malformed path.text (dialectOf doc) problems))) ∧
          (SchemaError.invalid (.malformed path.text (dialectOf doc) problems)).message =
            "Problem validating the nango.yaml file.") := by
  have hmalformed : ¬KeepsRules doc → ∃ problems, ofValue path doc =
      .error (.schema (.invalid (.malformed path.text (dialectOf doc) problems))) := by
    intro hbroken
    cases doc with
    | mapping entries =>
        cases hread : document (detectDialect entries) entries with
        | ok document => exact absurd (keepsRules_of_document hread) hbroken
        | bad problems =>
            refine ⟨problems, ?_⟩
            rw [ofValue, projectOf, hread]
            rfl
    | _ => exact absurd (keepsRules_of_membersOf_eq_nil rfl) hbroken
  constructor
  · intro project hload
    by_contra hbroken
    obtain ⟨problems, hrefused⟩ := hmalformed hbroken
    rw [hload] at hrefused
    cases hrefused
  · intro hbroken
    obtain ⟨problems, hrefused⟩ := hmalformed hbroken
    exact ⟨problems, hrefused, rfl⟩

/-- A sync without an endpoint, beside a model with a field that has no type. -/
def unservedDocument : Value :=
  .mapping
    [(.text "integrations", .mapping [(.text "github", .mapping [(.text "syncs",
      .mapping [(.text "issues", .mapping [(.text "output", .text "Issue")])])])]),
    (.text "models", .mapping [(.text "Issue", .mapping [(.text "id", .text "string |")])])]

theorem keepsRules_or_malformed_unserved :
    ¬KeepsRules unservedDocument ∧ ∃ problems,
      ofValue ⟨"/", ["nango.yaml"]⟩ unservedDocument =
        .error (.schema (.invalid (.malformed "/nango.yaml" .v2 problems))) := by
  have hbroken : ¬KeepsRules unservedDocument := by
    intro hrules
    have hdeclares : DeclaresOperation unservedDocument .sync
        (.mapping [(.text "output", .text "Issue")]) :=
      .sync rfl List.mem_cons_self List.mem_cons_self
    obtain ⟨item, endpoints, hlookup, -⟩ :=
      (hrules.operations _ _ hdeclares).sync_endpoints rfl rfl
    cases hlookup
  refine ⟨hbroken, ?_⟩
  obtain ⟨problems, hrefused, -⟩ :=
    (keepsRules_or_malformed ⟨"/", ["nango.yaml"]⟩ unservedDocument).2 hbroken
  exact ⟨problems, hrefused⟩

end IntegrationBuild.Project
