import IntegrationBuild.Proofs.Outcome
import IntegrationBuild.Proofs.Schema.Closed
import IntegrationBuild.Proofs.Schema.Rules

/-!
The flat form beside the grouped one.  A flat document of syncs is regrouped by
putting the operations of each integration under `syncs`, writing `output` for
`returns` and adding endpoints.  Both documents give the same project, apart
from the endpoints.
-/

namespace IntegrationBuild

/-- The operation without its endpoints. -/
def Operation.withoutEndpoints (op : Operation) : Operation :=
  { op with endpoints := [] }

/-- The integration, its operations without their endpoints. -/
def Integration.withoutEndpoints (integration : Integration) : Integration :=
  { integration with operations := integration.operations.map Operation.withoutEndpoints }

namespace Schema

/-- Reworks the values of entries, each with its key. -/
def mapEntries (rework : Value → Value → Value) (entries : List (Value × Value)) :
    List (Value × Value) :=
  entries.map fun entry => (entry.1, rework entry.1 entry.2)

/-- Reworks the values of a mapping, each with its key. -/
def mapItems (rework : Value → Value → Value) : Value → Value
  | .mapping entries => .mapping (mapEntries rework entries)
  | value => value

/-- Writes `output` for `returns`. -/
def renameReturns : Value × Value → Value × Value
  | (.text name, value) => (.text (if name = "returns" then "output" else name), value)
  | entry => entry

/-- The entries of a flat operation as those of a grouped one. -/
def regroupFields (endpoint : String) (entries : List (Value × Value)) : List (Value × Value) :=
  entries.map renameReturns ++ [(.text "endpoint", .text endpoint)]

/-- A flat operation as a grouped one with an endpoint. -/
def regroupOperation (endpoint : String) : Value → Value
  | .mapping entries => .mapping (regroupFields endpoint entries)
  | value => value

/-- The operations of an integration, under `syncs`. -/
def regroupBody (endpoint : Value → String) (body : Value) : Value :=
  .mapping [(.text "syncs", mapItems (fun operation => regroupOperation (endpoint operation)) body)]

/-- The integrations regrouped; the other sections of a document stay. -/
def regroupSection (endpoint : Value → Value → String) (key value : Value) : Value :=
  match key with
  | .text "integrations" => mapItems (fun integration => regroupBody (endpoint integration)) value
  | _ => value

/-- A flat document as a grouped one.  The endpoint of an operation is chosen by
the keys of its integration and of itself. -/
def regroup (endpoint : Value → Value → String) : Value → Value :=
  mapItems (regroupSection endpoint)

section Lookup

variable {entries : List (Value × Value)}

theorem lookup_mapEntries (rework : Value → Value → Value) (name : String) :
    Value.lookup (mapEntries rework entries) name =
      (Value.lookup entries name).map (rework (.text name)) := by
  rw [mapEntries]
  fun_induction Value.lookup entries name with
  | case1 => rfl
  | case2 key value rest hkey =>
      rw [beq_iff_eq] at hkey
      subst hkey
      simp [Value.lookup]
  | case3 key value rest hkey ih => simp_all [Value.lookup]
  | case4 entry rest hentry ih =>
      obtain ⟨key, value⟩ := entry
      cases key <;> simp_all [Value.lookup]

theorem findField_mapEntries (rework : Value → Value → Value) (spellings : List String) :
    findField (mapEntries rework entries) spellings =
      (findField entries spellings).map fun found =>
        (found.1, rework (.text found.1) found.2) := by
  induction spellings with
  | nil => rfl
  | cons spelling rest ih =>
      rw [findField, findField, lookup_mapEntries, ih]
      cases Value.lookup entries spelling <;> rfl

theorem extraProblems_mapEntries (rework : Value → Value → Value) {fields : List (List String)}
    (hkeys : extraProblems entries fields = []) :
    extraProblems (mapEntries rework entries) fields = [] := by
  rw [extraProblems_eq_nil_iff] at hkeys ⊢
  intro entry hentry
  obtain ⟨original, horiginal, rfl⟩ := List.mem_map.mp hentry
  obtain ⟨spellings, hspellings, name, value, hkey, hfind⟩ := hkeys original horiginal
  refine ⟨spellings, hspellings, name, rework (.text name) value, hkey, ?_⟩
  rw [findField_mapEntries, hfind]
  rfl

theorem lookup_append (others : List (Value × Value)) (name : String) :
    Value.lookup (entries ++ others) name =
      (Value.lookup entries name).or (Value.lookup others name) := by
  fun_induction Value.lookup entries name with
  | case1 => rfl
  | case2 key value rest hkey => simp [Value.lookup, hkey]
  | case3 key value rest hkey ih => simp_all [Value.lookup]
  | case4 entry rest hentry ih =>
      obtain ⟨key, value⟩ := entry
      cases key <;> simp_all [Value.lookup]

theorem lookup_renameReturns {name : String} (hreturns : name ≠ "returns")
    (houtput : name ≠ "output") :
    Value.lookup (entries.map renameReturns) name = Value.lookup entries name := by
  induction entries with
  | nil => rfl
  | cons entry rest ih =>
      obtain ⟨key, value⟩ := entry
      cases key with
      | text key =>
          by_cases hkey : key = "returns"
          · subst hkey
            simp [renameReturns, Value.lookup, ih, hreturns.symm, houtput.symm]
          · simp [renameReturns, Value.lookup, ih, hkey]
      | _ => simpa [renameReturns, Value.lookup] using ih

theorem lookup_output_renameReturns (hfree : Value.lookup entries "output" = none) :
    Value.lookup (entries.map renameReturns) "output" = Value.lookup entries "returns" := by
  induction entries with
  | nil => rfl
  | cons entry rest ih =>
      obtain ⟨key, value⟩ := entry
      cases key with
      | text key =>
          by_cases hkey : key = "returns"
          · subst hkey
            simp [renameReturns, Value.lookup]
          · by_cases houtput : key = "output"
            · simp [Value.lookup, houtput] at hfree
            · simp_all [renameReturns, Value.lookup]
      | _ => simp_all [renameReturns, Value.lookup]

end Lookup

section Mapping

variable {α β : Type}

theorem nullAsEmpty_mapItems (rework : Value → Value → Value) (value : Value) :
    nullAsEmpty (mapItems rework value) = mapItems rework (nullAsEmpty value) := by
  cases value <;> rfl

/-- When each value that passes one check passes another after it is reworked,
so does the mapping, with the same keys in the same order. -/
theorem exists_mappingOf_mapItems {R : α → β → Prop} {check : Value → Checked α}
    (other : Value → Checked β) (rework : Value → Value → Value) {value : Value}
    {results : List (String × α)}
    (hstep : ∀ entry ∈ membersOf value, ∀ result, check entry.2 = .ok result →
      ∃ reworked, other (rework entry.1 entry.2) = .ok reworked ∧ R result reworked)
    (hread : mappingOf check value = .ok results) :
    ∃ reworked, mappingOf other (mapItems rework value) = .ok reworked ∧
      List.Forall₂ (Alike R) results reworked := by
  obtain ⟨entries, pairs, rfl, hpairs, rfl⟩ := mappingOf_eq_ok_iff.mp hread
  rw [membersOf_mapping] at hstep
  have hothers : ∃ others, List.Forall₂ (Alike R) pairs others ∧
      List.Forall₂ (fun entry pair => text entry.1 = .ok pair.1 ∧ other entry.2 = .ok pair.2)
        (mapEntries rework entries) others := by
    clear hread
    induction hpairs with
    | nil => exact ⟨[], .nil, .nil⟩
    | @cons entry pair _ _ hfirst _ ih =>
        obtain ⟨others, halike, hrest⟩ :=
          ih fun later hlater => hstep later (List.mem_cons_of_mem _ hlater)
        obtain ⟨reworked, hreworked, hrelated⟩ := hstep entry List.mem_cons_self pair.2 hfirst.2
        exact ⟨(pair.1, reworked) :: others, .cons ⟨rfl, hrelated⟩ halike,
          .cons ⟨hfirst.1, hreworked⟩ hrest⟩
  obtain ⟨others, halike, hothers⟩ := hothers
  exact ⟨settle others, mappingOf_eq_ok_iff.mpr ⟨_, others, rfl, hothers, rfl⟩,
    forall₂_settle halike⟩

end Mapping

section Operation

variable {entries : List (Value × Value)}

/-- A flat operation as a sync of the grouped form. -/
def FlatOperation.asSync (op : FlatOperation) (endpoint : String) : SyncEntry :=
  { runs := op.runs, endpoint := .one endpoint, output := op.returns, input := op.input
    syncType := none, trackDeletes := op.trackDeletes, autoStart := op.autoStart
    description := op.description, scopes := op.scopes, version := op.version
    webhooks := op.webhooks }

/-- Apart from `returns`, the fields of a flat operation are found as before. -/
theorem findField_regroupFields (endpoint : String) {spellings : List String}
    (hspellings : ∀ spelling ∈ spellings, spelling ∉ ["returns", "output", "endpoint"]) :
    findField (regroupFields endpoint entries) spellings = findField entries spellings := by
  apply findField_congr
  intro spelling hspelling
  have hother := hspellings spelling hspelling
  simp only [List.mem_cons, List.not_mem_nil, or_false, not_or] at hother
  obtain ⟨hreturns, houtput, hendpoint⟩ := hother
  rw [regroupFields, lookup_append, lookup_renameReturns hreturns houtput]
  simp [Value.lookup, Ne.symm hendpoint]

theorem field_regroupFields {α : Type} {endpoint : String} {spellings : List String}
    {default result : α} {check : Value → Checked α}
    (hspellings : ∀ spelling ∈ spellings, spelling ∉ ["returns", "output", "endpoint"])
    (hread : field entries spellings default check = .ok result) :
    field (regroupFields endpoint entries) spellings default check = .ok result := by
  rw [field, findField_regroupFields endpoint hspellings]
  exact hread

theorem lookup_output_regroupFields (endpoint : String)
    (hfree : Value.lookup entries "output" = none) :
    Value.lookup (regroupFields endpoint entries) "output" = Value.lookup entries "returns" := by
  rw [regroupFields, lookup_append, lookup_output_renameReturns hfree]
  simp [Value.lookup]

theorem lookup_endpoint_regroupFields (endpoint : String)
    (hfree : Value.lookup entries "endpoint" = none) :
    Value.lookup (regroupFields endpoint entries) "endpoint" = some (.text endpoint) := by
  rw [regroupFields, lookup_append, lookup_renameReturns (by decide) (by decide), hfree]
  rfl

theorem extraProblems_regroupFields (endpoint : String)
    (hkeys : extraProblems entries flatFields = []) :
    extraProblems (regroupFields endpoint entries) syncFields = [] := by
  have houtput : Value.lookup entries "output" = none :=
    lookup_eq_none_of_extraProblems hkeys (by decide)
  have hendpoint : Value.lookup entries "endpoint" = none :=
    lookup_eq_none_of_extraProblems hkeys (by decide)
  rw [extraProblems_eq_nil_iff] at hkeys ⊢
  intro entry hentry
  rw [regroupFields, List.mem_append, List.mem_singleton] at hentry
  rcases hentry with hrenamed | rfl
  · obtain ⟨original, horiginal, rfl⟩ := List.mem_map.mp hrenamed
    obtain ⟨spellings, hspellings, name, value, hkey, hfind⟩ := hkeys original horiginal
    obtain ⟨key, item⟩ := original
    cases hkey
    by_cases hreturns : spellings = ["returns"]
    · subst hreturns
      obtain ⟨hname, hlookup⟩ := of_findField hfind
      cases List.mem_singleton.mp hname
      refine ⟨["output"], by decide, "output", value, rfl, ?_⟩
      rw [findField_singleton, lookup_output_regroupFields endpoint houtput, hlookup]
      rfl
    · have hothers : ∀ spellings ∈ flatFields, spellings ≠ ["returns"] →
          spellings ∈ syncFields ∧
            ∀ spelling ∈ spellings, spelling ∉ ["returns", "output", "endpoint"] := by
        decide
      obtain ⟨hsync, hnone⟩ := hothers spellings hspellings hreturns
      have hname : name ≠ "returns" := by
        rintro rfl
        exact hnone _ (of_findField hfind).1 (by decide)
      refine ⟨spellings, hsync, name, value, by simp [renameReturns, hname], ?_⟩
      rw [findField_regroupFields endpoint hnone, hfind]
  · refine ⟨["endpoint"], by decide, "endpoint", .text endpoint, rfl, ?_⟩
    rw [findField_singleton, lookup_endpoint_regroupFields endpoint hendpoint]
    rfl

theorem sync_of_kind (hkind : field entries ["type"] .sync
      (oneOf [("sync", OperationKind.sync), ("action", OperationKind.action)]) = .ok .sync) :
    field entries ["type"] () (oneOf [("sync", ())]) = .ok () := by
  rw [field_eq_ok_iff] at hkind ⊢
  rcases hkind with ⟨hfind, -⟩ | ⟨spelling, value, hfind, hvalue⟩
  · exact Or.inl ⟨hfind, rfl⟩
  · refine Or.inr ⟨spelling, value, hfind, ?_⟩
    obtain ⟨word, rfl, hword⟩ := oneOf_eq_ok_iff.mp hvalue
    cases eq_name_of_lookup hword
    rfl

theorem FlatOperation.Reads.asSync {op : FlatOperation} (hreads : op.Reads entries)
    (hkind : op.kind = .sync) {endpoint : String} (hendpoint : ¬Text.Blank endpoint.toList) :
    (op.asSync endpoint).Reads (regroupFields endpoint entries) := by
  have hfree : ∀ name, (∀ spellings ∈ flatFields, name ∉ spellings) →
      Value.lookup entries name = none := fun name hname =>
    lookup_eq_none_of_extraProblems hreads.keys hname
  have hsync := hreads.kind
  rw [hkind] at hsync
  exact
    { kind := field_regroupFields (by decide) (sync_of_kind hsync)
      runs := field_regroupFields (by decide) hreads.runs
      endpoint := by
        refine requiredField_eq_ok_iff.mpr
          ⟨_, lookup_endpoint_regroupFields endpoint (hfree _ (by decide)), ?_⟩
        have hfilled : isBlankText endpoint = false := by
          rw [← Bool.not_eq_true, isBlankText_iff]
          exact hendpoint
        simp [syncEndpoint, textOrList, text, Checked.andThen, TextOrList.toList, hfilled,
          FlatOperation.asSync]
      output := by
        have hreturns := hreads.returns
        change field _ ["output"] none (nullable textOrList) = .ok op.returns
        rw [field_eq_ok_iff, findField_singleton] at hreturns ⊢
        rw [lookup_output_regroupFields endpoint (hfree _ (by decide))]
        simpa using hreturns
      input := field_regroupFields (by decide) hreads.input
      syncType := by
        refine field_eq_ok_iff.mpr (Or.inl ⟨?_, rfl⟩)
        rw [findField_regroupFields endpoint (by decide), findField_singleton,
          hfree _ (by decide)]
        rfl
      trackDeletes := field_regroupFields (by decide) hreads.trackDeletes
      autoStart := field_regroupFields (by decide) hreads.autoStart
      description := field_regroupFields (by decide) hreads.description
      scopes := field_regroupFields (by decide) hreads.scopes
      version := field_regroupFields (by decide) hreads.version
      webhooks := field_regroupFields (by decide) hreads.webhooks
      keys := extraProblems_regroupFields endpoint hreads.keys }

/-- A flat sync is still read after it is regrouped. -/
theorem syncEntry_regroupOperation {op : Value} {flat : FlatOperation}
    (hop : flatOperation op = .ok flat) (hkind : writtenKind op = .sync) {endpoint : String}
    (hendpoint : ¬Text.Blank endpoint.toList) :
    flat.kind = .sync ∧
      syncEntry (regroupOperation endpoint op) = .ok (flat.asSync endpoint) := by
  obtain ⟨entries, rfl, hreads, -⟩ := flatOperation_eq_ok hop
  rw [writtenKind_of_reads hreads] at hkind
  exact ⟨hkind, syncEntry_eq_ok_iff.mpr ⟨_, rfl, hreads.asSync hkind hendpoint⟩⟩

end Operation

section Document

/-- A flat operation beside the sync it becomes. -/
def BecomesSync (flat : FlatOperation) (sync : SyncEntry) : Prop :=
  flat.kind = .sync ∧ ∃ endpoint, sync = flat.asSync endpoint

/-- The operations of a flat integration beside the grouped one. -/
structure BecomesGrouped (operations : List (String × FlatOperation))
    (grouped : GroupedIntegration) : Prop where
  syncs : List.Forall₂ (Alike BecomesSync) operations grouped.syncs
  actions : grouped.actions = []

/-- A flat document beside the regrouped one.  Without integrations there is
nothing that would show the grouped form. -/
inductive Becomes : Document → Dialect → Document → Prop
  | empty {models : List (String × Value)} : Becomes (.flat [] models) .v1 (.flat [] models)
  | grouped {bodies : List (String × List (String × FlatOperation))}
      {groups : List (String × GroupedIntegration)} {models : List (String × Value)}
      (hgroups : List.Forall₂ (Alike BecomesGrouped) bodies groups) :
      Becomes (.flat bodies models) .v2 (.grouped groups models)

theorem exists_groupedIntegration_regroupBody {body : Value}
    {operations : List (String × FlatOperation)}
    (hread : mappingOf flatOperation (nullAsEmpty body) = .ok operations)
    (hsyncs : ∀ entry ∈ membersOf body, writtenKind entry.2 = .sync) {endpoint : Value → String}
    (hendpoint : ∀ operation, ¬Text.Blank (endpoint operation).toList) :
    ∃ grouped, groupedIntegration (nullAsEmpty (regroupBody endpoint body)) = .ok grouped ∧
      BecomesGrouped operations grouped := by
  have hstep : ∀ entry ∈ membersOf (nullAsEmpty body), ∀ flat, flatOperation entry.2 = .ok flat →
      ∃ sync, syncEntry (regroupOperation (endpoint entry.1) entry.2) = .ok sync ∧
        BecomesSync flat sync := by
    intro entry hentry flat hflat
    rw [membersOf_nullAsEmpty] at hentry
    obtain ⟨hkind, hsync⟩ :=
      syncEntry_regroupOperation hflat (hsyncs entry hentry) (hendpoint entry.1)
    exact ⟨_, hsync, hkind, _, rfl⟩
  obtain ⟨syncs, hregrouped, halike⟩ := exists_mappingOf_mapItems syncEntry
    (fun operation => regroupOperation (endpoint operation)) hstep hread
  rw [← nullAsEmpty_mapItems] at hregrouped
  refine ⟨⟨syncs, []⟩, ?_, halike, rfl⟩
  refine record_eq_ok_iff.mpr ⟨_, rfl, ?_, rfl⟩
  refine Checked.seq_eq_ok_iff.mpr ⟨_, [], Checked.map_eq_ok_iff.mpr ⟨syncs, ?_, rfl⟩, rfl, rfl⟩
  exact Checked.inside_eq_ok_iff.mpr hregrouped

variable {entries : List (Value × Value)} {endpoint : Value → Value → String}

theorem exists_integrations_regroup {bodiesValue : Value}
    {bodies : List (String × List (String × FlatOperation))}
    (hread : integrations (mappingOf flatOperation) bodiesValue = .ok bodies)
    (hsyncs : ∀ body ∈ membersOf bodiesValue, ∀ entry ∈ membersOf body.2,
      writtenKind entry.2 = .sync)
    (hendpoint : ∀ integration operation, ¬Text.Blank (endpoint integration operation).toList) :
    ∃ groups, integrations groupedIntegration
        (regroupSection endpoint (.text "integrations") bodiesValue) = .ok groups ∧
      List.Forall₂ (Alike BecomesGrouped) bodies groups := by
  apply exists_mappingOf_mapItems (fun body => groupedIntegration (nullAsEmpty body))
    (fun integration => regroupBody (endpoint integration)) _ hread
  intro body hbody operations hoperations
  exact exists_groupedIntegration_regroupBody hoperations (hsyncs body hbody)
    (hendpoint body.1)

/-- The form of the regrouped document is the grouped one as soon as there is an
integration. -/
theorem detectDialect_regroup {bodies : List (Value × Value)}
    (hbodies : Value.lookup entries "integrations" = some (.mapping bodies)) :
    detectDialect (mapEntries (regroupSection endpoint) entries) =
      if bodies.isEmpty then .v1 else .v2 := by
  rw [detectDialect, lookup_mapEntries, hbodies]
  cases bodies with
  | nil => rfl
  | cons body rest => rfl

theorem exists_document_regroup {declared : Document}
    (hread : document .v1 entries = .ok declared)
    (hsyncs : ∀ bodies, Value.lookup entries "integrations" = some bodies →
      ∀ body ∈ membersOf bodies, ∀ entry ∈ membersOf body.2, writtenKind entry.2 = .sync)
    (hendpoint : ∀ integration operation, ¬Text.Blank (endpoint integration operation).toList)
    {regrouped : List (Value × Value)}
    (hregrouped : regrouped = mapEntries (regroupSection endpoint) entries) :
    ∃ after, document (detectDialect regrouped) regrouped = .ok after ∧
      Becomes declared (detectDialect regrouped) after := by
  obtain ⟨bodies, models, hbodies, hmodels, hkeys, rfl⟩ := document_v1_eq_ok_iff.mp hread
  obtain ⟨bodiesValue, hlookup, hintegrations⟩ := requiredField_eq_ok_iff.mp hbodies
  obtain ⟨groups, hgroups, halike⟩ :=
    exists_integrations_regroup hintegrations (hsyncs _ hlookup) hendpoint
  have hkeys' : extraProblems regrouped documentFields = [] := by
    rw [hregrouped]
    exact extraProblems_mapEntries _ hkeys
  have hlookup' : Value.lookup regrouped "integrations" =
      some (regroupSection endpoint (.text "integrations") bodiesValue) := by
    rw [hregrouped, lookup_mapEntries, hlookup]
    rfl
  have hmodels' : field regrouped ["models"] [] modelSection = .ok models := by
    rw [← hmodels, field, field, findField_singleton, findField_singleton, hregrouped,
      lookup_mapEntries]
    cases Value.lookup entries "models" <;> rfl
  obtain ⟨items, pairs, rfl, hpairs, hsettle⟩ := mappingOf_eq_ok_iff.mp hintegrations
  rw [hregrouped, detectDialect_regroup hlookup, ← hregrouped]
  cases items with
  | nil =>
      cases hpairs
      refine ⟨.flat [] models, ?_, ?_⟩
      · exact document_v1_eq_ok_iff.mpr
          ⟨[], models, requiredField_eq_ok_iff.mpr ⟨_, hlookup', rfl⟩, hmodels', hkeys', rfl⟩
      · rw [← hsettle]
        exact .empty
  | cons item rest =>
      refine ⟨.grouped groups models, ?_, .grouped halike⟩
      exact document_v2_eq_ok_iff.mpr
        ⟨groups, models, requiredField_eq_ok_iff.mpr ⟨_, hlookup', hgroups⟩, hmodels', hkeys', rfl⟩

end Document

section Normalize

theorem exists_ofSync {models : List String} {integration name : String} {flat : FlatOperation}
    {sync : SyncEntry} (hbecomes : BecomesSync flat sync) {op : Operation}
    (hop : ofFlat models integration name flat = .ok op) :
    ∃ after, ofSync models integration name sync = .ok after ∧ after.withoutEndpoints = op := by
  obtain ⟨hkind, endpoint, rfl⟩ := hbecomes
  obtain ⟨types, htypes, heq⟩ := Outcome.bind_eq_ok_iff.mp hop
  cases heq
  refine ⟨_, Outcome.bind_eq_ok_iff.mpr ⟨types, htypes, rfl⟩, ?_⟩
  rw [hkind]
  rfl

theorem exists_groupedOperations {models : List String} {name : String}
    {operations : List (String × FlatOperation)} {grouped : GroupedIntegration}
    (hbecomes : BecomesGrouped operations grouped) {integration : Integration}
    (hintegration : flatIntegration models name operations = .ok integration) :
    ∃ after, groupedOperations models name grouped = .ok after ∧
      after.withoutEndpoints = integration := by
  obtain ⟨ops, hops, heq⟩ := Outcome.bind_eq_ok_iff.mp hintegration
  cases heq
  have hstep : ∀ (flat : String × FlatOperation) (sync : String × SyncEntry) (op : Operation),
      Alike BecomesSync flat sync → ofFlat models name flat.1 flat.2 = .ok op →
      ∃ after, ofSync models name sync.1 sync.2 = .ok after ∧ after.withoutEndpoints = op := by
    intro flat sync op halike hop
    rw [← halike.1]
    exact exists_ofSync halike.2 hop
  obtain ⟨syncs, hsyncs, rfl⟩ := Outcome.exists_mapM_of_forall₂ hstep hbecomes.syncs hops
  refine ⟨⟨name, syncs⟩, ?_, rfl⟩
  rw [groupedOperations, hsyncs, hbecomes.actions]
  simp [bind, Except.bind, pure, Except.pure]

theorem exists_normalize {models : List String} {declared after : Document} {dialect : Dialect}
    (hbecomes : Becomes declared dialect after) {integrations : List Integration}
    (hnormalize : normalize models declared = .ok integrations) :
    ∃ regrouped, normalize models after = .ok regrouped ∧
      regrouped.map Integration.withoutEndpoints = integrations := by
  cases hbecomes with
  | empty =>
      cases hnormalize
      exact ⟨[], rfl, rfl⟩
  | grouped hgroups =>
      refine Outcome.exists_mapM_of_forall₂ ?_ hgroups hnormalize
      rintro ⟨name, body⟩ ⟨other, group⟩ integration ⟨hname, hbecomes⟩ hintegration
      cases hname
      exact exists_groupedOperations hbecomes hintegration

theorem Becomes.models_eq {declared after : Document} {dialect : Dialect}
    (hbecomes : Becomes declared dialect after) : after.models = declared.models := by
  cases hbecomes with
  | empty => rfl
  | grouped hgroups => rfl

theorem Becomes.dialect_eq {declared after : Document} {dialect : Dialect}
    (hbecomes : Becomes declared dialect after) {models : List String}
    {integrations : List Integration}
    (hnormalize : normalize models declared = .ok integrations) (hsome : integrations ≠ []) :
    dialect = .v2 := by
  cases hbecomes with
  | empty =>
      cases hnormalize
      exact absurd rfl hsome
  | grouped hgroups => rfl

theorem operations_withoutEndpoints (integrations : List Integration) :
    (integrations.map Integration.withoutEndpoints).flatMap (·.operations) =
      (integrations.flatMap (·.operations)).map Operation.withoutEndpoints := by
  rw [List.flatMap_map, List.map_flatMap]
  rfl

/-- Operation names are compared without regard to endpoints. -/
theorem checkOperationNames_withoutEndpoints (ops : List Operation)
    (seen : List (String × String)) :
    checkOperationNames (ops.map Operation.withoutEndpoints) seen =
      checkOperationNames ops seen := by
  induction ops generalizing seen with
  | nil => rfl
  | cons op rest ih =>
      rw [List.map_cons, checkOperationNames, checkOperationNames]
      have hname : op.withoutEndpoints.name = op.name := rfl
      have hintegration : op.withoutEndpoints.integration = op.integration := rfl
      rw [hname, hintegration, ih]

theorem syncOutputModels_withoutEndpoints (integrations : List Integration) :
    syncOutputModels (integrations.map Integration.withoutEndpoints) =
      syncOutputModels integrations := by
  rw [syncOutputModels, syncOutputModels, List.flatMap_map]
  congr 1
  funext integration
  have hsyncs : integration.withoutEndpoints.syncs =
      integration.syncs.map Operation.withoutEndpoints := by
    rw [Integration.syncs, Integration.ofKind, Integration.withoutEndpoints, List.filter_map]
    rfl
  rw [hsyncs, List.flatMap_map]
  rfl

/-- A project comes from a document whose sections are read and pass the checks
of the project as a whole. -/
theorem projectOf_eq_ok_iff {path : String} {entries : List (Value × Value)} {project : Project} :
    projectOf path entries = .ok project ↔ ∃ declared,
      document (detectDialect entries) entries = .ok declared ∧
      buildModels declared.models = .ok project.models ∧
      normalize (project.models.map (·.name)) declared = .ok project.integrations ∧
      checkOperationNames (project.integrations.flatMap (·.operations)) [] = .ok () ∧
      checkSyncOutputs project.integrations project.models = .ok () ∧
      project.dialect = detectDialect entries := by
  rw [projectOf]
  cases hdocument : document (detectDialect entries) entries with
  | bad problems => simp
  | ok declared =>
      simp only [Outcome.bind_eq_ok_iff, Checked.ok.injEq, exists_eq_left']
      constructor
      · rintro ⟨models, hmodels, integrations, hnormalize, ⟨⟩, hnames, ⟨⟩, houtputs, heq⟩
        cases heq
        exact ⟨hmodels, hnormalize, hnames, houtputs, rfl⟩
      · rintro ⟨hmodels, hnormalize, hnames, houtputs, hdialect⟩
        refine ⟨_, hmodels, _, hnormalize, (), hnames, (), houtputs, ?_⟩
        rw [← hdialect]

end Normalize

end Schema

namespace Project

open Schema

theorem ofValue_eq_ok_iff {path : Path} {doc : Value} {project : Project} :
    ofValue path doc = .ok project ↔
      ∃ entries, doc = .mapping entries ∧ projectOf path.text entries = .ok project := by
  cases doc with
  | mapping entries =>
      rw [ofValue]
      cases hproject : projectOf path.text entries <;> simp [hproject]
  | _ => simp [ofValue]

/-- A flat document of syncs gives the same project after it is regrouped with
endpoints that are not blank: the same models, and the same integrations with
the same operations, each the same but for its endpoints. -/
theorem exists_ofValue_regroup {path : Path} {doc : Value} {project : Project}
    (hload : ofValue path doc = .ok project) (hdialect : dialectOf doc = .v1)
    (hsyncs : ∀ kind op, DeclaresOperation doc kind op → kind = .sync)
    (endpoint : Value → Value → String)
    (hendpoint : ∀ integration operation, ¬Text.Blank (endpoint integration operation).toList) :
    ∃ regrouped, ofValue path (regroup endpoint doc) = .ok regrouped ∧
      regrouped.models = project.models ∧
      regrouped.integrations.map Integration.withoutEndpoints = project.integrations ∧
      (project.integrations ≠ [] → regrouped.dialect = .v2) := by
  obtain ⟨entries, rfl, hproject⟩ := ofValue_eq_ok_iff.mp hload
  obtain ⟨declared, hdocument, hmodels, hnormalize, hnames, houtputs, -⟩ :=
    projectOf_eq_ok_iff.mp hproject
  have hwritten : ∀ bodies, Value.lookup entries "integrations" = some bodies →
      ∀ body ∈ membersOf bodies, ∀ entry ∈ membersOf body.2, writtenKind entry.2 = .sync := by
    intro bodies hbodies body hbody entry hentry
    have hsection : body.2 ∈ sectionOf (.mapping entries) "integrations" :=
      mem_sectionOf_iff.mpr ⟨bodies, hbodies, body, hbody, rfl⟩
    exact hsyncs _ _ (.flat hdialect hsection hentry)
  have hv1 : detectDialect entries = .v1 := hdialect
  rw [hv1] at hdocument
  obtain ⟨regrouped, hregrouped⟩ :
      ∃ regrouped, regrouped = mapEntries (regroupSection endpoint) entries := ⟨_, rfl⟩
  obtain ⟨after, hafter, hbecomes⟩ :=
    exists_document_regroup hdocument hwritten hendpoint hregrouped
  obtain ⟨integrations, hintegrations, hsame⟩ := exists_normalize hbecomes hnormalize
  -- What the last checks look at is the same on both sides.
  rw [← hsame, operations_withoutEndpoints, checkOperationNames_withoutEndpoints] at hnames
  rw [← hsame, checkSyncOutputs, syncOutputModels_withoutEndpoints, ← checkSyncOutputs] at houtputs
  rw [← hbecomes.models_eq] at hmodels
  refine ⟨⟨detectDialect regrouped, integrations, project.models⟩, ?_, rfl, hsame, ?_⟩
  · rw [regroup, mapItems, ← hregrouped]
    exact ofValue_eq_ok_iff.mpr ⟨regrouped, rfl, projectOf_eq_ok_iff.mpr
      ⟨after, hafter, hmodels, hintegrations, hnames, houtputs, rfl⟩⟩
  · exact hbecomes.dialect_eq hnormalize

/-- A flat document with a versioned sync, and with an integration that has no
operations. -/
def flatEntries : List (Value × Value) :=
  [(.text "integrations", .mapping
      [(.text "github", .mapping [(.text "issues", .mapping
        [(.text "returns", .list [.text "Issue"]), (.text "version", .int 2),
          (.text "webhook_subscriptions", .text "push")])]),
        (.text "slack", .null)]),
    (.text "models", .mapping [(.text "Issue", .mapping [(.text "id", .text "string"),
      (.text "author?", .mapping [(.text "login", .text "string")])])])]

/-- The integrations of these entries. -/
def flatIntegrations : List Integration :=
  [{ name := "github", operations := [
      { name := "issues", kind := .sync, integration := "github"
        output := [.model "Issue"], webhooks := ["push"]
        version := some (Value.int 2).describe }] },
    { name := "slack", operations := [] }]

theorem exists_ofValue_regroup_flatEntries :
    ofValue ⟨"/", ["nango.yaml"]⟩ (.mapping flatEntries) =
        .ok ⟨.v1, flatIntegrations, issueModels⟩ ∧
      ∃ regrouped, ofValue ⟨"/", ["nango.yaml"]⟩
          (regroup (fun _ _ => "GET /issues") (.mapping flatEntries)) = .ok regrouped ∧
        regrouped.models = issueModels ∧
        regrouped.integrations.map Integration.withoutEndpoints = flatIntegrations ∧
        regrouped.dialect = .v2 := by
  have hdocument : document .v1 flatEntries = .ok (.flat
      [("github", [("issues",
        { kind := .sync, runs := none, returns := some (.many ["Issue"]), input := none
          trackDeletes := false, autoStart := true, description := none, scopes := none
          version := some (Value.int 2).describe, webhooks := some (.one "push") })]),
        ("slack", [])]
      [("Issue", .mapping [(.text "id", .text "string"),
        (.text "author?", .mapping [(.text "login", .text "string")])])]) := by
    rfl
  have hissue : ∀ model field,
      TypeExpr.compileField "Issue" ["Issue", "IssueAuthor"] model field =
        .ok (.model "Issue") := by
    intro model field
    rw [TypeExpr.compileField, TypeExpr.compile_of_spaced
      (.mk false (.last (.term (.model "Issue" (by decide) (by decide)
        (by decide) (by decide))))) (Text.spaced_flatten _)]
    rfl
  have hproject : ofValue ⟨"/", ["nango.yaml"]⟩ (.mapping flatEntries) =
      .ok ⟨.v1, flatIntegrations, issueModels⟩ := by
    refine ofValue_eq_ok_iff.mpr ⟨_, rfl, projectOf_eq_ok_iff.mpr
      ⟨_, hdocument, buildModels_issueModels, ?_, rfl, rfl, rfl⟩⟩
    have hnames : issueModels.map (·.name) = ["Issue", "IssueAuthor"] := by rfl
    rw [hnames, Schema.normalize]
    simp only [List.mapM_cons, List.mapM_nil, flatIntegration, ofFlat, signature,
      operationTypes, textsOf, TextOrList.toList, hissue, bind, Except.bind, pure, Except.pure,
      Option.toList]
    rfl
  have hsyncs : ∀ kind op, DeclaresOperation (.mapping flatEntries) kind op → kind = .sync := by
    intro kind op hop
    cases hop with
    | flat hdialect hbody hop =>
        have hwritten : ∀ body ∈ sectionOf (.mapping flatEntries) "integrations",
            ∀ entry ∈ membersOf body, writtenKind entry.2 = .sync := by
          simp [sectionOf, membersOf, Value.entries?, Value.lookup, flatEntries, writtenKind]
        exact hwritten _ hbody _ hop
    | sync hdialect hbody hop => cases hdialect
    | action hdialect hbody hop => cases hdialect
  obtain ⟨regrouped, hregrouped, hmodels, hintegrations, hgrouped⟩ :=
    exists_ofValue_regroup hproject rfl hsyncs (fun _ _ => "GET /issues") (fun _ _ => by decide)
  exact ⟨hproject, regrouped, hregrouped, hmodels, hintegrations, hgrouped (by decide)⟩

end Project

end IntegrationBuild
