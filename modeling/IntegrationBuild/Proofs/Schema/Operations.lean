import IntegrationBuild.Proofs.Schema.Checked
import IntegrationBuild.Schema.Document

/-!
What the checks of operations and documents read.  An operation is accepted when
each of its fields is read, no key is left over, and the rule about its fields as
a whole holds; the result has what was read.
-/

namespace IntegrationBuild.Schema

/-- The fields of an operation of the flat form, each read from the entries. -/
structure FlatOperation.Reads (entries : List (Value × Value)) (op : FlatOperation) :
    Prop where
  kind : field entries ["type"] .sync
    (oneOf [("sync", OperationKind.sync), ("action", OperationKind.action)]) = .ok op.kind
  runs : field entries ["runs"] none (nullable text) = .ok op.runs
  returns : field entries ["returns"] none (nullable textOrList) = .ok op.returns
  input : field entries ["input"] none (nullable text) = .ok op.input
  trackDeletes : field entries ["track_deletes"] false truth = .ok op.trackDeletes
  autoStart : field entries ["auto_start"] true truth = .ok op.autoStart
  description : field entries ["description"] none (nullable text) = .ok op.description
  scopes : field entries ["scopes"] none (nullable textOrList) = .ok op.scopes
  version : field entries ["version"] none Schema.version = .ok op.version
  webhooks : field entries webhookSpellings none (nullable textOrList) = .ok op.webhooks
  keys : extraProblems entries flatFields = []

/-- The fields of a sync of the grouped form, each read from the entries. -/
structure SyncEntry.Reads (entries : List (Value × Value)) (sync : SyncEntry) : Prop where
  kind : field entries ["type"] () (oneOf [("sync", ())]) = .ok ()
  runs : field entries ["runs"] none (nullable text) = .ok sync.runs
  endpoint : requiredField entries "endpoint" syncEndpoint = .ok sync.endpoint
  output : field entries ["output"] none (nullable textOrList) = .ok sync.output
  input : field entries ["input"] none (nullable text) = .ok sync.input
  syncType : field entries ["sync_type"] none
    (nullable (oneOf [("full", "full"), ("incremental", "incremental")])) = .ok sync.syncType
  trackDeletes : field entries ["track_deletes"] false truth = .ok sync.trackDeletes
  autoStart : field entries ["auto_start"] true truth = .ok sync.autoStart
  description : field entries ["description"] none (nullable text) = .ok sync.description
  scopes : field entries ["scopes"] none (nullable textOrList) = .ok sync.scopes
  version : field entries ["version"] none Schema.version = .ok sync.version
  webhooks : field entries webhookSpellings none (nullable textOrList) = .ok sync.webhooks
  keys : extraProblems entries syncFields = []

/-- The fields of an action of the grouped form, each read from the entries. -/
structure ActionEntry.Reads (entries : List (Value × Value)) (action : ActionEntry) :
    Prop where
  kind : field entries ["type"] () (oneOf [("action", ())]) = .ok ()
  endpoint : field entries ["endpoint"] none (nullable textOrList) = .ok action.endpoint
  output : field entries ["output"] none (nullable textOrList) = .ok action.output
  input : field entries ["input"] none (nullable text) = .ok action.input
  description : field entries ["description"] none (nullable text) = .ok action.description
  scopes : field entries ["scopes"] none (nullable textOrList) = .ok action.scopes
  version : field entries ["version"] none Schema.version = .ok action.version
  keys : extraProblems entries actionFields = []

open Checked

theorem flatOperation_eq_ok {value : Value} {op : FlatOperation}
    (hop : flatOperation value = .ok op) :
    ∃ entries, value = .mapping entries ∧ op.Reads entries ∧
      (op.kind = .action → hasContent op.webhooks = false) := by
  obtain ⟨read, hrecord, hrule⟩ := andThen_eq_ok_iff.mp hop
  obtain ⟨entries, rfl, hread, hkeys⟩ := record_eq_ok_iff.mp hrecord
  have hwhole : read = op ∧ (read.kind = .action → hasContent read.webhooks = false) := by
    split at hrule
    · cases hrule
    · next hnot =>
      cases hrule
      simpa using hnot
  obtain ⟨rfl, hwebhookRule⟩ := hwhole
  refine ⟨entries, rfl, ?_, hwebhookRule⟩
  obtain ⟨_, _, hrest₁, hwebhooks, rfl⟩ := seq_eq_ok_iff.mp hread
  obtain ⟨_, _, hrest₂, hversion, rfl⟩ := seq_eq_ok_iff.mp hrest₁
  obtain ⟨_, _, hrest₃, hscopes, rfl⟩ := seq_eq_ok_iff.mp hrest₂
  obtain ⟨_, _, hrest₄, hdescription, rfl⟩ := seq_eq_ok_iff.mp hrest₃
  obtain ⟨_, _, hrest₅, hautoStart, rfl⟩ := seq_eq_ok_iff.mp hrest₄
  obtain ⟨_, _, hrest₆, htrackDeletes, rfl⟩ := seq_eq_ok_iff.mp hrest₅
  obtain ⟨_, _, hrest₇, hinput, rfl⟩ := seq_eq_ok_iff.mp hrest₆
  obtain ⟨_, _, hrest₈, hreturns, rfl⟩ := seq_eq_ok_iff.mp hrest₇
  obtain ⟨_, _, hrest₉, hruns, rfl⟩ := seq_eq_ok_iff.mp hrest₈
  obtain ⟨_, hkind, rfl⟩ := map_eq_ok_iff.mp hrest₉
  exact ⟨hkind, hruns, hreturns, hinput, htrackDeletes, hautoStart, hdescription, hscopes,
    hversion, hwebhooks, hkeys⟩

theorem syncEntry_eq_ok_iff {value : Value} {sync : SyncEntry} :
    syncEntry value = .ok sync ↔ ∃ entries, value = .mapping entries ∧ sync.Reads entries := by
  rw [syncEntry, record_eq_ok_iff]
  refine exists_congr fun entries => and_congr_right fun _ => ?_
  constructor
  · rintro ⟨hread, hkeys⟩
    obtain ⟨_, _, hrest₁, hwebhooks, rfl⟩ := seq_eq_ok_iff.mp hread
    obtain ⟨_, _, hrest₂, hversion, rfl⟩ := seq_eq_ok_iff.mp hrest₁
    obtain ⟨_, _, hrest₃, hscopes, rfl⟩ := seq_eq_ok_iff.mp hrest₂
    obtain ⟨_, _, hrest₄, hdescription, rfl⟩ := seq_eq_ok_iff.mp hrest₃
    obtain ⟨_, _, hrest₅, hautoStart, rfl⟩ := seq_eq_ok_iff.mp hrest₄
    obtain ⟨_, _, hrest₆, htrackDeletes, rfl⟩ := seq_eq_ok_iff.mp hrest₅
    obtain ⟨_, _, hrest₇, hsyncType, rfl⟩ := seq_eq_ok_iff.mp hrest₆
    obtain ⟨_, _, hrest₈, hinput, rfl⟩ := seq_eq_ok_iff.mp hrest₇
    obtain ⟨_, _, hrest₉, houtput, rfl⟩ := seq_eq_ok_iff.mp hrest₈
    obtain ⟨_, _, hrest₁₀, hendpoint, rfl⟩ := seq_eq_ok_iff.mp hrest₉
    obtain ⟨_, _, hrest₁₁, hruns, rfl⟩ := seq_eq_ok_iff.mp hrest₁₀
    obtain ⟨_, hkind, rfl⟩ := map_eq_ok_iff.mp hrest₁₁
    exact ⟨hkind, hruns, hendpoint, houtput, hinput, hsyncType, htrackDeletes, hautoStart,
      hdescription, hscopes, hversion, hwebhooks, hkeys⟩
  · intro hreads
    refine ⟨?_, hreads.keys⟩
    rw [hreads.kind, hreads.runs, hreads.endpoint, hreads.output, hreads.input,
      hreads.syncType, hreads.trackDeletes, hreads.autoStart, hreads.description,
      hreads.scopes, hreads.version, hreads.webhooks]
    rfl

theorem actionEntry_eq_ok {value : Value} {action : ActionEntry}
    (haction : actionEntry value = .ok action) :
    ∃ entries, value = .mapping entries ∧ action.Reads entries ∧
      (hasContent action.output = true ∨ action.input.getD "" ≠ "" →
        hasContent action.endpoint = true) := by
  obtain ⟨read, hrecord, hrule⟩ := andThen_eq_ok_iff.mp haction
  obtain ⟨entries, rfl, hread, hkeys⟩ := record_eq_ok_iff.mp hrecord
  have hwhole : read = action ∧ (hasContent read.output = true ∨ read.input.getD "" ≠ "" →
      hasContent read.endpoint = true) := by
    dsimp only at hrule
    split at hrule
    · cases hrule
    · next hnot =>
      cases hrule
      simpa using hnot
  obtain ⟨rfl, hendpointRule⟩ := hwhole
  refine ⟨entries, rfl, ?_, hendpointRule⟩
  obtain ⟨_, _, hrest₁, hversion, rfl⟩ := seq_eq_ok_iff.mp hread
  obtain ⟨_, _, hrest₂, hscopes, rfl⟩ := seq_eq_ok_iff.mp hrest₁
  obtain ⟨_, _, hrest₃, hdescription, rfl⟩ := seq_eq_ok_iff.mp hrest₂
  obtain ⟨_, _, hrest₄, hinput, rfl⟩ := seq_eq_ok_iff.mp hrest₃
  obtain ⟨_, _, hrest₅, houtput, rfl⟩ := seq_eq_ok_iff.mp hrest₄
  obtain ⟨_, _, hrest₆, hendpoint, rfl⟩ := seq_eq_ok_iff.mp hrest₅
  obtain ⟨_, hkind, rfl⟩ := map_eq_ok_iff.mp hrest₆
  exact ⟨hkind, hendpoint, houtput, hinput, hdescription, hscopes, hversion, hkeys⟩

theorem document_v1_eq_ok_iff {entries : List (Value × Value)} {declared : Document} :
    document .v1 entries = .ok declared ↔ ∃ bodies models,
      requiredField entries "integrations" (integrations (mappingOf flatOperation)) =
        .ok bodies ∧
      field entries ["models"] [] modelSection = .ok models ∧
      extraProblems entries documentFields = [] ∧ declared = .flat bodies models := by
  rw [document, withProblems_eq_ok_iff]
  constructor
  · rintro ⟨hread, hkeys⟩
    obtain ⟨_, models, hrest, hmodels, rfl⟩ := seq_eq_ok_iff.mp hread
    obtain ⟨bodies, hbodies, rfl⟩ := map_eq_ok_iff.mp hrest
    exact ⟨bodies, models, hbodies, hmodels, hkeys, rfl⟩
  · rintro ⟨bodies, models, hbodies, hmodels, hkeys, rfl⟩
    refine ⟨?_, hkeys⟩
    rw [hbodies, hmodels]
    rfl

theorem document_v2_eq_ok_iff {entries : List (Value × Value)} {declared : Document} :
    document .v2 entries = .ok declared ↔ ∃ bodies models,
      requiredField entries "integrations" (integrations groupedIntegration) = .ok bodies ∧
      field entries ["models"] [] modelSection = .ok models ∧
      extraProblems entries documentFields = [] ∧ declared = .grouped bodies models := by
  rw [document, withProblems_eq_ok_iff]
  constructor
  · rintro ⟨hread, hkeys⟩
    obtain ⟨_, models, hrest, hmodels, rfl⟩ := seq_eq_ok_iff.mp hread
    obtain ⟨bodies, hbodies, rfl⟩ := map_eq_ok_iff.mp hrest
    exact ⟨bodies, models, hbodies, hmodels, hkeys, rfl⟩
  · rintro ⟨bodies, models, hbodies, hmodels, hkeys, rfl⟩
    refine ⟨?_, hkeys⟩
    rw [hbodies, hmodels]
    rfl

end IntegrationBuild.Schema
