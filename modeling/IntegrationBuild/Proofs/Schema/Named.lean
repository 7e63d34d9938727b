import Mathlib.Tactic.SplitIfs
import IntegrationBuild.Schema.Document
import IntegrationBuild.Settings.Basic

/-!
Checks that fail name a problem.  This is kept when checks run side by side, one
after the other or on the values of a mapping, and so it holds of whole documents
and of settings.
-/

namespace IntegrationBuild

namespace Schema

namespace Checked

variable {α β : Type}

/-- A check that names a problem if it fails. -/
def Named : Checked α → Prop
  | .ok _ => True
  | .bad problems => problems ≠ []

@[simp]
theorem named_ok (value : α) : (Checked.ok value).Named :=
  trivial

@[simp]
theorem named_fail (message : String) : (fail message : Checked α).Named := by
  simp [fail, Named]

@[simp]
theorem named_map_iff {f : α → β} {check : Checked α} : (check.map f).Named ↔ check.Named := by
  cases check <;> simp [map, Named]

@[simp]
theorem named_functor_map_iff {f : α → β} {check : Checked α} :
    (f <$> check).Named ↔ check.Named :=
  named_map_iff

@[simp]
theorem named_inside_iff {check : Checked α} {key : String} :
    (check.inside key).Named ↔ check.Named := by
  cases check <;> simp [inside, Named]

/-- Of two checks side by side, one that fails names a problem. -/
theorem named_seq {f : Checked (α → β)} {check : Checked α} (hf : f.Named)
    (hcheck : check.Named) : (f <*> check).Named := by
  cases f with
  | ok f =>
      cases check with
      | ok value => trivial
      | bad more => exact hcheck
  | bad problems =>
      cases check with
      | ok value => exact hf
      | bad more => exact List.append_ne_nil_of_left_ne_nil hf more

theorem Named.andThen {check : Checked α} {next : α → Checked β} (hcheck : check.Named)
    (hnext : ∀ value, (next value).Named) : (check.andThen next).Named := by
  cases check with
  | ok value => exact hnext value
  | bad problems => exact hcheck

@[simp]
theorem named_withProblems {check : Checked α} {more : List Problem} (hcheck : check.Named) :
    (check.withProblems more).Named := by
  cases check with
  | ok value => cases more <;> simp [withProblems, Named]
  | bad problems => exact List.append_ne_nil_of_left_ne_nil hcheck more

@[simp]
theorem named_all_map {γ : Type} {step : γ → Checked α} (hstep : ∀ item, (step item).Named)
    (items : List γ) : (all (items.map step)).Named := by
  induction items with
  | nil => trivial
  | cons item rest ih =>
      exact named_seq (f := (step item).map fun first rest => first :: rest)
        (named_map_iff.mpr (hstep item)) ih

end Checked

open Checked

section Values

variable {α : Type}

@[simp]
theorem named_text (value : Value) : (text value).Named := by
  unfold text
  split
  · simp
  · split <;> simp
  · simp

@[simp]
theorem named_nullable {check : Value → Checked α} (hcheck : ∀ value, (check value).Named)
    (value : Value) : (nullable check value).Named := by
  unfold nullable
  split <;> simp [hcheck]

@[simp]
theorem named_textOrList (value : Value) : (textOrList value).Named := by
  have htext := named_text value
  unfold textOrList
  cases hread : text value with
  | ok s => simp
  | bad asText =>
      rw [hread] at htext
      cases textList value with
      | ok items => simp
      | bad asList =>
          exact List.append_ne_nil_of_left_ne_nil (mt List.map_eq_nil_iff.mp htext) _

@[simp]
theorem named_wordTruth (word : String) : (wordTruth word).Named := by
  unfold wordTruth
  dsimp only
  split_ifs <;> simp

@[simp]
theorem named_numberTruth (n : Int) : (numberTruth n).Named := by
  unfold numberTruth
  split_ifs <;> simp

@[simp]
theorem named_truth (value : Value) : (truth value).Named := by
  cases value with
  | float x =>
      unfold truth
      dsimp only
      split <;> simp
  | bytes b =>
      unfold truth
      dsimp only
      split <;> simp
  | _ => simp [truth]

@[simp]
theorem named_oneOf (choices : List (String × α)) (value : Value) :
    (oneOf choices value).Named := by
  cases value with
  | text word =>
      unfold oneOf
      dsimp only
      split <;> simp
  | _ => simp [oneOf]

@[simp]
theorem named_version (value : Value) : (version value).Named := by
  unfold version
  split <;> simp

@[simp]
theorem named_mappingOf {check : Value → Checked α} (hcheck : ∀ value, (check value).Named)
    (value : Value) : (mappingOf check value).Named := by
  cases value with
  | mapping entries =>
      refine named_map_iff.mpr (named_all_map (fun entry => named_seq ?_ ?_) entries)
      · simp
      · simp [hcheck]
  | _ => simp [mappingOf]

@[simp]
theorem named_field {entries : List (Value × Value)} {spellings : List String} {default : α}
    {check : Value → Checked α} (hcheck : ∀ value, (check value).Named) :
    (field entries spellings default check).Named := by
  unfold field
  split <;> simp [hcheck]

@[simp]
theorem named_requiredField {entries : List (Value × Value)} {spelling : String}
    {check : Value → Checked α} (hcheck : ∀ value, (check value).Named) :
    (requiredField entries spelling check).Named := by
  unfold requiredField
  split <;> simp [hcheck]

theorem named_record {kind : String} {fields : List (List String)}
    {check : List (Value × Value) → Checked α} (hcheck : ∀ entries, (check entries).Named)
    (value : Value) : (record kind fields check value).Named := by
  cases value with
  | mapping entries => simp [record, hcheck]
  | _ => simp [record]

end Values

@[simp]
theorem named_flatOperation (value : Value) : (flatOperation value).Named := by
  refine Named.andThen (named_record (fun entries => ?_) value) fun operation => ?_
  · repeat' apply named_seq
    all_goals simp
  · split_ifs <;> simp

@[simp]
theorem named_syncEndpoint (value : Value) : (syncEndpoint value).Named := by
  refine Named.andThen (named_textOrList value) fun endpoints => ?_
  split_ifs <;> simp

@[simp]
theorem named_syncEntry (value : Value) : (syncEntry value).Named := by
  refine named_record (fun entries => ?_) value
  repeat' apply named_seq
  all_goals simp

@[simp]
theorem named_actionEntry (value : Value) : (actionEntry value).Named := by
  refine Named.andThen (named_record (fun entries => ?_) value) fun action => ?_
  · repeat' apply named_seq
    all_goals simp
  · dsimp only
    split_ifs <;> simp

@[simp]
theorem named_groupedIntegration (value : Value) : (groupedIntegration value).Named := by
  refine named_record (fun entries => named_seq ?_ ?_) value
  · simp
  · simp

theorem named_integrations {α : Type} {check : Value → Checked α}
    (hcheck : ∀ value, (check value).Named) (value : Value) : (integrations check value).Named :=
  named_mappingOf (fun body => hcheck (nullAsEmpty body)) value

theorem named_modelSection (value : Value) : (modelSection value).Named :=
  named_mappingOf (fun body => named_ok body) (nullAsEmpty value)

/-- A document that is refused has a problem. -/
theorem named_document (dialect : Dialect) (entries : List (Value × Value)) :
    (document dialect entries).Named := by
  unfold document
  refine named_withProblems ?_
  have hmodels : (field entries ["models"] [] modelSection).Named :=
    named_field named_modelSection
  cases dialect with
  | v1 =>
      refine named_seq (named_functor_map_iff.mpr (named_requiredField ?_)) hmodels
      exact named_integrations (named_mappingOf named_flatOperation)
  | v2 =>
      refine named_seq (named_functor_map_iff.mpr (named_requiredField ?_)) hmodels
      exact named_integrations named_groupedIntegration

end Schema

namespace Settings

open Schema.Checked

@[simp]
theorem named_moduleFile (value : Value) : (moduleFile value).Named := by
  cases value with
  | text file =>
      rw [moduleFile]
      cases isModuleFile file <;> simp
  | _ => simp [moduleFile]

@[simp]
theorem named_wholeNumber (value : Value) : (wholeNumber value).Named := by
  unfold wholeNumber
  repeat' split
  all_goals simp

@[simp]
theorem named_workerCount (value : Value) : (workerCount value).Named := by
  unfold workerCount
  refine Named.andThen (named_wholeNumber value) fun n => ?_
  split_ifs <;> simp

/-- Settings that are refused have a problem. -/
theorem named_ofEntries (entries : List (Value × Value)) : (ofEntries entries).Named := by
  unfold ofEntries
  refine named_withProblems ?_
  repeat' apply named_seq
  all_goals simp

end Settings

end IntegrationBuild
