import Mathlib.Data.List.Forall2
import IntegrationBuild.Schema.Checked

/-!
When checks give a result.  Checks that run side by side give one when each of
them does; a record gives one when its fields do and no key is left over; a
mapping gives one when all of its entries do, and later entries of a key take
the place of earlier ones.
-/

namespace IntegrationBuild.Schema

namespace Checked

variable {α β : Type}

theorem map_eq_ok_iff {f : α → β} {check : Checked α} {result : β} :
    f <$> check = .ok result ↔ ∃ value, check = .ok value ∧ f value = result := by
  cases check with
  | ok value => simp [Functor.map, map]
  | bad problems => simp [Functor.map, map]

theorem seq_eq_ok_iff {function : Checked (α → β)} {check : Checked α} {result : β} :
    function <*> check = .ok result ↔
      ∃ f value, function = .ok f ∧ check = .ok value ∧ f value = result := by
  cases function with
  | ok f => cases check <;> simp [Seq.seq, ap]
  | bad problems => cases check <;> simp [Seq.seq, ap]

theorem andThen_eq_ok_iff {check : Checked α} {next : α → Checked β} {result : β} :
    check.andThen next = .ok result ↔ ∃ value, check = .ok value ∧ next value = .ok result := by
  cases check with
  | ok value => simp [andThen]
  | bad problems => simp [andThen]

@[simp]
theorem inside_eq_ok_iff {check : Checked α} {key : String} {result : α} :
    check.inside key = .ok result ↔ check = .ok result := by
  cases check with
  | ok value => rfl
  | bad problems => simp [inside]

theorem withProblems_eq_ok_iff {check : Checked α} {more : List Problem} {result : α} :
    check.withProblems more = .ok result ↔ check = .ok result ∧ more = [] := by
  cases check with
  | ok value => cases more <;> simp [withProblems]
  | bad problems => cases more <;> simp [withProblems]

/-- Checks side by side give the results of each. -/
theorem all_eq_ok_iff {checks : List (Checked α)} {results : List α} :
    all checks = .ok results ↔
      List.Forall₂ (fun check result => check = .ok result) checks results := by
  induction checks generalizing results with
  | nil => cases results <;> simp [all]
  | cons check checks ih =>
      have hstep : all (check :: checks) =
          (fun first rest => first :: rest) <$> check <*> all checks := rfl
      rw [hstep, seq_eq_ok_iff]
      constructor
      · rintro ⟨f, rest, hf, hrest, rfl⟩
        obtain ⟨first, hfirst, rfl⟩ := map_eq_ok_iff.mp hf
        exact .cons hfirst (ih.mp hrest)
      · intro hall
        cases hall with
        | cons hfirst hrest =>
            exact ⟨_, _, map_eq_ok_iff.mpr ⟨_, hfirst, rfl⟩, ih.mpr hrest, rfl⟩

end Checked

theorem oneOf_eq_ok_iff {α : Type} {choices : List (String × α)} {value : Value} {result : α} :
    oneOf choices value = .ok result ↔
      ∃ word, value = .text word ∧ choices.lookup word = some result := by
  cases value with
  | text word =>
      rw [oneOf]
      cases hlookup : choices.lookup word <;> simp [hlookup, Checked.fail]
  | _ => simp [oneOf, Checked.fail]

section Fields

variable {α : Type} {entries : List (Value × Value)}

theorem findField_singleton (spelling : String) :
    findField entries [spelling] =
      (Value.lookup entries spelling).map fun value => (spelling, value) := by
  rw [findField]
  cases Value.lookup entries spelling <;> rfl

/-- The field found is an entry under one of the spellings. -/
theorem of_findField {spellings : List String} {spelling : String} {value : Value}
    (hfind : findField entries spellings = some (spelling, value)) :
    spelling ∈ spellings ∧ Value.lookup entries spelling = some value := by
  induction spellings with
  | nil => simp [findField] at hfind
  | cons first rest ih =>
      rw [findField] at hfind
      split at hfind
      · next hlookup =>
        cases hfind
        exact ⟨List.mem_cons_self, hlookup⟩
      · obtain ⟨hmem, hlookup⟩ := ih hfind
        exact ⟨List.mem_cons_of_mem _ hmem, hlookup⟩

/-- A field that may be left out has its default or is read from its entry. -/
theorem field_eq_ok_iff {spellings : List String} {default result : α}
    {check : Value → Checked α} :
    field entries spellings default check = .ok result ↔
      (findField entries spellings = none ∧ default = result) ∨
        ∃ spelling value, findField entries spellings = some (spelling, value) ∧
          check value = .ok result := by
  rw [field]
  cases findField entries spellings with
  | none => simp
  | some found =>
      obtain ⟨spelling, value⟩ := found
      simp

/-- A field under one key is read from that key. -/
theorem check_of_field {spelling : String} {default result : α} {check : Value → Checked α}
    (hread : field entries [spelling] default check = .ok result) {value : Value}
    (hlookup : Value.lookup entries spelling = some value) : check value = .ok result := by
  rw [field, findField_singleton, hlookup] at hread
  exact Checked.inside_eq_ok_iff.mp hread

theorem requiredField_eq_ok_iff {spelling : String} {result : α}
    {check : Value → Checked α} :
    requiredField entries spelling check = .ok result ↔
      ∃ value, Value.lookup entries spelling = some value ∧ check value = .ok result := by
  rw [requiredField]
  cases Value.lookup entries spelling with
  | none => simp [Checked.fail]
  | some value => simp

/-- No key is left over when each one is the spelling found for a field. -/
theorem extraProblems_eq_nil_iff {fields : List (List String)} :
    extraProblems entries fields = [] ↔
      ∀ entry ∈ entries, ∃ spellings ∈ fields, ∃ name value,
        entry.1 = .text name ∧ findField entries spellings = some (name, value) := by
  rw [extraProblems, List.filterMap_eq_nil_iff]
  refine forall_congr' fun entry => imp_congr_right fun _ => ?_
  obtain ⟨key, item⟩ := entry
  cases key with
  | text name =>
      simp only [ite_eq_left_iff, reduceCtorEq, imp_false, not_not, List.contains_iff_mem,
        List.mem_filterMap, Option.map_eq_some_iff, Value.text.injEq]
      constructor
      · rintro ⟨spellings, hspellings, ⟨_, value⟩, hfind, rfl⟩
        exact ⟨spellings, hspellings, _, value, rfl, hfind⟩
      · rintro ⟨spellings, hspellings, _, value, rfl, hfind⟩
        exact ⟨spellings, hspellings, _, hfind, rfl⟩
  | _ => simp

theorem mem_of_lookup {entries : List (Value × Value)} {key : String} {value : Value}
    (hlookup : Value.lookup entries key = some value) : (.text key, value) ∈ entries := by
  fun_induction Value.lookup entries key with
  | case1 => simp at hlookup
  | case2 k v rest hkey =>
      cases hlookup
      rw [beq_iff_eq] at hkey
      rw [hkey]
      exact List.mem_cons_self
  | case3 k v rest hkey ih => exact List.mem_cons_of_mem _ (ih hlookup)
  | case4 entry rest hentry ih => exact List.mem_cons_of_mem _ (ih hlookup)

/-- When no key is left over, each key of a record is found by some field. -/
theorem exists_findField_of_lookup {fields : List (List String)}
    (hkeys : extraProblems entries fields = []) {name : String} {value : Value}
    (hlookup : Value.lookup entries name = some value) :
    ∃ spellings ∈ fields, findField entries spellings = some (name, value) := by
  obtain ⟨spellings, hspellings, other, item, hname, hfind⟩ :=
    extraProblems_eq_nil_iff.mp hkeys _ (mem_of_lookup hlookup)
  cases hname
  have hitem := (of_findField hfind).2
  rw [hlookup] at hitem
  cases hitem
  exact ⟨spellings, hspellings, hfind⟩

theorem lookup_eq_none_of_extraProblems {fields : List (List String)}
    (hkeys : extraProblems entries fields = []) {name : String}
    (hname : ∀ spellings ∈ fields, name ∉ spellings) : Value.lookup entries name = none := by
  cases hlookup : Value.lookup entries name with
  | none => rfl
  | some value =>
      obtain ⟨spellings, hspellings, hfind⟩ := exists_findField_of_lookup hkeys hlookup
      exact absurd (of_findField hfind).1 (hname spellings hspellings)

theorem findField_congr {others : List (Value × Value)} {spellings : List String}
    (hsame : ∀ spelling ∈ spellings,
      Value.lookup others spelling = Value.lookup entries spelling) :
    findField others spellings = findField entries spellings := by
  induction spellings with
  | nil => rfl
  | cons spelling rest ih =>
      rw [findField, findField, hsame spelling List.mem_cons_self,
        ih fun other hother => hsame other (List.mem_cons_of_mem _ hother)]

/-- A record gives a result when its fields do and it has no other keys. -/
theorem record_eq_ok_iff {kind : String} {fields : List (List String)}
    {check : List (Value × Value) → Checked α} {value : Value} {result : α} :
    record kind fields check value = .ok result ↔
      ∃ entries, value = .mapping entries ∧ check entries = .ok result ∧
        extraProblems entries fields = [] := by
  cases value with
  | mapping entries => simp [record, Checked.withProblems_eq_ok_iff]
  | _ => simp [record, Checked.fail]

end Fields

section Mappings

variable {α β : Type}

/-- Puts an entry among others: a known key keeps its place and takes the new
value, a new key goes to the end. -/
def putPair (known : List (String × α)) (pair : String × α) : List (String × α) :=
  if known.any (·.1 == pair.1) then
    known.map fun (key, value) => if key == pair.1 then (key, pair.2) else (key, value)
  else known ++ [pair]

/-- The entries of a mapping, where the last value of a key counts. -/
def settle (pairs : List (String × α)) : List (String × α) :=
  pairs.foldl putPair []

theorem mappingOf_mapping (check : Value → Checked α) (entries : List (Value × Value)) :
    mappingOf check (.mapping entries) =
      settle <$> Checked.all (entries.map fun entry =>
        Prod.mk <$> ((text entry.1).inside "[key]").inside (keyText entry.1) <*>
          (check entry.2).inside (keyText entry.1)) :=
  rfl

/-- A mapping gives a result when every key is a text and every value passes. -/
theorem mappingOf_eq_ok_iff {check : Value → Checked α} {value : Value}
    {result : List (String × α)} :
    mappingOf check value = .ok result ↔
      ∃ entries pairs, value = .mapping entries ∧
        List.Forall₂ (fun entry pair => text entry.1 = .ok pair.1 ∧
          check entry.2 = .ok pair.2) entries pairs ∧
        settle pairs = result := by
  cases value with
  | mapping entries =>
      have hentry : ∀ entry : Value × Value, ∀ pair : String × α,
          Prod.mk <$> ((text entry.1).inside "[key]").inside (keyText entry.1) <*>
              (check entry.2).inside (keyText entry.1) = .ok pair ↔
            text entry.1 = .ok pair.1 ∧ check entry.2 = .ok pair.2 := by
        rintro entry ⟨key, item⟩
        simp [Checked.seq_eq_ok_iff, Checked.map_eq_ok_iff]
      rw [mappingOf_mapping, Checked.map_eq_ok_iff]
      simp only [Checked.all_eq_ok_iff, List.forall₂_map_left_iff, hentry,
        Value.mapping.injEq, exists_and_left, exists_eq_left']
  | _ => simp [mappingOf, Checked.fail]

/-- Entries with the same key and related values. -/
def Alike (R : α → β → Prop) (first : String × α) (second : String × β) : Prop :=
  first.1 = second.1 ∧ R first.2 second.2

theorem forall₂_putPair {R : α → β → Prop} {known : List (String × α)}
    {others : List (String × β)} (hknown : List.Forall₂ (Alike R) known others)
    {pair : String × α} {other : String × β} (hpair : Alike R pair other) :
    List.Forall₂ (Alike R) (putPair known pair) (putPair others other) := by
  have hany : known.any (·.1 == pair.1) = others.any (·.1 == other.1) := by
    rw [← hpair.1]
    induction hknown with
    | nil => rfl
    | cons hfirst _ ih => rw [List.any_cons, List.any_cons, hfirst.1, ih]
  rw [putPair, putPair, hany]
  split
  · rw [List.forall₂_map_left_iff, List.forall₂_map_right_iff]
    refine hknown.imp fun first second hsame => ?_
    dsimp only
    rw [hsame.1, hpair.1]
    split
    · exact ⟨rfl, hpair.2⟩
    · exact ⟨rfl, hsame.2⟩
  · exact List.rel_append hknown (.cons hpair .nil)

theorem forall₂_settle {R : α → β → Prop} {pairs : List (String × α)}
    {others : List (String × β)} (hpairs : List.Forall₂ (Alike R) pairs others) :
    List.Forall₂ (Alike R) (settle pairs) (settle others) := by
  apply List.rel_foldl (P := List.Forall₂ (Alike R)) _ List.Forall₂.nil hpairs
  intro known known' hknown pair pair' hpair
  exact forall₂_putPair hknown hpair

end Mappings

end IntegrationBuild.Schema
