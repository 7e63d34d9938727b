import Mathlib.Data.List.Forall2

/-!
Steps that may fail: when a chain of them, or one step on every item of a
list, gives a result.
-/

namespace IntegrationBuild.Outcome

universe u v

variable {ε : Type u} {α β : Type v}

theorem bind_eq_ok_iff {first : Except ε α} {next : α → Except ε β}
    {result : β} :
    first >>= next = .ok result ↔
      ∃ value, first = .ok value ∧ next value = .ok result := by
  cases first with
  | error fault => simp [bind, Except.bind]
  | ok value => simp [bind, Except.bind]

theorem bind_eq_error_iff {first : Except ε α} {next : α → Except ε β} {fault : ε} :
    first >>= next = .error fault ↔
      first = .error fault ∨ ∃ value, first = .ok value ∧ next value = .error fault := by
  cases first with
  | error other => simp [bind, Except.bind]
  | ok value => simp [bind, Except.bind]

theorem map_eq_ok_iff {first : Except ε α} {f : α → β} {result : β} :
    first.map f = .ok result ↔ ∃ value, first = .ok value ∧ f value = result := by
  cases first with
  | error fault => simp [Except.map]
  | ok value => simp [Except.map]

theorem map_eq_error_iff {first : Except ε α} {f : α → β} {fault : ε} :
    first.map f = .error fault ↔ first = .error fault := by
  cases first with
  | error other => simp [Except.map]
  | ok value => simp [Except.map]

theorem mapError_eq_ok_iff {ε' : Type u} {first : Except ε α} {f : ε → ε'} {result : α} :
    first.mapError f = .ok result ↔ first = .ok result := by
  cases first with
  | error fault => simp [Except.mapError]
  | ok value => simp [Except.mapError]

/-- A computation shows that a step gives a result with a property. -/
theorem exists_ok_of_decide {first : Except ε α} {P : α → Prop} [DecidablePred P]
    (hholds : first.toOption.any (fun value => decide (P value)) = true) :
    ∃ value, first = .ok value ∧ P value := by
  cases first with
  | error fault => simp [Except.toOption] at hholds
  | ok value => exact ⟨value, rfl, by simpa [Except.toOption] using hholds⟩

/-- A step gives results on a whole list when it gives one on every item. -/
theorem mapM_eq_ok_iff {step : α → Except ε β} {items : List α}
    {results : List β} :
    items.mapM step = .ok results ↔
      List.Forall₂ (fun item result => step item = .ok result) items results := by
  induction items generalizing results with
  | nil => cases results <;> simp [pure, Except.pure]
  | cons item rest ih =>
      rw [List.mapM_cons, bind_eq_ok_iff]
      constructor
      · rintro ⟨first, hfirst, hrest⟩
        obtain ⟨others, hothers, hresults⟩ := bind_eq_ok_iff.mp hrest
        cases hresults
        exact .cons hfirst (ih.mp hothers)
      · intro hall
        cases hall with
        | cons hfirst hothers =>
            exact ⟨_, hfirst, bind_eq_ok_iff.mpr ⟨_, ih.mpr hothers, rfl⟩⟩

/-- Steps that agree on the items of a list agree on the list. -/
theorem mapM_congr {first second : α → Except ε β} {items : List α}
    (hstep : ∀ item ∈ items, first item = second item) :
    items.mapM first = items.mapM second := by
  induction items with
  | nil => rfl
  | cons item rest ih =>
      rw [List.mapM_cons, List.mapM_cons, hstep item List.mem_cons_self,
        ih fun other hother => hstep other (List.mem_cons_of_mem item hother)]

/-- Every result of a step on a list comes from one of its items. -/
theorem exists_of_mem_mapM {step : α → Except ε β} {items : List α}
    {results : List β} (hrun : items.mapM step = .ok results)
    {result : β} (hresult : result ∈ results) :
    ∃ item ∈ items, step item = .ok result := by
  have hall := mapM_eq_ok_iff.mp hrun
  induction hall with
  | nil => simp at hresult
  | cons hfirst hothers ih =>
      rcases List.mem_cons.mp hresult with rfl | hrest
      · exact ⟨_, List.mem_cons_self, hfirst⟩
      · obtain ⟨item, hitem, hstep⟩ := ih (mapM_eq_ok_iff.mpr hothers) hrest
        exact ⟨item, List.mem_cons_of_mem _ hitem, hstep⟩

/-- A step that fails on a list fails on one of its items. -/
theorem exists_of_mapM_eq_error {step : α → Except ε β} {items : List α} {fault : ε}
    (hrun : items.mapM step = .error fault) : ∃ item ∈ items, step item = .error fault := by
  induction items with
  | nil => simp [pure, Except.pure] at hrun
  | cons item rest ih =>
      rw [List.mapM_cons] at hrun
      rcases bind_eq_error_iff.mp hrun with hfirst | ⟨_, -, hothers⟩
      · exact ⟨item, List.mem_cons_self, hfirst⟩
      · rcases bind_eq_error_iff.mp hothers with hrest | ⟨_, -, hpure⟩
        · obtain ⟨other, hother, hfault⟩ := ih hrest
          exact ⟨other, List.mem_cons_of_mem item hother, hfault⟩
        · simp [pure, Except.pure] at hpure

/-- What a step keeps of every item, it keeps of the list. -/
theorem map_eq_map_of_mapM {γ : Type v} {step : α → Except ε β}
    {items : List α} {results : List β} (hrun : items.mapM step = .ok results)
    {before : α → γ} {after : β → γ}
    (hkeep : ∀ item ∈ items, ∀ result, step item = .ok result →
      after result = before item) :
    results.map after = items.map before := by
  have hall := mapM_eq_ok_iff.mp hrun
  clear hrun
  induction hall with
  | nil => rfl
  | cons hfirst hothers ih =>
      rw [List.map_cons, List.map_cons, hkeep _ List.mem_cons_self _ hfirst,
        ih fun item hitem => hkeep item (List.mem_cons_of_mem _ hitem)]

/-- When a second step gives a result wherever the first one does, and `f` takes
it back to the first, the same holds of lists. -/
theorem exists_mapM_of_forall₂ {γ δ : Type v} {first : α → Except ε β} {second : γ → Except ε δ}
    {R : α → γ → Prop} {f : δ → β}
    (hstep : ∀ item other result, R item other → first item = .ok result →
      ∃ after, second other = .ok after ∧ f after = result)
    {items : List α} {others : List γ} (hall : List.Forall₂ R items others) {results : List β}
    (hrun : items.mapM first = .ok results) :
    ∃ afters, others.mapM second = .ok afters ∧ afters.map f = results := by
  induction hall generalizing results with
  | nil => exact ⟨[], rfl, by simpa [pure, Except.pure] using hrun⟩
  | cons hfirst hothers ih =>
      cases mapM_eq_ok_iff.mp hrun with
      | cons hresult hresults =>
          obtain ⟨after, hafter, rfl⟩ := hstep _ _ _ hfirst hresult
          obtain ⟨afters, hafters, rfl⟩ := ih (mapM_eq_ok_iff.mpr hresults)
          exact ⟨after :: afters,
            mapM_eq_ok_iff.mpr (.cons hafter (mapM_eq_ok_iff.mp hafters)), rfl⟩

end IntegrationBuild.Outcome
