import IntegrationBuild.Script.Scope

/-!
Scripts that only use, bind, annotate and import names.  Where no scope declares a
name of another one, brings in all names of a module or repeats a parameter, the
names of a script cannot contradict each other.
-/

namespace IntegrationBuild.Script

/-- The parameters of a scope after an event. -/
def NameEvent.takenAfter (taken : List String) : NameEvent → List String
  | .parameter name _ => name :: taken
  | _ => taken

mutual

/-- Whether names are only used, bound, annotated or imported and no parameter is
repeated; `taken` are the parameters before the event. -/
def NameEvent.isPlain (taken : List String) : NameEvent → Bool
  | .use _ | .bind _ | .imported _ | .annotate _ _ => true
  | .parameter name _ => !taken.contains name
  | .scope _ events => arePlain [] events
  | _ => false

/-- Whether all events of a scope are plain. -/
def NameEvent.arePlain (taken : List String) : List NameEvent → Bool
  | [] => true
  | event :: rest => isPlain taken event && arePlain (takenAfter taken event) rest

end

namespace ScopeTable

/-- The names of a scope. -/
def names : ScopeTable → List (String × NameUse)
  | .node _ names _ _ => names

/-- Tables in which no name is declared as one of another scope. -/
inductive Undeclared : ScopeTable → Prop
  | node {kind : ScopeKind} {names : List (String × NameUse)}
      {declarations : List (String × Span)} {inner : List ScopeTable}
      (hnames : ∀ entry ∈ names, entry.2.isGlobal = false ∧ entry.2.isNonlocal = false)
      (hinner : ∀ t ∈ inner, Undeclared t) : Undeclared (.node kind names declarations inner)

/-- Whether the parameters of a scope are among the given names. -/
def ParametersIn (taken : List String) (t : ScopeTable) : Prop :=
  ∀ name, (useOf t.names name).parameter = true → name ∈ taken

/-- What holds of a scope in which only plain events took place. -/
structure Plain (taken : List String) (t : ScopeTable) : Prop where
  undeclared : t.Undeclared
  parameters : t.ParametersIn taken

theorem plain_empty (kind : ScopeKind) : Plain [] (.node kind [] [] []) where
  undeclared := .node (fun _ h => absurd h List.not_mem_nil) fun _ h => absurd h List.not_mem_nil
  parameters _ h := absurd h Bool.false_ne_true

theorem unboundAll_eq_flatMap (outer : Option (List String)) (inner : List ScopeTable) :
    unboundAll outer inner = inner.flatMap (unbound outer) := by
  induction inner with
  | nil => rfl
  | cons t rest ih => rw [unboundAll, ih, List.flatMap_cons]

/-- Where nothing is declared, no declaration is wrong. -/
theorem Undeclared.unbound_eq_nil {t : ScopeTable} (ht : t.Undeclared) :
    ∀ outer, unbound outer t = [] := by
  induction ht with
  | node hnames hinner ih =>
    intro outer
    rw [unbound, unboundAll_eq_flatMap, List.append_eq_nil_iff, List.filterMap_eq_nil_iff,
      List.flatMap_eq_nil_iff]
    refine ⟨fun (name, use) hentry => ?_, fun t ht => ih t ht _⟩
    obtain ⟨hglobal, hnonlocal⟩ := hnames _ hentry
    simp only at hglobal hnonlocal
    simp [nonlocalFault?.eq_def, hnonlocal]

section Update

variable {change : NameUse → NameUse} (name : String)

/-- A change that declares nothing keeps a scope free of declarations. -/
theorem undeclared_update
    (hchange : ∀ use : NameUse, (change use).isGlobal = use.isGlobal ∧
      (change use).isNonlocal = use.isNonlocal) {names : List (String × NameUse)}
    (hnames : ∀ entry ∈ names, entry.2.isGlobal = false ∧ entry.2.isNonlocal = false) :
    ∀ entry ∈ update change name names,
      entry.2.isGlobal = false ∧ entry.2.isNonlocal = false := by
  induction names with
  | nil =>
    rw [update, List.forall_mem_singleton, (hchange {}).1, (hchange {}).2]
    exact ⟨rfl, rfl⟩
  | cons first rest ih =>
    obtain ⟨⟨hglobal, hnonlocal⟩, hrest⟩ := List.forall_mem_cons.mp hnames
    rw [update]
    split
    · rw [List.forall_mem_cons, (hchange _).1, (hchange _).2]
      exact ⟨⟨hglobal, hnonlocal⟩, hrest⟩
    · exact List.forall_mem_cons.mpr ⟨⟨hglobal, hnonlocal⟩, ih hrest⟩

theorem useOf_cons (key : String) (use : NameUse) (rest : List (String × NameUse)) :
    useOf ((key, use) :: rest) name = if name = key then use else useOf rest name := by
  rw [useOf, List.lookup_cons]
  by_cases hname : name = key
  · simp [hname]
  · rw [beq_eq_false_iff_ne.mpr hname, if_neg hname, useOf]

/-- A change concerns the one name only. -/
theorem useOf_update (other : String) (names : List (String × NameUse)) :
    useOf (update change name names) other =
      if other = name then change (useOf names name) else useOf names other := by
  induction names with
  | nil => exact useOf_cons other name (change {}) []
  | cons first rest ih =>
    obtain ⟨key, use⟩ := first
    by_cases hkey : key = name
    · by_cases hother : other = name <;> simp [update, useOf_cons, hkey, hother]
    · have hne : name ≠ key := Ne.symm hkey
      by_cases hfound : other = key <;> simp [update, useOf_cons, hfound, hkey, hne, ih]

end Update

theorem useOf_undeclared {names : List (String × NameUse)}
    (hnames : ∀ entry ∈ names, entry.2.isGlobal = false ∧ entry.2.isNonlocal = false)
    (name : String) :
    (useOf names name).isGlobal = false ∧ (useOf names name).isNonlocal = false := by
  induction names with
  | nil => exact ⟨rfl, rfl⟩
  | cons first rest ih =>
    obtain ⟨hfirst, hrest⟩ := List.forall_mem_cons.mp hnames
    rw [useOf_cons]
    split
    · exact hfirst
    · exact ih hrest

/-- What a record of a change keeps of a scope. -/
theorem Plain.record {taken taken' : List String} {t : ScopeTable} (ht : t.Plain taken)
    (name : String) {change : NameUse → NameUse}
    (hchange : ∀ use : NameUse, (change use).isGlobal = use.isGlobal ∧
      (change use).isNonlocal = use.isNonlocal)
    (hmono : ∀ other ∈ taken, other ∈ taken')
    (hparameter : ∀ use : NameUse, (change use).parameter = true →
      use.parameter = true ∨ name ∈ taken') :
    (t.record name change).Plain taken' := by
  obtain ⟨hundeclared, hparameters⟩ := ht
  cases hundeclared with
  | node hnames hinner =>
    refine ⟨.node (undeclared_update name hchange hnames) hinner, fun other hother => ?_⟩
    rw [ScopeTable.record, ScopeTable.names, useOf_update] at hother
    split at hother
    · next heq =>
      rcases hparameter _ hother with hold | hnew
      · exact heq ▸ hmono name (hparameters name hold)
      · exact heq ▸ hnew
    · exact hmono other (hparameters other hother)

mutual

/-- A plain event is taken, and the scope stays plain. -/
theorem exists_add_eq_ok (event : NameEvent) {taken : List String} {t : ScopeTable}
    (ht : t.Plain taken) (hplain : event.isPlain taken = true) :
    ∃ t', t.add event = .ok t' ∧ t'.Plain (event.takenAfter taken) :=
  match event with
  | .use name =>
    ⟨t.record name fun u => { u with used := true }, by rw [add],
      ht.record name (fun _ => ⟨rfl, rfl⟩) (fun _ h => h) fun _ => .inl⟩
  | .bind name =>
    ⟨t.record name fun u => { u with bound := true }, by rw [add],
      ht.record name (fun _ => ⟨rfl, rfl⟩) (fun _ h => h) fun _ => .inl⟩
  | .imported name =>
    ⟨t.record name fun u => { u with imported := true }, by rw [add],
      ht.record name (fun _ => ⟨rfl, rfl⟩) (fun _ h => h) fun _ => .inl⟩
  | .parameter name span => by
    have hfresh : name ∉ taken := by simpa [NameEvent.isPlain] using hplain
    obtain ⟨kind, names, declarations, inner⟩ := t
    have hfirst : ¬ (useOf names name).parameter = true := fun h => hfresh (ht.parameters name h)
    refine ⟨_, (add.eq_def _ _).trans (if_neg hfirst), ht.record name (fun _ => ⟨rfl, rfl⟩) ?_ ?_⟩
    · exact fun other => List.mem_cons_of_mem name
    · exact fun _ _ => .inr List.mem_cons_self
  | .annotate name span => by
    have hrecord :
        (t.record name fun u => { u with bound := true, annotated := true }).Plain taken :=
      ht.record name (fun _ => ⟨rfl, rfl⟩) (fun _ h => h) fun _ => .inl
    obtain ⟨kind, names, declarations, inner⟩ := t
    obtain ⟨hnames, -⟩ := ht.undeclared
    obtain ⟨hglobal, hnonlocal⟩ := useOf_undeclared hnames name
    refine ⟨_, ?_, hrecord⟩
    rw [add, hglobal, hnonlocal, Bool.or_false, Bool.and_false]
    exact if_neg Bool.false_ne_true
  | .scope kind events => by
    rw [NameEvent.isPlain] at hplain
    obtain ⟨child, hchild, hundeclared⟩ := exists_addAll_eq_ok events (plain_empty kind) hplain
    obtain ⟨outer, names, declarations, inner⟩ := t
    obtain ⟨ht, hparameters⟩ := ht
    cases ht with
    | node hnames hinner =>
      refine ⟨.node outer names declarations (inner ++ [child]), by rw [add, hchild],
        .node hnames fun t ht => ?_, hparameters⟩
      rcases List.mem_append.mp ht with hold | hnew
      · exact hinner t hold
      · exact List.mem_singleton.mp hnew ▸ hundeclared

/-- Plain events are taken one after the other. -/
theorem exists_addAll_eq_ok (events : List NameEvent) {taken : List String} {t : ScopeTable}
    (ht : t.Plain taken) (hplain : NameEvent.arePlain taken events = true) :
    ∃ t', t.addAll events = .ok t' ∧ t'.Undeclared :=
  match events with
  | [] => ⟨t, by rw [addAll], ht.undeclared⟩
  | event :: rest => by
    obtain ⟨hfirst, hrest⟩ := Bool.and_eq_true_iff.mp (by rwa [NameEvent.arePlain] at hplain)
    obtain ⟨t', ht', hplain'⟩ := exists_add_eq_ok event ht hfirst
    obtain ⟨t'', ht'', hundeclared⟩ := exists_addAll_eq_ok rest hplain' hrest
    exact ⟨t'', by rw [addAll, ht']; exact ht'', hundeclared⟩

end

end ScopeTable

/-- Plain names never contradict each other. -/
theorem scopeRefusal?_eq_none {t : Tree}
    (hplain : NameEvent.arePlain [] (NameEvent.ofTree (2 * t.depth + 2) t) = true) :
    scopeRefusal? t = none := by
  obtain ⟨table, htable, hundeclared⟩ :=
    ScopeTable.exists_addAll_eq_ok _ (ScopeTable.plain_empty .module) hplain
  rw [scopeRefusal?, htable]
  exact congrArg List.head? (hundeclared.unbound_eq_nil none)

end IntegrationBuild.Script
