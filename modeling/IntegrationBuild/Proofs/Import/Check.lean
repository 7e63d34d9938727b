import IntegrationBuild.Import.Check
import IntegrationBuild.Proofs.Import.Target
import IntegrationBuild.Proofs.Outcome

/-!
The files that the imports of a file bring in, and whether its imports pass.
Both depend on the place of the file, not on how its path is written, and they
stay the same as long as the scripts of the file system do.
-/

namespace IntegrationBuild

theorem resolveAll_nil (ws : Workspace) (cwd : Path) : resolveAll ws cwd [] = .ok () :=
  rfl

theorem resolveAll_of_isTree {ws : Workspace} (htree : ws.IsTree) (cwd : Path)
    (paths : List Path) : resolveAll ws cwd paths = .ok () := by
  rw [resolveAll, htree.firstCircle?_eq_none]

namespace ImportScope

variable {scope : ImportScope} {ws : Workspace} {cwd : Path}

/-- All places of a relative import lie within the boundary. -/
def StaysWithin (scope : ImportScope) (ws : Workspace) (cwd : Path)
    (target : ImportTarget) : Prop :=
  ∀ place ∈ target.location :: scope.otherFiles ws cwd target,
    ws.isWithin cwd place scope.boundary = true

theorem escape?_eq_none_iff (target : ImportTarget) :
    scope.escape? ws cwd target.location (scope.otherFiles ws cwd target) = none ↔
      scope.StaysWithin ws cwd target := by
  rw [escape?, List.find?_eq_none, StaysWithin]
  simp only [Bool.not_eq_true', Bool.not_eq_false]

/-- The files brought in are the files other than the models module, unless one
of them lies outside. -/
theorem mem_helpers_checkRelative {path file : Path} {ref : ImportRef} :
    file ∈ (scope.checkRelative ws cwd path ref).helpers ↔
      file ∈ scope.otherFiles ws cwd (ref.resolve ws path) ∧
        scope.StaysWithin ws cwd (ref.resolve ws path) := by
  rw [checkRelative, ← escape?_eq_none_iff]
  split
  · next hnone =>
    simp only [Bool.and_eq_true, List.isEmpty_iff] at hnone
    simp [hnone.2]
  · split
    · next hescape => simp [hescape]
    · next hescape => simp [hescape]

theorem issues_checkRelative_iff {path : Path} {ref : ImportRef} :
    (scope.checkRelative ws cwd path ref).issues = [] ↔
      ((ref.resolve ws path).files ≠ [] ∧
        scope.otherFiles ws cwd (ref.resolve ws path) = []) ∨
      (scope.StaysWithin ws cwd (ref.resolve ws path) ∧
        (ref.resolve ws path).unresolved = []) := by
  rw [checkRelative, ← escape?_eq_none_iff]
  split
  · next hnone => simp_all
  · next hsome =>
    have hsome : ¬((ref.resolve ws path).files ≠ [] ∧
        scope.otherFiles ws cwd (ref.resolve ws path) = []) := by
      simpa using hsome
    split
    · next hescape => simp [hescape, hsome]
    · next hescape => simp [hescape, hsome]

theorem scriptFile_of_mem_helpers {path file : Path} (hpath : path.Plain)
    (hfile : file ∈ scope.helpers ws cwd path) : ScriptFile ws file := by
  obtain ⟨ref, -, hmem⟩ := List.mem_flatMap.mp hfile
  have hother := (mem_helpers_checkRelative.mp hmem).1
  exact ImportRef.scriptFile_of_mem_resolve hpath (List.mem_filter.mp hother).1

section Imports

/-- The check of an import gives a result when all that it resolves can be resolved. -/
theorem checkOne_eq_ok_iff {path : Path} {ref : ImportRef} {found : ImportCheck} :
    scope.checkOne ws cwd path ref = .ok found ↔
      resolveAll ws cwd (scope.resolvedBy ws cwd path ref) = .ok () ∧
        scope.check ws cwd path ref = .ok found := by
  rw [checkOne, Outcome.bind_eq_ok_iff]
  constructor
  · rintro ⟨_, hresolved, hcheck⟩
    exact ⟨hresolved, Outcome.mapError_eq_ok_iff.mp hcheck⟩
  · rintro ⟨hresolved, hcheck⟩
    exact ⟨(), hresolved, Outcome.mapError_eq_ok_iff.mpr hcheck⟩

/-- The check of an import says what there is to say of it, or stops at a circle that a
path runs into. -/
theorem checkOne_eq_or_circle (path : Path) (ref : ImportRef) :
    scope.checkOne ws cwd path ref = (scope.check ws cwd path ref).mapError .unreadable ∨
      ∃ place ∈ scope.resolvedBy ws cwd path ref, ∃ circle,
        ws.circle? cwd place = some circle ∧
          scope.checkOne ws cwd path ref = .error (.circle circle) := by
  rw [checkOne, resolveAll]
  cases hfirst : ws.firstCircle? cwd (scope.resolvedBy ws cwd path ref) with
  | none => exact Or.inl rfl
  | some circle =>
      obtain ⟨place, hplace, hcircle⟩ := List.exists_of_findSome?_eq_some hfirst
      exact Or.inr ⟨place, hplace, circle, hcircle, rfl⟩

/-- An absolute import without an issue resolves nothing. -/
theorem resolvedBy_of_check {path : Path} {ref : ImportRef} {found : ImportCheck}
    (habsolute : ref.isRelative = false) (hcheck : scope.check ws cwd path ref = .ok found)
    (hnone : found.issues = []) : scope.resolvedBy ws cwd path ref = [] := by
  rw [resolvedBy, if_neg (by simp [habsolute]), hcheck]
  simp [hnone]

theorem checkOne_of_isTree (htree : ws.IsTree) (path : Path) (ref : ImportRef) :
    scope.checkOne ws cwd path ref = (scope.check ws cwd path ref).mapError .unreadable := by
  rw [checkOne, resolveAll_of_isTree htree]
  rfl

/-- The imports of a file give no issue. -/
def ImportsPass (scope : ImportScope) (ws : Workspace) (cwd path : Path) : Prop :=
  ∃ check, scope.checkAll ws cwd path (importsOfFile ws path) = .ok check ∧
    check.issues = []

/-- A check of imports has no issues when the check of each of them has none. -/
theorem checkAll_issues_iff {path : Path} (refs : List ImportRef) :
    (∃ check, scope.checkAll ws cwd path refs = .ok check ∧ check.issues = []) ↔
      ∀ ref ∈ refs, ∃ check, scope.checkOne ws cwd path ref = .ok check ∧
        check.issues = [] := by
  induction refs with
  | nil => simp [checkAll]
  | cons ref rest ih =>
      rw [List.forall_mem_cons, ← ih]
      simp only [checkAll, Outcome.bind_eq_ok_iff, pure, Except.pure,
        Except.ok.injEq]
      constructor
      · rintro ⟨_, ⟨first, hfirst, others, hothers, rfl⟩, hnil⟩
        obtain ⟨hnone, hmore⟩ := List.append_eq_nil_iff.mp hnil
        exact ⟨⟨first, hfirst, hnone⟩, ⟨others, hothers, hmore⟩⟩
      · rintro ⟨⟨first, hfirst, hnone⟩, ⟨others, hothers, hmore⟩⟩
        refine ⟨_, ⟨first, hfirst, others, hothers, rfl⟩, ?_⟩
        exact List.append_eq_nil_iff.mpr ⟨hnone, hmore⟩

/-- Without links, only what is wrong with an import counts. -/
theorem importsPass_iff_of_isTree (htree : ws.IsTree) {path : Path} :
    scope.ImportsPass ws cwd path ↔
      ∀ ref ∈ importsOfFile ws path, ∃ check, scope.check ws cwd path ref = .ok check ∧
        check.issues = [] := by
  rw [ImportsPass, checkAll_issues_iff]
  simp only [checkOne_of_isTree htree, Outcome.mapError_eq_ok_iff]

end Imports

section SameParts

variable {p q : Path} {ref : ImportRef} (htree : ws.IsTree) (hp : p.Plain)
  (hq : q.Plain) (hparts : p.parts = q.parts)

include htree hp hq hparts

theorem exists_mem_otherFiles {file : Path}
    (hfile : file ∈ scope.otherFiles ws cwd (ref.resolve ws q)) :
    ∃ other ∈ scope.otherFiles ws cwd (ref.resolve ws p),
      ws.resolve cwd other = ws.resolve cwd file := by
  obtain ⟨hmem, hmodels⟩ := List.mem_filter.mp hfile
  obtain ⟨other, hother, hsame⟩ := ImportRef.exists_mem_files_resolve hparts hmem
  have hplain := (ImportRef.scriptFile_of_mem_resolve hq hmem).plain
  have hplain' := (ImportRef.scriptFile_of_mem_resolve hp hother).plain
  have hkey : ws.resolve cwd other = ws.resolve cwd file := by
    rw [htree.resolve_plain cwd hplain, htree.resolve_plain cwd hplain', hsame]
  refine ⟨other, List.mem_filter.mpr ⟨hother, ?_⟩, hkey⟩
  rw [hkey]
  exact hmodels

theorem StaysWithin.congr (hwithin : scope.StaysWithin ws cwd (ref.resolve ws p)) :
    scope.StaysWithin ws cwd (ref.resolve ws q) := by
  have hkeys : ∀ place other, ws.resolve cwd other = ws.resolve cwd place →
      ws.isWithin cwd other scope.boundary = true →
      ws.isWithin cwd place scope.boundary = true := by
    intro place other hkey hother
    rwa [Workspace.isWithin, ← hkey]
  intro place hplace
  rcases List.mem_cons.mp hplace with rfl | hfile
  · apply hkeys _ _ _ (hwithin _ List.mem_cons_self)
    rw [ImportRef.location_resolve, ImportRef.location_resolve,
      htree.resolve_plain cwd (ImportRef.plain_place hp ref),
      htree.resolve_plain cwd (ImportRef.plain_place hq ref),
      ImportRef.place_parts_congr hparts]
  · obtain ⟨other, hother, hkey⟩ :=
      exists_mem_otherFiles htree hp hq hparts hfile
    exact hkeys place other hkey (hwithin _ (List.mem_cons_of_mem _ hother))

theorem issues_checkRelative_congr
    (hnone : (scope.checkRelative ws cwd p ref).issues = []) :
    (scope.checkRelative ws cwd q ref).issues = [] := by
  rw [issues_checkRelative_iff] at hnone ⊢
  rcases hnone with ⟨hfiles, hothers⟩ | ⟨hwithin, hunresolved⟩
  · left
    constructor
    · obtain ⟨file, hfile⟩ := List.exists_mem_of_ne_nil _ hfiles
      obtain ⟨other, hother, -⟩ :=
        ImportRef.exists_mem_files_resolve hparts.symm hfile
      exact List.ne_nil_of_mem hother
    · refine List.eq_nil_iff_forall_not_mem.mpr fun file hfile => ?_
      obtain ⟨other, hother, -⟩ :=
        exists_mem_otherFiles htree hp hq hparts hfile
      rw [hothers] at hother
      simp at hother
  · right
    rw [ImportRef.unresolved_parts_congr ws hparts] at hunresolved
    exact ⟨hwithin.congr htree hp hq hparts, hunresolved⟩

/-- Files at one place bring in files at the same places. -/
theorem exists_mem_helpers {file : Path}
    (hfile : file ∈ scope.helpers ws cwd q) :
    ∃ other ∈ scope.helpers ws cwd p,
      ws.resolve cwd other = ws.resolve cwd file := by
  obtain ⟨ref, href, hmem⟩ := List.mem_flatMap.mp hfile
  obtain ⟨hother, hwithin⟩ := mem_helpers_checkRelative.mp hmem
  obtain ⟨other, hmem, hkey⟩ := exists_mem_otherFiles htree hp hq hparts hother
  refine ⟨other, List.mem_flatMap.mpr ⟨ref, ?_, ?_⟩, hkey⟩
  · rwa [importsOfFile, ws.read?_parts_congr hparts]
  · exact mem_helpers_checkRelative.mpr
      ⟨hmem, hwithin.congr htree hq hp hparts.symm⟩

/-- Of files at one place, either all pass or none. -/
theorem ImportsPass.congr (hpass : scope.ImportsPass ws cwd p) :
    scope.ImportsPass ws cwd q := by
  have hread : importsOfFile ws p = importsOfFile ws q := by
    rw [importsOfFile, ws.read?_parts_congr hparts, importsOfFile]
  rw [importsPass_iff_of_isTree htree] at hpass ⊢
  intro ref href
  obtain ⟨first, hfirst, hnone⟩ := hpass ref (hread ▸ href)
  rw [check] at hfirst ⊢
  split at hfirst
  · next hrelative =>
    cases hfirst
    rw [if_pos hrelative]
    exact ⟨_, rfl, issues_checkRelative_congr htree hp hq hparts hnone⟩
  · next hrelative =>
    rw [if_neg hrelative]
    exact ⟨first, hfirst, hnone⟩

end SameParts

section SameScripts

variable {ws' : Workspace} {path : Path} (hsame : SameScripts ws ws')
  (hpath : path.Plain)

include hsame hpath

theorem checkRelative_congr (ref : ImportRef) :
    scope.checkRelative ws cwd path ref = scope.checkRelative ws' cwd path ref := by
  have hothers : scope.otherFiles ws = scope.otherFiles ws' := by
    funext cwd target
    rw [otherFiles, hsame.resolvePath_eq, otherFiles]
  have hescape : scope.escape? ws = scope.escape? ws' := by
    funext cwd location files
    rw [escape?, hsame.isWithin_eq, escape?]
  simp only [checkRelative, hothers, hescape, hsame.shownText_eq,
    hsame.resolve_congr hpath]

variable (hplace : ScriptPlace path.parts)

include hplace

theorem importsOfFile_congr : importsOfFile ws path = importsOfFile ws' path := by
  rw [importsOfFile, hsame.read?_eq hpath hplace, importsOfFile]

/-- The files brought in stay the same as long as the scripts do. -/
theorem helpers_congr :
    scope.helpers ws cwd path = scope.helpers ws' cwd path := by
  rw [helpers, helpers, importsOfFile_congr hsame hpath hplace]
  congr 1
  funext ref
  rw [checkRelative_congr hsame hpath]

omit hplace in
/-- Apart from the directories of other integrations, nothing but scripts
counts for the check of an import. -/
theorem check_congr (hsiblings : ∀ name, scope.isSibling ws name = scope.isSibling ws' name)
    (ref : ImportRef) : scope.check ws cwd path ref = scope.check ws' cwd path ref := by
  rw [check, check, checkRelative_congr hsame hpath, hsiblings]

omit hplace in
theorem checkAll_congr (hsiblings : ∀ name, scope.isSibling ws name = scope.isSibling ws' name)
    (refs : List ImportRef) :
    scope.checkAll ws cwd path refs = scope.checkAll ws' cwd path refs := by
  induction refs with
  | nil => rfl
  | cons ref rest ih =>
      rw [checkAll, checkAll, checkOne_of_isTree hsame.before, checkOne_of_isTree hsame.after,
        check_congr hsame hpath hsiblings, ih]

/-- Apart from the directories of other integrations, nothing but scripts
counts for the imports of a file. -/
theorem ImportsPass.of_sameScripts
    (hsiblings : ∀ name, scope.isSibling ws name = scope.isSibling ws' name)
    (hpass : scope.ImportsPass ws cwd path) : scope.ImportsPass ws' cwd path := by
  rw [importsPass_iff_of_isTree hsame.before] at hpass
  rw [importsPass_iff_of_isTree hsame.after, ← importsOfFile_congr hsame hpath hplace]
  intro ref href
  obtain ⟨first, hfirst, hnone⟩ := hpass ref href
  exact ⟨first, check_congr hsame hpath hsiblings ref ▸ hfirst, hnone⟩

end SameScripts

end ImportScope

end IntegrationBuild
