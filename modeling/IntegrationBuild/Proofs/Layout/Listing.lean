import IntegrationBuild.Proofs.Build.Layout
import IntegrationBuild.Proofs.Outcome

/-!
Which operations are listed for a build: all but those whose script is there and
takes no part, in the order of their declaration.
-/

namespace IntegrationBuild

variable {ws ws' : Workspace} {cwd root : Path} {folder : String} {matcher : Option Ignore.Matcher}

/-- Whether an operation is listed.  One without a script is, so that it can be
reported. -/
def Operation.isListed (operation : Operation) (ws : Workspace) (cwd root : Path)
    (folder : String) (matcher : Option Ignore.Matcher) : Except Ignore.MatchError Bool :=
  if (operation.locate ws root).isThere ws then
    takesPart ws cwd root folder matcher (operation.locate ws root).path
  else .ok true

theorem locateAll_cons (operation : Operation) (rest : List Operation) :
    locateAll ws cwd root folder matcher (operation :: rest) = (do
      let listed ← operation.isListed ws cwd root folder matcher
      let others ← locateAll ws cwd root folder matcher rest
      pure (if listed then operation.locate ws root :: others else others)) := by
  rw [locateAll, Operation.isListed]
  split <;> rfl

/-- Whether it can be told that an operation is listed. -/
def Operation.isKept (operation : Operation) (ws : Workspace) (cwd root : Path)
    (folder : String) (matcher : Option Ignore.Matcher) : Bool :=
  (operation.isListed ws cwd root folder matcher).toOption.getD false

/-- When it can be told of each operation whether it is listed, the scripts are
those of the operations that are. -/
theorem locateAll_eq_ok_iff {operations : List Operation} {locations : List ScriptLocation} :
    locateAll ws cwd root folder matcher operations = .ok locations ↔
      (∀ operation ∈ operations, ∃ listed,
        operation.isListed ws cwd root folder matcher = .ok listed) ∧
      locations = (operations.filter (·.isKept ws cwd root folder matcher)).map
        (·.locate ws root) := by
  induction operations generalizing locations with
  | nil =>
      rw [locateAll]
      simp [eq_comm]
  | cons operation rest ih =>
      rw [locateAll_cons, List.forall_mem_cons, List.filter_cons, Operation.isKept]
      simp only [Outcome.bind_eq_ok_iff, ih]
      constructor
      · rintro ⟨listed, hlisted, others, ⟨hrest, rfl⟩, hpure⟩
        obtain rfl := Except.ok.inj hpure
        refine ⟨⟨⟨listed, hlisted⟩, hrest⟩, ?_⟩
        rw [hlisted]
        cases listed with
        | false => rfl
        | true => rfl
      · rintro ⟨⟨⟨listed, hlisted⟩, hrest⟩, rfl⟩
        refine ⟨listed, hlisted, _, ⟨hrest, rfl⟩, ?_⟩
        rw [hlisted]
        cases listed with
        | false => rfl
        | true => rfl

/-- When it can be told whether a script takes part, it does not exactly when it
resolves to a place outside the root, is not written below it, begins with the
folder of the output directory, or is ignored. -/
theorem takesPart_eq_false_iff {path : Path} {listed : Bool}
    (htold : takesPart ws cwd root folder matcher path = .ok listed) :
    listed = false ↔ ws.isWithin cwd path root = false ∨ path.relativeTo? root = none ∨
      (folder ≠ "" ∧ ∃ relative, path.relativeTo? root = some relative ∧
        relative.parts.head? = some folder) ∨
      ∃ rules, matcher = some rules ∧ rules.ignores path = .ok true := by
  rw [takesPart.eq_def] at htold
  split at htold
  · next houtside =>
    obtain rfl := Except.ok.inj htold
    simp_all
  · next hwithin =>
    split at htold
    · next hnone =>
      obtain rfl := Except.ok.inj htold
      simp [hnone]
    · next relative hrelative =>
      split at htold
      · next hfolder =>
        obtain rfl := Except.ok.inj htold
        simp only [Bool.and_eq_true, Bool.not_eq_true', String.isEmpty_eq_false_iff,
          beq_iff_eq] at hfolder
        simp only [true_iff]
        exact Or.inr (Or.inr (Or.inl ⟨hfolder.1, relative, hrelative, hfolder.2⟩))
      · next hfolder =>
        have hbeside : ¬(folder ≠ "" ∧ ∃ other, path.relativeTo? root = some other ∧
            other.parts.head? = some folder) := by
          rintro ⟨hnonempty, other, hother, hhead⟩
          cases hrelative.symm.trans hother
          simp [hnonempty, hhead] at hfolder
        have hthere : path.relativeTo? root ≠ none := by simp [hrelative]
        have hinside : ws.isWithin cwd path root = true := by simpa using hwithin
        rw [or_iff_right (by simp [hinside]), or_iff_right hthere, or_iff_right hbeside]
        split at htold
        · obtain rfl := Except.ok.inj htold
          simp
        · next rules =>
          obtain ⟨ignored, hignored, rfl⟩ := Outcome.map_eq_ok_iff.mp htold
          simp [hignored]

/-- An operation is left out exactly when its script is there and takes no part. -/
theorem Operation.isKept_eq_false_iff {operation : Operation}
    (htold : ∃ listed, operation.isListed ws cwd root folder matcher = .ok listed) :
    operation.isKept ws cwd root folder matcher = false ↔
      (operation.locate ws root).isThere ws = true ∧
        takesPart ws cwd root folder matcher (operation.locate ws root).path = .ok false := by
  obtain ⟨listed, hlisted⟩ := htold
  rw [isKept, hlisted]
  rw [isListed] at hlisted
  split at hlisted
  · next hthere => simp [hthere, hlisted, Except.toOption]
  · next hthere =>
    obtain rfl := Except.ok.inj hlisted
    simp [hthere, Except.toOption]

section Congr

variable (hsame : SameScripts ws ws') (hroot : root.Plain)

include hsame hroot

/-- A script is found where it was. -/
theorem Operation.locate_congr {operation : Operation} (hname : Path.PlainPart operation.name)
    (hintegration : Path.PlainPart operation.integration) :
    operation.locate ws root = operation.locate ws' root := by
  obtain ⟨hplain, hplace⟩ := operation.place_nestedPath hroot hname hintegration
  rw [locate, locate, hsame.isFile_eq hplain hplace]

theorem Operation.isListed_congr {operation : Operation} (hname : Path.PlainPart operation.name)
    (hintegration : Path.PlainPart operation.integration) :
    operation.isListed ws cwd root folder matcher =
      operation.isListed ws' cwd root folder matcher := by
  obtain ⟨hplain, hplace⟩ := operation.place_locate hroot hname hintegration ws'
  have hpart : takesPart ws cwd root folder matcher = takesPart ws' cwd root folder matcher := by
    funext path
    rw [takesPart.eq_def, takesPart.eq_def, hsame.isWithin_eq]
  rw [isListed, isListed, Operation.locate_congr hsame hroot hname hintegration, hpart,
    ScriptLocation.isThere, ScriptLocation.isThere, hsame.isFile_eq hplain hplace]

theorem locateAll_congr {operations : List Operation}
    (hnames : ∀ operation ∈ operations,
      Path.PlainPart operation.name ∧ Path.PlainPart operation.integration) :
    locateAll ws cwd root folder matcher operations =
      locateAll ws' cwd root folder matcher operations := by
  induction operations with
  | nil => rfl
  | cons operation rest ih =>
      obtain ⟨hname, hintegration⟩ := hnames operation List.mem_cons_self
      rw [locateAll_cons, locateAll_cons,
        Operation.isListed_congr hsame hroot hname hintegration,
        Operation.locate_congr hsame hroot hname hintegration,
        ih fun other hother => hnames other (List.mem_cons_of_mem _ hother)]

/-- The same scripts take part where the scripts are the same and the same is
ignored. -/
theorem Project.scripts_congr {project : Project}
    (hnames : ∀ operation ∈ project.operations,
      Path.PlainPart operation.name ∧ Path.PlainPart operation.integration) {nested : Bool}
    (hmatcher : Ignore.matcher? ws root nested = Ignore.matcher? ws' root nested) :
    project.scripts ws cwd root folder nested = project.scripts ws' cwd root folder nested := by
  rw [scripts, scripts, hmatcher]
  split
  · rfl
  · exact locateAll_congr hsame hroot hnames

end Congr

end IntegrationBuild
