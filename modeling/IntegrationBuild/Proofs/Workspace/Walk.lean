import IntegrationBuild.Workspace.Change

/-!
Following a path, and making directories, case by case.  `Walks` has one rule for
each way that a step of a walk can go, so that what holds of every walk is shown
by induction on it, and `MakesDirectories` does the same for making a directory
with its parents.
-/

namespace IntegrationBuild.Workspace

variable {ws ws' : Workspace} {current : Location} {parts : List String} {found : Found}
  {follow : Location → Path → List String → Found}

theorem hasDirectory_iff (location : Location) :
    ws.hasDirectory location = true ↔ ws.entry? location = some .directory := by
  rw [hasDirectory]
  split
  · next hentry => simp [hentry]
  · next hentry => simpa using hentry

section Walks

/-- What a walk from a place along some parts comes to. -/
inductive Walks (ws : Workspace) (follow : Location → Path → List String → Found) :
    Location → List String → Found → Prop
  | here {current : Location} {entry : Entry} (hentry : ws.entry? current = some entry) :
      Walks ws follow current [] (.entry current entry)
  | nowhere {current : Location} (hnone : ws.entry? current = none) :
      Walks ws follow current [] (.absent current)
  | blocked {current : Location} {part : String} {rest : List String}
      (hcurrent : ws.entry? current ≠ some .directory) :
      Walks ws follow current (part :: rest) .blocked
  | up {current : Location} {rest : List String} {found : Found}
      (hcurrent : ws.entry? current = some .directory)
      (hrest : Walks ws follow current.dropLast rest found) :
      Walks ws follow current (".." :: rest) found
  | absent {current : Location} {part : String}
      (hcurrent : ws.entry? current = some .directory) (hpart : part ≠ "..")
      (hnone : ws.entry? (current ++ [part]) = none) :
      Walks ws follow current [part] (.absent (current ++ [part]))
  | missing {current : Location} {part : String} {rest : List String}
      (hcurrent : ws.entry? current = some .directory) (hpart : part ≠ "..")
      (hnone : ws.entry? (current ++ [part]) = none) (hrest : rest ≠ []) :
      Walks ws follow current (part :: rest) .missing
  | link {current : Location} {part target : String} {rest : List String}
      (hcurrent : ws.entry? current = some .directory) (hpart : part ≠ "..")
      (hlink : ws.entry? (current ++ [part]) = some (.link target)) :
      Walks ws follow current (part :: rest) (follow current (Path.ofString target) rest)
  | file {current : Location} {part : String} {content : ByteArray}
      (hcurrent : ws.entry? current = some .directory) (hpart : part ≠ "..")
      (hfile : ws.entry? (current ++ [part]) = some (.file content)) :
      Walks ws follow current [part] (.entry (current ++ [part]) (.file content))
  | down {current : Location} {part : String} {rest : List String} {found : Found}
      (hcurrent : ws.entry? current = some .directory) (hpart : part ≠ "..")
      (hlower : ws.entry? (current ++ [part]) = some .directory)
      (hrest : Walks ws follow (current ++ [part]) rest found) :
      Walks ws follow current (part :: rest) found
  | inFile {current : Location} {part : String} {content : ByteArray} {rest : List String}
      (hcurrent : ws.entry? current = some .directory) (hpart : part ≠ "..")
      (hfile : ws.entry? (current ++ [part]) = some (.file content)) (hrest : rest ≠ []) :
      Walks ws follow current (part :: rest) .blocked

theorem walk_eq_blocked (hcurrent : ws.entry? current ≠ some .directory) (part : String)
    (rest : List String) : ws.walk follow current (part :: rest) = .blocked := by
  have hblocked : ws.hasDirectory current = false :=
    Bool.eq_false_iff.mpr fun htrue => hcurrent ((hasDirectory_iff current).mp htrue)
  rw [walk, hblocked]
  rfl

theorem Walks.walk_eq (hwalks : ws.Walks follow current parts found) :
    ws.walk follow current parts = found := by
  induction hwalks with
  | here hentry => rw [walk, hentry]
  | nowhere hnone => rw [walk, hnone]
  | blocked hcurrent => exact walk_eq_blocked hcurrent _ _
  | up hcurrent _ ih =>
      rw [walk, (hasDirectory_iff _).mpr hcurrent]
      exact ih
  | absent hcurrent hpart hnone =>
      rw [walk, (hasDirectory_iff _).mpr hcurrent, beq_false_of_ne hpart, hnone]
      rfl
  | missing hcurrent hpart hnone hrest =>
      rw [walk, (hasDirectory_iff _).mpr hcurrent, beq_false_of_ne hpart, hnone]
      simp [hrest]
  | link hcurrent hpart hlink =>
      rw [walk, (hasDirectory_iff _).mpr hcurrent, beq_false_of_ne hpart, hlink]
      rfl
  | file hcurrent hpart hfile =>
      rw [walk, (hasDirectory_iff _).mpr hcurrent, beq_false_of_ne hpart, hfile]
      rfl
  | @down current part rest found hcurrent hpart hlower _ ih =>
      rw [walk, (hasDirectory_iff _).mpr hcurrent, beq_false_of_ne hpart, hlower]
      cases rest with
      | nil =>
          rw [walk, hlower] at ih
          exact ih
      | cons next more => exact ih
  | @inFile current part content rest hcurrent hpart hfile hrest =>
      obtain ⟨next, more, rfl⟩ := List.exists_cons_of_ne_nil hrest
      rw [walk, (hasDirectory_iff _).mpr hcurrent, beq_false_of_ne hpart, hfile]
      exact walk_eq_blocked (by rw [hfile]; simp) next more

theorem exists_walks (ws : Workspace) (follow : Location → Path → List String → Found)
    (current : Location) (parts : List String) : ∃ found, ws.Walks follow current parts found := by
  induction parts generalizing current with
  | nil =>
      cases hentry : ws.entry? current with
      | none => exact ⟨_, .nowhere hentry⟩
      | some entry => exact ⟨_, .here hentry⟩
  | cons part rest ih =>
      by_cases hcurrent : ws.entry? current = some .directory
      · by_cases hpart : part = ".."
        · subst hpart
          obtain ⟨found, hrest⟩ := ih current.dropLast
          exact ⟨found, .up hcurrent hrest⟩
        · cases hentry : ws.entry? (current ++ [part]) with
          | none =>
              by_cases hrest : rest = []
              · subst hrest
                exact ⟨_, .absent hcurrent hpart hentry⟩
              · exact ⟨_, .missing hcurrent hpart hentry hrest⟩
          | some entry =>
              cases entry with
              | directory =>
                  obtain ⟨found, hrest⟩ := ih (current ++ [part])
                  exact ⟨found, .down hcurrent hpart hentry hrest⟩
              | file content =>
                  by_cases hrest : rest = []
                  · subst hrest
                    exact ⟨_, .file hcurrent hpart hentry⟩
                  · exact ⟨_, .inFile hcurrent hpart hentry hrest⟩
              | link target => exact ⟨_, .link hcurrent hpart hentry⟩
      · exact ⟨_, .blocked hcurrent⟩

/-- The rules say what a walk comes to. -/
theorem walks_iff : ws.Walks follow current parts found ↔ ws.walk follow current parts = found := by
  constructor
  · exact Walks.walk_eq
  · rintro rfl
    obtain ⟨found, hwalks⟩ := ws.exists_walks follow current parts
    rw [hwalks.walk_eq]
    exact hwalks

/-- What a name leads to in a directory, unless it is a link. -/
theorem walks_name {part : String} {entry : Entry} (hcurrent : ws.entry? current = some .directory)
    (hpart : part ≠ "..") (hentry : ws.entry? (current ++ [part]) = some entry)
    (hlink : ∀ target, entry ≠ .link target) :
    ws.Walks follow current [part] (.entry (current ++ [part]) entry) := by
  cases entry with
  | directory => exact .down hcurrent hpart hentry (.here hentry)
  | file content => exact .file hcurrent hpart hentry
  | link target => exact absurd rfl (hlink target)

end Walks

section Directories

/-- Making a directory: it is made, or it is there, or first its parent is made. -/
inductive MakesDirectories : Workspace → Path → Workspace → Prop
  | made {ws ws' : Workspace} {path : Path} (hmade : ws.makeDirectory path = .ok ws') :
      MakesDirectories ws path ws'
  | there {ws : Workspace} {path : Path} (hthere : ws.isDirectory path = true) :
      MakesDirectories ws path ws
  | above {ws mid ws' : Workspace} {path : Path} (hup : MakesDirectories ws path.parent mid)
      (hrest : MakesDirectories mid path ws') : MakesDirectories ws path ws'

theorem makesDirectories_of_eq_ok {depth : Nat} {path : Path}
    (hmake : makeDirectoriesFrom depth ws path = .ok ws') : MakesDirectories ws path ws' := by
  induction depth generalizing ws ws' path with
  | zero => cases hmake
  | succ depth ih =>
      rw [makeDirectoriesFrom] at hmake
      split at hmake
      · next made hmade =>
        obtain rfl := Except.ok.inj hmake
        exact .made hmade
      · split at hmake
        · split at hmake
          · cases hmake
          · next mid hup =>
            split at hmake
            · next made hmade =>
              obtain rfl := Except.ok.inj hmake
              exact .above (ih hup) (.made hmade)
            · split at hmake
              · next hthere =>
                obtain rfl := Except.ok.inj hmake
                exact .above (ih hup) (.there hthere)
              · cases hmake
        · split at hmake
          · next hthere =>
            obtain rfl := Except.ok.inj hmake
            exact .there hthere
          · cases hmake

end Directories

end IntegrationBuild.Workspace
