import Mathlib.Data.List.Perm.Subperm
import Mathlib.Order.Defs.Unbundled
import IntegrationBuild.Proofs.Workspace.Growth

/-!
File systems with links.  What a path resolves to depends on the links alone,
and neither making directories nor writing files touches a link.  Making
directories moreover leaves everything in its place, so that whatever a path
led to it still leads to.
-/

namespace IntegrationBuild

/-- The place of what was found, or of what was found to be lacking. -/
def Found.place? : Found → Option Location
  | .entry location _ => some location
  | .absent location => some location
  | .missing | .blocked | .loop => none

namespace Workspace

variable {ws ws' : Workspace}

/-- A link stands at a place. -/
def LinkAt (ws : Workspace) (location : Location) : Prop :=
  ∃ target, ws.entry? location = some (.link target)

/-- The same links stand at the same places. -/
def SameLinks (ws ws' : Workspace) : Prop :=
  ∀ location target, ws.entry? location = some (.link target) ↔
    ws'.entry? location = some (.link target)

instance : IsPreorder Workspace SameLinks where
  refl _ _ _ := Iff.rfl
  trans _ _ _ hfirst hnext location target :=
    (hfirst location target).trans (hnext location target)

section Resolve

theorem realWalk_cons_of_not_linkAt {current : Location} {part : String}
    (hpart : part ≠ "..") (hlink : ¬ws.LinkAt (current ++ [part]))
    (follow : Location → String → Path → Location × Bool) (rest : List String) :
    ws.realWalk follow current (part :: rest) =
      ws.realWalk follow (current ++ [part]) rest := by
  rw [realWalk, if_neg (by simpa using hpart)]
  split
  · next target hentry => exact absurd ⟨target, hentry⟩ hlink
  · rfl

/-- Two ways to go on that agree at every link lead to the same place. -/
theorem SameLinks.realWalk_congr (hsame : SameLinks ws ws')
    {follow follow' : Location → String → Path → Location × Bool}
    (hfollow : ∀ current part target, ws.LinkAt (current ++ [part]) →
      follow current part target = follow' current part target)
    (current : Location) (parts : List String) :
    ws.realWalk follow current parts = ws'.realWalk follow' current parts := by
  induction parts generalizing current with
  | nil => rfl
  | cons part rest ih =>
      by_cases hpart : part = ".."
      · subst hpart
        exact ih current.dropLast
      · have hdots : ¬(part == "..") = true := by simpa using hpart
        by_cases hlink : ws.LinkAt (current ++ [part])
        · obtain ⟨target, hentry⟩ := hlink
          have hgo := hfollow current part (Path.ofString target) ⟨target, hentry⟩
          rw [realWalk, realWalk, if_neg hdots, if_neg hdots, hentry,
            (hsame _ target).mp hentry]
          dsimp only
          rw [hgo]
          split
          · exact ih _
          · rfl
        · have hlink' : ¬ws'.LinkAt (current ++ [part]) := by
            rintro ⟨target, hentry⟩
            exact hlink ⟨target, (hsame _ target).mpr hentry⟩
          rw [realWalk_cons_of_not_linkAt hpart hlink,
            realWalk_cons_of_not_linkAt hpart hlink']
          exact ih (current ++ [part])

/-- The bound exceeds the number of links that can still come under way. -/
def HasRoom (ws : Workspace) (depth : Nat) (underWay : List Location) : Prop :=
  ∀ chain : List Location, (chain ++ underWay).Nodup → (∀ place ∈ chain, ws.LinkAt place) →
    chain.length < depth

theorem HasRoom.cons {depth : Nat} {underWay : List Location} {place : Location}
    (hroom : ws.HasRoom (depth + 1) underWay) (hplace : ws.LinkAt place) :
    ws.HasRoom depth (place :: underWay) := by
  intro chain hnodup hchain
  -- with the place itself the chain is one link longer
  have hlength := hroom (chain ++ [place]) (by simpa using hnodup) (by
    intro other hother
    rcases List.mem_append.mp hother with hold | hnew
    · exact hchain other hold
    · obtain rfl : other = place := by simpa using hnew
      exact hplace)
  simpa using hlength

theorem hasRoom_entries (ws : Workspace) :
    ws.HasRoom (ws.entries.length + 1) [] := by
  intro chain hnodup hchain
  have hsubset : chain ⊆ ws.entries.map Prod.fst := by
    intro place hplace
    obtain ⟨target, hentry⟩ := hchain place hplace
    have hne : place ≠ [] := by
      rintro rfl
      cases hentry
    exact List.mem_map_of_mem (mem_entries_of_some hentry hne)
  rw [List.append_nil] at hnodup
  have hle := (List.subperm_of_subset hnodup hsubset).length_le
  rw [List.length_map] at hle
  omega

/-- With room for all links, the bound makes no difference. -/
theorem SameLinks.realFrom_eq (hsame : SameLinks ws ws') {depth depth' : Nat}
    {underWay : List Location} (hnodup : underWay.Nodup)
    (hroom : ws.HasRoom depth underWay) (hroom' : ws.HasRoom depth' underWay) :
    ws.realFrom depth underWay = ws'.realFrom depth' underWay := by
  induction depth generalizing depth' underWay with
  | zero => exact absurd (hroom [] hnodup (by simp)) (Nat.not_lt_zero _)
  | succ depth ih =>
      cases depth' with
      | zero => exact absurd (hroom' [] hnodup (by simp)) (Nat.not_lt_zero _)
      | succ depth' =>
          funext current parts
          rw [realFrom, realFrom]
          refine hsame.realWalk_congr (fun current part target hlink => ?_) current parts
          by_cases hunder : current ++ [part] ∈ underWay
          · simp [hunder]
          · have hnext := ih (List.nodup_cons.mpr ⟨hunder, hnodup⟩) (hroom.cons hlink)
              (hroom'.cons hlink)
            simp [hunder, hnext]

theorem SameLinks.hasRoom (hsame : SameLinks ws ws') {depth : Nat}
    {underWay : List Location} (hroom : ws'.HasRoom depth underWay) :
    ws.HasRoom depth underWay := by
  intro chain hnodup hchain
  refine hroom chain hnodup fun place hplace => ?_
  obtain ⟨target, hlink⟩ := hchain place hplace
  exact ⟨target, (hsame place target).mp hlink⟩

/-- What paths resolve to depends on the links alone. -/
theorem SameLinks.resolve_eq (hsame : SameLinks ws ws') : ws.resolve = ws'.resolve := by
  funext cwd path
  rw [resolve, resolve, hsame.realFrom_eq List.nodup_nil ws.hasRoom_entries
    (hsame.hasRoom ws'.hasRoom_entries)]

/-- A circle is found where the path resolves to. -/
theorem eq_resolve_of_circle? {cwd path place : Path} (hcircle : ws.circle? cwd path = some place) :
    place = ws.resolve cwd path := by
  rw [circle?] at hcircle
  split at hcircle
  · exact (Option.some.inj hcircle).symm
  · cases hcircle

end Resolve

section Standing

/-- What was found stands where it was found, and nothing stands where nothing
was found. -/
def Stands (ws : Workspace) : Found → Prop
  | .entry location entry => ws.entry? location = some entry
  | .absent location => ws.entry? location = none
  | .missing | .blocked | .loop => True

theorem stands_walk {follow : Location → Path → List String → Found}
    (hfollow : ∀ current target rest, ws.Stands (follow current target rest))
    (current : Location) (parts : List String) :
    ws.Stands (ws.walk follow current parts) := by
  obtain ⟨found, hwalks⟩ := ws.exists_walks follow current parts
  rw [hwalks.walk_eq]
  induction hwalks with
  | here hentry => exact hentry
  | nowhere hnone => exact hnone
  | absent _ _ hnone => exact hnone
  | file _ _ hfile => exact hfile
  | link => exact hfollow _ _ _
  | up _ _ ih => exact ih
  | down _ _ _ _ ih => exact ih
  | blocked => trivial
  | missing => trivial
  | inFile => trivial

theorem stands_find (budget : Nat) (current : Location) (parts : List String) :
    ws.Stands (ws.find budget current parts) := by
  induction budget generalizing current parts with
  | zero =>
      rw [find]
      refine stands_walk (fun _ _ _ => ?_) current parts
      trivial
  | succ budget ih =>
      rw [find]
      exact stands_walk (fun _ _ _ => ih _ _) current parts

theorem stands_locate (path : Path) : ws.Stands (ws.locate path) :=
  stands_find linkBudget [] path.parts

theorem entry?_of_locate_absent {path : Path} {location : Location}
    (hlocate : ws.locate path = .absent location) : ws.entry? location = none := by
  have hstands := ws.stands_locate path
  rwa [hlocate] at hstands

theorem entry?_of_locate_entry {path : Path} {location : Location} {entry : Entry}
    (hlocate : ws.locate path = .entry location entry) :
    ws.entry? location = some entry := by
  have hstands := ws.stands_locate path
  rwa [hlocate] at hstands

theorem ne_nil_of_locate_absent {path : Path} {location : Location}
    (hlocate : ws.locate path = .absent location) : location ≠ [] := by
  rintro rfl
  cases entry?_of_locate_absent hlocate

end Standing

section Ways

/-- Every directory and every link is still in its place. -/
structure KeepsWays (ws ws' : Workspace) : Prop where
  directory : ∀ {location}, ws.entry? location = some .directory →
    ws'.entry? location = some .directory
  link : ∀ {location target}, ws.entry? location = some (.link target) →
    ws'.entry? location = some (.link target)

variable {place : Location} {entry : Entry} {current : Location} {parts : List String}

/-- A way that leads to a place leads there as long as the directories and links
on it are kept, and ends at what stands there now. -/
theorem KeepsWays.walk_eq_entry (hkeeps : KeepsWays ws ws')
    (hentry : ws'.entry? place = some entry) (hlink : ws'.LinkAt place → ws.LinkAt place)
    {follow follow' : Location → Path → List String → Found}
    (hfollow : ∀ current target rest, (follow current target rest).place? = some place →
      follow' current target rest = .entry place entry)
    (hwalk : (ws.walk follow current parts).place? = some place) :
    ws'.walk follow' current parts = .entry place entry := by
  -- a name may end the way where no link stands
  have hname : ∀ {current : Location} {part : String}, ws.entry? current = some .directory →
      part ≠ ".." → ¬ws.LinkAt (current ++ [part]) → current ++ [part] = place →
      ws'.Walks follow' current [part] (.entry place entry) := by
    rintro current part hcurrent hpart hnolink rfl
    refine walks_name (hkeeps.directory hcurrent) hpart hentry ?_
    rintro target rfl
    exact hnolink (hlink ⟨target, hentry⟩)
  obtain ⟨found, hwalks⟩ := ws.exists_walks follow current parts
  rw [hwalks.walk_eq] at hwalk
  apply Walks.walk_eq
  induction hwalks with
  | here _ =>
      obtain rfl := Option.some.inj hwalk
      exact .here hentry
  | nowhere _ =>
      obtain rfl := Option.some.inj hwalk
      exact .here hentry
  | up hcurrent _ ih => exact .up (hkeeps.directory hcurrent) (ih hwalk)
  | absent hcurrent hpart hnone =>
      refine hname hcurrent hpart ?_ (Option.some.inj hwalk)
      rintro ⟨target, hlink⟩
      cases hnone.symm.trans hlink
  | file hcurrent hpart hfile =>
      refine hname hcurrent hpart ?_ (Option.some.inj hwalk)
      rintro ⟨target, hlink⟩
      cases hfile.symm.trans hlink
  | link hcurrent hpart hlink =>
      rw [← hfollow _ _ _ hwalk]
      exact .link (hkeeps.directory hcurrent) hpart (hkeeps.link hlink)
  | down hcurrent hpart hlower _ ih =>
      exact .down (hkeeps.directory hcurrent) hpart (hkeeps.directory hlower) (ih hwalk)
  | blocked => cases hwalk
  | missing => cases hwalk
  | inFile => cases hwalk

theorem KeepsWays.find_eq_entry (hkeeps : KeepsWays ws ws')
    (hentry : ws'.entry? place = some entry) (hlink : ws'.LinkAt place → ws.LinkAt place)
    {budget : Nat} (hfind : (ws.find budget current parts).place? = some place) :
    ws'.find budget current parts = .entry place entry := by
  induction budget generalizing current parts with
  | zero =>
      rw [find] at hfind ⊢
      exact hkeeps.walk_eq_entry hentry hlink (fun _ _ _ hloop => by cases hloop) hfind
  | succ budget ih =>
      rw [find] at hfind ⊢
      exact hkeeps.walk_eq_entry hentry hlink (fun _ _ _ hnext => ih hnext) hfind

end Ways

section Retains

/-- Whatever stood at a place still stands there. -/
def Retains (ws ws' : Workspace) : Prop :=
  ∀ location entry, ws.entry? location = some entry → ws'.entry? location = some entry

instance : IsPreorder Workspace Retains where
  refl _ _ _ hentry := hentry
  trans _ _ _ hfirst hnext location entry hentry :=
    hnext location entry (hfirst location entry hentry)

variable (hretains : Retains ws ws')

include hretains

theorem Retains.keepsWays : KeepsWays ws ws' :=
  ⟨hretains _ _, hretains _ _⟩

/-- A way that leads somewhere still leads there. -/
theorem Retains.find_eq_entry {budget : Nat} {current : Location} {parts : List String}
    {location : Location} {entry : Entry}
    (hfind : ws.find budget current parts = .entry location entry) :
    ws'.find budget current parts = .entry location entry := by
  have hstands := ws.stands_find budget current parts
  rw [hfind] at hstands
  refine hretains.keepsWays.find_eq_entry (hretains _ _ hstands) ?_ (by rw [hfind]; rfl)
  rintro ⟨target, hlink⟩
  cases (hretains _ _ hstands).symm.trans hlink
  exact ⟨target, hstands⟩

theorem Retains.locate_eq_entry {path : Path} {location : Location} {entry : Entry}
    (hlocate : ws.locate path = .entry location entry) : ws'.locate path = .entry location entry :=
  hretains.find_eq_entry hlocate

theorem Retains.read?_eq {path : Path} {content : ByteArray}
    (hread : ws.read? path = some content) : ws'.read? path = some content := by
  rw [read?] at hread ⊢
  split at hread
  · next location found hlocate =>
    rw [hretains.locate_eq_entry hlocate]
    exact hread
  · cases hread

end Retains

theorem exists_read?_of_isFile {path : Path} (hfile : ws.isFile path = true) :
    ∃ content, ws.read? path = some content := by
  rw [isFile] at hfile
  split at hfile
  · next location content hlocate =>
    rw [read?, hlocate]
    exact ⟨content, rfl⟩
  · cases hfile

section Change

/-- An entry put where no link stands, and that is none, leaves the links. -/
theorem sameLinks_put {location : Location} {entry : Entry} (hlocation : location ≠ [])
    (hold : ¬ws.LinkAt location) (hnew : ∀ target, entry ≠ .link target) :
    SameLinks ws (ws.put location entry) := by
  intro other target
  rw [entry?_put hlocation]
  split
  · next hother =>
    subst hother
    constructor
    · intro hlink
      exact absurd ⟨target, hlink⟩ hold
    · intro hlink
      exact absurd (Option.some.inj hlink) (hnew target)
  · rfl

theorem sameLinks_put_absent {path : Path} {location : Location} {entry : Entry}
    (hlocate : ws.locate path = .absent location) (hnew : ∀ target, entry ≠ .link target) :
    SameLinks ws (ws.put location entry) := by
  have hnone := entry?_of_locate_absent hlocate
  refine sameLinks_put (ne_nil_of_locate_absent hlocate) ?_ hnew
  rintro ⟨target, hlink⟩
  simp [hnone] at hlink

theorem sameLinks_write {path : Path} {content : ByteArray}
    (hwrite : ws.write path content = .ok ws') : SameLinks ws ws' := by
  obtain ⟨location, rfl, hlocate | ⟨old, hlocate⟩⟩ := write_eq_ok hwrite
  · exact sameLinks_put_absent hlocate (by simp)
  · have hentry := entry?_of_locate_entry hlocate
    refine sameLinks_put ?_ ?_ (by simp)
    · rintro rfl
      cases hentry
    · rintro ⟨target, hlink⟩
      simp [hentry] at hlink

end Change

section Gains

/-- What a preorder says of making one directory it says of making several. -/
theorem MakesDirectories.of_one {R : Workspace → Workspace → Prop} [IsPreorder Workspace R]
    (hone : ∀ ws ws' path, ws.makeDirectory path = .ok ws' → R ws ws') {path : Path}
    (hmakes : MakesDirectories ws path ws') : R ws ws' := by
  induction hmakes with
  | made hmade => exact hone _ _ _ hmade
  | there _ => exact refl_of R _
  | above _ _ ihup ih => exact trans_of R ihup ih

/-- Place by place, nothing changes but that directories come where nothing
stood. -/
def GainsDirectories (ws ws' : Workspace) : Prop :=
  ∀ location, ws'.entry? location = ws.entry? location ∨
    ws.entry? location = none ∧ ws'.entry? location = some .directory

instance : IsPreorder Workspace GainsDirectories where
  refl _ _ := Or.inl rfl
  trans ws mid ws' hfirst hnext location := by
    rcases hnext location with hsame | ⟨hnone, hmade⟩
    · rw [hsame]
      exact hfirst location
    · rcases hfirst location with hsame | ⟨-, hmade'⟩
      · exact Or.inr ⟨hsame ▸ hnone, hmade⟩
      · cases hnone.symm.trans hmade'

theorem GainsDirectories.retains (hgains : GainsDirectories ws ws') : Retains ws ws' := by
  intro location entry hentry
  rcases hgains location with hsame | ⟨hnone, -⟩
  · rw [hsame, hentry]
  · cases hnone.symm.trans hentry

/-- What is no directory was there before. -/
theorem GainsDirectories.entry?_eq (hgains : GainsDirectories ws ws') {location : Location}
    {entry : Entry} (hentry : ws'.entry? location = some entry) (hne : entry ≠ .directory) :
    ws.entry? location = some entry := by
  rcases hgains location with hsame | ⟨-, hmade⟩
  · rw [← hsame, hentry]
  · exact absurd (Option.some.inj (hentry.symm.trans hmade)) hne

theorem GainsDirectories.sameLinks (hgains : GainsDirectories ws ws') : SameLinks ws ws' := by
  intro location target
  constructor
  · exact hgains.retains location _
  · intro hlink
    exact hgains.entry?_eq hlink (by simp)

theorem gains_makeDirectory {path : Path} (hmake : ws.makeDirectory path = .ok ws') :
    GainsDirectories ws ws' := by
  obtain ⟨place, hlocate, rfl⟩ := makeDirectory_eq_ok hmake
  have hnone := entry?_of_locate_absent hlocate
  intro location
  rw [entry?_put (ne_nil_of_locate_absent hlocate)]
  by_cases hplace : location = place
  · rw [if_pos hplace]
    exact Or.inr ⟨hplace ▸ hnone, rfl⟩
  · rw [if_neg hplace]
    exact Or.inl rfl

theorem MakesDirectories.gains {path : Path} (hmakes : MakesDirectories ws path ws') :
    GainsDirectories ws ws' :=
  hmakes.of_one fun _ _ _ => gains_makeDirectory

theorem gains_makeDirectories {path : Path} (hmake : ws.makeDirectories path = .ok ws') :
    GainsDirectories ws ws' :=
  (makesDirectories_of_eq_ok hmake).gains

theorem sameLinks_makeDirectories {path : Path}
    (hmake : ws.makeDirectories path = .ok ws') : SameLinks ws ws' :=
  (gains_makeDirectories hmake).sameLinks

theorem retains_makeDirectories {path : Path}
    (hmake : ws.makeDirectories path = .ok ws') : Retains ws ws' :=
  (gains_makeDirectories hmake).retains

end Gains

end Workspace

end IntegrationBuild
