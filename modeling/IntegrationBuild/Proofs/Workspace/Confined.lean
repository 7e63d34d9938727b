import IntegrationBuild.Proofs.Workspace.Names
import IntegrationBuild.Proofs.Workspace.Spared

/-!
Paths that go into a directory.  Where parts go on from a path along no link and
never lead above it, they lead to a place below the one that the path leads to.
A change is confined to a region if every file that comes or changes is in it.
-/

namespace IntegrationBuild

section NeverAbove

/-- From a depth on, parts lead down and up again but never above where they
start.  A single dot, which no text has for a part, leads nowhere. -/
inductive Path.NeverAbove : Nat → List String → Prop
  | nil (depth : Nat) : NeverAbove depth []
  | up {depth : Nat} {rest : List String} (hrest : NeverAbove depth rest) :
      NeverAbove (depth + 1) (".." :: rest)
  | dot {depth : Nat} {rest : List String} (hrest : NeverAbove depth rest) :
      NeverAbove depth ("." :: rest)
  | down {depth : Nat} {part : String} {rest : List String} (hdots : part ≠ "..")
      (hdot : part ≠ ".") (hrest : NeverAbove (depth + 1) rest) :
      NeverAbove depth (part :: rest)

namespace Path.NeverAbove

variable {depth : Nat} {parts more : List String}

theorem of_names (hnames : ".." ∉ parts) : NeverAbove depth parts := by
  induction parts generalizing depth with
  | nil => exact .nil depth
  | cons part rest ih =>
      have hrest : ∀ {depth}, NeverAbove depth rest :=
        ih fun hdots => hnames (List.mem_cons_of_mem part hdots)
      by_cases hdot : part = "."
      · rw [hdot]
        exact .dot hrest
      · refine .down ?_ hdot hrest
        rintro rfl
        exact hnames List.mem_cons_self

theorem append (hparts : NeverAbove depth parts) (hmore : ".." ∉ more) :
    NeverAbove depth (parts ++ more) := by
  induction hparts with
  | nil depth => exact of_names hmore
  | up _ ih => exact .up ih
  | dot _ ih => exact .dot ih
  | down hdots hdot _ ih => exact .down hdots hdot ih

theorem of_append (hparts : NeverAbove depth (parts ++ more)) : NeverAbove depth parts := by
  induction parts generalizing depth with
  | nil => exact .nil depth
  | cons part rest ih =>
      cases hparts with
      | up hrest => exact .up (ih hrest)
      | dot hrest => exact .dot (ih hrest)
      | down hdots hdot hrest => exact .down hdots hdot (ih hrest)

theorem dropLast (hparts : NeverAbove depth parts) : NeverAbove depth parts.dropLast := by
  obtain ⟨more, hmore⟩ := List.dropLast_prefix parts
  rw [← hmore] at hparts
  exact hparts.of_append

/-- Reading parts again leaves out single dots. -/
theorem filter (hnames : AreNames parts) (hparts : NeverAbove depth parts) :
    NeverAbove depth (parts.filter fun part => part != "" && part != ".") := by
  induction hparts with
  | nil depth => exact .nil depth
  | up _ ih => exact .up (ih (hnames.subset (List.subset_cons_self _ _)))
  | dot _ ih => exact ih (hnames.subset (List.subset_cons_self _ _))
  | @down _ part rest hdots hdot _ ih =>
      have hpart := (hnames part List.mem_cons_self).1
      rw [List.filter_cons_of_pos (by simp [hpart, hdot])]
      exact .down hdots hdot (ih (hnames.subset (List.subset_cons_self _ _)))

end Path.NeverAbove

end NeverAbove

namespace Workspace

variable {ws ws' : Workspace} {base path : Path} {place : Location}

section Into

/-- Where there is no link below a base, parts that never lead above it stay
below it. -/
theorem exists_leadsBelow {base : Location} (way : Location) {depth : Nat} {parts : List String}
    (hparts : Path.NeverAbove depth parts) (hdepth : depth ≤ way.length)
    (hlinks : ∀ more, more ≠ [] → ¬ws.LinkAt (base ++ more)) :
    ∃ place, ws.LeadsBelow base way parts place := by
  induction hparts generalizing way with
  | nil _ => exact ⟨way, .here way⟩
  | up _ ih =>
      have hway : way ≠ [] := by
        rintro rfl
        simp at hdepth
      obtain ⟨place, hrest⟩ := ih way.dropLast (by rw [List.length_dropLast]; omega)
      exact ⟨place, .up hway hrest⟩
  | @dot _ rest _ ih =>
      obtain ⟨place, hrest⟩ := ih (way ++ ["."]) (by rw [List.length_append]; omega)
      exact ⟨place, .down (by decide) (hlinks _ (by simp)) hrest⟩
  | @down _ part rest hdots _ _ ih =>
      obtain ⟨place, hrest⟩ := ih (way ++ [part]) (by simpa using hdepth)
      exact ⟨place, .down hdots (hlinks _ (by simp)) hrest⟩

/-- A place is the one that a path resolves to, or below it. -/
def IsInside (ws : Workspace) (base : Path) (place : Location) : Prop :=
  (ws.resolve (.absolute []) base).parts <+: place

/-- A path goes on from another one along no link, and never above the place that
the other one resolves to. -/
def GoesInto (ws : Workspace) (base path : Path) : Prop :=
  ∃ rest way, path.parts = base.parts ++ rest ∧
    ws.LeadsBelow (ws.resolve (.absolute []) base).parts [] rest way

theorem goesInto_of_neverAbove {rest : List String} (hparts : path.parts = base.parts ++ rest)
    (hrest : Path.NeverAbove 0 rest)
    (hlinks : ∀ more, more ≠ [] →
      ¬ws.LinkAt ((ws.resolve (.absolute []) base).parts ++ more)) : ws.GoesInto base path := by
  obtain ⟨way, hbelow⟩ := exists_leadsBelow [] hrest (Nat.zero_le _) hlinks
  exact ⟨rest, way, hparts, hbelow⟩

/-- What is found along such a path is inside the base. -/
theorem GoesInto.isInside_of_locate (hinto : ws.GoesInto base path)
    (hlocate : (ws.locate path).place? = some place) : ws.IsInside base place := by
  obtain ⟨rest, way, hparts, hbelow⟩ := hinto
  rw [IsInside]
  rw [locate, hparts] at hlocate
  obtain ⟨_, hleads⟩ := leads_of_find hlocate
  obtain ⟨_, _, start, hbase, hrest⟩ := hleads.split
  rw [resolve_of_leads hbase] at hbelow ⊢
  exact ⟨way, (hrest.eq_append hbelow).symm⟩

/-- If the base is a directory, the path resolves to a place inside it, whatever
is there. -/
theorem GoesInto.isInside_resolve (hinto : ws.GoesInto base path)
    (hbase : ws.isDirectory base = true) :
    ws.IsInside base (ws.resolve (.absolute []) path).parts := by
  obtain ⟨rest, way, hparts, hbelow⟩ := hinto
  rw [IsInside]
  rw [isDirectory] at hbase
  split at hbase
  · next location hlocate =>
    obtain ⟨_, hleads⟩ := leads_of_find (congrArg Found.place? hlocate)
    rw [resolve_of_leads hleads] at hbelow ⊢
    obtain ⟨_, hway⟩ := hbelow.exists_leads
    rw [List.append_nil] at hway
    obtain ⟨_, hall⟩ := hleads.append hway
    rw [← hparts] at hall
    rw [resolve_of_leads hall]
    exact ⟨way, rfl⟩
  · cases hbase

theorem SameLinks.linkAt_iff (hsame : SameLinks ws ws') : ws.LinkAt place ↔ ws'.LinkAt place :=
  exists_congr fun target => hsame place target

theorem SameLinks.leadsBelow {base way : Location} {parts : List String}
    (hsame : SameLinks ws ws') (hbelow : ws.LeadsBelow base way parts place) :
    ws'.LeadsBelow base way parts place := by
  induction hbelow with
  | here way => exact .here way
  | up hway _ ih => exact .up hway ih
  | down hpart hlink _ ih => exact .down hpart (fun h => hlink (hsame.linkAt_iff.mpr h)) ih

theorem GoesInto.of_sameLinks (hinto : ws.GoesInto base path) (hsame : SameLinks ws ws') :
    ws'.GoesInto base path := by
  obtain ⟨rest, way, hparts, hbelow⟩ := hinto
  rw [hsame.resolve_eq] at hbelow
  exact ⟨rest, way, hparts, hsame.leadsBelow hbelow⟩

end Into

section Confined

/-- Links are kept, and a file that comes or changes is in a region. -/
structure Confined (region : Location → Prop) (ws ws' : Workspace) : Prop where
  links : SameLinks ws ws'
  file : ∀ place content, ws'.entry? place = some (.file content) →
    ws.entry? place = some (.file content) ∨ region place

variable {region : Location → Prop}

instance : IsPreorder Workspace (Confined region) where
  refl ws := ⟨refl_of SameLinks ws, fun _ _ => Or.inl⟩
  trans _ _ _ hfirst hnext := by
    refine ⟨trans_of SameLinks hfirst.links hnext.links, fun place content hentry => ?_⟩
    rcases hnext.file place content hentry with hmid | hregion
    · exact hfirst.file place content hmid
    · exact Or.inr hregion

theorem GainsDirectories.confined (hgains : GainsDirectories ws ws') : Confined region ws ws' where
  links := hgains.sameLinks
  file _ _ hentry := Or.inl (hgains.entry?_eq hentry (by simp))

/-- Writing a file is confined to where its path leads. -/
theorem confined_write {content : ByteArray}
    (hregion : ∀ written, (ws.locate path).place? = some written → region written)
    (hwrite : ws.write path content = .ok ws') : Confined region ws ws' := by
  refine ⟨sameLinks_write hwrite, fun place other hentry => ?_⟩
  obtain ⟨written, rfl, hlocate, hne⟩ := put_of_write hwrite
  rw [entry?_put hne] at hentry
  split at hentry
  · next hplace =>
    rw [hplace]
    exact Or.inr (hregion written hlocate)
  · exact Or.inl hentry

end Confined

end Workspace

end IntegrationBuild
