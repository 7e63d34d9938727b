import IntegrationBuild.Proofs.Build.Output
import IntegrationBuild.Proofs.Workspace.Settled

/-!
What a build stores.  To store compiled scripts, one after the other, comes to
the same file system in any order, and it changes nothing where they are stored
already.
-/

namespace IntegrationBuild

/-- What a build stores at a path: a compiled script, or, for a script that does
not compile, no more than the directory for it. -/
structure Artifact where
  path : Path
  code? : Option ByteArray

/-- Whether an error is that of a file or directory that cannot be written. -/
def BuildError.isOfWrite : BuildError → Bool
  | .file _ | .occupied _ _ => true
  | _ => false

namespace Artifact

/-- A compiled script below the output directory. -/
structure Below (out : Path) (artifact : Artifact) : Prop where
  plain : artifact.path.Plain
  place : CompiledPlace artifact.path.parts
  below : out.parts <+: artifact.path.parent.parts

/-- The artifact is stored. -/
structure Holds (artifact : Artifact) (ws : Workspace) : Prop where
  directory : ws.entry? artifact.path.parent.parts = some .directory
  code : ∀ code, artifact.code? = some code →
    ws.entry? artifact.path.parts = some (.file code)

/-- At each path, one code is stored. -/
def Consistent (artifacts : List Artifact) : Prop :=
  ∀ a ∈ artifacts, ∀ b ∈ artifacts, a.path.parts = b.path.parts → a.code? = b.code?

variable {out : Path} {artifact : Artifact} {artifacts : List Artifact}

theorem Consistent.tail (hall : Consistent (artifact :: artifacts)) : Consistent artifacts :=
  fun a ha b hb => hall a (List.mem_cons_of_mem _ ha) b (List.mem_cons_of_mem _ hb)

theorem Below.exists_concat (hbelow : artifact.Below out) :
    ∃ part, artifact.path.parts = artifact.path.parent.parts ++ [part] := by
  obtain ⟨stem, hlast⟩ := hbelow.place
  obtain ⟨directory, hparts⟩ := List.getLast?_eq_some_iff.mp hlast
  exact ⟨stem ++ compiledSuffix, by simp [Path.parent, hparts]⟩

theorem Below.parent_plain (hbelow : artifact.Below out) : artifact.path.parent.Plain :=
  Path.plain_parent hbelow.plain

end Artifact

namespace Build

/-- Stores a compiled script, making its directory. -/
def store (artifact : Artifact) : Build Unit := do
  makeDirectories artifact.path.parent
  checkFree artifact.path
  match artifact.code? with
  | some code => write artifact.path code
  | none => pure ()

/-- Stores compiled scripts, one after the other. -/
def storeAll : List Artifact → Build Unit
  | [] => pure ()
  | artifact :: rest => do
    store artifact
    storeAll rest

theorem storeAll_append (first next : List Artifact) :
    storeAll (first ++ next) = (do storeAll first; storeAll next) := by
  induction first with
  | nil => simp [storeAll]
  | cons artifact rest ih => simp [storeAll, ih]

section Errors

/-- A step stops the build for nothing but a write that fails. -/
def StopsOfWrite {α : Type} (step : Build α) : Prop :=
  ∀ ws error ws', step.run.run ws = (.error error, ws') → error.isOfWrite = true

variable {α β : Type}

theorem stopsOfWrite_pure (value : α) : StopsOfWrite (pure value) := by
  intro ws error ws' hrun
  cases hrun

theorem StopsOfWrite.bind {first : Build α} {next : α → Build β} (hfirst : StopsOfWrite first)
    (hnext : ∀ value, StopsOfWrite (next value)) : StopsOfWrite (first >>= next) := by
  intro ws error ws' hrun
  rw [run_bind] at hrun
  rcases hstep : first.run.run ws with ⟨fault | value, mid⟩
  · rw [hstep] at hrun
    cases hrun
    exact hfirst ws _ _ hstep
  · rw [hstep] at hrun
    exact hnext value mid error ws' hrun

theorem stopsOfWrite_get : StopsOfWrite get := by
  intro ws error ws' hrun
  cases hrun

theorem stopsOfWrite_throw {error : BuildError} (herror : error.isOfWrite = true) :
    StopsOfWrite (throw error : Build α) := by
  intro ws other ws' hrun
  cases hrun
  exact herror

theorem stopsOfWrite_change (step : Workspace → Except FileError Workspace) :
    StopsOfWrite (change step) := by
  refine stopsOfWrite_get.bind fun ws => ?_
  split
  · intro ws error ws' hrun
    cases hrun
  · exact stopsOfWrite_throw rfl

theorem stopsOfWrite_checkFree (path : Path) : StopsOfWrite (checkFree path) := by
  refine stopsOfWrite_get.bind fun ws => ?_
  split
  · exact stopsOfWrite_throw rfl
  · split
    · exact stopsOfWrite_throw rfl
    · exact stopsOfWrite_pure _

theorem stopsOfWrite_store (artifact : Artifact) : StopsOfWrite (store artifact) := by
  refine (stopsOfWrite_change _).bind fun _ => ?_
  refine (stopsOfWrite_checkFree _).bind fun _ => ?_
  split
  · exact stopsOfWrite_change _
  · exact stopsOfWrite_pure _

theorem stopsOfWrite_storeAll (artifacts : List Artifact) : StopsOfWrite (storeAll artifacts) := by
  induction artifacts with
  | nil => exact stopsOfWrite_pure _
  | cons artifact rest ih => exact (stopsOfWrite_store artifact).bind fun _ => ih

end Errors

section Stored

variable {ws ws' : Workspace} {out : Path} {artifact : Artifact}

theorem gives_store_iff :
    Gives (store artifact) ws () ws' ↔
      ∃ mid, ws.makeDirectories artifact.path.parent = .ok mid ∧ IsFree mid artifact.path ∧
        match artifact.code? with
        | some code => mid.write artifact.path code = .ok ws'
        | none => mid = ws' := by
  simp only [store, gives_bind_iff, makeDirectories, gives_change_iff, gives_checkFree_iff]
  constructor
  · rintro ⟨_, mid, hmake, _, _, ⟨hfree, rfl⟩, hgives⟩
    refine ⟨mid, hmake, hfree, ?_⟩
    split at hgives
    · exact gives_change_iff.mp hgives
    · exact (gives_pure_iff.mp hgives).2
  · rintro ⟨mid, hmake, hfree, hwrite⟩
    refine ⟨(), mid, hmake, (), mid, ⟨hfree, rfl⟩, ?_⟩
    split
    · next code hcode =>
      rw [hcode] at hwrite
      exact gives_change_iff.mpr hwrite
    · next hcode =>
      rw [hcode] at hwrite
      exact gives_pure_iff.mpr ⟨rfl, hwrite⟩

/-- The places that storing some artifacts may touch: directories on the way to
them, and their own paths if they have a code. -/
def StoresInto (artifacts : List Artifact) : Workspace → Workspace → Prop :=
  Workspace.Grown (fun location => ∃ a ∈ artifacts, location <+: a.path.parent.parts)
    (fun location => ∃ a ∈ artifacts, location = a.path.parts ∧ a.code?.isSome = true)

/-- A directory stands in the way of a code. -/
theorem entry?_ne_directory_of_isFree (htree : ws.IsTree) {path : Path} (hpath : path.Plain)
    (hfree : IsFree ws path) : ws.entry? path.parts ≠ some .directory := by
  intro hdirectory
  have hlocate := htree.locate_of_entry? hpath hdirectory
  have hfile := hfree.file (by rw [Workspace.exists?, hlocate])
  rw [Workspace.isFile, hlocate] at hfile
  simp at hfile

/-- What is stored is there, and before no directory stood in its place. -/
theorem holds_of_gives_store (htree : ws.IsTree) (hbelow : artifact.Below out)
    (hgives : Gives (store artifact) ws () ws') :
    StoresInto [artifact] ws ws' ∧ artifact.Holds ws' ∧
      ws.entry? artifact.path.parts ≠ some .directory := by
  obtain ⟨mid, hmake, hfree, hwrite⟩ := gives_store_iff.mp hgives
  have hway : ws.Grown (· <+: artifact.path.parent.parts) (fun _ => False) mid :=
    htree.grown_makeDirectories hbelow.parent_plain hmake
  have hmade : StoresInto [artifact] ws mid :=
    hway.mono (fun _ hway => ⟨artifact, List.mem_cons_self, hway⟩) (fun _ => False.elim)
  have hdirectory := htree.entry?_of_makeDirectories hbelow.parent_plain hmake
  have hold : ws.entry? artifact.path.parts ≠ some .directory := fun hentry =>
    entry?_ne_directory_of_isFree hmade.after hbelow.plain hfree (hmade.directory_kept hentry)
  cases hcode : artifact.code? with
  | none =>
      rw [hcode] at hwrite
      subst hwrite
      exact ⟨hmade, ⟨hdirectory, by simp [hcode]⟩, hold⟩
  | some code =>
      rw [hcode] at hwrite
      obtain ⟨hgrown, hentry⟩ := hmade.after.grown_write_plain (fun _ => False)
        hbelow.plain hwrite
      refine ⟨hmade.trans (hgrown.mono (fun _ => False.elim) ?_), ⟨?_, ?_⟩, hold⟩
      · rintro _ rfl
        exact ⟨artifact, List.mem_cons_self, rfl, by simp [hcode]⟩
      · exact hgrown.directory_kept hdirectory
      · intro other hother
        obtain rfl : code = other := Option.some.inj (hcode.symm.trans hother)
        exact hentry

theorem StoresInto.mono {artifacts more : List Artifact} (hsubset : artifacts ⊆ more)
    (hstores : StoresInto artifacts ws ws') : StoresInto more ws ws' :=
  Workspace.Grown.mono hstores (fun _ ⟨a, ha, hway⟩ => ⟨a, hsubset ha, hway⟩)
    (fun _ ⟨a, ha, hplace⟩ => ⟨a, hsubset ha, hplace⟩)

variable {artifacts : List Artifact}

/-- What is stored stays stored while consistent artifacts are. -/
theorem Holds.of_storesInto (hconsistent : Artifact.Consistent (artifact :: artifacts))
    (hholds : artifact.Holds ws) (hstores : StoresInto artifacts ws ws')
    (hafter : ∀ a ∈ artifacts, a.Holds ws') : artifact.Holds ws' := by
  refine ⟨hstores.directory_kept hholds.directory, fun code hcode => ?_⟩
  have hentry := hholds.code code hcode
  rcases hstores.change artifact.path.parts with hsame | ⟨-, hnone, -⟩ | ⟨⟨a, ha, hplace, -⟩, -⟩
  · rw [hsame, hentry]
  · simp [hnone] at hentry
  · rw [hplace]
    apply (hafter a ha).code
    rw [← hcode]
    exact hconsistent a (List.mem_cons_of_mem _ ha) artifact List.mem_cons_self hplace.symm

/-- What is stored stays stored where nothing is written in its place. -/
theorem Holds.of_grown {directories files : Location → Prop} (hholds : artifact.Holds ws)
    (hgrown : ws.Grown directories files ws') (hpath : ¬files artifact.path.parts) :
    artifact.Holds ws' :=
  ⟨hgrown.directory_kept hholds.directory, fun code hcode =>
    (hgrown.file_iff hpath code).mp (hholds.code code hcode)⟩

/-- What is stored, one after the other, is all there in the end. -/
theorem holds_of_gives_storeAll (htree : ws.IsTree) (hbelow : ∀ a ∈ artifacts, a.Below out)
    (hconsistent : Artifact.Consistent artifacts)
    (hgives : Gives (storeAll artifacts) ws () ws') :
    StoresInto artifacts ws ws' ∧ (∀ a ∈ artifacts, a.Holds ws') ∧
      ∀ a ∈ artifacts, ws.entry? a.path.parts ≠ some .directory := by
  induction artifacts generalizing ws with
  | nil =>
      obtain ⟨-, rfl⟩ := gives_pure_iff.mp hgives
      exact ⟨.refl htree, by simp, by simp⟩
  | cons artifact rest ih =>
      obtain ⟨_, mid, hfirst, hrest⟩ := gives_bind_iff.mp hgives
      obtain ⟨hstores, hholds, hold⟩ :=
        holds_of_gives_store htree (hbelow artifact List.mem_cons_self) hfirst
      obtain ⟨hmore, hothers, hplaces⟩ := ih hstores.after
        (fun a ha => hbelow a (List.mem_cons_of_mem _ ha)) hconsistent.tail hrest
      refine ⟨(hstores.mono (by simp)).trans (hmore.mono (List.subset_cons_self _ _)), ?_, ?_⟩
      · intro a ha
        rcases List.mem_cons.mp ha with rfl | ha
        · exact Holds.of_storesInto hconsistent hholds hmore hothers
        · exact hothers a ha
      · intro a ha
        rcases List.mem_cons.mp ha with rfl | ha
        · exact hold
        · exact fun hentry => hplaces a ha (hstores.directory_kept hentry)

/-- Where everything is stored, nothing is left to the order of storing. -/
theorem sameEntries_of_holds {ws'' : Workspace} {others : List Artifact}
    (hsame : ∀ a, a ∈ artifacts ↔ a ∈ others)
    (hstores : StoresInto artifacts ws ws') (hholds : ∀ a ∈ artifacts, a.Holds ws')
    (hstores' : StoresInto others ws ws'') (hholds' : ∀ a ∈ others, a.Holds ws'') :
    Workspace.SameEntries ws' ws'' := by
  have hfile : ∀ a ∈ artifacts, a.code?.isSome = true →
      ws'.entry? a.path.parts = ws''.entry? a.path.parts := by
    intro a ha hsome
    obtain ⟨code, hcode⟩ := Option.isSome_iff_exists.mp hsome
    rw [(hholds a ha).code code hcode, (hholds' a ((hsame a).mp ha)).code code hcode]
  have hway : ∀ a ∈ artifacts, ∀ location, location <+: a.path.parent.parts →
      ws'.entry? location = ws''.entry? location := by
    intro a ha location hprefix
    rw [hstores.after.entry?_of_prefix hprefix (hholds a ha).directory,
      hstores'.after.entry?_of_prefix hprefix (hholds' a ((hsame a).mp ha)).directory]
  intro location
  rcases hstores.change location with hkept | ⟨⟨a, ha, hprefix⟩, -⟩ | ⟨⟨a, ha, rfl, hsome⟩, -⟩
  · rcases hstores'.change location with hkept' | ⟨⟨a, ha, hprefix⟩, -⟩ | ⟨⟨a, ha, rfl, hsome⟩, -⟩
    · rw [hkept, hkept']
    · exact hway a ((hsame a).mpr ha) location hprefix
    · exact hfile a ((hsame a).mpr ha) hsome
  · exact hway a ha location hprefix
  · exact hfile a ha hsome

end Stored

section Room

variable {ws ws' : Workspace} {out : Path} {artifact : Artifact} {artifacts : List Artifact}

/-- Nothing stands in the way of storing an artifact. -/
structure HasRoom (ws : Workspace) (artifact : Artifact) : Prop where
  way : ws.Free artifact.path.parent.parts
  place : ws.entry? artifact.path.parts ≠ some .directory

theorem HasRoom.exists_gives_store (htree : ws.IsTree) (hbelow : artifact.Below out)
    (hroom : HasRoom ws artifact) : ∃ ws', Gives (store artifact) ws () ws' := by
  obtain ⟨part, hparts⟩ := hbelow.exists_concat
  obtain ⟨mid, hmake, hdirectory⟩ :=
    htree.makeDirectoriesFrom_of_free hbelow.parent_plain (Nat.lt_succ_self _) hroom.way
  have hgrown : ws.Grown (· <+: artifact.path.parent.parts) (fun _ => False) mid :=
    htree.grown_makeDirectories hbelow.parent_plain hmake
  have hplace : mid.entry? artifact.path.parts ≠ some .directory := by
    rw [ne_eq, hgrown.directory_iff (Path.not_prefix_parent hparts)]
    exact hroom.place
  have hfree := ScriptJob.isFree_of_parent hgrown.after hbelow.plain hparts hdirectory hplace
  cases hcode : artifact.code? with
  | none => exact ⟨mid, gives_store_iff.mpr ⟨mid, hmake, hfree, by rw [hcode]⟩⟩
  | some code =>
      obtain ⟨ws', hwrite, -⟩ := hgrown.after.write_of_parent (fun _ => False)
        hbelow.plain hparts hdirectory hplace code
      exact ⟨ws', gives_store_iff.mpr ⟨mid, hmake, hfree, by rwa [hcode]⟩⟩

/-- What is stored leaves room for what does not clash with it. -/
theorem HasRoom.of_storesInto {other : Artifact} (hroom : HasRoom ws artifact)
    (hstores : StoresInto [other] ws ws')
    (hpath : ¬artifact.path.parts <+: other.path.parent.parts)
    (hother : ¬other.path.parts <+: artifact.path.parent.parts) : HasRoom ws' artifact := by
  constructor
  · apply Workspace.Grown.free hstores hroom.way
    rintro _ hway ⟨a, ha, rfl, -⟩
    obtain rfl : a = other := by simpa using ha
    exact hother hway
  · rw [ne_eq, Workspace.Grown.directory_iff hstores]
    · exact hroom.place
    · rintro ⟨a, ha, hway⟩
      obtain rfl : a = other := by simpa using ha
      exact hpath hway

/-- No artifact lies on the way to another. -/
def Apart (artifacts : List Artifact) : Prop :=
  ∀ a ∈ artifacts, ∀ b ∈ artifacts, ¬a.path.parts <+: b.path.parent.parts

/-- Artifacts with room that are apart can be stored. -/
theorem exists_gives_storeAll (htree : ws.IsTree) (hbelow : ∀ a ∈ artifacts, a.Below out)
    (hroom : ∀ a ∈ artifacts, HasRoom ws a) (hapart : Apart artifacts) :
    ∃ ws', Gives (storeAll artifacts) ws () ws' := by
  induction artifacts generalizing ws with
  | nil => exact ⟨ws, gives_pure_iff.mpr ⟨rfl, rfl⟩⟩
  | cons artifact rest ih =>
      have hfirst := hbelow artifact List.mem_cons_self
      obtain ⟨mid, hstore⟩ := (hroom artifact List.mem_cons_self).exists_gives_store htree hfirst
      obtain ⟨hstores, -, -⟩ := holds_of_gives_store htree hfirst hstore
      obtain ⟨ws', hrest⟩ := ih hstores.after
        (fun a ha => hbelow a (List.mem_cons_of_mem _ ha))
        (fun a ha => (hroom a (List.mem_cons_of_mem _ ha)).of_storesInto hstores
          (hapart a (List.mem_cons_of_mem _ ha) artifact List.mem_cons_self)
          (hapart artifact List.mem_cons_self a (List.mem_cons_of_mem _ ha)))
        (fun a ha b hb => hapart a (List.mem_cons_of_mem _ ha) b (List.mem_cons_of_mem _ hb))
      exact ⟨ws', gives_bind_iff.mpr ⟨(), mid, hstore, hrest⟩⟩

/-- What could be stored had room. -/
theorem hasRoom_of_holds (hstores : StoresInto artifacts ws ws') (hholds : artifact.Holds ws')
    (hold : ws.entry? artifact.path.parts ≠ some .directory) : HasRoom ws artifact := by
  refine ⟨fun way content hway hfile => ?_, hold⟩
  have hdirectory := hstores.after.entry?_of_prefix hway hholds.directory
  rcases hstores.change way with hsame | ⟨-, hnone, -⟩ | ⟨-, -, _, hwritten⟩
  · rw [hsame, hfile] at hdirectory
    simp at hdirectory
  · simp [hfile] at hnone
  · simp [hwritten] at hdirectory

end Room

section Again

variable {ws ws' : Workspace} {out : Path} {artifact : Artifact} {artifacts : List Artifact}

/-- To store what is stored changes nothing, unless a directory stands where a
script that does not compile would be stored. -/
theorem run_store_of_holds (htree : ws.IsTree) (hbelow : artifact.Below out)
    (hholds : artifact.Holds ws) :
    (store artifact).run.run ws =
      if ws.hasDirectory artifact.path.parts then
        (.error (.occupied artifact.path false), ws)
      else (.ok (), ws) := by
  have hmake := htree.makeDirectories_of_directory hbelow.parent_plain hholds.directory
  obtain ⟨part, hparts⟩ := hbelow.exists_concat
  have hmade : (makeDirectories artifact.path.parent).run.run ws = (.ok (), ws) :=
    gives_change_iff.mpr hmake
  by_cases hentry : ws.entry? artifact.path.parts = some .directory
  · have hlocate := htree.locate_of_entry? hbelow.plain hentry
    have hcheck : (checkFree artifact.path).run.run ws =
        (.error (.occupied artifact.path false), ws) := by
      have hget : (get : Build Workspace).run.run ws = (.ok ws, ws) := rfl
      rw [checkFree, run_bind, hget]
      dsimp only
      rw [htree.isLink_eq_false, Workspace.exists?, Workspace.isFile, hlocate]
      rfl
    rw [if_pos ((Workspace.hasDirectory_iff _).mpr hentry), store, run_bind, hmade]
    dsimp only
    rw [run_bind, hcheck]
  · rw [if_neg (by rwa [Workspace.hasDirectory_iff])]
    refine gives_store_iff.mpr ⟨ws, hmake,
      ScriptJob.isFree_of_parent htree hbelow.plain hparts hholds.directory hentry, ?_⟩
    cases hcode : artifact.code? with
    | none => rfl
    | some code => exact htree.write_of_file hbelow.plain (hholds.code code hcode)

theorem run_storeAll_of_holds (htree : ws.IsTree) (hbelow : ∀ a ∈ artifacts, a.Below out)
    (hholds : ∀ a ∈ artifacts, a.Holds ws) :
    (storeAll artifacts).run.run ws = (.ok (), ws) ∨
      ∃ a ∈ artifacts, a.code? = none ∧ ws.entry? a.path.parts = some .directory ∧
        (storeAll artifacts).run.run ws = (.error (.occupied a.path false), ws) := by
  induction artifacts with
  | nil => exact Or.inl rfl
  | cons artifact rest ih =>
      have hfirst := run_store_of_holds htree (hbelow artifact List.mem_cons_self)
        (hholds artifact List.mem_cons_self)
      rw [storeAll, run_bind, hfirst]
      by_cases hdirectory : ws.hasDirectory artifact.path.parts = true
      · have hentry := (Workspace.hasDirectory_iff _).mp hdirectory
        rw [if_pos hdirectory]
        refine Or.inr ⟨artifact, List.mem_cons_self, ?_, hentry, rfl⟩
        by_contra hsome
        obtain ⟨code, hcode⟩ := Option.ne_none_iff_exists'.mp hsome
        have hfile := (hholds artifact List.mem_cons_self).code code hcode
        simp [hentry] at hfile
      · rw [if_neg hdirectory]
        rcases ih (fun a ha => hbelow a (List.mem_cons_of_mem _ ha))
          (fun a ha => hholds a (List.mem_cons_of_mem _ ha)) with hdone | ⟨a, ha, hstop⟩
        · exact Or.inl hdone
        · exact Or.inr ⟨a, List.mem_cons_of_mem _ ha, hstop⟩

end Again

end Build

end IntegrationBuild
