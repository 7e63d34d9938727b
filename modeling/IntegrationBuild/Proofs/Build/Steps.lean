import Mathlib.Order.Defs.Unbundled
import IntegrationBuild.Build.Basic
import IntegrationBuild.Proofs.Outcome

/-!
What a step of a build gives: its value and the file system after it.  Every
step has one law, so that a build is taken apart step by step.
-/

namespace IntegrationBuild.Build

variable {α β : Type} {ws ws' : Workspace}

/-- From one file system on, a step gives a value and another file system. -/
def Gives (step : Build α) (ws : Workspace) (value : α) (ws' : Workspace) : Prop :=
  step.run.run ws = (.ok value, ws')

/-- A computation shows that a step gives a value with a property. -/
theorem exists_gives_of_decide {step : Build α} {P : α → Prop} [DecidablePred P]
    (hholds : (step.run.run ws).1.toOption.any (fun value => decide (P value)) = true) :
    ∃ value ws', Gives step ws value ws' ∧ P value := by
  obtain ⟨value, hvalue, hP⟩ := Outcome.exists_ok_of_decide hholds
  exact ⟨value, (step.run.run ws).2, Prod.ext hvalue rfl, hP⟩

/-- The file system after a step, whether or not it stops the build. -/
def after (step : Build α) (ws : Workspace) : Workspace :=
  (step.run.run ws).2

theorem Gives.after_eq {step : Build α} {value : α}
    (hgives : Gives step ws value ws') : step.after ws = ws' :=
  congrArg Prod.snd hgives

theorem gives_pure_iff {given value : α} :
    Gives (pure given) ws value ws' ↔ given = value ∧ ws = ws' := by
  constructor
  · intro hgives
    cases hgives
    exact ⟨rfl, rfl⟩
  · rintro ⟨rfl, rfl⟩
    rfl

theorem run_bind (first : Build α) (next : α → Build β) (ws : Workspace) :
    (first >>= next).run.run ws =
      match first.run.run ws with
      | (.ok given, mid) => (next given).run.run mid
      | (.error error, mid) => (.error error, mid) := by
  change (match first.run.run ws with
    | (result, mid) => (ExceptT.bindCont next result).run mid) = _
  rcases first.run.run ws with ⟨error | given, mid⟩
  · rfl
  · rfl

theorem gives_bind_iff {first : Build α} {next : α → Build β} {value : β} :
    Gives (first >>= next) ws value ws' ↔
      ∃ given mid, Gives first ws given mid ∧ Gives (next given) mid value ws' := by
  rw [Gives, run_bind]
  rcases hfirst : first.run.run ws with ⟨error | given, mid⟩
  · constructor
    · intro hgives
      cases hgives
    · rintro ⟨given, mid', hgives, -⟩
      rw [Gives, hfirst] at hgives
      cases hgives
  · constructor
    · intro hgives
      exact ⟨given, mid, hfirst, hgives⟩
    · rintro ⟨given', mid', hgives, hnext⟩
      rw [Gives, hfirst] at hgives
      cases hgives
      exact hnext

/-- A step may go on in another way that comes to the same wherever it may
have got. -/
theorem run_bind_congr {first : Build α} {next next' : α → Build β}
    (hnext : ∀ value mid, Gives first ws value mid →
      (next value).run.run mid = (next' value).run.run mid) :
    (first >>= next).run.run ws = (first >>= next').run.run ws := by
  rw [run_bind, run_bind]
  rcases hfirst : first.run.run ws with ⟨error | value, mid⟩
  · rfl
  · exact hnext value mid hfirst

/-- A step may be replaced by one that comes to the same. -/
theorem run_bind_left {first first' : Build α} (hfirst : first.run.run ws = first'.run.run ws)
    (next : α → Build β) : (first >>= next).run.run ws = (first' >>= next).run.run ws := by
  rw [run_bind, run_bind, hfirst]

theorem Gives.run_bind_eq {first : Build α} {next : α → Build β} {value : α} {mid : Workspace}
    (hgives : Gives first ws value mid) :
    (first >>= next).run.run ws = (next value).run.run mid := by
  have hrun : first.run.run ws = (.ok value, mid) := hgives
  rw [run_bind, hrun]

theorem gives_get_iff {value : Workspace} :
    Gives get ws value ws' ↔ ws = value ∧ ws = ws' := by
  constructor
  · intro hgives
    cases hgives
    exact ⟨rfl, rfl⟩
  · rintro ⟨rfl, rfl⟩
    rfl

theorem not_gives_throw {error : BuildError} {value : α} :
    ¬Gives (throw error) ws value ws' := by
  intro hgives
  cases hgives

theorem gives_orStop_iff {ε : Type} {wrap : ε → BuildError}
    {result : Except ε α} {value : α} :
    Gives (orStop wrap result) ws value ws' ↔ result = .ok value ∧ ws = ws' := by
  cases result with
  | ok given => simp [orStop, gives_pure_iff]
  | error error => simp [orStop, not_gives_throw]

theorem gives_change_iff {step : Workspace → Except FileError Workspace}
    {value : Unit} : Gives (change step) ws value ws' ↔ step ws = .ok ws' := by
  simp only [change, gives_bind_iff, gives_get_iff]
  constructor
  · rintro ⟨_, _, ⟨rfl, rfl⟩, hgives⟩
    cases hstep : step ws with
    | ok made =>
        rw [hstep] at hgives
        cases hgives
        rfl
    | error error =>
        rw [hstep] at hgives
        exact absurd hgives not_gives_throw
  · intro hstep
    refine ⟨ws, ws, ⟨rfl, rfl⟩, ?_⟩
    rw [hstep]
    rfl

theorem gives_read_iff {path : Path} {content : ByteArray} :
    Gives (read path) ws content ws' ↔ ws.readFile path = .ok content ∧ ws = ws' := by
  simp only [read, gives_bind_iff, gives_get_iff, gives_orStop_iff]
  constructor
  · rintro ⟨_, _, ⟨rfl, rfl⟩, hread⟩
    exact hread
  · intro hread
    exact ⟨ws, ws, ⟨rfl, rfl⟩, hread⟩

/-- Each value of a traversal is given by the step of an item. -/
theorem exists_gives_of_mem_mapM {step : α → Build β} {items : List α} {values : List β}
    (hgives : Gives (items.mapM step) ws values ws') {value : β} (hvalue : value ∈ values) :
    ∃ item ∈ items, ∃ before after, Gives (step item) before value after := by
  induction items generalizing ws values with
  | nil =>
      obtain ⟨rfl, -⟩ := gives_pure_iff.mp hgives
      cases hvalue
  | cons item rest ih =>
      simp only [List.mapM_cons, gives_bind_iff, gives_pure_iff] at hgives
      obtain ⟨first, mid, hfirst, others, _, hrest, rfl, rfl⟩ := hgives
      rcases List.mem_cons.mp hvalue with rfl | hvalue
      · exact ⟨item, List.mem_cons_self, ws, mid, hfirst⟩
      · obtain ⟨other, hother, hstep⟩ := ih hrest hvalue
        exact ⟨other, List.mem_cons_of_mem item hother, hstep⟩

/-- A compiled script may be written: what stands there is a file or nothing. -/
structure IsFree (ws : Workspace) (path : Path) : Prop where
  noLink : ws.isLink path = false
  file : ws.exists? path = true → ws.isFile path = true

theorem gives_checkFree_iff {path : Path} {value : Unit} :
    Gives (checkFree path) ws value ws' ↔ IsFree ws path ∧ ws = ws' := by
  simp only [checkFree, gives_bind_iff, gives_get_iff]
  constructor
  · rintro ⟨_, _, ⟨rfl, rfl⟩, hgives⟩
    split at hgives
    · exact absurd hgives not_gives_throw
    · next hlink =>
      split at hgives
      · exact absurd hgives not_gives_throw
      · next hfile =>
        refine ⟨⟨by simpa using hlink, ?_⟩, (gives_pure_iff.mp hgives).2⟩
        intro hthere
        simpa [hthere] using hfile
  · rintro ⟨⟨hlink, hfile⟩, rfl⟩
    refine ⟨ws, ws, ⟨rfl, rfl⟩, ?_⟩
    rw [hlink, if_neg (by simp), if_neg]
    · exact gives_pure_iff.mpr ⟨rfl, rfl⟩
    · intro hoccupied
      simp only [Bool.and_eq_true, Bool.not_eq_true'] at hoccupied
      simp [hfile hoccupied.1] at hoccupied

/-- What compiling a script into a file does after its directory is made. -/
inductive Compiled (result : Except String ByteArray) (output : Path)
    (mid : Workspace) : Option String → Workspace → Prop where
  | error {text : String} (hresult : result = .error text) :
      Compiled result output mid (some text) mid
  | code {code : ByteArray} {ws' : Workspace} (hresult : result = .ok code)
      (hwrite : mid.write output code = .ok ws') :
      Compiled result output mid none ws'

theorem gives_byteCompile_iff {host : Host} {root source output : Path}
    {error : Option String} :
    Gives (byteCompile host root source output) ws error ws' ↔
      ∃ mid content, ws.makeDirectories output.parent = .ok mid ∧
        IsFree mid output ∧ mid.readFile source = .ok content ∧
        Compiled
          (host.compile (Path.shownText mid host.cwd source root)
            (host.line? mid (Path.shownText mid host.cwd source root)) content)
          output mid error ws' := by
  simp only [byteCompile, gives_bind_iff, makeDirectories, gives_change_iff,
    gives_checkFree_iff, gives_get_iff, gives_read_iff]
  constructor
  · rintro ⟨_, mid, hmake, _, _, ⟨hfree, rfl⟩, _, _, ⟨rfl, rfl⟩, content, _,
      ⟨hread, rfl⟩, hgives⟩
    refine ⟨mid, content, hmake, hfree, hread, ?_⟩
    split at hgives
    · next text hresult =>
      obtain ⟨rfl, rfl⟩ := gives_pure_iff.mp hgives
      exact .error hresult
    · next code hresult =>
      obtain ⟨_, _, hwrite, hpure⟩ := gives_bind_iff.mp hgives
      obtain ⟨rfl, rfl⟩ := gives_pure_iff.mp hpure
      exact .code hresult (gives_change_iff.mp hwrite)
  · rintro ⟨mid, content, hmake, hfree, hread, hcompiled⟩
    refine ⟨(), mid, hmake, (), mid, ⟨hfree, rfl⟩, mid, mid, ⟨rfl, rfl⟩, content,
      mid, ⟨hread, rfl⟩, ?_⟩
    cases hcompiled with
    | error hresult =>
        rw [hresult]
        exact gives_pure_iff.mpr ⟨rfl, rfl⟩
    | code hresult hwrite =>
        rw [hresult]
        exact gives_bind_iff.mpr
          ⟨(), _, gives_change_iff.mpr hwrite, gives_pure_iff.mpr ⟨rfl, rfl⟩⟩

section Keeps

/-- A relation holds between the file systems before and after a step, whether
or not the step stops the build. -/
def Keeps (R : Workspace → Workspace → Prop) (step : Build α) : Prop :=
  ∀ ws, R ws (step.after ws)

theorem Keeps.of_gives {R : Workspace → Workspace → Prop} {step : Build α} {value : α}
    (hkeeps : Keeps R step) (hgives : Gives step ws value ws') : R ws ws' := by
  rw [← hgives.after_eq]
  exact hkeeps ws

variable {R : Workspace → Workspace → Prop} [IsPreorder Workspace R]

theorem keeps_pure (value : α) : Keeps R (pure value) := refl_of R

theorem keeps_throw (error : BuildError) : Keeps R (throw error : Build α) := refl_of R

theorem keeps_get : Keeps R get := refl_of R

theorem keeps_orStop {ε : Type} (wrap : ε → BuildError) (result : Except ε α) :
    Keeps R (orStop wrap result) := by
  cases result with
  | ok value => exact keeps_pure value
  | error error => exact keeps_throw (wrap error)

theorem after_change {step : Workspace → Except FileError Workspace}
    (hstep : ∀ ws', step ws = .ok ws' → R ws ws') : R ws ((change step).after ws) := by
  cases hresult : step ws with
  | ok ws' =>
      have hgives : Gives (change step) ws () ws' := gives_change_iff.mpr hresult
      rw [hgives.after_eq]
      exact hstep ws' hresult
  | error error =>
      have hget : (get : Build Workspace).run.run ws = (.ok ws, ws) := rfl
      rw [after, change, run_bind, hget]
      dsimp only
      rw [hresult]
      exact refl_of R ws

theorem keeps_change {step : Workspace → Except FileError Workspace}
    (hstep : ∀ ws ws', step ws = .ok ws' → R ws ws') : Keeps R (change step) :=
  fun ws => after_change (hstep ws)

/-- From one file system on, a step and then another one from where the first
has got; if the first stops, the other is not made. -/
theorem after_bind {first : Build α} {next : α → Build β} (hfirst : R ws (first.after ws))
    (hnext : ∀ value mid, Gives first ws value mid → R mid ((next value).after mid)) :
    R ws ((first >>= next).after ws) := by
  rw [after] at hfirst ⊢
  rw [run_bind]
  rcases hrun : first.run.run ws with ⟨error | given, mid⟩
  · rwa [hrun] at hfirst
  · rw [hrun] at hfirst
    exact trans_of R hfirst (hnext given mid hrun)

theorem keeps_bind {first : Build α} {next : α → Build β} (hfirst : Keeps R first)
    (hnext : ∀ value, Keeps R (next value)) : Keeps R (first >>= next) :=
  fun ws => after_bind (hfirst ws) fun value mid _ => hnext value mid

/-- A step that needs a value is made only with one. -/
theorem keeps_orStop_bind {ε : Type} {wrap : ε → BuildError} {result : Except ε α}
    {next : α → Build β} (hnext : ∀ value, result = .ok value → Keeps R (next value)) :
    Keeps R (orStop wrap result >>= next) := by
  intro ws
  refine after_bind (keeps_orStop wrap result ws) fun value mid hgives => ?_
  exact hnext value (gives_orStop_iff.mp hgives).1 mid

theorem keeps_foldlM_of_mem {step : β → α → Build β} {items : List α}
    (hstep : ∀ value, ∀ item ∈ items, Keeps R (step value item)) (value : β) :
    Keeps R (items.foldlM step value) := by
  induction items generalizing value with
  | nil => exact keeps_pure value
  | cons item rest ih =>
      rw [List.foldlM_cons]
      refine keeps_bind (hstep value item List.mem_cons_self) (ih fun value next hmem => ?_)
      exact hstep value next (List.mem_cons_of_mem item hmem)

theorem keeps_foldlM {step : β → α → Build β} (hstep : ∀ value item, Keeps R (step value item))
    (items : List α) (value : β) : Keeps R (items.foldlM step value) :=
  keeps_foldlM_of_mem (fun value item _ => hstep value item) value

theorem keeps_mapM {step : α → Build β} {items : List α}
    (hstep : ∀ item ∈ items, Keeps R (step item)) : Keeps R (items.mapM step) := by
  induction items with
  | nil => exact keeps_pure []
  | cons item rest ih =>
      rw [List.mapM_cons]
      refine keeps_bind (hstep item List.mem_cons_self) fun value => ?_
      refine keeps_bind (ih fun next hmem => ?_) fun values => keeps_pure _
      exact hstep next (List.mem_cons_of_mem item hmem)

theorem keeps_read (path : Path) : Keeps R (read path) :=
  keeps_bind keeps_get fun _ => keeps_orStop _ _

theorem keeps_checkFree (path : Path) : Keeps R (checkFree path) := by
  refine keeps_bind keeps_get fun ws => ?_
  split
  · exact keeps_throw _
  · split
    · exact keeps_throw _
    · exact keeps_pure _

/-- What making the directory and writing the compiled script keep, compiling a script
keeps.  It is written only where a file or nothing stands. -/
theorem keeps_byteCompile {host : Host} {root source output : Path}
    (hmake : Keeps R (makeDirectories output.parent))
    (hwrite : ∀ ws code ws', IsFree ws output → ws.write output code = .ok ws' → R ws ws') :
    Keeps R (byteCompile host root source output) := by
  refine keeps_bind hmake fun _ ws => ?_
  refine after_bind (keeps_checkFree output ws) fun _ mid hgives => ?_
  obtain ⟨hfree, rfl⟩ := gives_checkFree_iff.mp hgives
  refine after_bind (keeps_get ws) fun _ mid hget => ?_
  obtain ⟨rfl, rfl⟩ := gives_get_iff.mp hget
  refine after_bind (keeps_read source ws) fun content mid hread => ?_
  obtain ⟨-, rfl⟩ := gives_read_iff.mp hread
  dsimp only
  split
  · exact keeps_pure (R := R) _ ws
  · refine after_bind (after_change fun ws' hwritten => ?_) fun _ mid _ => keeps_pure _ mid
    exact hwrite ws _ ws' hfree hwritten

end Keeps

end IntegrationBuild.Build
