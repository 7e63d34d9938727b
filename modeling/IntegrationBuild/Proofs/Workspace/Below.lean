import IntegrationBuild.Proofs.Workspace.Settled
import IntegrationBuild.Proofs.Workspace.Spared

/-!
Paths that go on from a directory of a tree.  Whatever way leads to the directory,
names that go on from it lead to the place below it that they spell.  So it is
known where such a path is read and written, and two of them with different names
lead to different places.
-/

namespace IntegrationBuild.Workspace

variable {ws ws' : Workspace} {root path : Path} {base : Location} {names : List String}
  {content : ByteArray}

section Walk

/-- In a tree, the way along parts goes on from the directory that the first of
them lead to. -/
theorem IsTree.walk_append (htree : ws.IsTree)
    {follow : Location → Path → List String → Found} {current mid : Location}
    {first : List String} (hfirst : ws.walk follow current first = .entry mid .directory)
    (rest : List String) :
    ws.walk follow current (first ++ rest) = ws.walk follow mid rest := by
  generalize hfound : ws.walk follow mid rest = found
  rw [← walks_iff] at hfirst hfound ⊢
  generalize hmid : Found.entry mid .directory = start at hfirst
  induction hfirst with
  | here _ =>
      cases hmid
      exact hfound
  | up hcurrent _ ih => exact .up hcurrent (ih hmid)
  | down hcurrent hpart hlower _ ih => exact .down hcurrent hpart hlower (ih hmid)
  | link _ _ hlink => exact absurd hlink (htree.noLink _ _)
  | nowhere => cases hmid
  | blocked => cases hmid
  | absent => cases hmid
  | missing => cases hmid
  | file => cases hmid
  | inFile => cases hmid

/-- In a tree, what is found along parts goes on from the directory that the first
of them lead to. -/
theorem IsTree.find_append (htree : ws.IsTree) {budget : Nat} {current mid : Location}
    {first : List String} (hfirst : ws.find budget current first = .entry mid .directory)
    (rest : List String) :
    ws.find budget current (first ++ rest) = ws.find budget mid rest := by
  cases budget with
  | zero => exact htree.walk_append hfirst rest
  | succ budget => exact htree.walk_append hfirst rest

end Walk

section Read

theorem isFile_eq_isSome_read? (ws : Workspace) (path : Path) :
    ws.isFile path = (ws.read? path).isSome := by
  rw [isFile, read?]
  split <;> rfl

/-- A file that is written over with its own content leaves everything as it is. -/
theorem write_eq_self (hread : ws.read? path = some content) :
    ws.write path content = .ok ws := by
  rw [read?] at hread
  split at hread
  · next place old hlocate =>
    obtain rfl := Option.some.inj hread
    have hentry := entry?_of_locate_entry hlocate
    have hne : place ≠ [] := by
      rintro rfl
      cases hentry
    rw [write, hlocate]
    exact congrArg Except.ok (put_eq_self hne hentry)
  · cases hread

end Read

/-- A tree in which a path leads to a directory. -/
structure RootedAt (ws : Workspace) (root : Path) (base : Location) : Prop where
  tree : ws.IsTree
  located : ws.locate root = .entry base .directory

namespace RootedAt

section Names

variable (hrooted : ws.RootedAt root base)

include hrooted

theorem ne_dots : ∀ part ∈ base, part ≠ ".." := by
  obtain ⟨_, hleads⟩ := leads_of_find (congrArg Found.place? hrooted.located)
  exact hleads.ne_dots (by simp)

theorem entry?_base : ws.entry? base = some .directory :=
  entry?_of_locate_entry hrooted.located

variable (hparts : path.parts = root.parts ++ names) (hnames : ∀ part ∈ names, part ≠ "..")

include hparts

/-- A path that goes on from the root leads where the names lead from the place
of the root. -/
theorem locate_eq : ws.locate path = ws.locate (.absolute (base ++ names)) := by
  have hdots : ∀ part ∈ (Path.absolute base).parts, part ≠ ".." := hrooted.ne_dots
  have hbase : ws.find linkBudget [] base = .entry base .directory :=
    (hrooted.tree.locate_eq_entry_iff hdots base .directory).mpr ⟨rfl, hrooted.entry?_base⟩
  rw [locate, hparts, hrooted.tree.find_append hrooted.located]
  exact (hrooted.tree.find_append hbase names).symm

include hnames

omit hparts in
theorem names_ne_dots : ∀ part ∈ (Path.absolute (base ++ names)).parts, part ≠ ".." := by
  intro part hpart
  rcases List.mem_append.mp hpart with hold | hnew
  · exact hrooted.ne_dots part hold
  · exact hnames part hnew

theorem read?_eq_some_iff (content : ByteArray) :
    ws.read? path = some content ↔ ws.entry? (base ++ names) = some (.file content) := by
  rw [read?, hrooted.locate_eq hparts]
  exact hrooted.tree.read?_eq_some_iff (hrooted.names_ne_dots hnames) content

/-- Whatever is there, the path resolves to the place that its names spell. -/
theorem resolve_eq : ws.resolve (.absolute []) path = .absolute (base ++ names) := by
  obtain ⟨_, hbase⟩ := leads_of_find (congrArg Found.place? hrooted.located)
  have hbelow : ws.LeadsBelow base [] names ([] ++ names) := by
    refine leadsBelow_of_names [] (fun hdots => hnames ".." hdots rfl) fun _ _ _ => ?_
    rintro ⟨target, hlink⟩
    exact hrooted.tree.noLink _ target hlink
  obtain ⟨_, hrest⟩ := hbelow.exists_leads
  rw [List.append_nil, List.nil_append] at hrest
  obtain ⟨_, hleads⟩ := hbase.append hrest
  rw [← hparts] at hleads
  exact resolve_of_leads hleads

theorem eq_of_place? {place : Location} (hplace : (ws.locate path).place? = some place) :
    place = base ++ names := by
  have hresolve := hrooted.resolve_eq hparts hnames
  rw [resolve_of_locate hplace] at hresolve
  exact congrArg Path.parts hresolve

end Names

section Change

variable {directories files : Location → Prop}

/-- The root stays where directories and files come. -/
theorem of_grown (hrooted : ws.RootedAt root base) (hgrown : Grown directories files ws ws') :
    ws'.RootedAt root base := by
  have hentry := hgrown.directory_kept hrooted.entry?_base
  have hways : KeepsWays ws ws' :=
    ⟨hgrown.directory_kept, fun hlink => absurd hlink (hgrown.before.noLink _ _)⟩
  refine ⟨hgrown.after, hways.find_eq_entry hentry ?_ (congrArg Found.place? hrooted.located)⟩
  rintro ⟨target, hlink⟩
  exact absurd hlink (hgrown.after.noLink _ target)

/-- What is written at a path below the root is a file at the place that its names
spell. -/
theorem grown_write (hrooted : ws.RootedAt root base) (hparts : path.parts = root.parts ++ names)
    (hnames : ∀ part ∈ names, part ≠ "..") {content : ByteArray}
    (hwrite : ws.write path content = .ok ws') (directories : Location → Prop) :
    Grown directories (· = base ++ names) ws ws' := by
  have hways := keepsWays_write hwrite
  have hafter : ws'.IsTree := hrooted.tree.of_sameLinks (sameLinks_write hwrite)
    (keepsParents_write hwrite hrooted.tree.hasParents)
  obtain ⟨written, rfl, hplace, hne⟩ := put_of_write hwrite
  have hfile : entry? (ws.put written (.file content)) written = some (.file content) := by
    rw [entry?_put hne, if_pos rfl]
  refine ⟨hrooted.tree, hafter, fun location => ?_⟩
  rw [entry?_put hne]
  split
  · next heq =>
    subst heq
    refine Or.inr (Or.inr ⟨hrooted.eq_of_place? hparts hnames hplace, fun hold => ?_, content, rfl⟩)
    cases (hways.directory hold).symm.trans hfile
  · exact Or.inl rfl

/-- Where nothing is written, a path below the root is read as before. -/
theorem read?_eq_of_grown (hrooted : ws.RootedAt root base)
    (hgrown : Grown directories files ws ws') (hparts : path.parts = root.parts ++ names)
    (hnames : ∀ part ∈ names, part ≠ "..") (hplace : ¬files (base ++ names)) :
    ws'.read? path = ws.read? path := by
  apply Option.ext
  intro content
  rw [(hrooted.of_grown hgrown).read?_eq_some_iff hparts hnames,
    hrooted.read?_eq_some_iff hparts hnames]
  exact (hgrown.file_iff hplace content).symm

end Change

end RootedAt

end IntegrationBuild.Workspace
