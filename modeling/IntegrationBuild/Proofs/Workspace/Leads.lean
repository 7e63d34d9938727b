import IntegrationBuild.Proofs.Workspace.Links

/-!
Where a path leads and what it resolves to.  To look a path up and to resolve
it are two programs: the first follows a bounded number of links and needs every
directory on the way, the second keeps a record of the links under way and goes
through what does not exist.  Where the first comes to a place, the second comes
to the same.
-/

namespace IntegrationBuild

namespace Workspace

variable {ws : Workspace} {current place : Location} {parts : List String}

/-- From a place on, parts lead to a place in a number of steps: `..` goes up, a
name goes down, and at a link its target is followed first. -/
inductive Leads (ws : Workspace) : Nat → Location → List String → Location → Prop
  | here (current : Location) : Leads ws 0 current [] current
  | up {n : Nat} {current place : Location} {rest : List String}
      (hrest : Leads ws n current.dropLast rest place) :
      Leads ws (n + 1) current (".." :: rest) place
  | down {n : Nat} {current place : Location} {part : String} {rest : List String}
      (hpart : part ≠ "..") (hlink : ¬ws.LinkAt (current ++ [part]))
      (hrest : Leads ws n (current ++ [part]) rest place) :
      Leads ws (n + 1) current (part :: rest) place
  | link {m n : Nat} {current mid place : Location} {part target : String} {rest : List String}
      (hpart : part ≠ "..") (hlink : ws.entry? (current ++ [part]) = some (.link target))
      (htarget : Leads ws m (linkStart current (Path.ofString target))
        (Path.ofString target).parts mid)
      (hrest : Leads ws n mid rest place) :
      Leads ws (m + n + 1) current (part :: rest) place

/-- The place and the number of steps are determined. -/
theorem Leads.unique {n n' : Nat} {place' : Location} (hleads : ws.Leads n current parts place)
    (hleads' : ws.Leads n' current parts place') : n = n' ∧ place = place' := by
  induction hleads generalizing n' place' with
  | here current =>
      cases hleads'
      exact ⟨rfl, rfl⟩
  | up hrest ih =>
      cases hleads' with
      | up hrest' =>
          obtain ⟨rfl, rfl⟩ := ih hrest'
          exact ⟨rfl, rfl⟩
      | down hpart => exact absurd rfl hpart
      | link hpart => exact absurd rfl hpart
  | down hpart hlink hrest ih =>
      cases hleads' with
      | up => exact absurd rfl hpart
      | down _ _ hrest' =>
          obtain ⟨rfl, rfl⟩ := ih hrest'
          exact ⟨rfl, rfl⟩
      | link _ hlink' => exact absurd ⟨_, hlink'⟩ hlink
  | link hpart hlink htarget hrest ihtarget ih =>
      cases hleads' with
      | up => exact absurd rfl hpart
      | down _ hlink' => exact absurd ⟨_, hlink⟩ hlink'
      | link _ hlink' htarget' hrest' =>
          cases hlink.symm.trans hlink'
          obtain ⟨rfl, rfl⟩ := ihtarget htarget'
          obtain ⟨rfl, rfl⟩ := ih hrest'
          exact ⟨rfl, rfl⟩

/-- The way along parts goes through a place after the first of them. -/
theorem Leads.split {n : Nat} {first rest : List String}
    (hleads : ws.Leads n current (first ++ rest) place) :
    ∃ m k mid, ws.Leads m current first mid ∧ ws.Leads k mid rest place := by
  induction first generalizing n current with
  | nil => exact ⟨0, n, current, .here current, hleads⟩
  | cons part more ih =>
      cases hleads with
      | up hrest =>
          obtain ⟨m, k, mid, hfirst, hnext⟩ := ih hrest
          exact ⟨m + 1, k, mid, .up hfirst, hnext⟩
      | down hpart hlink hrest =>
          obtain ⟨m, k, mid, hfirst, hnext⟩ := ih hrest
          exact ⟨m + 1, k, mid, .down hpart hlink hfirst, hnext⟩
      | @link t _ _ _ _ _ _ _ hpart hlink htarget hrest =>
          obtain ⟨m, k, mid, hfirst, hnext⟩ := ih hrest
          exact ⟨t + m + 1, k, mid, .link hpart hlink htarget hfirst, hnext⟩

theorem Leads.ne_dots {n : Nat} (hleads : ws.Leads n current parts place)
    (hcurrent : ∀ part ∈ current, part ≠ "..") : ∀ part ∈ place, part ≠ ".." := by
  induction hleads with
  | here current => exact hcurrent
  | up _ ih => exact ih fun part hpart => hcurrent part ((List.dropLast_subset _) hpart)
  | down hpart _ _ ih =>
      apply ih
      intro other hother
      rcases List.mem_append.mp hother with hold | hnew
      · exact hcurrent other hold
      · rw [List.mem_singleton.mp hnew]
        exact hpart
  | link _ _ _ _ ihtarget ih =>
      apply ih
      apply ihtarget
      intro other hother
      rw [linkStart] at hother
      split at hother
      · cases hother
      · exact hcurrent other hother

theorem Leads.append {m n : Nat} {mid : Location} {first rest : List String}
    (hfirst : ws.Leads m current first mid) (hrest : ws.Leads n mid rest place) :
    ∃ k, ws.Leads k current (first ++ rest) place := by
  induction hfirst with
  | here _ => exact ⟨n, hrest⟩
  | up _ ih =>
      obtain ⟨k, hnext⟩ := ih hrest
      exact ⟨k + 1, .up hnext⟩
  | down hpart hlink _ ih =>
      obtain ⟨k, hnext⟩ := ih hrest
      exact ⟨k + 1, .down hpart hlink hnext⟩
  | @link t _ _ _ _ _ _ _ hpart hlink htarget _ _ ih =>
      obtain ⟨k, hnext⟩ := ih hrest
      exact ⟨t + k + 1, .link hpart hlink htarget hnext⟩

/-- From a way below a base on, parts lead along no link, and down and up again
but never above the base. -/
inductive LeadsBelow (ws : Workspace) (base : Location) :
    Location → List String → Location → Prop
  | here (way : Location) : LeadsBelow ws base way [] way
  | up {way place : Location} {rest : List String} (hway : way ≠ [])
      (hrest : LeadsBelow ws base way.dropLast rest place) :
      LeadsBelow ws base way (".." :: rest) place
  | down {way place : Location} {part : String} {rest : List String}
      (hpart : part ≠ "..") (hlink : ¬ws.LinkAt (base ++ (way ++ [part])))
      (hrest : LeadsBelow ws base (way ++ [part]) rest place) :
      LeadsBelow ws base way (part :: rest) place

variable {base way : Location}

theorem LeadsBelow.exists_leads (hbelow : ws.LeadsBelow base way parts place) :
    ∃ n, ws.Leads n (base ++ way) parts (base ++ place) := by
  induction hbelow with
  | here way => exact ⟨0, .here _⟩
  | up hway _ ih =>
      obtain ⟨n, hleads⟩ := ih
      rw [← List.dropLast_append_of_ne_nil hway] at hleads
      exact ⟨n + 1, .up hleads⟩
  | down hpart hlink _ ih =>
      obtain ⟨n, hleads⟩ := ih
      rw [← List.append_assoc] at hlink hleads
      exact ⟨n + 1, .down hpart hlink hleads⟩

/-- Parts that stay below a base lead to one place only. -/
theorem Leads.eq_append {n : Nat} (hleads : ws.Leads n base parts place)
    (hbelow : ws.LeadsBelow base [] parts way) : place = base ++ way := by
  obtain ⟨m, hway⟩ := hbelow.exists_leads
  rw [List.append_nil] at hway
  exact (hleads.unique hway).2

/-- Names lead straight down where no link is on the way. -/
theorem leadsBelow_of_names (way : Location) (hnames : ".." ∉ parts)
    (hlinks : ∀ more, more ≠ [] → more <+: parts → ¬ws.LinkAt (base ++ (way ++ more))) :
    ws.LeadsBelow base way parts (way ++ parts) := by
  induction parts generalizing way with
  | nil =>
      rw [List.append_nil]
      exact .here way
  | cons part rest ih =>
      have hpart : part ≠ ".." := by
        rintro rfl
        exact hnames List.mem_cons_self
      have hrest : ws.LeadsBelow base (way ++ [part]) rest (way ++ [part] ++ rest) := by
        refine ih (way ++ [part]) ?_ fun more _ hmore => ?_
        · exact fun hdots => hnames (List.mem_cons_of_mem part hdots)
        · rw [List.append_assoc]
          exact hlinks _ (by simp) ((List.prefix_cons_inj part).mpr hmore)
      rw [List.append_assoc] at hrest
      exact .down hpart (hlinks [part] (by simp) ⟨rest, rfl⟩) hrest

section Find

theorem leads_of_walk {follow : Location → Path → List String → Found}
    (hfollow : ∀ current target rest place, (follow current target rest).place? = some place →
      ∃ n, ws.Leads n (linkStart current target) (target.parts ++ rest) place)
    (hwalk : (ws.walk follow current parts).place? = some place) :
    ∃ n, ws.Leads n current parts place := by
  obtain ⟨found, hwalks⟩ := ws.exists_walks follow current parts
  rw [hwalks.walk_eq] at hwalk
  induction hwalks with
  | here _ =>
      obtain rfl := Option.some.inj hwalk
      exact ⟨0, .here _⟩
  | nowhere _ =>
      obtain rfl := Option.some.inj hwalk
      exact ⟨0, .here _⟩
  | up _ _ ih =>
      obtain ⟨n, hrest⟩ := ih hwalk
      exact ⟨n + 1, .up hrest⟩
  | absent _ hpart hnone =>
      obtain rfl := Option.some.inj hwalk
      refine ⟨1, .down hpart ?_ (.here _)⟩
      rintro ⟨target, hlink⟩
      cases hnone.symm.trans hlink
  | file _ hpart hfile =>
      obtain rfl := Option.some.inj hwalk
      refine ⟨1, .down hpart ?_ (.here _)⟩
      rintro ⟨target, hlink⟩
      cases hfile.symm.trans hlink
  | link _ hpart hlink =>
      obtain ⟨n, hleads⟩ := hfollow _ _ _ _ hwalk
      obtain ⟨m, k, mid, htarget, hrest⟩ := hleads.split
      exact ⟨m + k + 1, .link hpart hlink htarget hrest⟩
  | down _ hpart hlower _ ih =>
      obtain ⟨n, hrest⟩ := ih hwalk
      refine ⟨n + 1, .down hpart ?_ hrest⟩
      rintro ⟨target, hlink⟩
      cases hlower.symm.trans hlink
  | blocked => cases hwalk
  | missing => cases hwalk
  | inFile => cases hwalk

/-- What is found is where the parts lead. -/
theorem leads_of_find {budget : Nat} (hfind : (ws.find budget current parts).place? = some place) :
    ∃ n, ws.Leads n current parts place := by
  induction budget generalizing current parts place with
  | zero =>
      rw [find] at hfind
      exact leads_of_walk (fun _ _ _ _ hloop => by cases hloop) hfind
  | succ budget ih =>
      rw [find] at hfind
      exact leads_of_walk (fun _ _ _ _ hnext => ih hnext) hfind

/-- Everything on the way to what is found is a directory. -/
theorem exists_walk_eq_directory {follow : Location → Path → List String → Found}
    {rest : List String} (hrest : rest ≠ [])
    (hfollow : ∀ current target init, (follow current target (init ++ rest)).place? = some place →
      ∃ mid, follow current target init = .entry mid .directory)
    (hwalk : (ws.walk follow current (parts ++ rest)).place? = some place) :
    ∃ mid, ws.walk follow current parts = .entry mid .directory := by
  obtain ⟨found, hwalks⟩ := ws.exists_walks follow current (parts ++ rest)
  rw [hwalks.walk_eq] at hwalk
  simp only [← walks_iff]
  induction parts generalizing current with
  | nil =>
      obtain ⟨part, more, rfl⟩ := List.exists_cons_of_ne_nil hrest
      cases hwalks with
      | blocked => cases hwalk
      | inFile => cases hwalk
      | missing => cases hwalk
      | up hcurrent => exact ⟨current, .here hcurrent⟩
      | absent hcurrent => exact ⟨current, .here hcurrent⟩
      | link hcurrent => exact ⟨current, .here hcurrent⟩
      | file hcurrent => exact ⟨current, .here hcurrent⟩
      | down hcurrent => exact ⟨current, .here hcurrent⟩
  | cons part init ih =>
      have hmore : init ++ rest ≠ [] := by simp [hrest]
      generalize hparts : init ++ rest = more at hmore
      rw [List.cons_append, hparts] at hwalks
      cases hwalks with
      | blocked => cases hwalk
      | missing => cases hwalk
      | inFile => cases hwalk
      | absent => exact absurd rfl hmore
      | file => exact absurd rfl hmore
      | up hcurrent hnext =>
          obtain ⟨mid, hmid⟩ := ih (hparts ▸ hnext)
          exact ⟨mid, .up hcurrent hmid⟩
      | down hcurrent hpart hlower hnext =>
          obtain ⟨mid, hmid⟩ := ih (hparts ▸ hnext)
          exact ⟨mid, .down hcurrent hpart hlower hmid⟩
      | link hcurrent hpart hlink =>
          obtain ⟨mid, hmid⟩ := hfollow _ _ init (hparts ▸ hwalk)
          refine ⟨mid, ?_⟩
          rw [← hmid]
          exact .link hcurrent hpart hlink

theorem exists_find_eq_directory {budget : Nat} {rest : List String} (hrest : rest ≠ [])
    (hfind : (ws.find budget current (parts ++ rest)).place? = some place) :
    ∃ mid, ws.find budget current parts = .entry mid .directory := by
  induction budget generalizing current parts with
  | zero =>
      rw [find] at hfind ⊢
      exact exists_walk_eq_directory hrest (fun _ _ _ hloop => by cases hloop) hfind
  | succ budget ih =>
      rw [find] at hfind ⊢
      refine exists_walk_eq_directory hrest (fun current target init hnext => ?_) hfind
      rw [← List.append_assoc] at hnext
      exact ih hnext

/-- A file or a new entry at a path that is no link bears the last name of the
path. -/
theorem getLast?_of_locate {path : Path} {part : String} (hlast : path.parts.getLast? = some part)
    (hpart : part ≠ "..") (hlink : ws.isLink path = false)
    (hlocate : (ws.locate path).place? = some place) : place.getLast? = some part := by
  obtain ⟨init, hparts⟩ := List.getLast?_eq_some_iff.mp hlast
  rw [locate, hparts] at hlocate
  obtain ⟨mid, hparent⟩ := exists_find_eq_directory (by simp) hlocate
  obtain ⟨n, hleads⟩ := leads_of_find hlocate
  obtain ⟨m, k, mid', hinit, hname⟩ := hleads.split
  obtain ⟨m', hinit'⟩ := leads_of_find (by rw [hparent]; rfl)
  obtain ⟨-, rfl⟩ := hinit.unique hinit'
  cases hname with
  | up => exact absurd rfl hpart
  | down _ _ hrest =>
      cases hrest
      simp
  | link _ hentry _ _ =>
      have hdirectory : ws.locate path.parent = .entry mid' .directory := by
        rw [locate, Path.parent, hparts, List.dropLast_concat, hparent]
      have hname : path.name = part := by rw [Path.name, hlast, Option.getD_some]
      rw [isLink, hdirectory, hname, hparts] at hlink
      dsimp only at hlink
      rw [hentry] at hlink
      simp at hlink

end Find

section Resolve

variable {depth : Nat} {underWay : List Location} {part target : String} {rest : List String}

theorem realFrom_nil : ws.realFrom depth underWay current [] = (current, true) := by
  cases depth <;> rfl

theorem realFrom_up :
    ws.realFrom depth underWay current (".." :: rest) =
      ws.realFrom depth underWay current.dropLast rest := by
  cases depth <;> rfl

theorem realFrom_down (hpart : part ≠ "..") (hlink : ¬ws.LinkAt (current ++ [part])) :
    ws.realFrom depth underWay current (part :: rest) =
      ws.realFrom depth underWay (current ++ [part]) rest := by
  cases depth with
  | zero => exact realWalk_cons_of_not_linkAt hpart hlink _ rest
  | succ depth => exact realWalk_cons_of_not_linkAt hpart hlink _ rest

theorem realFrom_link {mid : Location} (hpart : part ≠ "..")
    (hlink : ws.entry? (current ++ [part]) = some (.link target))
    (hunder : current ++ [part] ∉ underWay)
    (htarget : ws.realFrom depth ((current ++ [part]) :: underWay)
      (linkStart current (Path.ofString target)) (Path.ofString target).parts = (mid, true)) :
    ws.realFrom (depth + 1) underWay current (part :: rest) =
      ws.realFrom (depth + 1) underWay mid rest := by
  have hcontains : underWay.contains (current ++ [part]) = false := by simpa using hunder
  rw [realFrom, realWalk, if_neg (by simpa using hpart), hlink]
  dsimp only
  rw [hcontains, if_neg (by simp), htarget]

/-- A way that comes to a place is what the parts resolve to.  On it no link is
met again on the way to its own target, because that would take as many steps as
the whole. -/
theorem Leads.realFrom_eq {n : Nat} (hleads : ws.Leads n current parts place)
    (hnodup : underWay.Nodup) (hroom : ws.HasRoom depth underWay)
    (hsteps : ∀ start part target m mid, start ++ [part] ∈ underWay →
      ws.entry? (start ++ [part]) = some (.link target) →
      ws.Leads m (linkStart start (Path.ofString target)) (Path.ofString target).parts mid →
        n ≤ m) :
    ws.realFrom depth underWay current parts = (place, true) := by
  induction hleads generalizing depth underWay with
  | here current => exact realFrom_nil
  | up _ ih =>
      rw [realFrom_up]
      refine ih hnodup hroom ?_
      intro start part target m mid hunder hentry hm
      have hle := hsteps start part target m mid hunder hentry hm
      omega
  | down hpart hlink _ ih =>
      rw [realFrom_down hpart hlink]
      refine ih hnodup hroom ?_
      intro start part target m mid hunder hentry hm
      have hle := hsteps start part target m mid hunder hentry hm
      omega
  | @link t k current mid place part target rest hpart hlink htarget hrest ihtarget ih =>
      have hunder : current ++ [part] ∉ underWay := by
        intro hunder
        have hle := hsteps current part target t mid hunder hlink htarget
        omega
      cases depth with
      | zero => exact absurd (hroom [] hnodup (by simp)) (Nat.not_lt_zero _)
      | succ depth =>
          rw [realFrom_link hpart hlink hunder (ihtarget ?_ ?_ ?_)]
          · refine ih hnodup hroom ?_
            intro start other target' m mid' hmem hentry hm
            have hle := hsteps start other target' m mid' hmem hentry hm
            omega
          · exact List.nodup_cons.mpr ⟨hunder, hnodup⟩
          · exact hroom.cons ⟨target, hlink⟩
          · intro start other target' m mid' hmem hentry hm
            rcases List.mem_cons.mp hmem with heq | hmem
            · obtain ⟨rfl, rfl⟩ := List.append_singleton_inj.mp heq
              cases hlink.symm.trans hentry
              exact Nat.le_of_eq (htarget.unique hm).1
            · have hle := hsteps start other target' m mid' hmem hentry hm
              omega

/-- A path resolves to the place where it leads. -/
theorem resolve_of_leads {path : Path} {n : Nat} (hleads : ws.Leads n [] path.parts place) :
    ws.resolve (.absolute []) path = .absolute place := by
  have hplace : Path.normalParts place = place :=
    Path.normalParts_of_ne_dots (hleads.ne_dots (by simp))
  have hparts : ((Path.absolute []).join path).parts = path.parts := by
    rw [Path.join]
    split <;> rfl
  rw [resolve, hparts, hleads.realFrom_eq List.nodup_nil ws.hasRoom_entries (by simp)]
  exact congrArg Path.absolute hplace

/-- A path resolves to the place where it is found. -/
theorem resolve_of_locate {path : Path} (hlocate : (ws.locate path).place? = some place) :
    ws.resolve (.absolute []) path = .absolute place := by
  obtain ⟨n, hleads⟩ := leads_of_find hlocate
  exact resolve_of_leads hleads

end Resolve

end Workspace

end IntegrationBuild
