import Mathlib.Data.List.Nodup
import Mathlib.Data.List.Perm.Subperm
import Mathlib.Logic.Relation
import IntegrationBuild.Workspace.Path

/-!
What a search of files visits.  Files are visited depth first, each before the
files it uses; two paths with the same key are one file.  `Searches` is the search
without a bound, with one rule for each way that it goes on, so what holds of every
search is an induction on its rules; `visit` is the search with a bound, and comes to
the same when the bound is larger than the number of places.
-/

namespace IntegrationBuild

/-- Visits a file and what it uses.  `order` lists the files visited before, on
which the uses may depend; `depth` bounds how long a chain of uses is followed. -/
def visit (key : Path → Path) (uses : List Path → Path → List Path) :
    Nat → List Path → Path → List Path
  | 0, order, _ => order
  | depth + 1, order, path =>
    if (order.map key).contains (key path) then order
    else (uses order path).foldl (visit key uses depth) (order ++ [path])

/-- From the files `order` on, visiting the files `starts` one after the other comes
to an end with the files `result`. -/
inductive Searches (key : Path → Path) (uses : List Path → Path → List Path) :
    List Path → List Path → List Path → Prop
  | done (order : List Path) : Searches key uses order [] order
  | seen {order rest result : List Path} {path : Path} (hseen : key path ∈ order.map key)
      (hrest : Searches key uses order rest result) :
      Searches key uses order (path :: rest) result
  | fresh {order mid rest result : List Path} {path : Path} (hfresh : key path ∉ order.map key)
      (huses : Searches key uses (order ++ [path]) (uses order path) mid)
      (hrest : Searches key uses mid rest result) :
      Searches key uses order (path :: rest) result

namespace Searches

variable {key : Path → Path} {uses : List Path → Path → List Path}
  {order starts mid result rest : List Path} {path : Path}

theorem unique {result' : List Path} (hsearches : Searches key uses order starts result)
    (hsearches' : Searches key uses order starts result') : result = result' := by
  induction hsearches generalizing result' with
  | done order =>
      cases hsearches'
      rfl
  | seen hseen _ ih =>
      cases hsearches' with
      | seen _ hrest' => exact ih hrest'
      | fresh hfresh => exact absurd hseen hfresh
  | fresh hfresh _ _ ihuses ih =>
      cases hsearches' with
      | seen hseen => exact absurd hseen hfresh
      | fresh _ huses' hrest' =>
          obtain rfl := ihuses huses'
          exact ih hrest'

/-- One file and then the others. -/
theorem cons (hfirst : Searches key uses order [path] mid)
    (hrest : Searches key uses mid rest result) :
    Searches key uses order (path :: rest) result := by
  cases hfirst with
  | seen hseen hdone =>
      cases hdone
      exact .seen hseen hrest
  | fresh hfresh huses hdone =>
      cases hdone
      exact .fresh hfresh huses hrest

theorem grows (hsearches : Searches key uses order starts result) : order <+: result := by
  induction hsearches with
  | done order => exact List.prefix_rfl
  | seen _ _ ih => exact ih
  | fresh _ _ _ ihuses ih => exact ((List.prefix_append _ _).trans ihuses).trans ih

theorem mem_keys (hsearches : Searches key uses order starts result) {k : Path}
    (hk : k ∈ order.map key) : k ∈ result.map key :=
  (hsearches.grows.map key).subset hk

theorem nodup_concat (horder : (order.map key).Nodup) (hfresh : key path ∉ order.map key) :
    ((order ++ [path]).map key).Nodup := by
  rw [List.map_append, List.map_singleton, ← List.concat_eq_append]
  exact horder.concat hfresh

/-- No file is visited twice. -/
theorem nodup (hsearches : Searches key uses order starts result)
    (horder : (order.map key).Nodup) : (result.map key).Nodup := by
  induction hsearches with
  | done order => exact horder
  | seen _ _ ih => exact ih horder
  | fresh hfresh _ _ ihuses ih => exact ih (ihuses (nodup_concat horder hfresh))

theorem mem_of_start (hsearches : Searches key uses order starts result) :
    ∀ p ∈ starts, key p ∈ result.map key := by
  induction hsearches with
  | done order => simp
  | seen hseen hrest ih =>
      intro p hp
      rcases List.mem_cons.mp hp with rfl | hp
      · exact hrest.mem_keys hseen
      · exact ih p hp
  | fresh _ huses hrest _ ih =>
      intro p hp
      rcases List.mem_cons.mp hp with rfl | hp
      · exact hrest.mem_keys (huses.mem_keys (by simp))
      · exact ih p hp

/-- What files hand on to the files they use holds of all that is visited. -/
theorem added {P : Path → Prop} (hP : ∀ before x, P x → ∀ y ∈ uses before x, P y)
    (hsearches : Searches key uses order starts result) (hstarts : ∀ p ∈ starts, P p) :
    ∀ x ∈ result, x ∈ order ∨ P x := by
  induction hsearches with
  | done order => exact fun _ hx => Or.inl hx
  | seen _ _ ih => exact ih fun p hp => hstarts p (List.mem_cons_of_mem _ hp)
  | @fresh order mid rest result path _ _ _ ihuses ih =>
      have hpath := hstarts path List.mem_cons_self
      intro x hx
      rcases ih (fun p hp => hstarts p (List.mem_cons_of_mem _ hp)) x hx with hmid | hx
      · rcases ihuses (hP order path hpath) x hmid with horder | hx
        · rcases List.mem_append.mp horder with horder | hx
          · exact Or.inl horder
          · rw [List.mem_singleton.mp hx]
            exact Or.inr hpath
        · exact Or.inr hx
      · exact Or.inr hx

/-- The files that a file uses, when it is visited, are visited too. -/
theorem closed (hsearches : Searches key uses order starts result) {before after : List Path}
    {x : Path} (hsplit : result = before ++ x :: after) (hlength : order.length ≤ before.length) :
    ∀ y ∈ uses before x, key y ∈ result.map key := by
  induction hsearches generalizing after with
  | done order =>
      have hlonger := congrArg List.length hsplit
      rw [List.length_append, List.length_cons] at hlonger
      omega
  | seen _ _ ih => exact ih hsplit hlength
  | @fresh order mid rest result path _ huses hrest ihuses ih =>
      by_cases hlate : mid.length ≤ before.length
      · exact ih hsplit hlate
      · -- the file is visited by the time when the uses of `path` are
        have hprefix : before ++ [x] <+: result := ⟨after, by simp [hsplit]⟩
        obtain ⟨more, hmid⟩ : before ++ [x] <+: mid :=
          List.prefix_of_prefix_length_le hprefix hrest.grows (by simp; omega)
        rw [List.append_assoc, List.singleton_append] at hmid
        intro y hy
        apply hrest.mem_keys
        by_cases hnew : (order ++ [path]).length ≤ before.length
        · exact ihuses hmid.symm hnew y hy
        · have hsame : before ++ [x] = order ++ [path] := by
            refine List.IsPrefix.eq_of_length_le ?_ ?_
            · refine List.prefix_of_prefix_length_le ⟨more, ?_⟩ huses.grows ?_
              · simpa using hmid
              · simp at hnew hlength ⊢
                omega
            · simp at hnew ⊢
              omega
          obtain ⟨rfl, rfl⟩ := List.append_singleton_inj.mp hsame
          exact huses.mem_of_start y hy

end Searches

/-- What a search may still do: the files seen are distinct places, and the
bound is larger than the number of places that are left. -/
structure Searchable (key : Path → Path) (places : List Path) (depth : Nat)
    (order : List Path) : Prop where
  nodup : (order.map key).Nodup
  subset : order.map key ⊆ places
  room : places.length < depth + order.length

section Bound

variable {key : Path → Path} {uses : List Path → Path → List Path} {P : Path → Prop}
  {places order : List Path} {depth : Nat} {path : Path}

theorem searchable_nil (hdepth : places.length < depth) : Searchable key places depth [] :=
  ⟨List.nodup_nil, List.nil_subset places, by simpa using hdepth⟩

theorem Searchable.pos (hsearch : Searchable key places depth order) : 0 < depth := by
  have hle : (order.map key).length ≤ places.length :=
    (List.subperm_of_subset hsearch.nodup hsearch.subset).length_le
  have hroom := hsearch.room
  rw [List.length_map] at hle
  omega

theorem Searchable.add (hsearch : Searchable key places depth order) (extra : Nat) :
    Searchable key places (depth + extra) order :=
  ⟨hsearch.nodup, hsearch.subset, by have hroom := hsearch.room; omega⟩

/-- A new file takes one of the places that are left. -/
theorem Searchable.concat (hsearch : Searchable key places (depth + 1) order)
    (hfresh : key path ∉ order.map key) (hplace : key path ∈ places) :
    Searchable key places depth (order ++ [path]) where
  nodup := Searches.nodup_concat hsearch.nodup hfresh
  subset := by
    rw [List.map_append]
    refine List.append_subset.mpr ⟨hsearch.subset, ?_⟩
    simpa using hplace
  room := by
    have hroom := hsearch.room
    rw [List.length_append, List.length_singleton]
    omega

variable (hP : ∀ before x, P x → ∀ y ∈ uses before x, P y) (hplaces : ∀ x, P x → key x ∈ places)

include hP hplaces

theorem Searchable.of_searches {starts result : List Path}
    (hsearch : Searchable key places depth order)
    (hsearches : Searches key uses order starts result) (hstarts : ∀ p ∈ starts, P p) :
    Searchable key places depth result where
  nodup := hsearches.nodup hsearch.nodup
  subset := by
    intro k hk
    obtain ⟨x, hx, rfl⟩ := List.mem_map.mp hk
    rcases hsearches.added hP hstarts x hx with horder | hx
    · exact hsearch.subset (List.mem_map_of_mem horder)
    · exact hplaces x hx
  room := by
    have hlength := hsearches.grows.length_le
    have hroom := hsearch.room
    omega

/-- Visiting a list of files one after the other. -/
theorem searches_foldl
    (hvisit : ∀ order path, Searchable key places depth order → P path →
      Searches key uses order [path] (visit key uses depth order path))
    {starts : List Path} (hsearch : Searchable key places depth order)
    (hstarts : ∀ p ∈ starts, P p) :
    Searches key uses order starts (starts.foldl (visit key uses depth) order) := by
  induction starts generalizing order with
  | nil => exact .done order
  | cons path rest ih =>
      have hpath := hstarts path List.mem_cons_self
      have hfirst := hvisit order path hsearch hpath
      have hmid := hsearch.of_searches hP hplaces hfirst (by simpa using hpath)
      exact hfirst.cons (ih hmid fun p hp => hstarts p (List.mem_cons_of_mem path hp))

/-- A search whose bound exceeds the number of places left is not cut short. -/
theorem searches_visit (hsearch : Searchable key places depth order) (hpath : P path) :
    Searches key uses order [path] (visit key uses depth order path) := by
  induction depth generalizing order path with
  | zero => exact absurd hsearch.pos (Nat.lt_irrefl 0)
  | succ depth ih =>
      rw [visit]
      by_cases hseen : (order.map key).contains (key path) = true
      · rw [if_pos hseen]
        exact .seen (by simpa using hseen) (.done order)
      · rw [if_neg hseen]
        have hfresh : key path ∉ order.map key := by simpa using hseen
        have hnext := hsearch.concat hfresh (hplaces path hpath)
        refine .fresh hfresh ?_ (.done _)
        exact searches_foldl hP hplaces (fun _ _ => ih) hnext (hP order path hpath)

/-- A larger bound makes no difference. -/
theorem visit_add (extra : Nat) (hsearch : Searchable key places depth order) (hpath : P path) :
    visit key uses (depth + extra) order path = visit key uses depth order path :=
  (searches_visit hP hplaces (hsearch.add extra) hpath).unique
    (searches_visit hP hplaces hsearch hpath)

end Bound

section Added

variable {key : Path → Path} {uses : List Path → Path → List Path} {P : Path → Prop}

/-- What visits of single files add, visits of several files add. -/
theorem foldl_visit_eq_append {depth : Nat}
    (hvisit : ∀ order path, P path →
      ∃ new, visit key uses depth order path = order ++ new ∧ ∀ x ∈ new, P x)
    (order starts : List Path) (hstarts : ∀ p ∈ starts, P p) :
    ∃ new, starts.foldl (visit key uses depth) order = order ++ new ∧ ∀ x ∈ new, P x := by
  induction starts generalizing order with
  | nil => exact ⟨[], by simp⟩
  | cons path rest ih =>
      obtain ⟨first, hfirst, hadded⟩ := hvisit order path (hstarts path List.mem_cons_self)
      obtain ⟨others, hothers, hmore⟩ :=
        ih (order ++ first) fun p hp => hstarts p (List.mem_cons_of_mem path hp)
      refine ⟨first ++ others, ?_, fun x hx => ?_⟩
      · rw [List.foldl_cons, hfirst, hothers, List.append_assoc]
      · exact (List.mem_append.mp hx).elim (hadded x) (hmore x)

variable (hP : ∀ before x, P x → ∀ y ∈ uses before x, P y)

include hP

/-- Whatever the bound, what files hand on to the files they use holds of all that a
visit adds. -/
theorem visit_eq_append (depth : Nat) (order : List Path) (path : Path) (hpath : P path) :
    ∃ new, visit key uses depth order path = order ++ new ∧ ∀ x ∈ new, P x := by
  induction depth generalizing order path with
  | zero => exact ⟨[], by simp [visit]⟩
  | succ depth ih =>
      rw [visit]
      split
      · exact ⟨[], by simp⟩
      · obtain ⟨new, hfold, hnew⟩ :=
          foldl_visit_eq_append ih (order ++ [path]) (uses order path) (hP order path hpath)
        refine ⟨path :: new, by simp [hfold], fun x hx => ?_⟩
        rcases List.mem_cons.mp hx with rfl | hx
        · exact hpath
        · exact hnew x hx

omit hP in
/-- Whatever the bound, a visit only adds files. -/
theorem prefix_visit (key : Path → Path) (uses : List Path → Path → List Path) (depth : Nat)
    (order : List Path) (path : Path) : order <+: visit key uses depth order path := by
  obtain ⟨new, hvisit, -⟩ : ∃ new, visit key uses depth order path = order ++ new ∧
      ∀ x ∈ new, True := visit_eq_append (fun _ _ _ _ _ => trivial) depth order path trivial
  exact ⟨new, hvisit.symm⟩

omit hP in
theorem prefix_foldl_visit (key : Path → Path) (uses : List Path → Path → List Path)
    (depth : Nat) (order starts : List Path) :
    order <+: starts.foldl (visit key uses depth) order := by
  induction starts generalizing order with
  | nil => exact List.prefix_rfl
  | cons path rest ih => exact (prefix_visit key uses depth order path).trans (ih _)

omit hP in
/-- Whatever the bound, the file itself comes first and all others are used. -/
theorem visit_succ_eq_cons (depth : Nat) (start : Path) :
    ∃ new, visit key uses (depth + 1) [] start = start :: new ∧
      ∀ x ∈ new, ∃ before p, x ∈ uses before p :=
  foldl_visit_eq_append (visit_eq_append (fun before p _ _ hy => ⟨before, p, hy⟩) depth)
    [start] (uses [] start) fun _ hp => ⟨[], start, hp⟩

end Added

section Reached

variable {key : Path → Path} {uses : Path → List Path} {places : List Path} {depth : Nat}
  {start path : Path}

/-- The files that a file brings in, itself first, where the uses of a file are the
same at any time. -/
def reached (key : Path → Path) (uses : Path → List Path) (depth : Nat) (start : Path) :
    List Path :=
  visit key (fun _ => uses) depth [] start

/-- One file brings in another, directly or through others. -/
def Brings (uses : Path → List Path) : Path → Path → Prop :=
  Relation.ReflTransGen fun p q => q ∈ uses p

theorem Brings.of_uses (_before : List Path) (x : Path) (hx : Brings uses start x) :
    ∀ y ∈ uses x, Brings uses start y :=
  fun _ hy => hx.tail hy

theorem brings_of_mem_reached (hpath : path ∈ reached key uses depth start) :
    Brings uses start path := by
  obtain ⟨new, hvisit, hnew⟩ : ∃ new, visit key (fun _ => uses) depth [] start = [] ++ new ∧
      ∀ x ∈ new, Brings uses start x := visit_eq_append Brings.of_uses depth [] start .refl
  rw [reached, hvisit, List.nil_append] at hpath
  exact hnew path hpath

/-- A search follows the uses of the files that it may come to, and no others. -/
theorem visit_congr {uses' : List Path → Path → List Path} {order : List Path}
    (hsame : ∀ before x, Brings uses path x → uses x = uses' before x) :
    visit key (fun _ => uses) depth order path = visit key uses' depth order path := by
  induction depth generalizing order path with
  | zero => rfl
  | succ depth ih =>
      rw [visit, visit]
      by_cases hseen : (order.map key).contains (key path) = true
      · rw [if_pos hseen, if_pos hseen]
      · rw [if_neg hseen, if_neg hseen, ← hsame order path .refl]
        apply List.foldl_ext
        intro order file hfile
        exact ih fun before x hbrings => hsame before x (.head hfile hbrings)

variable (hdepth : places.length < depth) (hplaces : ∀ x, Brings uses start x → key x ∈ places)

include hdepth hplaces

/-- The files reached from a file: the search for them comes to its end. -/
theorem searches_reached :
    Searches key (fun _ => uses) [] [start] (reached key uses depth start) :=
  searches_visit Brings.of_uses hplaces (searchable_nil hdepth) .refl

theorem reached_add (extra : Nat) :
    reached key uses (depth + extra) start = reached key uses depth start :=
  visit_add Brings.of_uses hplaces extra (searchable_nil hdepth) .refl

/-- Everything that is brought in is visited, if files with the same key bring
in files with the same keys. -/
theorem exists_mem_reached
    (hkey : ∀ p q, Brings uses start p → Brings uses start q → key p = key q →
      ∀ y ∈ uses q, ∃ z ∈ uses p, key z = key y)
    {q : Path} (hq : Brings uses start q) :
    ∃ p ∈ reached key uses depth start, key p = key q := by
  have hsearches := searches_reached hdepth hplaces
  induction hq with
  | refl =>
      obtain ⟨p, hp, heq⟩ := List.mem_map.mp (hsearches.mem_of_start start List.mem_cons_self)
      exact ⟨p, hp, heq⟩
  | @tail q r hq hr ih =>
      obtain ⟨p, hp, heq⟩ := ih
      obtain ⟨z, hz, hzr⟩ := hkey p q (brings_of_mem_reached hp) hq heq r hr
      obtain ⟨before, after, hsplit⟩ := List.append_of_mem hp
      obtain ⟨x, hx, hxz⟩ :=
        List.mem_map.mp (hsearches.closed hsplit (Nat.zero_le _) z hz)
      exact ⟨x, hx, hxz.trans hzr⟩

end Reached

end IntegrationBuild
