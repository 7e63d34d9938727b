import IntegrationBuild.Proofs.Model.Inheritance

/-!
The order in which models are declared.  `Places` says what placing models
does without a bound on its depth; it always comes to an end, and no model is
lost or placed twice, in circles or not.  Without a circle of bases, every model
is placed after its bases.
-/

namespace IntegrationBuild.Model

variable {models : List Model}

/-- The declared bases of a model, in the order in which it names them. -/
def declaredBases (models : List Model) (model : Model) : List Model :=
  model.bases.filterMap (byName? models)

/-- The models placed so far and one more behind them. -/
def Placed.add (placed : Placed) (model : Model) : Placed :=
  { ordered := placed.ordered ++ [model], names := model.name :: placed.names }

/-- Placing models one after the other, each behind its bases.  A model that is
placed or under way is passed over; nothing bounds the depth. -/
inductive Places (models : List Model) :
    List String → Placed → List Model → Placed → Prop
  | done {path : List String} {placed : Placed} : Places models path placed [] placed
  | skip {path : List String} {placed after : Placed} {model : Model}
      {rest : List Model} (hskip : model.name ∈ placed.names ∨ model.name ∈ path)
      (hrest : Places models path placed rest after) :
      Places models path placed (model :: rest) after
  | add {path : List String} {placed middle after : Placed} {model : Model}
      {rest : List Model} (hnew : model.name ∉ placed.names)
      (hfree : model.name ∉ path)
      (hbases : Places models (model.name :: path) placed
        (declaredBases models model) middle)
      (hrest : Places models path (middle.add model) rest after) :
      Places models path placed (model :: rest) after

/-- There is no way over bases from a model back to itself. -/
def Acyclic (models : List Model) : Prop :=
  ∀ model, ¬ Relation.TransGen (Extends models) model model

/-- In this order every model comes after its declared bases. -/
def BasesFirst (models order : List Model) : Prop :=
  ∀ before model after, order = before ++ model :: after →
    ∀ base, Extends models model base → base ∈ before

section Run

theorem mem_declaredBases_iff (hnodup : (models.map (·.name)).Nodup) {model base : Model} :
    base ∈ declaredBases models model ↔ Extends models model base := by
  rw [declaredBases, List.mem_filterMap, Extends]
  constructor
  · rintro ⟨name, hname, hfind⟩
    obtain ⟨hbase, rfl⟩ := of_byName? hfind
    exact ⟨hbase, hname⟩
  · rintro ⟨hbase, hname⟩
    exact ⟨base.name, hname, byName?_of_mem hnodup hbase⟩

theorem mem_of_mem_declaredBases {model base : Model}
    (hbase : base ∈ declaredBases models model) : base ∈ models := by
  obtain ⟨name, -, hfind⟩ := List.mem_filterMap.mp hbase
  exact (of_byName? hfind).1

theorem place_succ (fuel : Nat) (path : List String) (placed : Placed) (model : Model) :
    place models (fuel + 1) path placed model =
      if model.name ∈ placed.names ∨ model.name ∈ path then placed
      else ((declaredBases models model).foldl
        (place models fuel (model.name :: path)) placed).add model := by
  rw [place]
  simp only [Bool.or_eq_true, List.contains_iff_mem]
  split
  · rfl
  · rw [declaredBases, List.foldl_filterMap]
    refine congrArg (Placed.add · model) (List.foldl_ext _ _ _ fun placed base _ => ?_)
    cases byName? models base <;> rfl

/-- The bound on the depth is never met: the names under way differ, so there
are at most as many of them as models. -/
theorem places_foldl {fuel : Nat} {path : List String} (hpath : path.Nodup)
    (hnames : path ⊆ models.map (·.name)) (hfuel : models.length < fuel + path.length)
    {todo : List Model} (htodo : ∀ model ∈ todo, model ∈ models) (placed : Placed) :
    Places models path placed todo (todo.foldl (place models fuel path) placed) := by
  induction fuel generalizing path todo placed with
  | zero =>
      have hle := (List.subperm_of_subset hpath hnames).length_le
      rw [List.length_map] at hle
      omega
  | succ fuel ih =>
      induction todo generalizing placed with
      | nil => exact .done
      | cons model rest ihRest =>
          have hrest := ihRest fun other hother => htodo other (List.mem_cons_of_mem _ hother)
          rw [List.foldl_cons, place_succ]
          by_cases hskip : model.name ∈ placed.names ∨ model.name ∈ path
          · rw [if_pos hskip]
            exact .skip hskip (hrest placed)
          · rw [if_neg hskip]
            rw [not_or] at hskip
            have hname : model.name ∈ models.map (·.name) :=
              List.mem_map_of_mem (htodo model List.mem_cons_self)
            refine .add hskip.1 hskip.2 (ih ?_ ?_ ?_ ?_ placed) (hrest _)
            · exact List.nodup_cons.mpr ⟨hskip.2, hpath⟩
            · exact List.cons_subset.mpr ⟨hname, hnames⟩
            · rw [List.length_cons]
              omega
            · exact fun base hbase => mem_of_mem_declaredBases hbase

/-- Placing comes out in one way only. -/
theorem Places.unique {path : List String} {placed first second : Placed}
    {todo : List Model} (hfirst : Places models path placed todo first)
    (hsecond : Places models path placed todo second) : first = second := by
  induction hfirst generalizing second with
  | done =>
      cases hsecond
      rfl
  | skip hskip _ ih =>
      cases hsecond with
      | skip _ hrest => exact ih hrest
      | add hnew hfree _ _ => exact absurd hskip (not_or.mpr ⟨hnew, hfree⟩)
  | add hnew hfree _ _ ihBases ihRest =>
      cases hsecond with
      | skip hskip _ => exact absurd hskip (not_or.mpr ⟨hnew, hfree⟩)
      | add _ _ hbases hrest =>
          obtain rfl := ihBases hbases
          exact ihRest hrest

end Run

section Kept

variable {path : List String} {placed after : Placed} {todo : List Model}

/-- What has been placed stays placed. -/
theorem Places.names_subset (hplaces : Places models path placed todo after) :
    placed.names ⊆ after.names := by
  induction hplaces with
  | done => exact List.Subset.refl _
  | skip _ _ ih => exact ih
  | add _ _ _ _ ihBases ihRest =>
      exact List.Subset.trans ihBases (List.Subset.trans (List.subset_cons_self _ _) ihRest)

/-- Every model that is not under way gets placed. -/
theorem Places.mem_names (hplaces : Places models path placed todo after)
    {model : Model} (hmodel : model ∈ todo) (hfree : model.name ∉ path) :
    model.name ∈ after.names := by
  induction hplaces with
  | done => simp at hmodel
  | skip hskip hrest ih =>
      rcases List.mem_cons.mp hmodel with rfl | hmem
      · exact hrest.names_subset (hskip.resolve_right hfree)
      · exact ih hmem hfree
  | add _ _ _ hrest _ ihRest =>
      rcases List.mem_cons.mp hmodel with rfl | hmem
      · exact hrest.names_subset List.mem_cons_self
      · exact ihRest hmem hfree

/-- No model that is under way gets placed. -/
theorem Places.mem_names_of_mem_path (hplaces : Places models path placed todo after)
    {name : String} (hpath : name ∈ path) (hname : name ∈ after.names) :
    name ∈ placed.names := by
  induction hplaces with
  | done => exact hname
  | skip _ _ ih => exact ih hpath hname
  | add _ hfree _ _ ihBases ihRest =>
      rcases List.mem_cons.mp (ihRest hpath hname) with rfl | hmiddle
      · exact absurd hpath hfree
      · exact ihBases (List.mem_cons_of_mem _ hpath) hmiddle

/-- Models that are placed change nothing. -/
theorem Places.eq_of_subset (hplaces : Places models path placed todo after)
    (htodo : ∀ model ∈ todo, model.name ∈ placed.names) : after = placed := by
  induction hplaces with
  | done => rfl
  | skip _ _ ih => exact ih fun model hmem => htodo model (List.mem_cons_of_mem _ hmem)
  | add hnew => exact absurd (htodo _ List.mem_cons_self) hnew

/-- What holds of the models placed so far: they are some of the models, each of
them once, and their names are noted. -/
structure Placed.Sound (models : List Model) (placed : Placed) : Prop where
  mem_names_iff : ∀ name, name ∈ placed.names ↔ name ∈ placed.ordered.map (·.name)
  nodup : (placed.ordered.map (·.name)).Nodup
  subset : placed.ordered ⊆ models

theorem Placed.sound_empty : Placed.Sound models {} :=
  ⟨fun _ => Iff.rfl, List.nodup_nil, List.nil_subset _⟩

theorem Placed.Sound.add (hplaced : placed.Sound models) {model : Model}
    (hmodel : model ∈ models) (hnew : model.name ∉ placed.names) :
    (placed.add model).Sound models where
  mem_names_iff name := by
    simp only [Placed.add, List.mem_cons, List.map_append, List.mem_append,
      List.map_cons, List.map_nil, List.not_mem_nil, or_false]
    rw [hplaced.mem_names_iff, or_comm]
  nodup := by
    rw [Placed.add, List.map_append, List.nodup_append]
    refine ⟨hplaced.nodup, by simp, ?_⟩
    rintro name hname other hother rfl
    obtain rfl : name = model.name := by simpa using hother
    exact hnew ((hplaced.mem_names_iff _).mpr hname)
  subset := List.append_subset.mpr ⟨hplaced.subset, by simpa using hmodel⟩

/-- Placing a model behind its bases does not meet the model among them. -/
theorem Places.not_mem_names_middle {model : Model}
    (hbases : Places models (model.name :: path) placed todo after)
    (hnew : model.name ∉ placed.names) : model.name ∉ after.names :=
  fun hafter => hnew (hbases.mem_names_of_mem_path List.mem_cons_self hafter)

theorem Places.sound (hplaces : Places models path placed todo after)
    (htodo : todo ⊆ models) (hplaced : placed.Sound models) : after.Sound models := by
  induction hplaces with
  | done => exact hplaced
  | skip _ _ ih => exact ih (List.cons_subset.mp htodo).2 hplaced
  | add hnew _ hbases _ ihBases ihRest =>
      obtain ⟨hmodel, hrest⟩ := List.cons_subset.mp htodo
      have hmiddle := ihBases (fun base hbase => mem_of_mem_declaredBases hbase) hplaced
      exact ihRest hrest (hmiddle.add hmodel (hbases.not_mem_names_middle hnew))

theorem Placed.Sound.mem_ordered_iff (hnodup : (models.map (·.name)).Nodup)
    (hplaced : placed.Sound models) {model : Model} (hmodel : model ∈ models) :
    model ∈ placed.ordered ↔ model.name ∈ placed.names := by
  rw [hplaced.mem_names_iff]
  constructor
  · exact fun hmem => List.mem_map_of_mem hmem
  · intro hname
    obtain ⟨other, hother, hsame⟩ := List.mem_map.mp hname
    rwa [← List.inj_on_of_nodup_map hnodup (hplaced.subset hother) hmodel hsame]

end Kept

section Bases

theorem BasesFirst.concat {order : List Model} {model : Model}
    (horder : BasesFirst models order)
    (hbases : ∀ base, Extends models model base → base ∈ order) :
    BasesFirst models (order ++ [model]) := by
  intro before other after hsplit base hbase
  rcases List.eq_nil_or_concat after with rfl | ⟨rest, last, rfl⟩
  · obtain ⟨rfl, hlast⟩ := List.append_inj' hsplit rfl
    obtain rfl : model = other := by simpa using hlast
    exact hbases base hbase
  · rw [List.concat_eq_append, ← List.cons_append, ← List.append_assoc] at hsplit
    exact horder before other rest (List.append_inj' hsplit rfl).1 base hbase

/-- Along a way over bases everything stands before the model. -/
theorem BasesFirst.mem_before {order before after : List Model} {model base : Model}
    (horder : BasesFirst models order) (hsplit : order = before ++ model :: after)
    (hbase : Relation.TransGen (Extends models) model base) : base ∈ before := by
  induction hbase with
  | single hstep => exact horder before model after hsplit _ hstep
  | tail _ hstep ih =>
      obtain ⟨first, last, rfl⟩ := List.append_of_mem ih
      have hmem := horder first _ (last ++ model :: after) (by simp [hsplit]) _ hstep
      exact List.mem_append_left _ hmem

theorem mem_of_transGen {model base : Model}
    (hbase : Relation.TransGen (Extends models) model base) : base ∈ models := by
  obtain ⟨_, _, hlast⟩ := Relation.TransGen.tail'_iff.mp hbase
  exact hlast.1

/-- Where all models stand in an order with their bases first, there is no
circle. -/
theorem BasesFirst.acyclic {order : List Model} (hperm : order.Perm models)
    (hnodup : (models.map (·.name)).Nodup) (horder : BasesFirst models order) :
    Acyclic models := by
  intro model hcircle
  have hmodel := mem_of_transGen hcircle
  obtain ⟨before, after, hsplit⟩ := List.append_of_mem (hperm.mem_iff.mpr hmodel)
  have hmem := horder.mem_before hsplit hcircle
  have hdistinct : order.Nodup := hperm.nodup_iff.mpr (List.Nodup.of_map _ hnodup)
  rw [hsplit, List.nodup_append] at hdistinct
  exact hdistinct.2.2 model hmem model List.mem_cons_self rfl

/-- A rank that falls from every model to its bases rules out circles. -/
theorem acyclic_of_rank (rank : Model → Nat)
    (hrank : ∀ model ∈ models, ∀ base ∈ models, base.name ∈ model.bases →
      rank base < rank model) : Acyclic models := by
  intro model hcircle
  have hmodel := mem_of_transGen hcircle
  have hfalls : ∀ base, Relation.TransGen (Extends models) model base →
      rank base < rank model := by
    intro base hway
    induction hway with
    | single hstep => exact hrank model hmodel _ hstep.1 hstep.2
    | tail hway hstep ih =>
        exact Nat.lt_trans (hrank _ (mem_of_transGen hway) _ hstep.1 hstep.2) ih
  exact Nat.lt_irrefl _ (hfalls model hcircle)

variable {path : List String} {placed after : Placed} {todo : List Model}

/-- Without circles, models placed with their bases first stay so.  The models
under way are all built on the ones to be placed, so no base is under way. -/
theorem Places.basesFirst (hnodup : (models.map (·.name)).Nodup)
    (hacyclic : Acyclic models) (hplaces : Places models path placed todo after)
    (htodo : todo ⊆ models) (hplaced : placed.Sound models)
    (hpath : ∀ model ∈ todo, ∀ above ∈ models, above.name ∈ path →
      Relation.TransGen (Extends models) above model)
    (hfirst : BasesFirst models placed.ordered) : BasesFirst models after.ordered := by
  induction hplaces with
  | done => exact hfirst
  | skip _ _ ih =>
      exact ih (List.cons_subset.mp htodo).2 hplaced
        (fun model hmem => hpath model (List.mem_cons_of_mem _ hmem)) hfirst
  | @add path placed middle after model rest hnew _ hbases _ ihBases ihRest =>
      obtain ⟨hmodel, hrest⟩ := List.cons_subset.mp htodo
      have hdeclared : declaredBases models model ⊆ models :=
        fun base hbase => mem_of_mem_declaredBases hbase
      have hunder : ∀ base ∈ declaredBases models model, ∀ above ∈ models,
          above.name ∈ model.name :: path →
          Relation.TransGen (Extends models) above base := by
        intro base hbase above habove hname
        have hstep := (mem_declaredBases_iff hnodup).mp hbase
        rcases List.mem_cons.mp hname with hsame | hold
        · obtain rfl := List.inj_on_of_nodup_map hnodup habove hmodel hsame
          exact .single hstep
        · exact (hpath model List.mem_cons_self above habove hold).tail hstep
      have hmiddle := hbases.sound hdeclared hplaced
      have hready : ∀ base, Extends models model base → base ∈ middle.ordered := by
        intro base hstep
        have hbase := (mem_declaredBases_iff hnodup).mpr hstep
        rw [hmiddle.mem_ordered_iff hnodup hstep.1]
        apply hbases.mem_names hbase
        exact fun hname => hacyclic base (hunder base hbase base hstep.1 hname)
      exact ihRest hrest (hmiddle.add hmodel (hbases.not_mem_names_middle hnew))
        (fun other hmem => hpath other (List.mem_cons_of_mem _ hmem))
        ((ihBases hdeclared hplaced hunder hfirst).concat hready)

/-- Where the bases come first already, the models are placed as they come. -/
theorem Places.ordered_eq_append {before : List Model}
    (hnodup : (models.map (·.name)).Nodup) (hsplit : models = before ++ todo)
    (hfirst : BasesFirst models models) (hbefore : placed.ordered = before)
    (hplaced : placed.Sound models) (hplaces : Places models [] placed todo after) :
    after.ordered = models := by
  induction todo generalizing before placed with
  | nil =>
      cases hplaces
      rw [hbefore, hsplit, List.append_nil]
  | cons model rest ih =>
      subst hbefore
      have hmodel : model ∈ models := by simp [hsplit]
      cases hplaces with
      | skip hskip _ =>
          -- a model that comes later cannot be placed yet
          have hmem : model ∈ placed.ordered :=
            (hplaced.mem_ordered_iff hnodup hmodel).mpr (by simpa using hskip)
          have hdistinct := List.Nodup.of_map _ hnodup
          rw [hsplit, List.nodup_append] at hdistinct
          exact absurd rfl (hdistinct.2.2 model hmem model List.mem_cons_self)
      | add hnew _ hbases hrest =>
          obtain rfl := hbases.eq_of_subset fun base hbase => by
            have hstep := (mem_declaredBases_iff hnodup).mp hbase
            rw [← hplaced.mem_ordered_iff hnodup hstep.1]
            exact hfirst _ model rest hsplit base hstep
          exact ih (by simp [hsplit, Placed.add]) rfl (hplaced.add hmodel hnew) hrest

end Bases

/-- The models in order come from placing all of them without a bound. -/
theorem exists_places_inOrder (models : List Model) :
    ∃ placed, Places models [] {} models placed ∧ placed.ordered = inOrder models :=
  ⟨_, places_foldl List.nodup_nil (List.nil_subset _) (by simp) (fun _ hmem => hmem) {}, rfl⟩

theorem perm_inOrder (hnodup : (models.map (·.name)).Nodup) :
    (inOrder models).Perm models := by
  obtain ⟨placed, hplaces, horder⟩ := exists_places_inOrder models
  have hsound := hplaces.sound (List.Subset.refl _) Placed.sound_empty
  rw [← horder, List.perm_ext_iff_of_nodup (List.Nodup.of_map _ hsound.nodup)
    (List.Nodup.of_map _ hnodup)]
  intro model
  refine ⟨fun hmem => hsound.subset hmem, fun hmem => ?_⟩
  exact (hsound.mem_ordered_iff hnodup hmem).mpr (hplaces.mem_names hmem List.not_mem_nil)

theorem basesFirst_inOrder (hnodup : (models.map (·.name)).Nodup)
    (hacyclic : Acyclic models) : BasesFirst models (inOrder models) := by
  obtain ⟨placed, hplaces, horder⟩ := exists_places_inOrder models
  rw [← horder]
  apply hplaces.basesFirst hnodup hacyclic (List.Subset.refl _) Placed.sound_empty
  · simp
  · intro before model after hsplit
    simp at hsplit

/-- Models with distinct names are placed to the end, whatever they extend: each
of them once, behind its bases unless these run in a circle, and as they come
where the bases come first already. -/
theorem places_iff_and_inOrder_perm (hnodup : (models.map (·.name)).Nodup) :
    (∃ placed, placed.ordered = inOrder models ∧
        ∀ after, Places models [] {} models after ↔ after = placed) ∧
      (inOrder models).Perm models ∧
      (Acyclic models → BasesFirst models (inOrder models)) ∧
      (BasesFirst models models → inOrder models = models) := by
  obtain ⟨placed, hplaces, horder⟩ := exists_places_inOrder models
  refine ⟨⟨placed, horder, fun after => ?_⟩, perm_inOrder hnodup,
    basesFirst_inOrder hnodup, fun hfirst => ?_⟩
  · exact ⟨fun hafter => hafter.unique hplaces, fun heq => heq ▸ hplaces⟩
  · rw [← horder]
    exact hplaces.ordered_eq_append hnodup rfl hfirst rfl Placed.sound_empty

/-- Models on a common base, one of them named twice, an unknown base, and a
circle at the end. -/
def tangledModels : List Model :=
  [{ name := "Issue", fields := [], bases := ["Titled", "Dated", "Missing", "Titled"] },
    { name := "Titled", fields := [], bases := ["Record"] },
    { name := "Dated", fields := [], bases := ["Record"] },
    { name := "Record", fields := [], bases := [] },
    { name := "Egg", fields := [], bases := ["Hen"] },
    { name := "Hen", fields := [], bases := ["Egg"] }]

/-- All of them are placed; without the circle, each behind its bases. -/
theorem places_iff_and_inOrder_perm_tangled :
    (tangledModels.map (·.name)).Nodup ∧
      (inOrder tangledModels).Perm tangledModels ∧
      (inOrder tangledModels).map (·.name) =
        ["Record", "Titled", "Dated", "Issue", "Hen", "Egg"] ∧
      Acyclic (tangledModels.take 4) ∧
      BasesFirst (tangledModels.take 4) (inOrder (tangledModels.take 4)) := by
  have hnodup : (tangledModels.map (·.name)).Nodup := by decide
  have hfour : ((tangledModels.take 4).map (·.name)).Nodup := by decide
  have hacyclic : Acyclic (tangledModels.take 4) := acyclic_of_rank
    (fun model => ["Record", "Titled", "Dated", "Issue"].idxOf model.name) (by decide)
  exact ⟨hnodup, (places_iff_and_inOrder_perm hnodup).2.1, by decide, hacyclic,
    (places_iff_and_inOrder_perm hfour).2.2.1 hacyclic⟩

end IntegrationBuild.Model
