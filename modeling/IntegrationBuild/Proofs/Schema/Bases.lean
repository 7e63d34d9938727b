import IntegrationBuild.Model.Render
import IntegrationBuild.Proofs.Model.Order
import IntegrationBuild.Proofs.Schema.Nodes

/-!
Circles of bases.  The bases of a model are checked one model at a time, so a
model that extends itself is refused and a longer circle is not.  The models of
a project can be declared behind their bases exactly if there is no circle, and
the generated module declares them so whenever they can be.
-/

namespace IntegrationBuild

/-- The module that declares the models in this order. -/
def Model.moduleIn (models order : List Model) : String :=
  let exported := if order.isEmpty then [] else [exportBlock order]
  let declarations := order.map fun model =>
    render model (if model.needsCallForm then inherited models model else [])
  String.intercalate "\n\n" (moduleHeader :: (exported ++ declarations))

theorem Model.renderModule_eq_moduleIn (models : List Model) :
    renderModule models = moduleIn models (inOrder models) := rfl

namespace Schema

/-- The mapping of a model lists a name among its bases. -/
def Node.Extends (node : Node) (base : String) : Prop :=
  ∃ entry ∈ node.entries,
    entry.1.describe = basesKey ∧ base ∈ commaNames entry.2.describe

/-- A models section whose models can be listed: each is a mapping or null, and
the names differ and can be declared. -/
structure Listable (models : List (String × Value)) : Prop where
  bodies : ∀ entry ∈ models, ∃ entries, nullAsEmpty entry.2 = .mapping entries
  names : ∀ node ∈ sectionNodes models, isModelName node.name = true
  distinct : ((sectionNodes models).map Node.name).Nodup

section Refused

theorem exists_sectionModels {name : String} {body : Value}
    {entries : List (Value × Value)} (hbody : nullAsEmpty body = .mapping entries) :
    ∃ models, sectionModels name body = .ok models := by
  cases body with
  | null => exact ⟨_, rfl⟩
  | mapping inner => exact ⟨_, rfl⟩
  | _ => simp [nullAsEmpty] at hbody

theorem exists_collectModels {models : List (String × Value)}
    (hbodies : ∀ entry ∈ models, ∃ entries, nullAsEmpty entry.2 = .mapping entries) :
    ∃ collected, collectModels models = .ok collected := by
  induction models with
  | nil => exact ⟨[], rfl⟩
  | cons entry rest ih =>
      obtain ⟨entries, hentry⟩ := hbodies entry List.mem_cons_self
      obtain ⟨first, hfirst⟩ := @exists_sectionModels entry.1 _ _ hentry
      obtain ⟨others, hothers⟩ := ih fun other hother =>
        hbodies other (List.mem_cons_of_mem _ hother)
      refine ⟨first ++ others, ?_⟩
      rw [collectModels, hfirst, hothers]
      rfl

theorem checkModelNames_eq_ok {names seen : List String}
    (hvalid : ∀ name ∈ names, isModelName name = true) (hnodup : names.Nodup)
    (hfresh : ∀ name ∈ names, name ∉ seen) : checkModelNames names seen = .ok () := by
  induction names generalizing seen with
  | nil => rfl
  | cons name rest ih =>
      obtain ⟨hnew, hrest⟩ := List.nodup_cons.mp hnodup
      have hname := hvalid name List.mem_cons_self
      have hseen := hfresh name List.mem_cons_self
      rw [checkModelNames, hname]
      simp only [Bool.not_true, Bool.false_eq_true, if_false, List.contains_iff_mem, hseen]
      apply ih (fun other hother => hvalid other (List.mem_cons_of_mem _ hother)) hrest
      intro other hother hmem
      rcases List.mem_cons.mp hmem with rfl | hold
      · exact hnew hother
      · exact hfresh other (List.mem_cons_of_mem _ hother) hold

/-- A section that can be listed is only left with building its models. -/
theorem Listable.buildModels_eq {models : List (String × Value)}
    (hlistable : Listable models) :
    buildModels models = ((sectionNodes models).map Node.raw).mapM fun model =>
      buildEntries ((sectionNodes models).map Node.name)
        { name := model.name, fields := [] } model.entries := by
  obtain ⟨collected, hcollect⟩ := exists_collectModels hlistable.bodies
  have heq := collectModels_eq hcollect
  subst heq
  have hnames : ((sectionNodes models).map Node.raw).map (·.name) =
      (sectionNodes models).map Node.name := by
    rw [List.map_map]
    rfl
  have hcheck : checkModelNames ((sectionNodes models).map Node.name) [] = .ok () := by
    apply checkModelNames_eq_ok _ hlistable.distinct (by simp)
    intro name hname
    obtain ⟨node, hnode, rfl⟩ := List.mem_map.mp hname
    exact hlistable.names node hnode
  rw [buildModels, hcollect]
  simp only [bind, Except.bind, hnames, hcheck]

theorem exists_field_of_buildField {model key : String} {value : Value}
    {names : List String} {error : SchemaError}
    (hbuild : buildField model key value names = .error error) :
    ∃ cause, error = .field cause := by
  unfold buildField at hbuild
  dsimp only at hbuild
  split at hbuild
  · simp at hbuild
  · split at hbuild
    · simp at hbuild
    · next cause _ =>
      cases hbuild
      exact ⟨cause, rfl⟩
  · cases hbuild
    exact ⟨_, rfl⟩

theorem exists_field_of_parseBases {model : String} {value : Value}
    {names : List String} {error : SchemaError}
    (hparse : parseBases model value names = .error error) :
    ∃ cause, error = .field cause := by
  rw [parseBases] at hparse
  split at hparse
  · cases hparse
    exact ⟨_, rfl⟩
  · simp at hparse

/-- What is wrong with the entries of a model is wrong with a field of it. -/
theorem exists_field_of_buildEntries {names : List String} {model : Model}
    {entries : List (Value × Value)} {error : SchemaError}
    (hbuild : buildEntries names model entries = .error error) :
    ∃ cause, error = .field cause := by
  induction entries generalizing model with
  | nil => simp [buildEntries] at hbuild
  | cons entry rest ih =>
      obtain ⟨key, value⟩ := entry
      rw [buildEntries] at hbuild
      split at hbuild
      · rcases Outcome.bind_eq_error_iff.mp hbuild with hbases | ⟨_, -, hrest⟩
        · exact exists_field_of_parseBases hbases
        · exact ih hrest
      · rcases Outcome.bind_eq_error_iff.mp hbuild with hfield | ⟨_, -, hrest⟩
        · exact exists_field_of_buildField hfield
        · exact ih hrest

/-- In the entries of a model that is built, no list of bases has the model
itself, and every list has declared names only. -/
theorem bases_of_buildEntries {names : List String} {model built : Model}
    {entries : List (Value × Value)}
    (hbuild : buildEntries names model entries = .ok built) :
    ∀ entry ∈ entries, entry.1.describe = basesKey →
      ∀ base ∈ commaNames entry.2.describe, base ∈ names ∧ base ≠ model.name := by
  induction entries generalizing model with
  | nil => simp
  | cons entry rest ih =>
      obtain ⟨key, value⟩ := entry
      intro other hother hkey base hbase
      rw [buildEntries] at hbuild
      split at hbuild
      · obtain ⟨bases, hparse, hnext⟩ := Outcome.bind_eq_ok_iff.mp hbuild
        rcases List.mem_cons.mp hother with rfl | hmem
        · rw [parseBases] at hparse
          split at hparse
          · simp at hparse
          · next hnone => simpa using List.find?_eq_none.mp hnone base hbase
        · exact @ih { model with bases := bases } hnext other hmem hkey base hbase
      · next hno =>
        obtain ⟨field, -, hnext⟩ := Outcome.bind_eq_ok_iff.mp hbuild
        rcases List.mem_cons.mp hother with rfl | hmem
        · exact absurd hkey (by simpa using hno)
        · exact @ih { model with fields := model.fields ++ [field] } hnext other hmem
            hkey base hbase

/-- A section in which a model extends itself is refused. -/
theorem exists_error_of_extends {models : List (String × Value)} {node : Node}
    (hnode : node ∈ sectionNodes models) (hself : node.Extends node.name) :
    ∃ error, buildModels models = .error error := by
  cases hbuild : buildModels models with
  | error error => exact ⟨error, rfl⟩
  | ok built =>
      obtain ⟨model, hbuilds⟩ := exists_builds hbuild hnode
      obtain ⟨-, hall⟩ := forall₂_of_buildModels hbuild
      obtain ⟨entry, hentry, hkey, hbase⟩ := hself
      have hentries := (List.forall₂_iff_zip.mp hall).2 hbuilds.paired
      exact absurd rfl (bases_of_buildEntries hentries entry hentry hkey node.name hbase).2

/-- A section that can be listed is only refused for a field. -/
theorem Listable.exists_field {models : List (String × Value)}
    (hlistable : Listable models) {error : SchemaError}
    (hbuild : buildModels models = .error error) : ∃ cause, error = .field cause := by
  rw [hlistable.buildModels_eq] at hbuild
  obtain ⟨model, -, hmodel⟩ := Outcome.exists_of_mapM_eq_error hbuild
  exact exists_field_of_buildEntries hmodel

end Refused

end Schema

namespace Project

open Model (Acyclic BasesFirst)
open Schema (Listable Node)

/-- A document in whose models section a model extends itself is refused, and for
a field unless its models cannot even be listed.  Of a project that is read, all
bases are declared, and it is declared behind its bases whenever there is an order
that does so, which is the case unless bases run in a circle through several
models. -/
theorem refused_of_extends_and_basesFirst (path : Path) (entries : List (Value × Value)) :
    (∀ document, Schema.document (Schema.detectDialect entries) entries = .ok document →
      ∀ node : Node, node.Stands document.models → node.Extends node.name →
      ∃ error, ofValue path (.mapping entries) = .error (.schema error) ∧
        (Listable document.models → ∃ cause, error = .field cause)) ∧
    ∀ project, ofValue path (.mapping entries) = .ok project →
      (∀ model ∈ project.models, ∀ base ∈ model.bases,
        base ∈ project.modelNames ∧ base ≠ model.name) ∧
      ∃ order, Model.renderModule project.models = Model.moduleIn project.models order ∧
        order.Perm project.models ∧
        (Acyclic project.models → BasesFirst project.models order) ∧
        ∀ other, other.Perm project.models → BasesFirst project.models other →
          Acyclic project.models := by
  constructor
  · intro document hdocument node hnode hself
    obtain ⟨error, hbuild⟩ := Schema.exists_error_of_extends
      (Schema.mem_sectionNodes_iff.mpr hnode) hself
    refine ⟨error, ?_, fun hlistable => hlistable.exists_field hbuild⟩
    rw [ofValue, Schema.projectOf, hdocument]
    dsimp only
    rw [hbuild]
    rfl
  · intro project hload
    have hclosed := closed_of_ofValue hload
    refine ⟨hclosed.bases_declared, Model.inOrder project.models,
      Model.renderModule_eq_moduleIn _, Model.perm_inOrder hclosed.modelNames_nodup,
      Model.basesFirst_inOrder hclosed.modelNames_nodup, ?_⟩
    exact fun other hperm hfirst => hfirst.acyclic hperm hclosed.modelNames_nodup

/-- A document of models only. -/
def modelEntries (models : List (Value × Value)) : List (Value × Value) :=
  [(.text "integrations", .mapping []), (.text "models", .mapping models)]

/-- The model of a mapping extends itself. -/
def selfEntries : List (Value × Value) :=
  modelEntries [(.text "Issue", .mapping [(.text "author?",
    .mapping [(.text "__extends", .text "IssueAuthor")])])]

/-- A base that is declared last. -/
def lateEntries : List (Value × Value) :=
  modelEntries [(.text "Issue", .mapping [(.text "__extends", .text "Titled, Record")]),
    (.text "Titled", .mapping [(.text "__extends", .text "Record")]),
    (.text "Record", .null)]

/-- A model and the model of a mapping in it extend each other. -/
def ringEntries : List (Value × Value) :=
  modelEntries [(.text "Issue", .mapping [(.text "__extends", .text "IssueAuthor"),
    (.text "author", .mapping [(.text "__extends", .text "Issue")])])]

/-- The mapping that extends itself is refused for a field; the base that is
declared last comes first in the module. -/
theorem refused_of_extends_and_basesFirst_self_and_late :
    (∃ cause, ofValue ⟨"/", ["nango.yaml"]⟩ (.mapping selfEntries) =
      .error (.schema (.field cause))) ∧
    ∃ project, ofValue ⟨"/", ["nango.yaml"]⟩ (.mapping lateEntries) = .ok project ∧
      ∃ order, Model.renderModule project.models = Model.moduleIn project.models order ∧
        order.Perm project.models ∧ BasesFirst project.models order := by
  constructor
  · have hdocument : ∃ document,
        Schema.document (Schema.detectDialect selfEntries) selfEntries = .ok document ∧
          document.models = [("Issue", .mapping [(.text "author?",
            .mapping [(.text "__extends", .text "IssueAuthor")])])] := ⟨_, rfl, rfl⟩
    obtain ⟨document, hdocument, hmodels⟩ := hdocument
    have hname : Node.name ⟨"Issue", [.text "author?"],
        [(.text "__extends", .text "IssueAuthor")]⟩ = "IssueAuthor" := by cbv
    have hnode : Node.Stands document.models ⟨"Issue", [.text "author?"],
        [(.text "__extends", .text "IssueAuthor")]⟩ := by
      rw [hmodels]
      exact .key (.model List.mem_cons_self rfl) List.mem_cons_self
    have hself : Node.Extends ⟨"Issue", [.text "author?"],
        [(.text "__extends", .text "IssueAuthor")]⟩ "IssueAuthor" :=
      ⟨_, List.mem_cons_self, by decide, by decide⟩
    have hlistable : Listable document.models := by
      rw [hmodels]
      exact ⟨by simp [Schema.nullAsEmpty], by decide, by decide⟩
    obtain ⟨error, hload, hfield⟩ := (refused_of_extends_and_basesFirst
      ⟨"/", ["nango.yaml"]⟩ selfEntries).1 document hdocument _ hnode (hname ▸ hself)
    obtain ⟨cause, rfl⟩ := hfield hlistable
    exact ⟨cause, hload⟩
  · have hproject : ∃ project,
        ofValue ⟨"/", ["nango.yaml"]⟩ (.mapping lateEntries) = .ok project ∧
          project.models =
            [{ name := "Issue", fields := [], bases := ["Titled", "Record"] },
              { name := "Titled", fields := [], bases := ["Record"] },
              { name := "Record", fields := [] }] := ⟨_, rfl, rfl⟩
    obtain ⟨project, hload, hmodels⟩ := hproject
    have hacyclic : Acyclic project.models := by
      rw [hmodels]
      exact Model.acyclic_of_rank
        (fun model => ["Record", "Titled", "Issue"].idxOf model.name) (by decide)
    obtain ⟨-, order, hmodule, hperm, hfirst, -⟩ := (refused_of_extends_and_basesFirst
      ⟨"/", ["nango.yaml"]⟩ lateEntries).2 project hload
    exact ⟨project, hload, order, hmodule, hperm, hfirst hacyclic⟩

/-- A circle of two models is not refused, and no order declares them behind
their bases. -/
theorem exists_ofValue_ring :
    ∃ project, ofValue ⟨"/", ["nango.yaml"]⟩ (.mapping ringEntries) = .ok project ∧
      (∃ model, Relation.TransGen (Model.Extends project.models) model model) ∧
      ∀ order, order.Perm project.models → ¬ BasesFirst project.models order := by
  have hproject : ∃ project,
      ofValue ⟨"/", ["nango.yaml"]⟩ (.mapping ringEntries) = .ok project ∧
        ∃ issue author, project.models = [issue, author] ∧
          issue.bases = [author.name] ∧ author.bases = [issue.name] :=
    ⟨_, rfl, _, _, rfl, rfl, rfl⟩
  obtain ⟨project, hload, issue, author, hmodels, hissue, hauthor⟩ := hproject
  have hout : Model.Extends project.models issue author := by
    simp [Model.Extends, hmodels, hissue]
  have hback : Model.Extends project.models author issue := by
    simp [Model.Extends, hmodels, hauthor]
  have hring := Relation.TransGen.tail (.single hout) hback
  have hnodup := (closed_of_ofValue hload).modelNames_nodup
  exact ⟨project, hload, ⟨issue, hring⟩,
    fun order hperm hfirst => hfirst.acyclic hperm hnodup issue hring⟩

end Project

end IntegrationBuild
