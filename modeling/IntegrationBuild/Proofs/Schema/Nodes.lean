import Mathlib.Data.List.Nodup
import IntegrationBuild.Proofs.Schema.Closed

/-!
The mappings of a models section.  Every mapping, at any depth, declares one
model, which is named after the keys that lead to the mapping; a field that is
a mapping has the type of the model that this mapping declares and of no other.
-/

namespace IntegrationBuild.Schema

/-- A mapping of the section: the model it belongs to, the keys that lead to it
from there, and its entries. -/
structure Node where
  model : String
  keys : List Value
  entries : List (Value × Value)

namespace Node

/-- The name of the model that a node declares: the name of the model it
belongs to and, without the marks at their ends, the keys that lead to it. -/
def name (node : Node) : String :=
  node.keys.foldl (fun name key => name ++ pascalCase (dropMarks key.describe))
    node.model

/-- The node of a mapping under a key. -/
def child (node : Node) (key : Value) (entries : List (Value × Value)) : Node :=
  ⟨node.model, node.keys ++ [key], entries⟩

/-- The model that a node declares, as it is written. -/
def raw (node : Node) : RawModel :=
  ⟨node.name, node.entries⟩

/-- The entries of a node that are fields. -/
def fieldEntries (node : Node) : List (Value × Value) :=
  node.entries.filter fun entry => entry.1.describe != basesKey

theorem name_child (node : Node) (key : Value) (entries : List (Value × Value)) :
    (node.child key entries).name =
      node.name ++ pascalCase (dropMarks key.describe) := by
  rw [name, child, List.foldl_concat]
  rfl

end Node

mutual

/-- The nodes of a value that keys lead to, each before those inside it. -/
def nodesOf (model : String) (keys : List Value) : Value → List Node
  | .mapping entries => ⟨model, keys, entries⟩ :: nodesOfEntries model keys entries
  | _ => []

/-- The nodes of the values among some entries, one entry after the other. -/
def nodesOfEntries (model : String) (keys : List Value) :
    List (Value × Value) → List Node
  | [] => []
  | (key, value) :: rest =>
    nodesOf model (keys ++ [key]) value ++ nodesOfEntries model keys rest

end

/-- The nodes of a models section, where null stands for an empty model. -/
def sectionNodes (models : List (String × Value)) : List Node :=
  models.flatMap fun entry => nodesOf entry.1 [] (nullAsEmpty entry.2)

/-- A node that keys lead to from one of the models of a section. -/
inductive Node.Stands (models : List (String × Value)) : Node → Prop
  | model {name : String} {body : Value} {entries : List (Value × Value)}
      (hmodel : (name, body) ∈ models)
      (hbody : nullAsEmpty body = .mapping entries) :
      Stands models ⟨name, [], entries⟩
  | key {node : Node} {key : Value} {entries : List (Value × Value)}
      (hnode : Stands models node) (hkey : (key, .mapping entries) ∈ node.entries) :
      Stands models (node.child key entries)

section Stands

theorem mem_nodesOfEntries {model : String} {keys : List Value}
    {entries : List (Value × Value)} {node : Node} :
    node ∈ nodesOfEntries model keys entries ↔
      ∃ entry ∈ entries, node ∈ nodesOf model (keys ++ [entry.1]) entry.2 := by
  induction entries with
  | nil => simp [nodesOfEntries]
  | cons entry rest ih =>
      rw [nodesOfEntries, List.mem_append, ih]
      simp only [List.mem_cons, or_and_right, exists_or, exists_eq_left]

theorem nodesOf_eq_nil {value : Value} (hvalue : ∀ entries, value ≠ .mapping entries)
    (model : String) (keys : List Value) : nodesOf model keys value = [] := by
  rw [nodesOf.eq_def]
  split
  · exact absurd rfl (hvalue _)
  · rfl

/-- Along with a node, a value has the nodes of the mappings among its entries. -/
theorem child_mem_nodesOf_and_nodesOfEntries (model : String) :
    (∀ keys value, ∀ node ∈ nodesOf model keys value, ∀ key inner,
      (key, .mapping inner) ∈ node.entries →
        node.child key inner ∈ nodesOf model keys value) ∧
    ∀ keys entries, ∀ node ∈ nodesOfEntries model keys entries, ∀ key inner,
      (key, .mapping inner) ∈ node.entries →
        node.child key inner ∈ nodesOfEntries model keys entries := by
  apply nodesOf.mutual_induct
  case case1 =>
    intro keys entries ih node hnode key inner hkey
    rw [nodesOf, List.mem_cons] at hnode ⊢
    right
    rcases hnode with rfl | hnode
    · refine mem_nodesOfEntries.mpr ⟨_, hkey, ?_⟩
      rw [nodesOf]
      exact List.mem_cons_self
    · exact ih node hnode key inner hkey
  case case2 =>
    intro value keys hvalue node hnode
    rw [nodesOf_eq_nil hvalue] at hnode
    simp at hnode
  case case3 =>
    intro keys node hnode
    simp [nodesOfEntries] at hnode
  case case4 =>
    intro keys key value rest ihValue ihRest node hnode other inner hkey
    rw [nodesOfEntries, List.mem_append] at hnode ⊢
    rcases hnode with hnode | hnode
    · exact Or.inl (ihValue node hnode other inner hkey)
    · exact Or.inr (ihRest node hnode other inner hkey)

/-- What is found below a node of a section stands in the section. -/
theorem stands_of_mem_nodesOf_and_nodesOfEntries {models : List (String × Value)}
    (model : String) :
    (∀ keys value,
      (∀ entries, value = .mapping entries → Node.Stands models ⟨model, keys, entries⟩) →
        ∀ node ∈ nodesOf model keys value, node.Stands models) ∧
    ∀ keys entries,
      (∀ key inner, (key, .mapping inner) ∈ entries →
        Node.Stands models ⟨model, keys ++ [key], inner⟩) →
        ∀ node ∈ nodesOfEntries model keys entries, node.Stands models := by
  apply nodesOf.mutual_induct
  case case1 =>
    intro keys entries ih hstands node hnode
    have hself := hstands entries rfl
    rw [nodesOf, List.mem_cons] at hnode
    rcases hnode with rfl | hnode
    · exact hself
    · exact ih (fun key inner hkey => hself.key hkey) node hnode
  case case2 =>
    intro value keys hvalue hstands node hnode
    rw [nodesOf_eq_nil hvalue] at hnode
    simp at hnode
  case case3 =>
    intro keys hstands node hnode
    simp [nodesOfEntries] at hnode
  case case4 =>
    intro keys key value rest ihValue ihRest hstands node hnode
    rw [nodesOfEntries, List.mem_append] at hnode
    rcases hnode with hnode | hnode
    · refine ihValue ?_ node hnode
      rintro inner rfl
      exact hstands key inner List.mem_cons_self
    · refine ihRest ?_ node hnode
      intro other inner hmem
      exact hstands other inner (List.mem_cons_of_mem _ hmem)

theorem child_mem_sectionNodes {models : List (String × Value)} {node : Node}
    (hnode : node ∈ sectionNodes models) {key : Value}
    {inner : List (Value × Value)} (hkey : (key, .mapping inner) ∈ node.entries) :
    node.child key inner ∈ sectionNodes models := by
  obtain ⟨entry, hentry, hmem⟩ := List.mem_flatMap.mp hnode
  have hchild := (child_mem_nodesOf_and_nodesOfEntries entry.1).1 _ _ node hmem
    key inner hkey
  exact List.mem_flatMap.mpr ⟨entry, hentry, hchild⟩

/-- The nodes listed are those that keys lead to. -/
theorem mem_sectionNodes_iff {models : List (String × Value)} {node : Node} :
    node ∈ sectionNodes models ↔ node.Stands models := by
  constructor
  · intro hnode
    obtain ⟨⟨name, body⟩, hentry, hmem⟩ := List.mem_flatMap.mp hnode
    refine (stands_of_mem_nodesOf_and_nodesOfEntries name).1 [] _ ?_ node hmem
    intro entries hbody
    exact .model hentry hbody
  · intro hstands
    induction hstands with
    | @model name body entries hmodel hbody =>
        refine List.mem_flatMap.mpr ⟨(name, body), hmodel, ?_⟩
        rw [hbody, nodesOf]
        exact List.mem_cons_self
    | key hnode hkey ih => exact child_mem_sectionNodes ih hkey

end Stands

section Collected

/-- Collecting models gives the nodes with their names. -/
theorem rawModels_eq_map_and_innerModels_eq_map (model : String) :
    (∀ keys value, ∀ name,
      (∀ entries, Node.name ⟨model, keys, entries⟩ = name) →
        rawModels name value = (nodesOf model keys value).map Node.raw) ∧
    ∀ keys entries, ∀ name,
      (∀ entries, Node.name ⟨model, keys, entries⟩ = name) →
        innerModels name entries = (nodesOfEntries model keys entries).map Node.raw := by
  apply nodesOf.mutual_induct
  case case1 =>
    intro keys entries ih name hname
    rw [rawModels, nodesOf, List.map_cons, ih name hname, Node.raw, hname entries]
  case case2 =>
    intro value keys hvalue name hname
    rw [nodesOf_eq_nil hvalue, rawModels.eq_def]
    split
    · exact absurd rfl (hvalue _)
    · rfl
  case case3 =>
    intro keys name hname
    rw [innerModels, nodesOfEntries, List.map_nil]
  case case4 =>
    intro keys key value rest ihValue ihRest name hname
    rw [innerModels, nodesOfEntries, List.map_append, ihRest name hname]
    rw [ihValue (name ++ pascalCase (dropMarks key.describe))]
    intro entries
    rw [← hname entries]
    exact Node.name_child ⟨model, keys, entries⟩ key entries

theorem collectModels_eq {models : List (String × Value)} {collected : List RawModel}
    (hcollect : collectModels models = .ok collected) :
    collected = (sectionNodes models).map Node.raw := by
  induction models generalizing collected with
  | nil =>
      cases hcollect
      rfl
  | cons entry rest ih =>
      obtain ⟨name, body⟩ := entry
      obtain ⟨first, hfirst, hrest⟩ := Outcome.bind_eq_ok_iff.mp hcollect
      obtain ⟨others, hothers, heq⟩ := Outcome.bind_eq_ok_iff.mp hrest
      cases heq
      have hnodes : first = (nodesOf name [] (nullAsEmpty body)).map Node.raw := by
        unfold sectionModels at hfirst
        split at hfirst
        · cases hfirst
          rfl
        · cases hfirst
          exact (rawModels_eq_map_and_innerModels_eq_map name).1 [] _ name
            fun _ => rfl
        · simp at hfirst
      rw [sectionNodes, List.flatMap_cons, List.map_append, ← hnodes, ih hothers,
        sectionNodes]

end Collected

section Fields

/-- A key with a mark at its end. -/
def Marked (key : Value) : Prop :=
  key.describe.toList.getLast? = some '?'

instance (key : Value) : Decidable (Marked key) :=
  inferInstanceAs (Decidable (_ = _))

/-- The key of a field without one mark at its end. -/
def unmarked (key : Value) : List Char :=
  if Marked key then key.describe.toList.dropLast else key.describe.toList

theorem fieldKey_describe (key : Value) :
    (fieldKey key.describe).1.toList = unmarked key ∧
      ((fieldKey key.describe).2 = true ↔ Marked key) := by
  simp only [unmarked, Marked]
  rw [fieldKey]
  split
  · next rest hreverse =>
    have hsplit : key.describe.toList = rest.reverse ++ ['?'] := by
      simpa using congrArg List.reverse hreverse
    simp [hsplit]
  · next hother =>
    have hlast : key.describe.toList.getLast? ≠ some '?' := by
      intro hlast
      obtain ⟨init, hinit⟩ := List.getLast?_eq_some_iff.mp hlast
      exact hother init.reverse (by simp [hinit])
    simp [hlast]

/-- The fields that entries add to a model, one for each of them but the one
that lists the bases. -/
theorem fields_buildEntries {names : List String} {model built : Model}
    {entries : List (Value × Value)}
    (hbuild : buildEntries names model entries = .ok built) :
    built.name = model.name ∧ ∃ fields, built.fields = model.fields ++ fields ∧
      List.Forall₂
        (fun entry field =>
          buildField model.name entry.1.describe entry.2 names = .ok field)
        (entries.filter fun entry => entry.1.describe != basesKey) fields := by
  induction entries generalizing model with
  | nil =>
      cases hbuild
      exact ⟨rfl, [], (List.append_nil _).symm, .nil⟩
  | cons entry rest ih =>
      obtain ⟨key, value⟩ := entry
      rw [buildEntries] at hbuild
      split at hbuild
      · next hbases =>
        obtain ⟨bases, -, hnext⟩ := Outcome.bind_eq_ok_iff.mp hbuild
        rw [List.filter_cons_of_neg (by simpa using hbases)]
        exact @ih { model with bases := bases } hnext
      · next hbases =>
        obtain ⟨field, hfield, hnext⟩ := Outcome.bind_eq_ok_iff.mp hbuild
        obtain ⟨hname, fields, hfields, hall⟩ :=
          @ih { model with fields := model.fields ++ [field] } hnext
        rw [List.filter_cons_of_pos (by simpa using hbases)]
        exact ⟨hname, field :: fields, by simp [hfields], .cons hfield hall⟩

/-- A field has the name of its entry; that of a mapping has the type of the
model with the name of the mapping's node. -/
theorem buildField_ok {model : String} {key value : Value} {names : List String}
    {field : ModelField}
    (hbuild : buildField model key.describe value names = .ok field) :
    field.name.toList = unmarked key ∧
      ∀ inner, value = .mapping inner →
        field.type =
          if Marked key then .optional (.model (model ++ pascalCase (dropMarks key.describe)))
          else .model (model ++ pascalCase (dropMarks key.describe)) := by
  obtain ⟨hname, hmarked⟩ := fieldKey_describe key
  rw [pascalCase_dropMarks, ← pascalCase_fieldKey key.describe]
  unfold buildField at hbuild
  dsimp only at hbuild
  split at hbuild
  · cases hbuild
    refine ⟨hname, fun inner _ => ?_⟩
    by_cases hmark : Marked key
    · simp [makeOptional, TypeRef.isOptional, hmark, hmarked.mpr hmark]
    · have hplain : (fieldKey key.describe).2 = false :=
        Bool.eq_false_iff.mpr fun htrue => hmark (hmarked.mp htrue)
      simp [makeOptional, hmark, hplain]
  · split at hbuild
    · cases hbuild
      exact ⟨hname, fun inner hinner => by simp at hinner⟩
    · simp at hbuild
  · simp at hbuild

end Fields

section Correspondence

variable (models : List (String × Value)) (built : List Model)

/-- The model that a node declares, and the only one of its name. -/
structure Node.Builds (node : Node) (model : Model) : Prop where
  paired : (node, model) ∈ (sectionNodes models).zip built
  named : model.name = node.name
  unique : ∀ other ∈ built, other.name = node.name → other = model

/-- A field made of an entry: a mapping under the key is a node of its own, and
the field has the type of the model that this node declares. -/
structure Node.HasField (node : Node) (entry : Value × Value) (field : ModelField) :
    Prop where
  name : field.name.toList = unmarked entry.1
  type : ∀ inner, entry.2 = .mapping inner →
    ∃ model, (node.child entry.1 inner).Builds models built model ∧
      field.type = if Marked entry.1 then .optional (.model model.name)
        else .model model.name

/-- A model made of a node: its name comes from the keys that lead to the node,
its fields from the entries of the node. -/
structure Node.Declares (node : Node) (model : Model) : Prop where
  builds : node.Builds models built model
  fields : List.Forall₂ (node.HasField models built) node.fieldEntries model.fields

variable {models : List (String × Value)} {built : List Model}

/-- Item by item, the models built are those of the nodes. -/
theorem forall₂_of_buildModels (hbuild : buildModels models = .ok built) :
    (built.map (·.name)).Nodup ∧
      List.Forall₂
        (fun node model => buildEntries (built.map (·.name))
          { name := node.name, fields := [] } node.entries = .ok model)
        (sectionNodes models) built := by
  obtain ⟨collected, hcollect, hrest⟩ := Outcome.bind_eq_ok_iff.mp hbuild
  obtain ⟨⟨⟩, hcheck, hmodels⟩ := Outcome.bind_eq_ok_iff.mp hrest
  have hnames : built.map (·.name) = collected.map (·.name) :=
    Outcome.map_eq_map_of_mapM hmodels fun _ _ _ hentries =>
      (fields_buildEntries hentries).1
  rw [hnames]
  refine ⟨(checkModelNames_ok hcheck).1, ?_⟩
  have hall := Outcome.mapM_eq_ok_iff.mp hmodels
  rw [collectModels_eq hcollect] at hall ⊢
  exact List.forall₂_map_left_iff.mp hall

theorem builds_of_mem_zip (hbuild : buildModels models = .ok built) {node : Node}
    {model : Model} (hpair : (node, model) ∈ (sectionNodes models).zip built) :
    node.Builds models built model := by
  obtain ⟨hnodup, hall⟩ := forall₂_of_buildModels hbuild
  have hmodel := (List.forall₂_iff_zip.mp hall).2 hpair
  have hname : model.name = node.name := (fields_buildEntries hmodel).1
  refine ⟨hpair, hname, fun other hother hsame => ?_⟩
  exact List.inj_on_of_nodup_map hnodup hother (List.of_mem_zip hpair).2
    (hsame.trans hname.symm)

theorem exists_builds (hbuild : buildModels models = .ok built) {node : Node}
    (hnode : node ∈ sectionNodes models) : ∃ model, node.Builds models built model := by
  obtain ⟨-, hall⟩ := forall₂_of_buildModels hbuild
  rw [← List.map_fst_zip hall.length_eq.le, List.mem_map] at hnode
  obtain ⟨⟨_, model⟩, hpair, rfl⟩ := hnode
  exact ⟨model, builds_of_mem_zip hbuild hpair⟩

/-- The models of an accepted section are, one by one and in order, those of its
nodes, and the nodes are the mappings that keys lead to. -/
theorem forall₂_declares_of_buildModels (hbuild : buildModels models = .ok built) :
    List.Forall₂ (Node.Declares models built) (sectionNodes models) built ∧
      (built.map (·.name)).Nodup ∧
      ∀ node, node ∈ sectionNodes models ↔ node.Stands models := by
  obtain ⟨hnodup, hall⟩ := forall₂_of_buildModels hbuild
  refine ⟨?_, hnodup, fun _ => mem_sectionNodes_iff⟩
  rw [List.forall₂_iff_zip] at hall ⊢
  refine ⟨hall.1, fun {node model} hpair => ?_⟩
  have hnode := (List.of_mem_zip hpair).1
  obtain ⟨-, fields, hfields, hentries⟩ := fields_buildEntries (hall.2 hpair)
  refine ⟨builds_of_mem_zip hbuild hpair, ?_⟩
  rw [hfields, List.nil_append, Node.fieldEntries]
  rw [List.forall₂_iff_zip] at hentries ⊢
  refine ⟨hentries.1, fun {entry field} hentry => ?_⟩
  obtain ⟨hname, htype⟩ := buildField_ok (hentries.2 hentry)
  refine ⟨hname, fun inner hinner => ?_⟩
  -- the mapping under the key is a node, so a model was built from it
  have hkey : (entry.1, .mapping inner) ∈ node.entries := by
    rw [← hinner]
    exact (List.mem_filter.mp (List.of_mem_zip hentry).1).1
  obtain ⟨child, hchild⟩ := exists_builds hbuild (child_mem_sectionNodes hnode hkey)
  refine ⟨child, hchild, ?_⟩
  rw [hchild.named, Node.name_child]
  exact htype inner hinner

end Correspondence

/-- A section with a mapping inside a model. -/
def issueSection : List (String × Value) :=
  [("Issue", .mapping [(.text "id", .text "string"),
    (.text "author?", .mapping [(.text "login", .text "string")])])]

/-- The section declares two models, and the second is the type of the field
that is a mapping. -/
theorem forall₂_declares_of_buildModels_issueSection :
    buildModels issueSection = .ok issueModels ∧
      (sectionNodes issueSection).map Node.name = ["Issue", "IssueAuthor"] ∧
      List.Forall₂ (Node.Declares issueSection issueModels)
        (sectionNodes issueSection) issueModels := by
  refine ⟨buildModels_issueModels, rfl, ?_⟩
  exact (forall₂_declares_of_buildModels buildModels_issueModels).1

end IntegrationBuild.Schema
