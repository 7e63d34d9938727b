import IntegrationBuild.Model.Basic
import IntegrationBuild.Proofs.TypeExpr.Phrase
import IntegrationBuild.Proofs.TypeExpr.Reading
import IntegrationBuild.TypeExpr.Render

/-!
What an annotation tells about a type.  An annotation does not tell an object
from a record of anything, nor an absent value from `null`; apart from that
two types of fields have the same annotation only if they are the same.
-/

namespace IntegrationBuild

namespace TypeRef

mutual

/-- The type with the differences taken away that annotations do not show, at
every depth. -/
def canonical : TypeRef → TypeRef
  | .primitive .object => .record (.primitive .string) (.primitive .any)
  | .primitive p => .primitive p
  | .model name => .model name
  | .array item => .array item.canonical
  | .record key value => .record key.canonical value.canonical
  | .nullable inner => .nullable inner.canonical
  | .optional (.nullable inner) => .nullable inner.canonical
  | .optional inner => .nullable inner.canonical
  | .literal text => .literal text
  | .union members => .union (canonicalList members)

/-- The canonical forms of a list of types. -/
def canonicalList : List TypeRef → List TypeRef
  | [] => []
  | ref :: rest => ref.canonical :: canonicalList rest

end

/-- Whether the type says that the value may be null. -/
def isNullable : TypeRef → Bool
  | .nullable _ => true
  | _ => false

theorem canonicalList_eq_map (members : List TypeRef) :
    canonicalList members = members.map canonical := by
  induction members with
  | nil => rfl
  | cons ref rest ih => rw [canonicalList, ih, List.map_cons]

theorem isLiteral_canonical (type : TypeRef) :
    type.canonical.isLiteral = type.isLiteral := by
  cases type with
  | primitive p => cases p <;> rfl
  | optional inner => cases inner <;> rfl
  | _ => rfl

/-- Absence shows as `null` unless `null` shows already. -/
theorem canonical_optional {inner : TypeRef} (hinner : inner.isNullable = false) :
    (TypeRef.optional inner).canonical = .nullable inner.canonical := by
  cases inner with
  | nullable inner => simp [isNullable] at hinner
  | _ => rfl

theorem render_optional {inner : TypeRef} (hinner : inner.isNullable = false) :
    (TypeRef.optional inner).render = inner.render ++ " | None" := by
  cases inner with
  | nullable inner => simp [isNullable] at hinner
  | _ => rfl

theorem renderMembers_cons {ref : TypeRef} (hliteral : ref.isLiteral = false)
    (rest : List TypeRef) (run : List String) :
    renderMembers (ref :: rest) run =
      literalGroup run.reverse ++ (ref.render :: renderMembers rest []) := by
  cases ref with
  | literal text => simp [isLiteral] at hliteral
  | _ => rfl

mutual

/-- The canonical form has the same annotation. -/
theorem render_canonical (type : TypeRef) :
    type.canonical.render = type.render := by
  match type with
  | .primitive p => cases p <;> rfl
  | .model name => rfl
  | .array item => simp only [canonical, render, render_canonical item]
  | .record key value =>
      simp only [canonical, render, render_canonical key, render_canonical value]
  | .nullable inner => simp only [canonical, render, render_canonical inner]
  | .optional inner =>
      have hinner := render_canonical inner
      cases hnullable : inner.isNullable with
      | true =>
          cases inner with
          | nullable present => exact hinner
          | _ => simp [isNullable] at hnullable
      | false =>
          rw [canonical_optional hnullable, render_optional hnullable, render,
            hinner]
  | .literal text => rfl
  | .union members =>
      rw [canonical, render, render, renderMembers_canonicalList members []]

theorem renderMembers_canonicalList (members : List TypeRef)
    (run : List String) :
    renderMembers (canonicalList members) run = renderMembers members run := by
  match members with
  | [] => rfl
  | ref :: rest =>
      rw [canonicalList]
      cases hliteral : ref.isLiteral with
      | true =>
          obtain ⟨text, rfl⟩ := TypeExpr.eq_literal_of_isLiteral hliteral
          exact renderMembers_canonicalList rest (text :: run)
      | false =>
          have hcanonical := isLiteral_canonical ref
          rw [renderMembers_cons (hcanonical.trans hliteral),
            renderMembers_cons hliteral, render_canonical ref,
            renderMembers_canonicalList rest []]

end

/-- Whether the type is `null` alone. -/
def isNull : TypeRef → Bool
  | .primitive .null => true
  | _ => false

theorem isNull_canonical (type : TypeRef) :
    type.canonical.isNull = type.isNull := by
  cases type with
  | primitive p => cases p <;> rfl
  | optional inner => cases inner <;> rfl
  | _ => rfl

theorem eq_null_of_isNull {type : TypeRef} (hnull : type.isNull = true) :
    type = .primitive .null := by
  cases type with
  | primitive p => cases p <;> simp_all [isNull]
  | _ => simp [isNull] at hnull

theorem isNull_eq_false {type : TypeRef} (hnull : type ≠ .primitive .null) :
    type.isNull = false := by
  rw [← Bool.not_eq_true]
  intro hisNull
  exact hnull (eq_null_of_isNull hisNull)

end TypeRef

namespace TypeExpr

open Text

/-- The words that stand for primitives in annotations. -/
def primitiveWords : List (String × Primitive) :=
  [("str", .string), ("float", .number), ("int", .integer), ("bool", .boolean),
    ("datetime", .date), ("Any", .any), ("None", .null)]

/-- The type of a word: a primitive first, then a model. -/
def wordType (word : String) : TypeRef :=
  match primitiveWords.lookup word with
  | some p => .primitive p
  | none => .model word

/-- The type of an annotation with these members.  A final `null` shows that
the value may be null. -/
def typeOfMembers : List TypeRef → TypeRef
  | [ref] => asType ref
  | members =>
    if members.getLast?.any TypeRef.isNull then
      .nullable (joined members.dropLast)
    else .union members

mutual

/-- The members that an annotation shows, in order. -/
def Phrase.members : Phrase → List TypeRef
  | .last atom => atom.members
  | .more atom rest => atom.members ++ rest.members

/-- The members that an atom shows. -/
def Atom.members : Atom → List TypeRef
  | .name word _ => [wordType (String.ofList word)]
  | .list item => [.array (typeOfMembers item.members)]
  | .dict key value =>
    [.record (typeOfMembers key.members) (typeOfMembers value.members)]
  | .literals first rest => (first :: rest).map .literal

end

/-- The type that an annotation shows. -/
def Phrase.type (xs : Phrase) : TypeRef :=
  typeOfMembers xs.members

theorem Phrase.members_ne_nil (xs : Phrase) : xs.members ≠ [] := by
  have hatom : ∀ a : Atom, a.members ≠ [] := by
    intro a
    cases a <;> simp [Atom.members]
  cases xs with
  | last a => exact hatom a
  | more a rest => simp [Phrase.members, hatom a]

/-- One annotation and then another. -/
def Phrase.append : Phrase → Phrase → Phrase
  | .last a, ys => .more a ys
  | .more a rest, ys => .more a (rest.append ys)

theorem Phrase.members_append (xs ys : Phrase) :
    (xs.append ys).members = xs.members ++ ys.members := by
  match xs with
  | .last a => rfl
  | .more a rest =>
      rw [Phrase.append, Phrase.members, rest.members_append ys,
        Phrase.members, List.append_assoc]

theorem Phrase.text_append (xs ys : Phrase) :
    (xs.append ys).text = xs.text ++ " | ".toList ++ ys.text := by
  match xs with
  | .last a => simp [Phrase.append, Phrase.text]
  | .more a rest =>
      simp [Phrase.append, Phrase.text, rest.text_append ys]

theorem typeOfMembers_of_not_null {members : List TypeRef}
    (hmembers : ∀ ref ∈ members, ref.isNull = false) :
    typeOfMembers members = joined members := by
  have hlast : members.getLast?.any TypeRef.isNull = false := by
    cases hlast : members.getLast? with
    | none => rfl
    | some ref => exact hmembers ref (List.mem_of_getLast? hlast)
  match members with
  | [] => rfl
  | [ref] => rfl
  | first :: second :: rest =>
      rw [typeOfMembers, hlast]
      · rfl
      · simp

theorem typeOfMembers_concat_null {members : List TypeRef}
    (hne : members ≠ []) :
    typeOfMembers (members ++ [.primitive .null]) = .nullable (joined members) := by
  rw [typeOfMembers.eq_def]
  split
  · next ref hsingle =>
    have hlength := congrArg List.length hsingle
    rw [List.length_append] at hlength
    have hzero : members.length = 0 := by simpa using hlength
    exact absurd (List.length_eq_zero_iff.mp hzero) hne
  · rw [List.getLast?_concat, List.dropLast_concat]
    rfl

/-- What the annotation of a type shows, place by place.  In front of a type
that may be absent the annotation of that type stands too. -/
def Shown : Place → TypeRef → Prop
  | .member, type => ∃ xs : Phrase,
      xs.text = type.render.toList ∧ xs.members = [type.canonical]
  | .kernel, type => ∃ xs : Phrase,
      xs.text = type.render.toList ∧ type.isNullable = false ∧
      (∀ ref ∈ xs.members, ref.isNull = false) ∧ joined xs.members = type.canonical
  | .present, type =>
      (∃ xs : Phrase,
        xs.text = type.render.toList ∧ xs.type = type.canonical) ∧
      ∃ xs : Phrase, xs.text = (TypeRef.optional type).render.toList ∧
        xs.type = (TypeRef.optional type).canonical
  | .whole, type => ∃ xs : Phrase,
      xs.text = type.render.toList ∧ xs.type = type.canonical

/-- The annotation of `null`. -/
def nonePhrase : Phrase :=
  .last (.name "None".toList (by decide))

theorem members_nonePhrase :
    nonePhrase.members = [.primitive .null] := by
  rfl

/-- With `null` behind it, the annotation of a kernel shows that the value may
be null. -/
theorem type_append_none {xs : Phrase} :
    (xs.append nonePhrase).type = .nullable (joined xs.members) := by
  rw [Phrase.type, Phrase.members_append, members_nonePhrase,
    typeOfMembers_concat_null xs.members_ne_nil]

theorem text_append_none {xs : Phrase} {text : String}
    (hxs : xs.text = text.toList) :
    (xs.append nonePhrase).text = (text ++ " | None").toList := by
  rw [Phrase.text_append, hxs, String.toList_append]
  simp [nonePhrase, Phrase.text, Atom.tail]

theorem shown_primitive (p : Primitive) : Shown .member (.primitive p) := by
  cases p with
  | object =>
      exact ⟨.last (.dict (.last (.name "str".toList (by decide)))
        (.last (.name "Any".toList (by decide)))), by decide, rfl⟩
  | string => exact ⟨.last (.name "str".toList (by decide)), by decide, rfl⟩
  | number => exact ⟨.last (.name "float".toList (by decide)), by decide, rfl⟩
  | integer => exact ⟨.last (.name "int".toList (by decide)), by decide, rfl⟩
  | boolean => exact ⟨.last (.name "bool".toList (by decide)), by decide, rfl⟩
  | date => exact ⟨.last (.name "datetime".toList (by decide)), by decide, rfl⟩
  | any => exact ⟨.last (.name "Any".toList (by decide)), by decide, rfl⟩
  | null => exact ⟨nonePhrase, by decide, rfl⟩

theorem shown_model {name : String}
    (hident : isAsciiIdentifier name.toList = true)
    (hname : isModelName name = true) : Shown .member (.model name) := by
  have hwords : ∀ entry ∈ primitiveWords, isModelName entry.1 = false := by decide
  have hlookup : primitiveWords.lookup name = none := by
    rw [List.lookup_eq_none_iff]
    intro entry hentry
    have hother := hwords entry hentry
    rw [bne_iff_ne]
    rintro rfl
    rw [hname] at hother
    simp at hother
  refine ⟨.last (.name name.toList hident), ?_, ?_⟩
  · simp [Phrase.text, Atom.tail, TypeRef.render]
  · rw [Phrase.members, Atom.members, String.ofList_toList, wordType, hlookup]
    rfl

theorem literalsText_eq (first : String) (rest : List String) :
    literalsText first rest =
      (String.intercalate ", " ((first :: rest).map quoted)).toList := by
  induction rest generalizing first with
  | nil => simp [literalsText, quoted]
  | cons second rest ih =>
      simp only [literalsText, ih, List.map_cons, String.intercalate_cons_cons,
        String.toList_append]
      simp [quoted]

/-- The annotation has these parts. -/
structure HasParts (xs : Phrase) (parts : List String) : Prop where
  ne_nil : parts ≠ []
  text_eq : xs.text = (String.intercalate " | " parts).toList

theorem HasParts.append {xs ys : Phrase} {parts others : List String}
    (hxs : HasParts xs parts) (hys : HasParts ys others) :
    HasParts (xs.append ys) (parts ++ others) := by
  refine ⟨List.append_ne_nil_of_left_ne_nil hxs.ne_nil others, ?_⟩
  rw [Phrase.text_append, hxs.text_eq, hys.text_eq,
    String.intercalate_append_of_ne_nil hxs.ne_nil hys.ne_nil,
    String.toList_append, String.toList_append]

/-- A run of literals is one part. -/
theorem hasParts_literalGroup (first : String) (rest : List String) :
    HasParts (.last (.literals first rest))
      (TypeRef.literalGroup (first :: rest)) := by
  refine ⟨by simp [TypeRef.literalGroup], ?_⟩
  rw [TypeRef.literalGroup, if_neg (by simp), String.intercalate_singleton,
    Phrase.text, Atom.word_literals, Atom.tail, literalsText_eq, String.toList_append,
    String.toList_append]
  simp

/-- The parts of a union show the literals of the run and then the members. -/
theorem exists_hasParts_renderMembers {members : List TypeRef}
    (hmembers : ∀ ref ∈ members, Shown .member ref) {run : List String}
    (hne : members ≠ [] ∨ run ≠ []) :
    ∃ xs : Phrase, HasParts xs (TypeRef.renderMembers members run) ∧
      xs.members = run.reverse.map TypeRef.literal ++
        members.map TypeRef.canonical := by
  induction members generalizing run with
  | nil =>
      have hrun : run.reverse ≠ [] := by simpa using hne
      obtain ⟨first, rest, heq⟩ := List.exists_cons_of_ne_nil hrun
      refine ⟨.last (.literals first rest), ?_, ?_⟩
      · rw [TypeRef.renderMembers, heq]
        exact hasParts_literalGroup first rest
      · rw [heq, List.map_nil, List.append_nil]
        rfl
  | cons ref rest ih =>
      have hrest : ∀ other ∈ rest, Shown .member other := fun other hother =>
        hmembers other (List.mem_cons_of_mem ref hother)
      cases hliteral : ref.isLiteral with
      | true =>
          obtain ⟨text, rfl⟩ := eq_literal_of_isLiteral hliteral
          obtain ⟨xs, hparts, hxs⟩ := ih hrest
            (Or.inr (List.cons_ne_nil text run))
          refine ⟨xs, hparts, ?_⟩
          rw [hxs]
          simp [TypeRef.canonical]
      | false =>
          obtain ⟨xs, htext, hxs⟩ := hmembers ref List.mem_cons_self
          have hself : HasParts xs [ref.render] :=
            ⟨by simp, by rw [String.intercalate_singleton, htext]⟩
          have htail : ∃ ys : Phrase,
              HasParts ys (ref.render :: TypeRef.renderMembers rest []) ∧
              ys.members = (ref :: rest).map TypeRef.canonical := by
            by_cases hnil : rest = []
            · refine ⟨xs, ?_, ?_⟩
              · rw [hnil]
                exact hself
              · rw [hxs, hnil]
                rfl
            · obtain ⟨ys, hparts, hys⟩ := @ih hrest [] (Or.inl hnil)
              refine ⟨xs.append ys, hself.append hparts, ?_⟩
              rw [Phrase.members_append, hxs, hys]
              rfl
          obtain ⟨ys, hparts, hys⟩ := htail
          rw [TypeRef.renderMembers_cons hliteral]
          cases hrun : run.reverse with
          | nil => exact ⟨ys, hparts, hys⟩
          | cons first others =>
              refine ⟨(Phrase.last (.literals first others)).append ys,
                (hasParts_literalGroup first others).append hparts, ?_⟩
              rw [Phrase.members_append, hys]
              rfl

theorem shown_literal (text : String) : Shown .member (.literal text) := by
  have hparts := hasParts_literalGroup text []
  refine ⟨.last (.literals text []), ?_, rfl⟩
  rw [hparts.text_eq]
  simp [TypeRef.literalGroup, TypeRef.render]

theorem shown_array {item : TypeRef} (hitem : Shown .whole item) :
    Shown .member (.array item) := by
  obtain ⟨xs, htext, htype⟩ := hitem
  refine ⟨.last (.list xs), ?_, ?_⟩
  · simp [Phrase.text, Atom.tail, TypeRef.render, htext]
  · rw [Phrase.type] at htype
    rw [Phrase.members, Atom.members, htype, TypeRef.canonical]

theorem shown_record {key value : TypeRef} (hkey : Shown .whole key)
    (hvalue : Shown .whole value) : Shown .member (.record key value) := by
  obtain ⟨xs, hxs, hkeyType⟩ := hkey
  obtain ⟨ys, hys, hvalueType⟩ := hvalue
  refine ⟨.last (.dict xs ys), ?_, ?_⟩
  · simp [Phrase.text, Atom.tail, TypeRef.render, hxs, hys]
  · rw [Phrase.type] at hkeyType hvalueType
    rw [Phrase.members, Atom.members, hkeyType, hvalueType,
      TypeRef.canonical]

theorem joined_map_canonical {members : List TypeRef}
    (hsize : 2 ≤ members.length ∨ ∃ text, members = [.literal text]) :
    joined (members.map TypeRef.canonical) =
      .union (members.map TypeRef.canonical) := by
  rcases hsize with htwo | ⟨text, rfl⟩
  · match members, htwo with
    | first :: second :: rest, _ => rfl
  · rfl

/-- Every type in normal form is shown by its annotation. -/
theorem Normal.shown {known : List String}
    (hknown : ∀ name ∈ known, isModelName name = true) {place : Place}
    {type : TypeRef} (htype : Normal known place type) : Shown place type := by
  induction htype with
  | primitive p => exact shown_primitive p
  | model hmem hident _ => exact shown_model hident (hknown _ hmem)
  | literal text => exact shown_literal text
  | array _ ih => exact shown_array ih
  | record _ _ ihkey ihvalue => exact shown_record ihkey ihvalue
  | @single ref href hliteral hnull ih =>
      obtain ⟨xs, htext, hxs⟩ := ih
      refine ⟨xs, htext, ?_, ?_, ?_⟩
      · cases href <;> rfl
      · rw [hxs, List.forall_mem_singleton, TypeRef.isNull_canonical,
          TypeRef.isNull_eq_false hnull]
      · rw [hxs, joined, TypeExpr.asType, TypeRef.isLiteral_canonical, hliteral]
        rfl
  | @union members _ hnull hsize ih =>
      have hne : members ≠ [] := by
        rintro rfl
        simp at hsize
      obtain ⟨xs, hparts, hxs⟩ :=
        @exists_hasParts_renderMembers members ih [] (Or.inl hne)
      rw [List.reverse_nil, List.map_nil, List.nil_append] at hxs
      refine ⟨xs, ?_, rfl, ?_, ?_⟩
      · rw [hparts.text_eq, TypeRef.render]
      · rw [hxs]
        intro ref href
        obtain ⟨member, hmember, rfl⟩ := List.mem_map.mp href
        rw [TypeRef.isNull_canonical, TypeRef.isNull_eq_false (hnull member hmember)]
      · rw [hxs, joined_map_canonical hsize, TypeRef.canonical,
          TypeRef.canonicalList_eq_map]
  | null =>
      refine ⟨⟨nonePhrase, by decide, rfl⟩,
        ⟨nonePhrase.append nonePhrase, ?_, rfl⟩⟩
      exact text_append_none (show nonePhrase.text = "None".toList by decide)
  | @kernel ref _ ih =>
      obtain ⟨xs, htext, hnullable, hmembers, hjoined⟩ := ih
      refine ⟨⟨xs, htext, ?_⟩, ⟨xs.append nonePhrase, ?_, ?_⟩⟩
      · rw [Phrase.type, typeOfMembers_of_not_null hmembers, hjoined]
      · rw [TypeRef.render_optional hnullable, text_append_none htext]
      · rw [type_append_none, hjoined, TypeRef.canonical_optional hnullable]
  | @nullable ref _ ih =>
      obtain ⟨xs, htext, -, -, hjoined⟩ := ih
      have hshown : (xs.append nonePhrase).type = .nullable ref.canonical := by
        rw [type_append_none, hjoined]
      exact ⟨⟨_, text_append_none htext, hshown⟩,
        ⟨_, text_append_none htext, hshown⟩⟩
  | present _ ih => exact ih.1
  | optional _ ih => exact ih.2

end TypeExpr

/-- Two types of fields have the same annotation exactly if they differ only
in what annotations do not show. -/
theorem TypeRef.render_eq_render_iff {known₁ known₂ : List String}
    {raw₁ raw₂ model₁ model₂ : String} {field₁ field₂ : Option String}
    {t₁ t₂ : TypeRef} (hknown₁ : ∀ name ∈ known₁, isModelName name = true)
    (hknown₂ : ∀ name ∈ known₂, isModelName name = true)
    (ht₁ : TypeExpr.compileField raw₁ known₁ model₁ field₁ = .ok t₁)
    (ht₂ : TypeExpr.compileField raw₂ known₂ model₂ field₂ = .ok t₂) :
    t₁.render = t₂.render ↔ t₁.canonical = t₂.canonical := by
  constructor
  · intro hrender
    obtain ⟨xs, hxs, htype₁⟩ := (TypeExpr.normal_compileField ht₁).shown hknown₁
    obtain ⟨ys, hys, htype₂⟩ := (TypeExpr.normal_compileField ht₂).shown hknown₂
    have htext : xs.text ++ [] = ys.text ++ [] := by
      rw [hxs, hys, hrender]
    have hnil : TypeExpr.EndsPhrase [] := by
      intro c hc
      simp at hc
    obtain ⟨rfl, -⟩ := xs.text_append_inj ys hnil hnil htext
    rw [← htype₁, htype₂]
  · intro hcanonical
    rw [← t₁.render_canonical, hcanonical, t₂.render_canonical]

/-- An absent value and a null value have the same annotation. -/
theorem TypeRef.render_eq_render_iff_absent :
    (TypeRef.optional (.model "Issue")).render =
        (TypeRef.nullable (.model "Issue")).render ↔
      (TypeRef.optional (.model "Issue")).canonical =
        (TypeRef.nullable (.model "Issue")).canonical := by
  have habsent : TypeExpr.compile "?Issue" ["Issue"] =
      .ok (.optional (.model "Issue")) :=
    TypeExpr.compile_of_spaced (.mk true (.last (.term
      (.model "Issue" (by decide) (by decide) (by decide) (by decide)))))
      (Text.spaced_flatten [['?'], "Issue".toList])
  have hnull : TypeExpr.compile "Issue|null" ["Issue"] =
      .ok (.nullable (.model "Issue")) :=
    TypeExpr.compile_of_spaced (.mk false (.more (.term
      (.model "Issue" (by decide) (by decide) (by decide) (by decide)))
      (.last (.term (.primitive "null" .null (by decide))))))
      (Text.spaced_flatten ["Issue".toList, ['|'], "null".toList])
  have hmodel : ∀ name ∈ ["Issue"], isModelName name = true := by decide
  exact @TypeRef.render_eq_render_iff ["Issue"] ["Issue"] "?Issue" "Issue|null"
    "Issue" "Issue" none none _ _ hmodel hmodel
    (by rw [TypeExpr.compileField, habsent]) (by rw [TypeExpr.compileField, hnull])

end IntegrationBuild
