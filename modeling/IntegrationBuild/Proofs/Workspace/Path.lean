import IntegrationBuild.Workspace.Path

/-!
Plain paths: absolute ones whose parts name one thing each.  Going up, going
down by a name without dots and exchanging the last part lead from plain paths
to plain paths, and their parts depend on parts only.
-/

namespace IntegrationBuild.Path

/-- A part of a path that names one thing in a directory. -/
structure PlainPart (part : String) : Prop where
  ne_empty : part ≠ ""
  ne_dot : part ≠ "."
  ne_dots : part ≠ ".."
  no_slash : '/' ∉ part.toList

/-- An absolute path whose parts are plain. -/
structure Plain (path : Path) : Prop where
  absolute : path.isAbsolute = true
  parts : ∀ part ∈ path.parts, PlainPart part

instance (part : String) : Decidable (PlainPart part) :=
  decidable_of_iff (part ≠ "" ∧ part ≠ "." ∧ part ≠ ".." ∧ '/' ∉ part.toList)
    ⟨fun h => ⟨h.1, h.2.1, h.2.2.1, h.2.2.2⟩,
      fun h => ⟨h.ne_empty, h.ne_dot, h.ne_dots, h.no_slash⟩⟩

instance (path : Path) : Decidable path.Plain :=
  decidable_of_iff (path.isAbsolute = true ∧ ∀ part ∈ path.parts, PlainPart part)
    ⟨fun h => ⟨h.1, h.2⟩, fun h => ⟨h.absolute, h.parts⟩⟩

theorem Plain.ne_dots {path : Path} (hpath : path.Plain) :
    ∀ part ∈ path.parts, part ≠ ".." := fun part hpart =>
  (hpath.parts part hpart).ne_dots

theorem join_of_absolute {path : Path} (hpath : path.isAbsolute = true)
    (cwd : Path) : cwd.join path = path := by
  rw [join, if_pos hpath]

theorem normalParts_of_ne_dots {parts : List String}
    (hparts : ∀ part ∈ parts, part ≠ "..") : normalParts parts = parts := by
  have hfold : ∀ done : List String,
      parts.foldl (fun done part =>
        if part == ".." then done.dropLast else done ++ [part]) done =
        done ++ parts := by
    induction parts with
    | nil => simp
    | cons part rest ih =>
        intro done
        have hpart : (part == "..") = false := by
          simpa using hparts part List.mem_cons_self
        rw [List.foldl_cons, hpart,
          ih fun other hother => hparts other (List.mem_cons_of_mem part hother)]
        simp
  exact hfold []

theorem normalParts_concat (parts : List String) {part : String} (hpart : part ≠ "..") :
    normalParts (parts ++ [part]) = normalParts parts ++ [part] := by
  simp [normalParts, List.foldl_append, hpart]

theorem rootOf_of_head? {text : String} (htext : text.toList.head? ≠ some '/') :
    rootOf text = "" := by
  rw [rootOf]
  split
  · next h => simp [h] at htext
  · next h => simp [h] at htext
  · next h => simp [h] at htext
  · rfl

theorem PlainPart.head? {part : String} (hpart : PlainPart part) :
    ∃ c, part.toList.head? = some c ∧ c ≠ '/' := by
  obtain ⟨c, more, hc⟩ := List.exists_cons_of_ne_nil
    (show part.toList ≠ [] by simpa using hpart.ne_empty)
  refine ⟨c, by simp [hc], ?_⟩
  rintro rfl
  exact hpart.no_slash (by simp [hc])

/-- A plain part is read as itself. -/
theorem ofString_of_plainPart {part : String} (hpart : PlainPart part) :
    ofString part = { parts := [part] } := by
  obtain ⟨c, hc, hslash⟩ := hpart.head?
  rw [ofString, rootOf_of_head? (by simp [hc, hslash]), partsOf,
    Text.splitOn_of_not_mem hpart.no_slash]
  simp [hpart.ne_empty, hpart.ne_dot]

theorem toList_text {parts : List String} (hne : parts ≠ []) :
    (text { parts := parts }).toList = ['/'].intercalate (parts.map String.toList) := by
  have hnonempty : parts.isEmpty = false := by simpa using hne
  rw [text, hnonempty]
  simp [String.toList_intercalate]

/-- The text of a relative path is cut into the parts of the path. -/
theorem splitOn_text {parts : List String} (hparts : ∀ part ∈ parts, '/' ∉ part.toList)
    (hne : parts ≠ []) : Text.splitOn '/' (text { parts := parts }) = parts := by
  rw [Text.splitOn, toList_text hne, List.splitOn_intercalate]
  · simp
  · intro piece hpiece
    obtain ⟨part, hpart, rfl⟩ := List.mem_map.mp hpiece
    exact hparts part hpart
  · simpa using hne

/-- A relative path of plain parts is read back from its text. -/
theorem ofString_text {parts : List String} (hparts : ∀ part ∈ parts, PlainPart part)
    (hne : parts ≠ []) : ofString (text { parts := parts }) = { parts := parts } := by
  have htext := toList_text hne
  have hsplit : Text.splitOn '/' (text { parts := parts }) = parts :=
    splitOn_text (fun part hpart => (hparts part hpart).no_slash) hne
  have hroot : rootOf (text { parts := parts }) = "" := by
    obtain ⟨first, rest, rfl⟩ := List.exists_cons_of_ne_nil hne
    obtain ⟨c, hc, hslash⟩ := (hparts first List.mem_cons_self).head?
    apply rootOf_of_head?
    cases rest with
    | nil => simp [htext, hc, hslash]
    | cons next more => simp [htext, List.intercalate_cons_cons, hc, hslash]
  rw [ofString, hroot, partsOf, hsplit, List.filter_eq_self.mpr]
  intro part hpart
  simp [(hparts part hpart).ne_empty, (hparts part hpart).ne_dot]

theorem child_of_plainPart {part : String} (hpart : PlainPart part)
    (path : Path) : path.child part = { path with parts := path.parts ++ [part] } := by
  rw [child, ofString_of_plainPart hpart]
  rfl

theorem plain_child_of_plainPart {path : Path} {part : String}
    (hpath : path.Plain) (hpart : PlainPart part) : (path.child part).Plain := by
  rw [child_of_plainPart hpart]
  refine ⟨hpath.absolute, ?_⟩
  intro other hother
  rcases List.mem_append.mp hother with hold | hnew
  · exact hpath.parts other hold
  · obtain rfl : other = part := by simpa using hnew
    exact hpart

/-- The parts of a text without dots are plain. -/
theorem plainPart_of_mem_partsOf {text part : String} (htext : '.' ∉ text.toList)
    (hpart : part ∈ partsOf text) : PlainPart part := by
  obtain ⟨hpiece, hkept⟩ := List.mem_filter.mp hpart
  obtain ⟨hslash, hsubset⟩ := Text.of_mem_splitOn hpiece
  simp only [Bool.and_eq_true, bne_iff_ne] at hkept
  refine ⟨hkept.1, hkept.2, ?_, hslash⟩
  rintro rfl
  exact htext (hsubset (by decide))

theorem plain_child {path : Path} {text : String} (hpath : path.Plain)
    (htext : '.' ∉ text.toList) : (path.child text).Plain := by
  rw [child, join]
  split
  · next habsolute =>
    exact ⟨habsolute, fun part hpart => plainPart_of_mem_partsOf htext hpart⟩
  · refine ⟨hpath.absolute, ?_⟩
    intro part hpart
    rcases List.mem_append.mp hpart with hold | hnew
    · exact hpath.parts part hold
    · exact plainPart_of_mem_partsOf htext hnew

theorem plain_parent {path : Path} (hpath : path.Plain) : path.parent.Plain :=
  ⟨hpath.absolute, fun part hpart =>
    hpath.parts part ((List.dropLast_sublist _).subset hpart)⟩

/-- What has a name does not lie on the way to where it is. -/
theorem not_prefix_parent {path : Path} {directory : List String} {part : String}
    (hparts : path.parts = directory ++ [part]) : ¬path.parts <+: path.parent.parts := by
  intro hprefix
  have hparent : path.parent.parts = directory := by simp [parent, hparts]
  have hlength := hprefix.length_le
  rw [hparent, hparts, List.length_append, List.length_singleton] at hlength
  exact Nat.not_succ_le_self _ hlength

theorem plain_withName {path : Path} {name : String} (hpath : path.Plain)
    (hname : PlainPart name) : (path.withName name).Plain := by
  refine ⟨hpath.absolute, ?_⟩
  intro part hpart
  rcases List.mem_append.mp hpart with hold | hnew
  · exact hpath.parts part ((List.dropLast_sublist _).subset hold)
  · obtain rfl : part = name := by simpa using hnew
    exact hname

theorem ne_of_getLast? {text : String} {last : Char}
    (hlast : text.toList.getLast? = some last) (hdot : last ≠ '.') :
    text ≠ "" ∧ text ≠ "." ∧ text ≠ ".." := by
  refine ⟨?_, ?_, ?_⟩
  · rintro rfl
    simp at hlast
  · rintro rfl
    exact hdot (Option.some.inj hlast).symm
  · rintro rfl
    exact hdot (Option.some.inj hlast).symm

/-- A name with a suffix that ends in a letter is plain. -/
theorem plainPart_append {name suffix : String} {last : Char}
    (hname : '/' ∉ name.toList) (hsuffix : '/' ∉ suffix.toList)
    (hlast : suffix.toList.getLast? = some last) (hdot : last ≠ '.') :
    PlainPart (name ++ suffix) := by
  have hends : (name ++ suffix).toList.getLast? = some last := by
    rw [String.toList_append, List.getLast?_append, hlast]
    rfl
  obtain ⟨hempty, hone, htwo⟩ := ne_of_getLast? hends hdot
  refine ⟨hempty, hone, htwo, ?_⟩
  rw [String.toList_append, List.mem_append, not_or]
  exact ⟨hname, hsuffix⟩

theorem Plain.append {path : Path} {more : List String} (hpath : path.Plain)
    (hmore : ∀ part ∈ more, PlainPart part) :
    Plain { path with parts := path.parts ++ more } :=
  ⟨hpath.absolute, List.forall_mem_append.mpr ⟨hpath.parts, hmore⟩⟩

/-- What a plain path begins with is plain. -/
theorem Plain.of_append {path base : Path} {rest : List String} (hpath : path.Plain)
    (hroot : path.root = base.root) (hparts : path.parts = base.parts ++ rest) :
    base.Plain := by
  constructor
  · rw [isAbsolute, ← hroot]
    exact hpath.absolute
  · intro part hpart
    apply hpath.parts
    rw [hparts]
    exact List.mem_append_left rest hpart

theorem Plain.name_no_slash {path : Path} (hpath : path.Plain) :
    '/' ∉ path.name.toList := by
  rw [name]
  cases hlast : path.parts.getLast? with
  | none => simp
  | some part =>
      exact (hpath.parts part (List.mem_of_getLast? hlast)).no_slash

theorem exists_parts_of_relativeTo? {path base relative : Path}
    (hrelative : path.relativeTo? base = some relative) :
    ∃ rest, path.parts = base.parts ++ rest ∧ relative = { parts := rest } := by
  rw [relativeTo?] at hrelative
  split at hrelative
  · next hprefix =>
    simp only [Bool.and_eq_true, List.isPrefixOf_iff_prefix] at hprefix
    obtain ⟨rest, hrest⟩ := hprefix.2
    refine ⟨rest, hrest.symm, ?_⟩
    rw [← Option.some.inj hrelative, ← hrest, List.drop_left]
  · cases hrelative

theorem root_eq_of_relativeTo? {path base relative : Path}
    (hrelative : path.relativeTo? base = some relative) : path.root = base.root := by
  rw [relativeTo?] at hrelative
  split at hrelative
  · next hprefix =>
    simp only [Bool.and_eq_true, beq_iff_eq] at hprefix
    exact hprefix.1
  · cases hrelative

theorem eq_drop_of_relativeTo? {path base relative : Path}
    (hrelative : path.relativeTo? base = some relative) :
    relative = { parts := path.parts.drop base.parts.length } := by
  obtain ⟨rest, hrest, rfl⟩ := exists_parts_of_relativeTo? hrelative
  rw [hrest, List.drop_left]

section SameParts

variable {p q : Path}

theorem child_parts_congr (hparts : p.parts = q.parts) (text : String) :
    (p.child text).parts = (q.child text).parts := by
  rw [child, child, join, join]
  split
  · rfl
  · exact congrArg (· ++ (ofString text).parts) hparts

theorem parent_parts_congr (hparts : p.parts = q.parts) :
    p.parent.parts = q.parent.parts :=
  congrArg List.dropLast hparts

theorem withName_parts_congr (hparts : p.parts = q.parts) (name : String) :
    (p.withName name).parts = (q.withName name).parts := by
  simp only [withName, hparts]

theorem name_congr (hparts : p.parts = q.parts) : p.name = q.name := by
  rw [name, hparts, name]

end SameParts

end IntegrationBuild.Path
