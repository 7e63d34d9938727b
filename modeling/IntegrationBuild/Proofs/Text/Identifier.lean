import IntegrationBuild.Proofs.Text.Spacing

/-!
The characters of identifiers of any script.  They are no blanks, the ASCII
characters among them are letters, digits and underscores, and those that may
begin an identifier may stand anywhere in it, but are no digits.
-/

namespace IntegrationBuild.Text

/-- A character that may stand somewhere in an identifier. -/
def IdentifierChar (c : Char) : Prop :=
  isIdentifierStart c = true ∨ isIdentifierContinue c = true

theorem identifierChar_of_isIdentifierChars {word : List Char}
    (hword : isIdentifierChars word = true) : ∀ c ∈ word, IdentifierChar c := by
  cases word with
  | nil => simp
  | cons first rest =>
      simp only [isIdentifierChars, Bool.and_eq_true, List.all_eq_true] at hword
      intro c hc
      rcases List.mem_cons.mp hc with rfl | hrest
      · exact Or.inl hword.1
      · exact Or.inr (hword.2 c hrest)

theorem ne_nil_of_isIdentifierChars {word : List Char}
    (hword : isIdentifierChars word = true) : word ≠ [] := by
  rintro rfl
  simp [isIdentifierChars] at hword

theorem IdentifierChar.wordChar {c : Char} (hc : IdentifierChar c)
    (hascii : c.toNat < 128) : WordChar c := by
  rw [IdentifierChar, isIdentifierStart, isIdentifierContinue, if_pos hascii,
    if_pos hascii] at hc
  rcases hc with hstart | hcontinue
  · rw [Bool.or_eq_true] at hstart
    rw [WordChar, Bool.or_eq_true, Char.isAlphanum, Bool.or_eq_true]
    exact hstart.imp_left Or.inl
  · exact hcontinue

/-- The codes of the blanks that are not ASCII. -/
def wideBlanks : List Nat :=
  [0x85, 0xa0, 0x1680] ++ List.range' 0x2000 11 ++
    [0x2028, 0x2029, 0x202f, 0x205f, 0x3000]

theorem mem_wideBlanks {c : Char} (hc : isBlank c = true)
    (hwide : ¬c.toNat < 128) : c.toNat ∈ wideBlanks := by
  simp only [isBlank, Bool.or_eq_true, Bool.and_eq_true, decide_eq_true_eq,
    beq_iff_eq] at hc
  simp only [wideBlanks, List.mem_append, List.mem_cons, List.not_mem_nil,
    or_false, List.mem_range'_1]
  omega

theorem not_inRanges_wideBlanks : ∀ n ∈ wideBlanks,
    inRanges identifierStartRanges n = false ∧
      inRanges identifierContinueRanges n = false := by
  decide +kernel

/-- No blank stands in an identifier. -/
theorem IdentifierChar.not_isBlank {c : Char} (hc : IdentifierChar c) :
    isBlank c = false := by
  by_cases hascii : c.toNat < 128
  · exact (hc.wordChar hascii).not_isBlank
  · cases hblank : isBlank c with
    | false => rfl
    | true =>
      obtain ⟨hstart, hcontinue⟩ :=
        not_inRanges_wideBlanks _ (mem_wideBlanks hblank hascii)
      rw [IdentifierChar, isIdentifierStart, isIdentifierContinue,
        if_neg hascii, if_neg hascii, hstart, hcontinue] at hc
      simp at hc

/-- Of the ASCII characters, no other than a word character stands in an
identifier. -/
theorem IdentifierChar.ne {c d : Char} (hc : IdentifierChar c)
    (hascii : d.toNat < 128) (hd : ¬WordChar d) : c ≠ d := by
  rintro rfl
  exact hd (hc.wordChar hascii)

/-- An identifier is a token. -/
theorem solid_of_isIdentifierChars {word : List Char}
    (hword : isIdentifierChars word = true) : Solid word := by
  have hne := ne_nil_of_isIdentifierChars hword
  have hchars := identifierChar_of_isIdentifierChars hword
  exact ⟨⟨word.head hne, List.head?_eq_some_head hne,
      (hchars _ (List.head_mem hne)).not_isBlank⟩,
    ⟨word.getLast hne, List.getLast?_eq_some_getLast hne,
      (hchars _ (List.getLast_mem hne)).not_isBlank⟩⟩

/-- Whether each of the inner ranges lies in one of the outer ones, where both
are in order. -/
def rangesCover : List (Nat × Nat) → List (Nat × Nat) → Bool
  | [], inner => inner.isEmpty
  | q :: outer, inner =>
    rangesCover outer (inner.dropWhile fun r => q.1 ≤ r.1 && r.2 ≤ q.2)

theorem inRanges_of_rangesCover {outer inner : List (Nat × Nat)} {n : Nat}
    (hcover : rangesCover outer inner = true) (hn : inRanges inner n = true) :
    inRanges outer n = true := by
  induction outer generalizing inner with
  | nil =>
      rw [rangesCover, List.isEmpty_iff] at hcover
      rw [hcover] at hn
      exact hn
  | cons q outer ih =>
      rw [inRanges, List.any_cons, Bool.or_eq_true]
      rw [← List.takeWhile_append_dropWhile
        (p := fun r : Nat × Nat => decide (q.1 ≤ r.1) && decide (r.2 ≤ q.2)) (l := inner),
        inRanges, List.any_append, Bool.or_eq_true] at hn
      rcases hn with hwithin | hrest
      · obtain ⟨r, hr, hin⟩ := List.any_eq_true.mp hwithin
        have hr' := List.mem_takeWhile_imp hr
        simp only [Bool.and_eq_true, decide_eq_true_eq] at hin hr' ⊢
        exact Or.inl ⟨by omega, by omega⟩
      · exact Or.inr (ih hcover hrest)

theorem isIdentifierContinue_of_isIdentifierStart {c : Char}
    (hc : isIdentifierStart c = true) : isIdentifierContinue c = true := by
  by_cases hascii : c.toNat < 128
  · rw [isIdentifierStart, if_pos hascii, Bool.or_eq_true] at hc
    rw [isIdentifierContinue, if_pos hascii, Bool.or_eq_true, Char.isAlphanum,
      Bool.or_eq_true]
    exact hc.imp_left Or.inl
  · rw [isIdentifierStart, if_neg hascii] at hc
    rw [isIdentifierContinue, if_neg hascii]
    exact inRanges_of_rangesCover (by decide +kernel) hc

theorem ne_of_isIdentifierStart {c d : Char} (hc : isIdentifierStart c = true)
    (hd : isIdentifierStart d = false) : c ≠ d := by
  rintro rfl
  rw [hd] at hc
  cases hc

theorem isDigit_of_isIdentifierStart {c : Char} (hc : isIdentifierStart c = true) :
    c.isDigit = false := by
  rw [Bool.eq_false_iff]
  intro hdigit
  simp only [Char.isDigit, Bool.and_eq_true, decide_eq_true_eq, ge_iff_le,
    UInt32.le_iff_toNat_le] at hdigit
  have hcode : c.toNat < 128 := by
    change c.val.toNat < 128
    exact Nat.lt_of_le_of_lt hdigit.2 (by decide)
  rw [isIdentifierStart, if_pos hcode] at hc
  have hunder : c ≠ '_' := by
    rintro rfl
    exact absurd hdigit.2 (by decide)
  unfold Char.isAlpha Char.isUpper Char.isLower at hc
  simp only [Bool.or_eq_true, Bool.and_eq_true, decide_eq_true_eq, ge_iff_le,
    UInt32.le_iff_toNat_le, beq_iff_eq, hunder, or_false] at hc
  simp at hc hdigit
  omega

end IntegrationBuild.Text
