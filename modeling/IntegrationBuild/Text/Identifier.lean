import IntegrationBuild.Text.IdentifierTable

/-!
Identifiers: an underscore or a letter of any script, then letters, digits,
underscores and combining marks.  ASCII characters are decided directly, the
others by range tables.
-/

namespace IntegrationBuild.Text

/-- Whether a code point lies in one of the ranges. -/
def inRanges (ranges : List (Nat × Nat)) (n : Nat) : Bool :=
  ranges.any fun r => r.1 ≤ n && n ≤ r.2

/-- Whether `c` may begin an identifier. -/
def isIdentifierStart (c : Char) : Bool :=
  if c.toNat < 128 then c.isAlpha || c == '_'
  else inRanges identifierStartRanges c.toNat

/-- Whether `c` may stand in an identifier after its first character. -/
def isIdentifierContinue (c : Char) : Bool :=
  if c.toNat < 128 then c.isAlphanum || c == '_'
  else inRanges identifierContinueRanges c.toNat

/-- Whether the whole text is one identifier. -/
def isIdentifierChars : List Char → Bool
  | [] => false
  | c :: rest => isIdentifierStart c && rest.all isIdentifierContinue

/-- Whether the whole string is one identifier. -/
def isIdentifier (s : String) : Bool :=
  isIdentifierChars s.toList

/-- Whether the whole text is an identifier of ASCII letters, digits and
underscores. -/
def isAsciiIdentifier : List Char → Bool
  | [] => false
  | c :: rest =>
    (c.isAlpha || c == '_') && rest.all fun d => d.isAlphanum || d == '_'

/-- An ASCII identifier is an identifier. -/
theorem isIdentifierChars_of_isAsciiIdentifier {s : List Char}
    (h : isAsciiIdentifier s = true) : isIdentifierChars s = true := by
  have ascii : ∀ c : Char, (c.isAlphanum || c == '_') = true → c.toNat < 128 := by
    intro c hc
    delta Char.isAlphanum Char.isAlpha Char.isUpper Char.isLower Char.isDigit at hc
    simp at hc
    have : ∀ k : UInt32, c.val ≤ k → c.toNat ≤ k.toNat := fun k hk => hk
    rcases hc with (((⟨_, hu⟩ | ⟨_, hu⟩) | ⟨_, hu⟩) | rfl)
    · exact Nat.lt_of_le_of_lt (this _ hu) (by decide)
    · exact Nat.lt_of_le_of_lt (this _ hu) (by decide)
    · exact Nat.lt_of_le_of_lt (this _ hu) (by decide)
    · decide
  cases s with
  | nil => exact h
  | cons c rest =>
    simp only [isAsciiIdentifier, Bool.and_eq_true, List.all_eq_true] at h
    simp only [isIdentifierChars, Bool.and_eq_true, List.all_eq_true]
    refine ⟨?_, fun d hd => ?_⟩
    · have hc : c.toNat < 128 := ascii c (by
        have := h.1
        simp only [Bool.or_eq_true] at this ⊢
        rcases this with ha | hu
        · exact Or.inl (by simp [Char.isAlphanum, ha])
        · exact Or.inr hu)
      simp [isIdentifierStart, hc, h.1]
    · simp [isIdentifierContinue, ascii d (h.2 d hd), h.2 d hd]

end IntegrationBuild.Text
