import Mathlib.Data.List.DropRight
import IntegrationBuild.Text.Blank
import IntegrationBuild.Text.Identifier

/-!
Tokens with blanks placed around them.  Trimming takes away the blanks outside
the first and the last token and nothing else, as long as no token begins or
ends with a blank.
-/

namespace IntegrationBuild.Text

/-- What all characters of a text have in common is decided along the text, not
over all characters there are. -/
instance (priority := 2000) decidableForallMem {text : List Char} {p : Char → Prop}
    [DecidablePred p] : Decidable (∀ c ∈ text, p c) :=
  List.decidableBAll p text

/-- A text of blanks only. -/
def Blank (s : List Char) : Prop :=
  ∀ c ∈ s, isBlank c = true

instance : DecidablePred Blank := fun s =>
  decidable_of_iff (s.all isBlank = true) List.all_eq_true

theorem blank_nil : Blank [] := by
  intro c hc
  simp at hc

theorem Blank.append {s t : List Char} (hs : Blank s) (ht : Blank t) :
    Blank (s ++ t) := by
  intro c hc
  rcases List.mem_append.mp hc with hmem | hmem
  · exact hs c hmem
  · exact ht c hmem

/-- A token: it has a first and a last character, and neither is blank. -/
structure Solid (token : List Char) : Prop where
  head : ∃ c, token.head? = some c ∧ isBlank c = false
  last : ∃ c, token.getLast? = some c ∧ isBlank c = false

theorem solid_singleton {c : Char} (hc : isBlank c = false) : Solid [c] :=
  ⟨⟨c, rfl, hc⟩, ⟨c, rfl, hc⟩⟩

/-- A character of an ASCII identifier. -/
def WordChar (c : Char) : Prop :=
  (c.isAlphanum || c == '_') = true

instance : DecidablePred WordChar := fun c =>
  inferInstanceAs (Decidable ((c.isAlphanum || c == '_') = true))

theorem WordChar.toNat_mem {c : Char} (hc : WordChar c) :
    48 ≤ c.toNat ∧ c.toNat ≤ 122 := by
  unfold WordChar Char.isAlphanum Char.isAlpha Char.isUpper Char.isLower
    Char.isDigit at hc
  simp only [Bool.or_eq_true, Bool.and_eq_true, decide_eq_true_eq,
    beq_iff_eq, ge_iff_le, UInt32.le_iff_toNat_le, Char.toNat_val,
    Char.reduceToNat] at hc
  rcases hc with ((hc | hc) | hc) | rfl
  · omega
  · omega
  · omega
  · decide

theorem WordChar.not_isBlank {c : Char} (hc : WordChar c) :
    isBlank c = false := by
  have hrange := hc.toNat_mem
  simp only [isBlank, Bool.or_eq_false_iff, Bool.and_eq_false_iff,
    decide_eq_false_iff_not, beq_eq_false_iff_ne]
  omega

theorem WordChar.ne {c d : Char} (hc : WordChar c)
    (hd : (d.isAlphanum || d == '_') = false) : c ≠ d := by
  rintro rfl
  rw [WordChar, hd] at hc
  simp at hc

theorem wordChar_of_isAsciiIdentifier {word : List Char}
    (hword : isAsciiIdentifier word = true) : ∀ c ∈ word, WordChar c := by
  cases word with
  | nil => simp
  | cons first rest =>
      simp only [isAsciiIdentifier, Bool.and_eq_true, List.all_eq_true] at hword
      intro c hc
      rcases List.mem_cons.mp hc with rfl | hrest
      · have hfirst := hword.1
        simp only [WordChar, Char.isAlphanum, Bool.or_eq_true] at hfirst ⊢
        exact hfirst.imp_left Or.inl
      · exact hword.2 c hrest

theorem ne_nil_of_isAsciiIdentifier {word : List Char}
    (hword : isAsciiIdentifier word = true) : word ≠ [] := by
  rintro rfl
  simp [isAsciiIdentifier] at hword

/-- A word is a token. -/
theorem solid_of_isAsciiIdentifier {word : List Char}
    (hword : isAsciiIdentifier word = true) : Solid word := by
  have hne := ne_nil_of_isAsciiIdentifier hword
  have hchars := wordChar_of_isAsciiIdentifier hword
  exact ⟨⟨word.head hne, List.head?_eq_some_head hne,
      (hchars _ (List.head_mem hne)).not_isBlank⟩,
    ⟨word.getLast hne, List.getLast?_eq_some_getLast hne,
      (hchars _ (List.getLast_mem hne)).not_isBlank⟩⟩

theorem trimLeft_of_blank {s : List Char} (hs : Blank s) : trimLeft s = [] := by
  rw [trimLeft, List.dropWhile_eq_nil_iff]
  exact hs

theorem trimLeft_blank_append {blanks : List Char} (hblanks : Blank blanks)
    (s : List Char) : trimLeft (blanks ++ s) = trimLeft s := by
  have hnil : blanks.dropWhile isBlank = [] := trimLeft_of_blank hblanks
  rw [trimLeft, List.dropWhile_append, hnil]
  rfl

theorem trimLeft_of_head {s : List Char} {c : Char} (hhead : s.head? = some c)
    (hc : isBlank c = false) : trimLeft s = s := by
  cases s with
  | nil => simp at hhead
  | cons d rest =>
      obtain rfl : d = c := by simpa using hhead
      simp [trimLeft, hc]

theorem trimRight_append_blank (s : List Char) {blanks : List Char}
    (hblanks : Blank blanks) : trimRight (s ++ blanks) = trimRight s := by
  have hreverse : Blank blanks.reverse := fun c hc =>
    hblanks c (List.mem_reverse.mp hc)
  have hdrop := trimLeft_blank_append hreverse s.reverse
  rw [trimLeft, trimLeft] at hdrop
  rw [trimRight, trimRight, List.reverse_append, hdrop]

theorem trimRight_of_blank {s : List Char} (hs : Blank s) : trimRight s = [] := by
  have hnil := trimRight_append_blank [] hs
  simpa [trimRight] using hnil

/-- What stands before a token is not touched by trimming after it. -/
theorem trimRight_append_token (s : List Char) {token : List Char}
    (htoken : Solid token) (t : List Char) :
    trimRight (s ++ token ++ t) = s ++ token ++ trimRight t := by
  obtain ⟨c, hlast, hc⟩ := htoken.last
  have hreverse : token.reverse.head? = some c := by
    rw [List.head?_reverse, hlast]
  obtain ⟨others, hothers⟩ : ∃ others, token.reverse = c :: others := by
    cases htoken : token.reverse with
    | nil => simp [htoken] at hreverse
    | cons d others =>
        rw [htoken] at hreverse
        obtain rfl : d = c := by simpa using hreverse
        exact ⟨others, rfl⟩
  have htokenEq : token = others.reverse ++ [c] := by
    simpa using congrArg List.reverse hothers
  rw [trimRight, trimRight, List.reverse_append, List.dropWhile_append]
  split
  · next hempty =>
    rw [List.isEmpty_iff] at hempty
    rw [hempty, htokenEq]
    simp [hc]
  · simp

/-- What stands after a token is not touched by trimming before it. -/
theorem trimLeft_append_token (s : List Char) {token : List Char}
    (htoken : Solid token) (t : List Char) :
    trimLeft (s ++ token ++ t) = trimLeft s ++ token ++ t := by
  obtain ⟨c, hhead, hc⟩ := htoken.head
  have hright : trimLeft (token ++ t) = token ++ t := by
    apply trimLeft_of_head (c := c) _ hc
    rw [List.head?_append, hhead, Option.some_or]
  rw [trimLeft] at hright
  rw [List.append_assoc, trimLeft, List.dropWhile_append, hright, trimLeft]
  split
  · next hempty =>
    rw [List.isEmpty_iff] at hempty
    rw [hempty, List.nil_append]
  · rw [List.append_assoc]

/-- Only what stands outside a token is trimmed. -/
theorem trim_append_token (s : List Char) {token : List Char}
    (htoken : Solid token) (t : List Char) :
    trim (s ++ token ++ t) = trimLeft s ++ token ++ trimRight t := by
  rw [trim, trimLeft_append_token s htoken, trimRight_append_token _ htoken]

theorem trimLeft_trimLeft (s : List Char) : trimLeft (trimLeft s) = trimLeft s := by
  rw [trimLeft, trimLeft, List.dropWhile_idempotent]

theorem trim_trimLeft (s : List Char) : trim (trimLeft s) = trim s := by
  rw [trim, trimLeft_trimLeft, trim]

theorem trimRight_trimRight (s : List Char) :
    trimRight (trimRight s) = trimRight s := by
  rw [trimRight, trimRight, List.reverse_reverse, List.dropWhile_idempotent]

theorem trimLeft_trim (s : List Char) : trimLeft (trim s) = trim s := by
  rw [trim]
  cases hleft : trimLeft s with
  | nil => rfl
  | cons c rest =>
      have hc : isBlank c = false := by
        have hhead := List.head?_dropWhile_not isBlank s
        rw [trimLeft] at hleft
        simpa [hleft] using hhead
      have hright : trimRight (c :: rest) = c :: trimRight rest :=
        trimRight_append_token [] (solid_singleton hc) rest
      rw [hright]
      exact trimLeft_of_head rfl hc

theorem trim_trim (s : List Char) : trim (trim s) = trim s := by
  rw [trim, trimLeft_trim, trim, trimRight_trimRight]

/-- Blanks around a text that neither begins nor ends with one. -/
theorem trim_blank_append_blank {before after : List Char}
    (hbefore : Blank before) (hafter : Blank after) {s : List Char}
    (hs : Solid s) : trim (before ++ s ++ after) = s := by
  rw [trim_append_token before hs, trimLeft_of_blank hbefore,
    trimRight_of_blank hafter, List.nil_append, List.append_nil]

theorem exists_trimLeft (s : List Char) :
    ∃ before, Blank before ∧ s = before ++ trimLeft s :=
  ⟨s.takeWhile isBlank, fun _ hc => List.mem_takeWhile_imp hc,
    List.takeWhile_append_dropWhile.symm⟩

theorem exists_trimRight (s : List Char) :
    ∃ after, Blank after ∧ s = trimRight s ++ after := by
  obtain ⟨before, hbefore, hs⟩ := exists_trimLeft s.reverse
  refine ⟨before.reverse, fun c hc => hbefore c (List.mem_reverse.mp hc), ?_⟩
  rw [trimRight, ← trimLeft, ← List.reverse_append, ← hs, List.reverse_reverse]

/-- A text is what trimming leaves of it, with blanks around. -/
theorem exists_trim (s : List Char) :
    ∃ before after, Blank before ∧ Blank after ∧
      s = before ++ trim s ++ after := by
  obtain ⟨before, hbefore, hleft⟩ := exists_trimLeft s
  obtain ⟨after, hafter, hright⟩ := exists_trimRight (trimLeft s)
  refine ⟨before, after, hbefore, hafter, ?_⟩
  rw [List.append_assoc, trim, ← hright, ← hleft]

theorem Solid.trim_eq {token : List Char} (htoken : Solid token) :
    trim token = token := by
  simpa using trim_blank_append_blank blank_nil blank_nil htoken

theorem Solid.trimRight_eq {token : List Char} (htoken : Solid token) :
    trimRight token = token := by
  simpa [trimRight_of_blank blank_nil] using trimRight_append_token [] htoken []

/-- A text made of tokens with blanks before, between and after them. -/
inductive Spaced : List (List Char) → List Char → Prop
  | nil {blanks : List Char} (hblanks : Blank blanks) : Spaced [] blanks
  | cons {blanks token : List Char} {tokens : List (List Char)}
      {text : List Char} (hblanks : Blank blanks) (hrest : Spaced tokens text) :
      Spaced (token :: tokens) (blanks ++ token ++ text)

/-- Tokens may stand without any blanks. -/
theorem spaced_flatten (tokens : List (List Char)) :
    Spaced tokens tokens.flatten := by
  induction tokens with
  | nil => exact .nil blank_nil
  | cons token rest ih => exact @Spaced.cons [] token rest _ blank_nil ih

theorem Spaced.append_blank {tokens : List (List Char)} {text blanks : List Char}
    (htext : Spaced tokens text) (hblanks : Blank blanks) :
    Spaced tokens (text ++ blanks) := by
  induction htext with
  | nil htext => exact .nil (htext.append hblanks)
  | cons hbefore _ ih =>
      rw [List.append_assoc]
      exact .cons hbefore ih

theorem Spaced.blank_append {tokens : List (List Char)} {text blanks : List Char}
    (htext : Spaced tokens text) (hblanks : Blank blanks) :
    Spaced tokens (blanks ++ text) := by
  cases htext with
  | nil htext => exact .nil (hblanks.append htext)
  | cons hbefore hrest =>
      rw [List.append_assoc, ← List.append_assoc, ← List.append_assoc]
      exact .cons (hblanks.append hbefore) hrest

theorem Spaced.append {first second : List (List Char)} {s t : List Char}
    (hs : Spaced first s) (ht : Spaced second t) :
    Spaced (first ++ second) (s ++ t) := by
  induction hs with
  | nil hs => exact ht.blank_append hs
  | cons hbefore _ ih =>
      rw [List.append_assoc]
      exact .cons hbefore ih

theorem Spaced.append_cons {first second : List (List Char)}
    {s token t : List Char} (hs : Spaced first s) (ht : Spaced second t) :
    Spaced (first ++ token :: second) (s ++ token ++ t) := by
  rw [List.append_assoc]
  exact hs.append (.cons blank_nil ht)

theorem spaced_singleton (token : List Char) : Spaced [token] token := by
  simpa using spaced_flatten [token]

/-- The tokens of a trimmed text are the tokens of the text. -/
theorem Spaced.of_trim {tokens : List (List Char)} {text : List Char}
    (htext : Spaced tokens (Text.trim text)) : Spaced tokens text := by
  obtain ⟨before, after, hbefore, hafter, heq⟩ := exists_trim text
  rw [heq]
  exact (htext.blank_append hbefore).append_blank hafter

/-- The text of two lists of tokens is the text of one and then the other. -/
theorem Spaced.of_append {first second : List (List Char)} {text : List Char}
    (htext : Spaced (first ++ second) text) :
    ∃ s t, text = s ++ t ∧ Spaced first s ∧ Spaced second t := by
  induction first generalizing text with
  | nil => exact ⟨[], text, rfl, .nil blank_nil, htext⟩
  | cons token rest ih =>
      cases htext with
      | @cons before _ _ text hbefore hrest =>
          obtain ⟨s, t, rfl, hs, ht⟩ := ih hrest
          exact ⟨before ++ token ++ s, t, by simp, .cons hbefore hs, ht⟩

theorem Spaced.of_concat {tokens : List (List Char)} {token text : List Char}
    (htext : Spaced (tokens ++ [token]) text) :
    ∃ s blanks, text = s ++ token ++ blanks ∧ Spaced tokens s ∧
      Blank blanks := by
  obtain ⟨s, t, rfl, hs, ht⟩ := htext.of_append
  cases ht with
  | @cons before _ _ after hbefore hafter =>
      cases hafter with
      | nil hafter =>
          exact ⟨s ++ before, after, by simp, hs.append_blank hbefore, hafter⟩

/-- Two texts with a token between them. -/
theorem Spaced.of_append_cons {first second : List (List Char)}
    {token text : List Char} (htext : Spaced (first ++ token :: second) text) :
    ∃ s t, text = s ++ token ++ t ∧ Spaced first s ∧ Spaced second t := by
  obtain ⟨s, t, rfl, hs, ht⟩ := htext.of_append
  cases ht with
  | @cons before _ _ after hbefore hafter =>
      exact ⟨s ++ before, after, by simp, hs.append_blank hbefore, hafter⟩

theorem Spaced.trimRight {tokens : List (List Char)} {text : List Char}
    (hsolid : ∀ token ∈ tokens, Solid token) (htext : Spaced tokens text) :
    Spaced tokens (trimRight text) := by
  induction htext with
  | nil htext =>
      rw [trimRight_of_blank htext]
      exact .nil blank_nil
  | @cons before token rest text hbefore _ ih =>
      rw [trimRight_append_token before (hsolid token List.mem_cons_self)]
      exact .cons hbefore
        (ih fun other hother => hsolid other (List.mem_cons_of_mem _ hother))

theorem Spaced.trimLeft {tokens : List (List Char)} {text : List Char}
    (hsolid : ∀ token ∈ tokens, Solid token) (htext : Spaced tokens text) :
    Spaced tokens (trimLeft text) := by
  cases htext with
  | nil htext =>
      rw [trimLeft_of_blank htext]
      exact .nil blank_nil
  | @cons before token rest text hbefore hrest =>
      rw [trimLeft_append_token before (hsolid token List.mem_cons_self),
        trimLeft_of_blank hbefore]
      exact Spaced.cons blank_nil hrest

/-- Trimming leaves a text of the same tokens. -/
theorem Spaced.trim {tokens : List (List Char)} {text : List Char}
    (hsolid : ∀ token ∈ tokens, Solid token) (htext : Spaced tokens text) :
    Spaced tokens (trim text) :=
  Spaced.trimRight hsolid (Spaced.trimLeft hsolid htext)

/-- Trimmed, the text of one token is the token. -/
theorem Spaced.trim_singleton {token text : List Char} (htoken : Solid token)
    (htext : Spaced [token] text) : Text.trim text = token := by
  cases htext with
  | cons hbefore hafter =>
      cases hafter with
      | nil hafter => exact trim_blank_append_blank hbefore hafter htoken

/-- Trimmed, a text begins as its first token does. -/
theorem Spaced.head?_trim {token : List Char} {tokens : List (List Char)}
    {text : List Char} (htoken : Solid token)
    (htext : Spaced (token :: tokens) text) :
    (Text.trim text).head? = token.head? := by
  cases htext with
  | @cons before _ _ text hbefore hrest =>
      obtain ⟨c, hhead, -⟩ := htoken.head
      rw [trim_append_token before htoken, trimLeft_of_blank hbefore,
        List.nil_append, List.head?_append, hhead, Option.some_or]

/-- Trimmed at the end, a text ends as its last token does. -/
theorem Spaced.getLast?_trimRight {token : List Char}
    {tokens : List (List Char)} {text : List Char} (htoken : Solid token)
    (htext : Spaced (tokens ++ [token]) text) :
    (Text.trimRight text).getLast? = token.getLast? := by
  obtain ⟨s, blanks, rfl, -, hblanks⟩ := htext.of_concat
  obtain ⟨c, hlast, -⟩ := htoken.last
  rw [trimRight_append_token s htoken, trimRight_of_blank hblanks,
    List.append_nil, List.getLast?_append, hlast, Option.some_or]

end IntegrationBuild.Text
