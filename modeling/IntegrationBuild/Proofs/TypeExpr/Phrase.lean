import IntegrationBuild.Proofs.Text.Quoted
import IntegrationBuild.Proofs.Text.Spacing

/-!
Annotations as phrases.  A phrase is a list of atoms with bars between
them; an atom is a word, alone or with brackets behind it.  The text of a
phrase can be read in one way only, whatever its literals contain.
-/

namespace IntegrationBuild.TypeExpr

open Text

mutual

/-- Atoms with bars between them. -/
inductive Phrase where
  | last (atom : Atom)
  | more (atom : Atom) (rest : Phrase)

/-- A word, an array, a record or a run of literals. -/
inductive Atom where
  | name (word : List Char) (hword : isAsciiIdentifier word = true)
  | list (item : Phrase)
  | dict (key value : Phrase)
  | literals (first : String) (rest : List String)

end

/-- Quoted texts with commas between them. -/
def literalsText : String → List String → List Char
  | first, [] => quotedChars first.toList
  | first, second :: rest =>
    quotedChars first.toList ++ [',', ' '] ++ literalsText second rest

/-- The word an atom begins with. -/
def Atom.word : Atom → List Char
  | .name word _ => word
  | .list _ => "list".toList
  | .dict _ _ => "dict".toList
  | .literals _ _ => "Literal".toList

-- `rfl` on its own would decode the texts on the right
@[simp] theorem Atom.word_name (word : List Char) (hword : isAsciiIdentifier word = true) :
    (Atom.name word hword).word = word := by
  delta Atom.word
  rfl

@[simp] theorem Atom.word_list (item : Phrase) : (Atom.list item).word = "list".toList := by
  delta Atom.word
  rfl

@[simp] theorem Atom.word_dict (key value : Phrase) :
    (Atom.dict key value).word = "dict".toList := by
  delta Atom.word
  rfl

@[simp] theorem Atom.word_literals (first : String) (rest : List String) :
    (Atom.literals first rest).word = "Literal".toList := by
  delta Atom.word
  rfl

mutual

/-- The text of a phrase. -/
def Phrase.text : Phrase → List Char
  | .last atom => atom.word ++ atom.tail
  | .more atom rest => atom.word ++ atom.tail ++ ' ' :: '|' :: ' ' :: rest.text

/-- The brackets behind the word of an atom. -/
def Atom.tail : Atom → List Char
  | .name _ _ => []
  | .list item => '[' :: item.text ++ [']']
  | .dict key value => '[' :: key.text ++ [',', ' '] ++ value.text ++ [']']
  | .literals first rest => '[' :: literalsText first rest ++ [']']

end

theorem Atom.isAsciiIdentifier_word (atom : Atom) :
    isAsciiIdentifier atom.word = true := by
  cases atom with
  | name word hword => exact hword
  | list => rfl
  | dict => rfl
  | literals => rfl

/-- Nothing here continues a word. -/
def EndsWord (rest : List Char) : Prop :=
  ∀ c, rest.head? = some c → ¬ WordChar c

/-- Nothing here continues an atom. -/
def EndsAtom (rest : List Char) : Prop :=
  ∀ c, rest.head? = some c → ¬ WordChar c ∧ c ≠ '['

/-- Nothing here continues a phrase. -/
def EndsPhrase (rest : List Char) : Prop :=
  ∀ c, rest.head? = some c → ¬ WordChar c ∧ c ≠ '[' ∧ c ≠ ' '

theorem EndsPhrase.endsAtom {rest : List Char} (hrest : EndsPhrase rest) :
    EndsAtom rest := by
  intro c hc
  obtain ⟨hword, hbracket, -⟩ := hrest c hc
  exact ⟨hword, hbracket⟩

theorem endsPhrase_cons {c : Char} (hword : ¬ WordChar c) (hbracket : c ≠ '[')
    (hblank : c ≠ ' ') (rest : List Char) : EndsPhrase (c :: rest) := by
  intro d hd
  obtain rfl : c = d := by simpa using hd
  exact ⟨hword, hbracket, hblank⟩

/-- Words are read as far as they go. -/
theorem word_append_inj {v w r₁ r₂ : List Char} (hv : ∀ c ∈ v, WordChar c)
    (hw : ∀ c ∈ w, WordChar c) (hr₁ : EndsWord r₁) (hr₂ : EndsWord r₂)
    (heq : v ++ r₁ = w ++ r₂) : v = w ∧ r₁ = r₂ := by
  induction v generalizing w with
  | nil =>
      cases w with
      | nil => exact ⟨rfl, heq⟩
      | cons d others =>
          have hhead := congrArg List.head? heq
          exact absurd (hw d List.mem_cons_self) (hr₁ d hhead)
  | cons c rest ih =>
      cases w with
      | nil =>
          have hhead := congrArg List.head? heq
          exact absurd (hv c List.mem_cons_self) (hr₂ c hhead.symm)
      | cons d others =>
          obtain ⟨rfl, htail⟩ := List.cons.inj heq
          obtain ⟨rfl, hrest⟩ := ih
            (fun e he => hv e (List.mem_cons_of_mem _ he))
            (fun e he => hw e (List.mem_cons_of_mem _ he)) htail
          exact ⟨rfl, hrest⟩

/-- A run of literals is read up to the bracket that closes it. -/
theorem literalsText_append_inj {s t : String} {rest others : List String}
    {r₁ r₂ : List Char}
    (heq : literalsText s rest ++ ']' :: r₁ = literalsText t others ++ ']' :: r₂) :
    s = t ∧ rest = others ∧ r₁ = r₂ := by
  induction rest generalizing s t others with
  | nil =>
      cases others with
      | nil =>
          obtain ⟨hs, htail⟩ := quotedChars_append_inj heq
          exact ⟨String.toList_inj.mp hs, rfl, (List.cons.inj htail).2⟩
      | cons second more =>
          rw [literalsText, literalsText, List.append_assoc, List.append_assoc] at heq
          obtain ⟨-, htail⟩ := quotedChars_append_inj heq
          simp at htail
  | cons second more ih =>
      cases others with
      | nil =>
          rw [literalsText, literalsText, List.append_assoc, List.append_assoc] at heq
          obtain ⟨-, htail⟩ := quotedChars_append_inj heq
          simp at htail
      | cons second' more' =>
          rw [literalsText, literalsText, List.append_assoc, List.append_assoc,
            List.append_assoc, List.append_assoc] at heq
          obtain ⟨hs, htail⟩ := quotedChars_append_inj heq
          obtain ⟨rfl, rfl, hr⟩ := ih (List.append_cancel_left htail)
          exact ⟨String.toList_inj.mp hs, rfl, hr⟩

theorem Atom.tail_endsWord (atom : Atom) {rest : List Char}
    (hrest : EndsAtom rest) : EndsWord (atom.tail ++ rest) := by
  intro c hc
  cases atom with
  | name word hword => exact (hrest c hc).1
  | list item =>
      obtain rfl : '[' = c := by simpa [Atom.tail] using hc
      decide
  | dict key value =>
      obtain rfl : '[' = c := by simpa [Atom.tail] using hc
      decide
  | literals first more =>
      obtain rfl : '[' = c := by simpa [Atom.tail] using hc
      decide

/-- The word of an atom and what stands behind it are read apart. -/
theorem Atom.word_tail_inj {a b : Atom} {r₁ r₂ : List Char} (hr₁ : EndsAtom r₁)
    (hr₂ : EndsAtom r₂) (heq : a.word ++ a.tail ++ r₁ = b.word ++ b.tail ++ r₂) :
    a.word = b.word ∧ a.tail ++ r₁ = b.tail ++ r₂ := by
  rw [List.append_assoc, List.append_assoc] at heq
  exact word_append_inj
    (wordChar_of_isAsciiIdentifier a.isAsciiIdentifier_word)
    (wordChar_of_isAsciiIdentifier b.isAsciiIdentifier_word)
    (a.tail_endsWord hr₁) (b.tail_endsWord hr₂) heq

theorem not_endsAtom_bracket {rest : List Char} : ¬ EndsAtom ('[' :: rest) := by
  intro hrest
  exact (hrest '[' rfl).2 rfl

theorem endsAtom_blank (rest : List Char) : EndsAtom (' ' :: rest) := by
  intro c hc
  obtain rfl : ' ' = c := by simpa using hc
  decide

theorem Phrase.text_more_append (a : Atom) (rest : Phrase)
    (r : List Char) :
    (Phrase.more a rest).text ++ r =
      a.word ++ a.tail ++ ' ' :: '|' :: ' ' :: (rest.text ++ r) := by
  rw [Phrase.text, List.append_assoc]
  rfl

theorem endsPhrase_comma (rest : List Char) : EndsPhrase (',' :: rest) :=
  endsPhrase_cons (by decide) (by decide) (by decide) rest

theorem endsPhrase_bracket (rest : List Char) :
    EndsPhrase (']' :: rest) :=
  endsPhrase_cons (by decide) (by decide) (by decide) rest

mutual

/-- The text of a phrase determines the phrase and what stands behind
it. -/
theorem Phrase.text_append_inj (xs ys : Phrase) {r₁ r₂ : List Char}
    (hr₁ : EndsPhrase r₁) (hr₂ : EndsPhrase r₂)
    (heq : xs.text ++ r₁ = ys.text ++ r₂) : xs = ys ∧ r₁ = r₂ := by
  match xs, ys with
  | .last a, .last b =>
      rw [Phrase.text, Phrase.text] at heq
      obtain ⟨rfl, hr⟩ := a.text_append_inj b hr₁.endsAtom hr₂.endsAtom heq
      exact ⟨rfl, hr⟩
  | .last a, .more b rest =>
      rw [Phrase.text, Phrase.text_more_append] at heq
      obtain ⟨-, rfl⟩ := a.text_append_inj b hr₁.endsAtom (endsAtom_blank _) heq
      exact absurd rfl (hr₁ ' ' rfl).2.2
  | .more a rest, .last b =>
      rw [Phrase.text_more_append, Phrase.text] at heq
      obtain ⟨-, rfl⟩ := a.text_append_inj b (endsAtom_blank _) hr₂.endsAtom heq
      exact absurd rfl (hr₂ ' ' rfl).2.2
  | .more a rest, .more b others =>
      rw [Phrase.text_more_append, Phrase.text_more_append] at heq
      obtain ⟨rfl, hrest⟩ :=
        a.text_append_inj b (endsAtom_blank _) (endsAtom_blank _) heq
      have htail : rest.text ++ r₁ = others.text ++ r₂ := by simpa using hrest
      obtain ⟨rfl, hr⟩ := rest.text_append_inj others hr₁ hr₂ htail
      exact ⟨rfl, hr⟩

theorem Atom.text_append_inj (a b : Atom) {r₁ r₂ : List Char}
    (hr₁ : EndsAtom r₁) (hr₂ : EndsAtom r₂)
    (heq : a.word ++ a.tail ++ r₁ = b.word ++ b.tail ++ r₂) :
    a = b ∧ r₁ = r₂ := by
  obtain ⟨hword, htail⟩ := Atom.word_tail_inj hr₁ hr₂ heq
  cases a with
  | name v _ =>
      cases b with
      | name w _ =>
          obtain rfl : v = w := hword
          exact ⟨rfl, htail⟩
      | _ =>
          rw [Atom.tail, List.nil_append] at htail
          rw [htail] at hr₁
          exact absurd hr₁ not_endsAtom_bracket
  | list item =>
      cases b with
      | name w _ =>
          rw [Atom.tail, Atom.tail, List.nil_append] at htail
          rw [← htail] at hr₂
          exact absurd hr₂ not_endsAtom_bracket
      | list other =>
          have hitem : item.text ++ ']' :: r₁ = other.text ++ ']' :: r₂ := by
            simpa [Atom.tail] using htail
          obtain ⟨rfl, hr⟩ := item.text_append_inj other
            (endsPhrase_bracket r₁) (endsPhrase_bracket r₂) hitem
          exact ⟨rfl, (List.cons.inj hr).2⟩
      | _ => simp at hword
  | dict key value =>
      cases b with
      | name w _ =>
          rw [Atom.tail, Atom.tail, List.nil_append] at htail
          rw [← htail] at hr₂
          exact absurd hr₂ not_endsAtom_bracket
      | dict key' value' =>
          have hkey : key.text ++ ',' :: ' ' :: (value.text ++ ']' :: r₁) =
              key'.text ++ ',' :: ' ' :: (value'.text ++ ']' :: r₂) := by
            simpa [Atom.tail] using htail
          obtain ⟨rfl, hrest⟩ := key.text_append_inj key'
            (endsPhrase_comma _) (endsPhrase_comma _) hkey
          have hvalue : value.text ++ ']' :: r₁ = value'.text ++ ']' :: r₂ := by
            simpa using hrest
          obtain ⟨rfl, hr⟩ := value.text_append_inj value'
            (endsPhrase_bracket r₁) (endsPhrase_bracket r₂) hvalue
          exact ⟨rfl, (List.cons.inj hr).2⟩
      | _ => simp at hword
  | literals first rest =>
      cases b with
      | name w _ =>
          rw [Atom.tail, Atom.tail, List.nil_append] at htail
          rw [← htail] at hr₂
          exact absurd hr₂ not_endsAtom_bracket
      | literals first' rest' =>
          have hliterals : literalsText first rest ++ ']' :: r₁ =
              literalsText first' rest' ++ ']' :: r₂ := by
            simpa [Atom.tail] using htail
          obtain ⟨rfl, rfl, hr⟩ := literalsText_append_inj hliterals
          exact ⟨rfl, hr⟩
      | _ => simp at hword

end

end IntegrationBuild.TypeExpr
