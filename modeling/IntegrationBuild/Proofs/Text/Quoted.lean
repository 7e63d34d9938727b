import Mathlib.Tactic.IntervalCases
import IntegrationBuild.Text.Quoted

/-!
Quoted texts can be read back.  Each character between the quotes is written
in a way that shows where it ends, so a quoted text determines the text and
whatever stands behind it.
-/

namespace IntegrationBuild.Text

/-- The number of a hexadecimal digit. -/
def hexValue (c : Char) : Nat :=
  if c.toNat < 0x3a then c.toNat - 0x30 else c.toNat - 0x57

theorem hexValue_hexDigit {n : Nat} (hn : n < 16) : hexValue (hexDigit n) = n := by
  interval_cases n <;> decide

/-- The number that hexadecimal digits stand for. -/
def readHex (digits : List Char) : Nat :=
  digits.foldl (fun n c => 16 * n + hexValue c) 0

theorem readHex_concat (digits : List Char) (c : Char) :
    readHex (digits ++ [c]) = 16 * readHex digits + hexValue c := by
  rw [readHex, List.foldl_append]
  rfl

@[simp]
theorem length_hexDigits (width n : Nat) : (hexDigits width n).length = width := by
  induction width generalizing n with
  | zero => rfl
  | succ width ih => rw [hexDigits, List.length_append, ih]; rfl

theorem readHex_hexDigits {width n : Nat} (hn : n < 16 ^ width) :
    readHex (hexDigits width n) = n := by
  induction width generalizing n with
  | zero =>
      have hzero : n = 0 := by simpa using hn
      rw [hzero]
      rfl
  | succ width ih =>
      have hdiv : n / 16 < 16 ^ width := by
        rw [Nat.pow_succ] at hn
        omega
      have hmod : n % 16 < 16 := Nat.mod_lt n (by decide)
      rw [hexDigits, readHex_concat, ih hdiv, hexValue_hexDigit hmod]
      exact Nat.div_add_mod n 16

/-- The character that a backslash and a mark stand for, with what follows. -/
def readEscape (mark : Char) (rest : List Char) : Char × List Char :=
  if mark = 't' then ('\t', rest)
  else if mark = 'n' then ('\n', rest)
  else if mark = 'r' then ('\r', rest)
  else if mark = 'x' then (Char.ofNat (readHex (rest.take 2)), rest.drop 2)
  else if mark = 'u' then (Char.ofNat (readHex (rest.take 4)), rest.drop 4)
  else if mark = 'U' then (Char.ofNat (readHex (rest.take 8)), rest.drop 8)
  else (mark, rest)

/-- The first character of the inside of a quoted text, with what follows. -/
def readChar : List Char → Option (Char × List Char)
  | [] => none
  | ['\\'] => none
  | '\\' :: mark :: rest => some (readEscape mark rest)
  | c :: rest => some (c, rest)

theorem readChar_of_ne {c : Char} (hc : c ≠ '\\') (rest : List Char) :
    readChar (c :: rest) = some (c, rest) := by
  rw [readChar]
  · simp [hc]
  · simp [hc]

theorem readHexDigits {width : Nat} {c : Char} (hc : c.toNat < 16 ^ width)
    (rest : List Char) :
    (Char.ofNat (readHex ((hexDigits width c.toNat ++ rest).take width)),
      (hexDigits width c.toNat ++ rest).drop width) = (c, rest) := by
  have hlength := length_hexDigits width c.toNat
  rw [List.take_left' hlength, List.drop_left' hlength, readHex_hexDigits hc,
    Char.ofNat_toNat]

/-- The two quotes a text is written with. -/
theorem quoteFor_cases (s : List Char) :
    quoteFor s = '\x27' ∨ quoteFor s = '"' := by
  rw [quoteFor]
  split
  · exact Or.inr rfl
  · exact Or.inl rfl

/-- Every character is read back as it was before it was written. -/
theorem readChar_quoteChar {quote : Char}
    (hquote : quote = '\x27' ∨ quote = '"') (c : Char) (rest : List Char) :
    readChar (quoteChar quote c ++ rest) = some (c, rest) := by
  rw [quoteChar]
  split
  · next hself =>
    simp only [Bool.or_eq_true, beq_iff_eq] at hself
    rcases hself with rfl | rfl
    · rcases hquote with rfl | rfl <;> rfl
    · rfl
  · next hself =>
    simp only [Bool.or_eq_true, beq_iff_eq, not_or] at hself
    split
    · next htab => rw [beq_iff_eq.mp htab]; rfl
    · split
      · next hline => rw [beq_iff_eq.mp hline]; rfl
      · split
        · next hreturn => rw [beq_iff_eq.mp hreturn]; rfl
        · split
          · exact readChar_of_ne hself.2 rest
          · split
            · next hsmall => exact congrArg some (readHexDigits hsmall rest)
            · split
              · next hsmall => exact congrArg some (readHexDigits hsmall rest)
              · have hlarge : c.toNat < 16 ^ 8 := c.val.toNat_lt
                exact congrArg some (readHexDigits hlarge rest)

/-- No character between quotes is written like the closing quote. -/
theorem quoteChar_append_ne {quote : Char}
    (hquote : quote = '\x27' ∨ quote = '"') (c : Char) (s t : List Char) :
    quoteChar quote c ++ s ≠ quote :: t := by
  intro heq
  have hread := readChar_quoteChar hquote c s
  have hplain : quote ≠ '\\' := by
    rcases hquote with rfl | rfl <;> decide
  rw [heq, readChar_of_ne hplain] at hread
  obtain rfl : quote = c := by simpa using congrArg (Option.map Prod.fst) hread
  rw [quoteChar] at heq
  simp [Ne.symm hplain] at heq

theorem flatMap_quoteChar_append_inj {quote : Char}
    (hquote : quote = '\x27' ∨ quote = '"') {s t r₁ r₂ : List Char}
    (heq : s.flatMap (quoteChar quote) ++ quote :: r₁ =
      t.flatMap (quoteChar quote) ++ quote :: r₂) : s = t ∧ r₁ = r₂ := by
  induction s generalizing t with
  | nil =>
      cases t with
      | nil => exact ⟨rfl, (List.cons.inj heq).2⟩
      | cons d rest =>
          rw [List.flatMap_cons, List.append_assoc] at heq
          exact absurd heq.symm (quoteChar_append_ne hquote d _ r₁)
  | cons c rest ih =>
      rw [List.flatMap_cons, List.append_assoc] at heq
      cases t with
      | nil => exact absurd heq (quoteChar_append_ne hquote c _ r₂)
      | cons d others =>
          rw [List.flatMap_cons, List.append_assoc] at heq
          have hread := congrArg readChar heq
          rw [readChar_quoteChar hquote, readChar_quoteChar hquote] at hread
          obtain ⟨rfl, htail⟩ := Prod.mk.inj (Option.some.inj hread)
          obtain ⟨rfl, hrest⟩ := ih htail
          exact ⟨rfl, hrest⟩

/-- A quoted text determines the text and what stands behind it. -/
theorem quotedChars_append_inj {s t r₁ r₂ : List Char}
    (heq : quotedChars s ++ r₁ = quotedChars t ++ r₂) : s = t ∧ r₁ = r₂ := by
  have hcons : ∀ text rest : List Char, quotedChars text ++ rest =
      quoteFor text ::
        (text.flatMap (quoteChar (quoteFor text)) ++ quoteFor text :: rest) := by
    intro text rest
    simp [quotedChars]
  rw [hcons, hcons] at heq
  obtain ⟨hquote, htail⟩ := List.cons.inj heq
  rw [← hquote] at htail
  exact flatMap_quoteChar_append_inj (quoteFor_cases s) htail

/-- The text up to a closing quote, with what follows; the bound is on the
number of characters. -/
def readInside? (quote : Char) : Nat → List Char → Option (List Char × List Char)
  | 0, _ => none
  | bound + 1, text =>
    if text.head? = some quote then some ([], text.tail)
    else
      match readChar text with
      | none => none
      | some (c, rest) =>
        (readInside? quote bound rest).map fun read => (c :: read.1, read.2)

/-- The text that a quoted text stands for, with what follows. -/
def readQuoted? : List Char → Option (List Char × List Char)
  | [] => none
  | quote :: rest => readInside? quote (rest.length + 1) rest

theorem quoteChar_ne_nil (quote c : Char) : quoteChar quote c ≠ [] := by
  rw [quoteChar]
  repeat' split
  all_goals simp

theorem readInside?_flatMap_quoteChar {quote : Char}
    (hquote : quote = '\x27' ∨ quote = '"') (s rest : List Char) {bound : Nat}
    (hbound : s.length < bound) :
    readInside? quote bound (s.flatMap (quoteChar quote) ++ quote :: rest) =
      some (s, rest) := by
  induction s generalizing bound with
  | nil =>
      obtain ⟨bound, rfl⟩ := Nat.exists_eq_add_one_of_ne_zero (Nat.ne_of_gt hbound)
      simp [readInside?]
  | cons c others ih =>
      obtain ⟨bound, rfl⟩ := Nat.exists_eq_add_one_of_ne_zero
        (Nat.ne_of_gt (Nat.zero_lt_of_lt hbound))
      have hothers : others.length < bound := by simpa using hbound
      rw [List.flatMap_cons, List.append_assoc, readInside?,
        readChar_quoteChar hquote, if_neg]
      · dsimp only
        rw [ih hothers]
        rfl
      · intro hhead
        obtain ⟨after, hafter⟩ := List.head?_eq_some_iff.mp hhead
        exact quoteChar_append_ne hquote c _ after hafter

theorem length_le_length_flatMap_quoteChar (quote : Char) (s : List Char) :
    s.length ≤ (s.flatMap (quoteChar quote)).length := by
  induction s with
  | nil => simp
  | cons c rest ih =>
      have hpos := List.length_pos_iff.mpr (quoteChar_ne_nil quote c)
      rw [List.flatMap_cons, List.length_append, List.length_cons]
      omega

/-- A quoted text is read back as the text it was made of. -/
theorem readQuoted?_quotedChars (s rest : List Char) :
    readQuoted? (quotedChars s ++ rest) = some (s, rest) := by
  have hlength := length_le_length_flatMap_quoteChar (quoteFor s) s
  rw [quotedChars, List.cons_append, readQuoted?, List.append_assoc,
    List.singleton_append]
  apply readInside?_flatMap_quoteChar (quoteFor_cases s)
  rw [List.length_append, List.length_cons]
  omega

theorem hexDigit_ne_newline {n : Nat} (hn : n < 16) : hexDigit n ≠ '\n' := by
  interval_cases n <;> decide

theorem newline_not_mem_hexDigits (width n : Nat) : '\n' ∉ hexDigits width n := by
  induction width generalizing n with
  | zero => simp [hexDigits]
  | succ width ih =>
      have hdigit := hexDigit_ne_newline (Nat.mod_lt n (by decide : 0 < 16))
      rw [hexDigits, List.mem_append, List.mem_singleton, not_or]
      exact ⟨ih (n / 16), hdigit.symm⟩

theorem newline_not_mem_quoteChar (quote c : Char) (hquote : quote ≠ '\n') :
    '\n' ∉ quoteChar quote c := by
  have hplain : isPrintable '\n' = false := by decide
  rw [quoteChar]
  split
  · next hself =>
    have hself : c = quote ∨ c = '\\' := by simpa using hself
    rcases hself with rfl | rfl
    · simpa using hquote.symm
    · decide
  · repeat' split
    any_goals decide
    · next hprintable =>
      rw [List.mem_singleton]
      rintro rfl
      rw [hplain] at hprintable
      cases hprintable
    all_goals simpa using newline_not_mem_hexDigits _ c.toNat

/-- A quoted text stands on one line. -/
theorem newline_not_mem_quotedChars (s : List Char) : '\n' ∉ quotedChars s := by
  have hquote : quoteFor s ≠ '\n' := by
    rcases quoteFor_cases s with heq | heq <;> rw [heq] <;> decide
  rw [quotedChars, List.mem_cons, not_or, List.mem_append, not_or,
    List.mem_singleton]
  refine ⟨hquote.symm, ?_, hquote.symm⟩
  rw [List.mem_flatMap]
  rintro ⟨c, -, hc⟩
  exact newline_not_mem_quoteChar _ c hquote hc

end IntegrationBuild.Text
