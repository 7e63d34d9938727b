import IntegrationBuild.Import.Reference
import IntegrationBuild.Proofs.Text.Spacing
import IntegrationBuild.Script.Compile

/-!
How the bytes of a script are read.  Its imports are looked for in the text
that the bytes are in UTF-8, while it is compiled from the text that the bytes
are in the encoding the script declares.  A script in UTF-8 that begins with no
mark and declares no other encoding is the same text either way.
-/

namespace IntegrationBuild.Script

section Runes

theorem continuation?_ofNat {n : Nat} (hn : n < 64) :
    continuation? (UInt8.ofNat (n + 128)) = some n := by
  rw [continuation?, UInt8.toNat_ofNat_of_lt' (show n + 128 < 256 by omega)]
  simp only [Nat.add_sub_cancel]
  rw [if_pos]
  simp only [Bool.and_eq_true, decide_eq_true_eq]
  omega

theorem leadingRune_one {a : UInt8} (rest : List UInt8) (ha : a.toNat < 0x80) :
    leadingRune a rest = ⟨Char.ofNat a.toNat, 1, false⟩ := by
  cases rest with
  | nil => rw [leadingRune, if_pos ha]
  | cons b rest => rw [leadingRune, if_pos ha]

variable {a b c d : UInt8} {x y z code : Nat} (rest : List UInt8)

theorem leadingRune_two (hb : continuation? b = some x)
    (ha : 0xc2 ≤ a.toNat ∧ a.toNat < 0xe0) (hcode : (a.toNat - 0xc0) * 64 + x = code) :
    leadingRune a (b :: rest) = ⟨Char.ofNat code, 2, false⟩ := by
  have hone : ¬a.toNat < 0x80 := by omega
  simp [leadingRune, hone, twoBytes?, hb, ha, hcode]

theorem leadingRune_three (hb : continuation? b = some x) (hc : continuation? c = some y)
    (ha : 0xe0 ≤ a.toNat ∧ a.toNat < 0xf0)
    (hcode : ((a.toNat - 0xe0) * 64 + x) * 64 + y = code) (hlow : 0x800 ≤ code)
    (hvalid : code < 0xd800 ∨ 0xe000 ≤ code) :
    leadingRune a (b :: c :: rest) = ⟨Char.ofNat code, 3, false⟩ := by
  have hone : ¬a.toNat < 0x80 := by omega
  have htwo : ¬a.toNat < 0xe0 := by omega
  simp [leadingRune, hone, twoBytes?, htwo, hb, hc, threeBytes?, ha, hcode, hlow, hvalid]

theorem leadingRune_four (hb : continuation? b = some x) (hc : continuation? c = some y)
    (hd : continuation? d = some z) (ha : 0xf0 ≤ a.toNat ∧ a.toNat < 0xf5)
    (hcode : (((a.toNat - 0xf0) * 64 + x) * 64 + y) * 64 + z = code)
    (hlow : 0x10000 ≤ code) (hhigh : code < 0x110000) :
    leadingRune a (b :: c :: d :: rest) = ⟨Char.ofNat code, 4, false⟩ := by
  have hone : ¬a.toNat < 0x80 := by omega
  have htwo : ¬a.toNat < 0xe0 := by omega
  have hthree : ¬a.toNat < 0xf0 := by omega
  simp [leadingRune, hone, twoBytes?, htwo, threeBytes?, hthree, hb, hc, hd, fourBytes?,
    ha, hcode, hlow, hhigh]

theorem runesAfter_length (bytes rest : List UInt8) :
    runesAfter bytes.length (bytes ++ rest) = runesAfter 0 rest := by
  induction bytes with
  | nil => rfl
  | cons byte more ih => exact ih

theorem runesAfter_of_leadingRune {char : Char} {width : Nat} (bytes : List UInt8)
    (hrune : leadingRune a (bytes ++ rest) = ⟨char, width, false⟩)
    (hwidth : width = bytes.length + 1) :
    runesAfter 0 (a :: bytes ++ rest) = ⟨char, width, false⟩ :: runesAfter 0 rest := by
  rw [List.cons_append, runesAfter, hrune]
  dsimp only
  rw [hwidth, Nat.add_sub_cancel, runesAfter_length]

/-- The bytes of a character are read as that character, one case for each
number of bytes. -/
theorem runesAfter_utf8EncodeChar (char : Char) :
    runesAfter 0 (String.utf8EncodeChar char ++ rest) =
      Rune.ofChar char :: runesAfter 0 rest := by
  have hchar : Char.ofNat char.val.toNat = char := Char.ofNat_toNat char
  have hvalid : char.val.toNat < 0xd800 ∨
      0xdfff < char.val.toNat ∧ char.val.toNat < 0x110000 := char.valid
  rw [Rune.ofChar, ← String.length_utf8EncodeChar, String.utf8EncodeChar]
  generalize char.val.toNat = v at hchar hvalid ⊢
  subst hchar
  have hlast := continuation?_ofNat (show v % 64 < 64 by omega)
  have hmiddle := continuation?_ofNat (show v / 64 % 64 < 64 by omega)
  by_cases hone : v ≤ 127
  · have hbyte := UInt8.toNat_ofNat_of_lt' (show v < 256 by omega)
    rw [if_pos hone]
    refine runesAfter_of_leadingRune rest [] ?_ rfl
    rw [leadingRune_one _ (by omega), hbyte]
    rfl
  · rw [if_neg hone]
    by_cases htwo : v ≤ 2047
    · have hbyte := UInt8.toNat_ofNat_of_lt' (show v / 64 % 32 + 192 < 256 by omega)
      rw [if_pos htwo]
      exact runesAfter_of_leadingRune rest [_]
        (leadingRune_two rest hlast (by omega) (by omega)) rfl
    · rw [if_neg htwo]
      by_cases hthree : v ≤ 65535
      · have hbyte := UInt8.toNat_ofNat_of_lt' (show v / 4096 % 16 + 224 < 256 by omega)
        rw [if_pos hthree]
        exact runesAfter_of_leadingRune rest [_, _]
          (leadingRune_three rest hmiddle hlast (by omega) (by omega) (by omega)
            (by omega)) rfl
      · have hbyte := UInt8.toNat_ofNat_of_lt' (show v / 262144 % 8 + 240 < 256 by omega)
        have hfirst := continuation?_ofNat (show v / 4096 % 64 < 64 by omega)
        rw [if_neg hthree]
        exact runesAfter_of_leadingRune rest [_, _, _]
          (leadingRune_four rest hfirst hmiddle hlast (by omega) (by omega) (by omega)
            (by omega)) rfl

/-- The bytes of a text in UTF-8 are read as that text. -/
theorem runesOfBytes_flatMap_utf8EncodeChar (text : List Char) :
    runesOfBytes (text.flatMap String.utf8EncodeChar) = runesOfText text := by
  induction text with
  | nil => rfl
  | cons char more ih =>
      rw [List.flatMap_cons, runesOfBytes, runesAfter_utf8EncodeChar, ← runesOfBytes, ih]
      rfl

end Runes

section LineBreaks

theorem unifyRunes_runesOfText (text : List Char) :
    unifyRunes (runesOfText text) = runesOfText (Text.unifyLineBreaks text) := by
  fun_induction Text.unifyLineBreaks text with
  | case1 rest ih =>
      rw [runesOfText, List.map_cons, List.map_cons, ← runesOfText, unifyRunes, unifyRunes, ih]
      rfl
  | case2 rest hnext ih =>
      have hhead : ((runesOfText rest).head?.map Rune.char == some '\n') = false := by
        cases rest with
        | nil => rfl
        | cons c more =>
            rw [beq_eq_false_iff_ne]
            intro hc
            exact hnext more (by simpa [runesOfText, Rune.ofChar] using hc)
      rw [runesOfText, List.map_cons, ← runesOfText, unifyRunes, hhead, ih]
      rfl
  | case3 c rest hbreak hreturn ih =>
      have hc : ((Rune.ofChar c).char == '\r') = false := by
        rw [beq_eq_false_iff_ne]
        exact hreturn
      rw [runesOfText, List.map_cons, ← runesOfText, unifyRunes, hc, ih]
      rfl
  | case4 => rfl

end LineBreaks

section Bytes

theorem toList_loop (bytes : ByteArray) (i : Nat) (done : List UInt8) :
    ByteArray.toList.loop bytes i done = done.reverse ++ bytes.data.toList.drop i := by
  fun_induction ByteArray.toList.loop bytes i done with
  | case1 i done hi ih =>
      have hlength : i < bytes.data.toList.length := by simpa using hi
      have hbyte : bytes.get! i = bytes.data.toList[i] := by simp [ByteArray.get!, hi]
      rw [ih, List.drop_eq_getElem_cons hlength, List.reverse_cons, List.append_assoc,
        List.singleton_append, hbyte]
  | case2 i done hi =>
      rw [List.drop_eq_nil_of_le (by simpa using hi), List.append_nil]

theorem toList_toByteArray (bytes : List UInt8) : bytes.toByteArray.toList = bytes := by
  rw [ByteArray.toList, toList_loop]
  simp

/-- The bytes of a text decode to it. -/
theorem fromUTF8?_toUTF8 (text : String) : String.fromUTF8? text.toUTF8 = some text :=
  dif_pos text.isValidUTF8

theorem toList_of_fromUTF8? {content : ByteArray} {text : String}
    (hdecode : String.fromUTF8? content = some text) :
    content.toList = text.toList.flatMap String.utf8EncodeChar := by
  have hbytes : content = text.toByteArray := by
    rw [String.fromUTF8?] at hdecode
    split at hdecode
    · cases hdecode
      rfl
    · cases hdecode
  rw [hbytes, ← String.utf8Encode_toList]
  exact toList_toByteArray _

end Bytes

section Declared

/-- The encoding that a script declares, if it begins with no mark. -/
def declaredName? (content : ByteArray) : Option String :=
  let head := (content.toList.take 500).map fun b => Char.ofNat b.toNat
  (declaredEncoding? (Text.unifyLineBreaks head)).map normalEncodingName

/-- A script in UTF-8 that begins with no mark, and that declares no other
encoding unless it is in ASCII anyway. -/
structure IsUtf8 (content : ByteArray) : Prop where
  decodes : (String.fromUTF8? content).isSome
  unmarked : content.toList.take 3 ≠ [0xef, 0xbb, 0xbf]
  declares : (∀ byte ∈ content.toList, byte.toNat < 0x80) ∨
    ∀ name, declaredName? content = some name → encoding? name = some .utf8

/-- In ASCII every byte is a character of its own. -/
theorem runesOfBytes_of_ascii {bytes : List UInt8}
    (hascii : ∀ byte ∈ bytes, byte.toNat < 0x80) : runesOfBytes bytes = bytes.map byteRune := by
  induction bytes with
  | nil => rfl
  | cons byte rest ih =>
      obtain ⟨hbyte, hrest⟩ := List.forall_mem_cons.mp hascii
      have hrune := leadingRune_one rest hbyte
      have hvalid : byte.toNat.isValidChar := Or.inl (by omega)
      have hsize : (Char.ofNat byte.toNat).utf8Size = 1 := by
        have hcode : (Char.ofNat byte.toNat).val.toNat = byte.toNat := by
          rw [Char.ofNat, dif_pos hvalid]
          rfl
        rw [Char.utf8Size_eq_one_iff, UInt32.le_iff_toNat_le, hcode]
        exact Nat.le_of_lt_succ hbyte
      rw [runesOfBytes, runesAfter, hrune, List.map_cons, ← ih hrest, byteRune, Rune.ofChar,
        hsize]
      rfl

/-- Without a mark, the bytes are read in UTF-8 or each on its own. -/
theorem declaredRunes_eq_ok {content : ByteArray} {runes : List Rune}
    (hunmarked : content.toList.take 3 ≠ [0xef, 0xbb, 0xbf])
    (hrunes : declaredRunes content = .ok runes) :
    runes = unifyRunes (runesOfBytes content.toList) ∨
      (runes = unifyRunes (content.toList.map byteRune) ∧
        ∃ name, declaredName? content = some name ∧ encoding? name ≠ some .utf8) := by
  have hmarked : (content.toList.take 3 == [0xef, 0xbb, 0xbf]) = false :=
    beq_eq_false_iff_ne.mpr hunmarked
  rw [declaredRunes] at hrunes
  simp only [hmarked, Bool.false_eq_true, ↓reduceIte] at hrunes
  split at hrunes
  · exact Or.inl (Except.ok.inj hrunes).symm
  · exact Or.inl (Except.ok.inj hrunes).symm
  · next name _ hname =>
    split at hrunes
    · exact Or.inl (Except.ok.inj hrunes).symm
    · next hlatin =>
      exact Or.inr ⟨(Except.ok.inj hrunes).symm, name, hname, by simp [hlatin]⟩
    · next hascii =>
      split at hrunes
      · exact Or.inr ⟨(Except.ok.inj hrunes).symm, name, hname, by simp [hascii]⟩
      · cases hrunes
    · cases hrunes

/-- Such a script is compiled, if at all, from the text in which its imports are
looked for. -/
theorem IsUtf8.exists_text {content : ByteArray} (hutf8 : IsUtf8 content)
    {runes : List Rune} (hrunes : declaredRunes content = .ok runes) :
    ∃ text, Text.decodeText? content = some text ∧ runes = runesOfText text := by
  obtain ⟨text, hdecode⟩ := Option.isSome_iff_exists.mp hutf8.decodes
  have hbytes : runes = unifyRunes (runesOfBytes content.toList) := by
    rcases declaredRunes_eq_ok hutf8.unmarked hrunes with hbytes | ⟨hbytes, name, hname, hother⟩
    · exact hbytes
    · rcases hutf8.declares with hascii | hnone
      · rw [hbytes, runesOfBytes_of_ascii hascii]
      · exact absurd (hnone name hname) hother
  refine ⟨Text.unifyLineBreaks text.toList, ?_, ?_⟩
  · rw [Text.decodeText?, hdecode]
    rfl
  · rw [hbytes, toList_of_fromUTF8? hdecode, runesOfBytes_flatMap_utf8EncodeChar,
      unifyRunes_runesOfText]

theorem declaredEncoding?_of_wordChar {c : Char} {rest : List Char} (hc : Text.WordChar c) :
    declaredEncoding? (c :: rest) = none := by
  have hne : ∀ d, ¬Text.WordChar d → c ≠ d := fun d hd heq => hd (heq ▸ hc)
  have hblank : isLineBlank c = false := by
    simp [isLineBlank, hne ' ' (by decide), hne '\t' (by decide), hne '\x0c' (by decide)]
  have hfirst : (c :: rest).takeWhile (· != '\n') = c :: rest.takeWhile (· != '\n') :=
    List.takeWhile_cons_of_pos (bne_iff_ne.mpr (hne '\n' (by decide)))
  have hline (line : List Char) : (c :: line).dropWhile isLineBlank = c :: line :=
    List.dropWhile_cons_of_neg (by simp [hblank])
  rw [declaredEncoding?, hfirst]
  simp [hline, hne '#' (by decide)]

/-- A text that begins with a word declares no encoding. -/
theorem declaredRunes_toUTF8 {text : String} {c : Char} {rest : List Char}
    (htext : text.toList = c :: rest) (hc : Text.WordChar c) :
    declaredRunes text.toUTF8 = .ok (runesOfText (Text.unifyLineBreaks text.toList)) := by
  have hbound : c.toNat ≤ 122 := hc.toNat_mem.2
  have hascii : c.val.toNat ≤ 127 := Nat.le_trans hbound (by decide)
  have hbytes := toList_of_fromUTF8? (fromUTF8?_toUTF8 text)
  have hrunes : unifyRunes (runesOfBytes text.toUTF8.toList) =
      runesOfText (Text.unifyLineBreaks text.toList) := by
    rw [hbytes, runesOfBytes_flatMap_utf8EncodeChar, unifyRunes_runesOfText]
  have hbyte : (UInt8.ofNat c.toNat).toNat = c.toNat :=
    UInt8.toNat_ofNat_of_lt' (show c.toNat < 256 by omega)
  have hfirst : ∃ others, text.toUTF8.toList = UInt8.ofNat c.toNat :: others := by
    refine ⟨rest.flatMap String.utf8EncodeChar, ?_⟩
    rw [hbytes, htext, List.flatMap_cons, String.utf8EncodeChar, if_pos hascii]
    rfl
  obtain ⟨others, hothers⟩ := hfirst
  have hmark : (text.toUTF8.toList.take 3 == [0xef, 0xbb, 0xbf]) = false := by
    rw [hothers, List.take_succ_cons, beq_eq_false_iff_ne]
    intro heq
    have hbyte' := congrArg UInt8.toNat (List.cons.inj heq).1
    rw [hbyte, show (0xef : UInt8).toNat = 239 from rfl] at hbyte'
    omega
  have hhead : declaredEncoding? (Text.unifyLineBreaks
      ((text.toUTF8.toList.take 500).map fun b => Char.ofNat b.toNat)) = none := by
    rw [hothers, List.take_succ_cons, List.map_cons, hbyte, Char.ofNat_toNat, Text.unifyLineBreaks]
    · exact declaredEncoding?_of_wordChar hc
    · rintro _ rfl
      exact absurd hc (by decide)
    · rintro rfl
      exact absurd hc (by decide)
  simp only [declaredRunes, hmark, Bool.false_eq_true, ↓reduceIte, hhead, Option.map_none, hrunes]

end Declared

section Compiled

/-- The tree that a script is compiled from: that of its text in the encoding
it declares, which has no faults. -/
def compiledTree? (content : ByteArray) : Option Tree :=
  match declaredRunes content with
  | .ok runes =>
    match readTree? .strict Text.normalize runes with
    | some (tree, []) => some tree
    | _ => none
  | .error _ => none

/-- A script without an error is compiled from a tree. -/
theorem exists_compiledTree? {name : String} {line? : Nat → Option (List Char)}
    {content : ByteArray} (herror : compileError? name line? content = none) :
    ∃ tree, compiledTree? content = some tree := by
  rw [compileError?] at herror
  rw [compiledTree?]
  split at herror
  · cases herror
  · next runes hrunes =>
    rw [hrunes]
    dsimp only
    split at herror
    · cases herror
    · cases herror
    · next hread =>
      rw [hread]
      exact ⟨_, rfl⟩

/-- The imports of a script in UTF-8 are those of the tree it is compiled from. -/
theorem IsUtf8.importsOf_eq {content : ByteArray} (hutf8 : IsUtf8 content) {tree : Tree}
    (htree : compiledTree? content = some tree) : importsOf content = imports tree := by
  rw [compiledTree?] at htree
  split at htree
  · next runes hrunes =>
    obtain ⟨text, hdecode, rfl⟩ := hutf8.exists_text hrunes
    have hstrict : strictTree? text = some tree := htree
    rw [importsOf, hdecode, Option.bind_some, hstrict]
  · cases htree

end Compiled

end IntegrationBuild.Script
