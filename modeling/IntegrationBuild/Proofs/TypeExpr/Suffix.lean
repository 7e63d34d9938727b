import Mathlib.Logic.Function.Iterate
import IntegrationBuild.Proofs.TypeExpr.Reading

/-!
Brackets behind an expression of one member.  They make an array of it, and
more of them make arrays of arrays, for every member but a literal: a text that
begins with a quote has to end with the same quote, so brackets behind it are
refused.
-/

namespace IntegrationBuild.TypeExpr

open Text

/-- The text with so many pairs of brackets behind it. -/
def withBrackets (raw : String) : Nat → String
  | 0 => raw
  | n + 1 => withBrackets raw n ++ "[]"

/-- The text of one member without a mark, other than the word `undefined`. -/
structure Lone (text : List Char) : Prop where
  part : splitTopLevel '|' text = [text]
  unmarked : isMarked text = false
  present : trim text ≠ "undefined".toList

variable {known : List String} {text : List Char} {type : TypeRef}

theorem trim_brackets (text : List Char) :
    trim (text ++ ['[', ']']) = trimLeft text ++ ['[', ']'] := by
  simpa using trim_append_brackets text blank_nil

/-- Trimmed at the start, a text begins as it does trimmed at both ends. -/
theorem exists_trimLeft_eq_cons (hne : trim text ≠ []) :
    ∃ first rest, trimLeft text = first :: rest ∧
      (trim text).head? = some first := by
  obtain ⟨after, -, hleft⟩ := exists_trimRight (trimLeft text)
  obtain ⟨first, rest, hcons⟩ := List.exists_cons_of_ne_nil hne
  rw [← trim, hcons] at hleft
  exact ⟨first, rest ++ after, hleft, by rw [hcons]; rfl⟩

theorem head?_trim_brackets (hne : trim text ≠ []) :
    (trim (text ++ ['[', ']'])).head? = (trim text).head? := by
  obtain ⟨first, rest, hleft, hhead⟩ := exists_trimLeft_eq_cons hne
  rw [trim_brackets, hleft, hhead]
  rfl

theorem splitTopLevel_trim (hpart : splitTopLevel '|' text = [text]) :
    splitTopLevel '|' (trim text) = [trim text] := by
  obtain ⟨before, after, hbefore, -, htext⟩ := exists_trim text
  have hpasses := passes_blank 0 (show '|' ∈ marks by decide) hbefore
  rw [htext, List.append_assoc, splitTopLevel, hpasses,
    extend_eq_singleton_iff (splitFrom_ne_nil _ _ _)] at hpart
  exact (splitFrom_append_eq_singleton_iff.mp hpart).1

/-- The text of one member is read as that member. -/
theorem Lone.parseExpression_eq (htext : Lone text) (hne : trim text ≠ []) :
    parseExpression known text = (parseMember known (trim text)).map asType :=
  parseExpression_single htext.unmarked (splitTopLevel_trim htext.part) hne
    htext.present

theorem Lone.ne_nil_of_parseExpression (htext : Lone text)
    (hread : parseExpression known text = .ok type) : trim text ≠ [] := by
  intro hnil
  have hunmarked : TypeExpr.unmarked text = [] := by
    rw [TypeExpr.unmarked, htext.unmarked, hnil]
    rfl
  have hsplit : splitTopLevel '|' [] = [[]] := rfl
  have hempty : (trim []).isEmpty = true := rfl
  rw [parseExpression, hunmarked, hsplit, parseParts, if_pos hempty] at hread
  simp at hread

theorem Lone.append_brackets (htext : Lone text) (hne : trim text ≠ []) :
    Lone (text ++ ['[', ']']) := by
  refine ⟨?_, ?_, ?_⟩
  · apply splitFrom_append_eq_singleton_iff.mpr
    exact ⟨htext.part, splitFrom_of_not_mem _ (by decide)⟩
  · rw [isMarked, head?_trim_brackets hne]
    exact htext.unmarked
  · intro heq
    have hlast := congrArg List.getLast? heq
    rw [trim_brackets, List.getLast?_append] at hlast
    simp at hlast

/-- Brackets behind one member that is no literal make an array of its type. -/
theorem Lone.parse_append_brackets (htext : Lone text)
    (hquote : isQuoted (trim text) = false)
    (hread : parseExpression known text = .ok type) :
    parseExpression known (text ++ ['[', ']']) = .ok (.array type) := by
  have hne := htext.ne_nil_of_parseExpression hread
  obtain ⟨first, rest, hleft, hhead⟩ := exists_trimLeft_eq_cons hne
  have hfirst : isQuote first = false := by simpa [isQuoted, hhead] using hquote
  rw [htext.parseExpression_eq hne] at hread
  obtain ⟨ref, hmember, rfl⟩ := Outcome.map_eq_ok_iff.mp hread
  rw [← trim_trimLeft, hleft] at hmember
  have hbrackets := htext.append_brackets hne
  have harray := parseMember_brackets hfirst hmember
  rw [hbrackets.parseExpression_eq (by simp [trim_brackets]),
    trim_brackets, hleft, harray]
  rfl

/-- Brackets behind a literal leave it without its closing quote. -/
theorem Lone.parse_quoted_append_brackets (htext : Lone text)
    (hquote : isQuoted (trim text) = true) :
    parseExpression known (text ++ ['[', ']']) =
      .error (.unterminatedLiteral (String.ofList (trimLeft text ++ ['[', ']']))) := by
  have hne : trim text ≠ [] := by
    intro hnil
    simp [isQuoted, hnil] at hquote
  obtain ⟨first, rest, hleft, hhead⟩ := exists_trimLeft_eq_cons hne
  have hfirst : isQuote first = true := by simpa [isQuoted, hhead] using hquote
  have hclose : ']' ≠ first := (ne_of_isQuote hfirst (by decide)).symm
  have hbrackets := htext.append_brackets hne
  rw [hbrackets.parseExpression_eq (by simp [trim_brackets]),
    trim_brackets, hleft, List.cons_append, parseMember, if_pos hfirst]
  simp [hclose]
  rfl

theorem toList_withBrackets_succ (raw : String) (n : Nat) :
    (withBrackets raw (n + 1)).toList =
      (withBrackets raw n).toList ++ ['[', ']'] := by
  rw [withBrackets, String.toList_append]
  rfl

theorem getLast?_trimRight_withBrackets (raw : String) (n : Nat) :
    (trimRight (withBrackets raw (n + 1)).toList).getLast? = some ']' := by
  have htrim := trimRight_append_token (withBrackets raw n).toList solid_brackets []
  rw [List.append_nil, trimRight_of_blank blank_nil, List.append_nil] at htrim
  rw [toList_withBrackets_succ, htrim, List.getLast?_append]
  rfl

/-- One member that is no literal, with any number of brackets behind it. -/
theorem Lone.parse_withBrackets {raw : String} (hraw : Lone raw.toList)
    (hquote : isQuoted (trim raw.toList) = false)
    (hread : parseExpression known raw.toList = .ok type) (n : Nat) :
    Lone (withBrackets raw n).toList ∧
      isQuoted (trim (withBrackets raw n).toList) = false ∧
      parseExpression known (withBrackets raw n).toList =
        .ok (TypeRef.array^[n] type) := by
  -- brackets leave the shape of the text as it was, so the step applies again
  induction n with
  | zero => exact ⟨hraw, hquote, hread⟩
  | succ n ih =>
      obtain ⟨hlone, hplain, hparse⟩ := ih
      have hne := hlone.ne_nil_of_parseExpression hparse
      rw [toList_withBrackets_succ, Function.iterate_succ_apply']
      refine ⟨hlone.append_brackets hne, ?_, hlone.parse_append_brackets hplain hparse⟩
      rw [isQuoted, head?_trim_brackets hne]
      exact hplain

/-- A text of one member that is read with a type is read with arrays of that type
when brackets are put behind it, any number of them, exactly if the member is no
literal. -/
theorem compileField_withBrackets_iff {raw model : String} {field : Option String}
    (hraw : Lone raw.toList) (hread : compileField raw known model field = .ok type) :
    (∀ n, compileField (withBrackets raw n) known model field =
        .ok (TypeRef.array^[n] type)) ↔
      isQuoted (trim raw.toList) = false := by
  have hparse := parseExpression_of_compileField hread
  constructor
  · intro harrays
    by_contra hquote
    have hone := parseExpression_of_compileField (harrays 1)
    rw [toList_withBrackets_succ, withBrackets,
      hraw.parse_quoted_append_brackets (by simpa using hquote)] at hone
    simp at hone
  · intro hquote n
    cases n with
    | zero => exact hread
    | succ n =>
        obtain ⟨-, -, harray⟩ := hraw.parse_withBrackets hquote hparse (n + 1)
        rw [compileField, compile_eq known (getLast?_trimRight_withBrackets raw n)
          (by decide) (by decide), harray]

/-- Brackets behind a record that holds bars in quotes and in parentheses. -/
theorem compileField_withBrackets_iff_record :
    compileField "Record<'a|b',(Issue|null)[]>[][]" ["Issue"] "Label" none =
      .ok (.array (.array (.record (.union [.literal "a|b"])
        (.array (.nullable (.model "Issue")))))) := by
  let e : Expression ["Issue"] :=
    .mk false (.last (.term (.record
      (.mk false (.last (.literal '\x27' "a|b".toList (by decide) (by decide))))
      (.mk false (.last (.term (.group (.mk false (.more
        (.term (.model "Issue" (by decide) (by decide) (by decide) (by decide)))
        (.last (.term (.primitive "null" .null (by decide)))))))))))))
  have hraw : Spaced e.tokens "Record<'a|b',(Issue|null)[]>".toList :=
    spaced_flatten e.tokens
  have hread : compileField "Record<'a|b',(Issue|null)[]>" ["Issue"] "Label" none =
      .ok (.record (.union [.literal "a|b"]) (.array (.nullable (.model "Issue")))) := by
    rw [compileField, compile_of_spaced e hraw]
    rfl
  exact (compileField_withBrackets_iff ⟨by decide, by decide, by decide⟩ hread).mpr
    (by decide) 2

/-- A literal is read alone and refused with brackets behind it. -/
theorem compileField_quoted_brackets :
    compileField "'a'" [] "M" none = .ok (.union [.literal "a"]) ∧
      compileField "'a'[]" [] "M" none =
        .error (.ofFault "'a'[]" "M" "'a'[]" (.unterminatedLiteral "'a'[]")) := by
  have hraw : "'a'".toList = '\x27' :: ['a'] ++ ['\x27'] := by decide
  have hbrackets : "'a'[]".toList = "'a'".toList ++ ['[', ']'] := by decide
  have hlone : Lone "'a'".toList := ⟨by decide, by decide, by decide⟩
  have hlast : (trimRight "'a'[]".toList).getLast? = some ']' := by decide
  have hread := @Lone.parse_quoted_append_brackets [] _ hlone (by decide)
  rw [← hbrackets] at hread
  refine ⟨compileField_quoted hraw (by decide) (by decide) [] "M" none, ?_⟩
  rw [compileField, compile_eq [] hlast (by decide) (by decide), hread]
  rfl

end IntegrationBuild.TypeExpr
