import QueryPad.Proofs.Name.Delimited

/-!
# Delimited names that are not closed

The scan takes closing delimiters in pairs, and where it does not meet one that is left over the
lexeme runs to the end of the text: it is the opening delimiter and a name with its closing
delimiters doubled, as a name is while it is being typed. `strip` looks at the first and the last
character only. It leaves such a lexeme as it is unless the name ends in a closing delimiter: then
the second half of the last pair passes for the one that closes, and what `strip` gives is the name.
Main statement: `strip_of_not_closes`.
-/

namespace QueryPad

open Delimited (double)

/-! ## What the scan passes over -/

namespace Lexeme

variable {close : Char}

/-- What the scan passes over without meeting the closing character is a name with its closing
characters doubled. -/
theorem exists_double_of_not_closes {cs : List Char} (h : closes close cs = false) :
    ∃ name, cs = double close name := by
  fun_induction closes close cs with
  | case1 => exact ⟨[], rfl⟩
  | case2 => cases h
  | case3 ds ih =>
    obtain ⟨name, rfl⟩ := ih h
    exact ⟨close :: name, (if_pos rfl).symm⟩
  | case4 => cases h
  | case5 c cs hc ih =>
    obtain ⟨name, rfl⟩ := ih h
    exact ⟨c :: name, (if_neg hc).symm⟩

end Lexeme

/-! ## What is read back -/

namespace Delimited

open Lexeme (Delimiter closes)

variable {k : Char} {name : List Char}

theorem double_append (k : Char) (name more : List Char) :
    double k (name ++ more) = double k name ++ double k more := by
  induction name with
  | nil => rfl
  | cons c name ih =>
    simp only [List.cons_append, double, ih]
    split <;> rfl

/-- Doubling makes no name shorter. -/
theorem length_le_length_double (k : Char) (name : List Char) :
    name.length ≤ (double k name).length := by
  induction name with
  | nil => exact Nat.le_refl _
  | cons c name ih =>
    simp only [double]
    split
    all_goals
      simp only [List.length_cons]
      omega

/-- Doubling keeps the last character. -/
theorem getLast?_double (k : Char) (name : List Char) :
    (double k name).getLast? = name.getLast? := by
  obtain rfl | ⟨first, c, rfl⟩ := List.eq_nil_or_concat name
  · rfl
  · rw [List.concat_eq_append, double_append, List.getLast?_append, List.getLast?_append]
    simp only [double]
    split
    · next hc => simp [hc]
    · rfl

/-- Where a name ends in a closing character, one half of the last pair is enough to read it. -/
theorem collapse_dropLast_double (h : name.getLast? = some k) :
    collapse k (double k name).dropLast = name := by
  obtain ⟨first, rfl⟩ := List.getLast?_eq_some_iff.1 h
  have hlast : double k [k] = [k] ++ [k] := if_pos rfl
  rw [double_append, hlast, ← List.append_assoc, List.dropLast_concat, collapse_double_append]
  rfl

theorem stripChars_opener_double (d : Delimiter) (name : List Char) :
    stripChars (d.opener :: double d.closer name) =
      if name.getLast? = some d.closer then name else d.opener :: double d.closer name := by
  simp only [stripChars, Delimiter.ofOpener?_opener, getLast?_double]
  split
  · next hlast => rw [collapse_dropLast_double hlast]
  · rfl

/-- A name is not the same as what is typed of it between delimiters. -/
theorem ne_opener_double (d : Delimiter) (name : List Char) :
    name ≠ d.opener :: double d.closer name := by
  intro heq
  have hle := length_le_length_double d.closer name
  have hlength := congrArg List.length heq
  rw [List.length_cons] at hlength
  omega

/-- A lexeme that an opening delimiter begins and whose closing delimiter the scan does not meet is
the delimiter and a name with its closing delimiters doubled. It is what the names in sight are
searched for, exactly if the name does not end in a closing delimiter; otherwise the name is. -/
theorem strip_of_not_closes {text : String} {l : Lexeme} (hl : l ∈ Lexeme.all text)
    {d : Delimiter} {left rest : List Char}
    (hpart : Text.part? text.toList l.start = some (left, d.opener :: rest))
    (hopen : closes d.closer rest = false) :
    ∃ name : String,
      l.text = String.ofList (d.opener :: double d.closer name.toList) ∧
        strip l.text = (if name.toList.getLast? = some d.closer then name else l.text) ∧
        (strip l.text = l.text ↔ name.toList.getLast? ≠ some d.closer) ∧
        ∀ table : NameTable, Grammar.sql.kindIn table l.text =
          if table.contains (strip l.text) then .variable else .identifier := by
  obtain ⟨left, c, rest, hpart', htext⟩ := Lexeme.exists_of_mem_all hl
  rw [hpart, Option.some.injEq, Prod.mk.injEq, List.cons.injEq] at hpart'
  obtain ⟨rfl, rfl, rfl⟩ := hpart'
  rw [Lexeme.tail_opener, Lexeme.quotedTail_of_not_closes hopen] at htext
  obtain ⟨name, rfl⟩ := Lexeme.exists_double_of_not_closes hopen
  have hstrip : strip l.text =
      if name.getLast? = some d.closer then String.ofList name else l.text := by
    rw [htext, strip, String.toList_ofList, stripChars_opener_double, apply_ite String.ofList]
  refine ⟨String.ofList name, ?_, ?_, ?_, ?_⟩
  · rw [String.toList_ofList, htext]
  · rw [String.toList_ofList, hstrip]
  · rw [String.toList_ofList, hstrip]
    split
    · next hlast =>
      refine iff_of_false ?_ (not_not_intro hlast)
      rw [htext, String.ofList_inj]
      exact ne_opener_double d name
    · next hlast => exact iff_of_true rfl hlast
  · intro table
    rw [htext]
    exact kindIn_opener table d _

/-- A name between brackets of which a pair and more has been typed. -/
theorem strip_of_not_closes_bracket :
    { text := "[a]]b", start := 2 } ∈ Lexeme.all "x [a]]b" ∧
      Lexeme.closes ']' "a]]b".toList = false ∧
      ∃ name : String,
        "[a]]b" = String.ofList ('[' :: double ']' name.toList) ∧
          strip "[a]]b" = (if name.toList.getLast? = some ']' then name else "[a]]b") ∧
          (strip "[a]]b" = "[a]]b" ↔ name.toList.getLast? ≠ some ']') ∧
          ∀ table : NameTable, Grammar.sql.kindIn table "[a]]b" =
            if table.contains (strip "[a]]b") then .variable else .identifier := by
  have hlexeme : ({ text := "[a]]b", start := 2 } : Lexeme) ∈ Lexeme.all "x [a]]b" := by
    decide +kernel
  have hopen : Lexeme.closes ']' "a]]b".toList = false := by decide +kernel
  have hpart : Text.part? "x [a]]b".toList 2 = some (['x', ' '], '[' :: "a]]b".toList) := by
    decide +kernel
  exact ⟨hlexeme, hopen, strip_of_not_closes hlexeme (d := .bracket) hpart hopen⟩

/-- Up to the pair, the lexeme is not closed either, and yet it is the name `a]` that is searched
for and found. -/
theorem strip_bracket_of_pair :
    { text := "[a]]", start := 0 } ∈ Lexeme.all "[a]]" ∧
      Text.part? "[a]]".toList 0 = some ([], Delimiter.bracket.opener :: "a]]".toList) ∧
      Lexeme.closes Delimiter.bracket.closer "a]]".toList = false ∧
      strip "[a]]" = "a]" ∧ strip "[a]]" ≠ "[a]]" ∧
      Grammar.sql.tokensIn (NameTable.ofList .insensitive [⟨"a]", .column⟩]) "[a]]" =
        [{ kind := .variable, text := "[a]]", start := 0, stop := 4 }] := by
  decide +kernel

end Delimited

end QueryPad
