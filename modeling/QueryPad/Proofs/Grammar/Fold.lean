import QueryPad.Grammar.Sql
import QueryPad.Proofs.Lexeme.Fold

/-!
# Highlighting and the case of letters

Words of the vocabulary match in either case, and names do if they are compared so. Main statement:
`tokensIn_caseVariant`, where names are compared without regard to case, texts that differ in nothing
but the case of letters are highlighted alike, in whatever case the names in sight are spelled. What
the grammar takes a text for does not depend on case (`kindOf_fold`), and to take the delimiters off
a name commutes with folding (`strip_fold`).
-/

namespace QueryPad

open Text (fold)

/-! ## Delimiters -/

namespace Delimited

open Lexeme (Delimiter IsCaseless isCaseless_of_all)

theorem collapse_map_toLower {k : Char} (hk : IsCaseless k) (cs : List Char) :
    collapse k (cs.map Char.toLower) = (collapse k cs).map Char.toLower := by
  have hsame : k.toLower = k := (hk k).2 rfl
  fun_induction collapse k cs with
  | case1 => rfl
  | case2 c => rfl
  | case3 c d cs hpair ih =>
    obtain ⟨rfl, rfl⟩ := hpair
    simp only [List.map_cons, hsame, collapse, and_self, if_true, ih]
  | case4 c d cs hpair ih =>
    have hpair' : ¬ (c.toLower = k ∧ d.toLower = k) := by rwa [hk c, hk d]
    rw [List.map_cons] at ih
    simp only [List.map_cons, collapse, if_neg hpair', ih]

theorem isCaseless_closer (delimiter : Delimiter) : IsCaseless delimiter.closer := by
  cases delimiter <;> exact isCaseless_of_all (by decide)

/-- To take off the delimiters and then fold is to fold first. -/
theorem stripChars_map_toLower (cs : List Char) :
    stripChars (cs.map Char.toLower) = (stripChars cs).map Char.toLower := by
  cases cs with
  | nil => rfl
  | cons first rest =>
    rw [List.map_cons, stripChars, stripChars, Lexeme.ofOpener?_toLower]
    cases Delimiter.ofOpener? first with
    | none => rfl
    | some delimiter =>
      have hcloser := isCaseless_closer delimiter
      have hlast : (rest.map Char.toLower).getLast? = some delimiter.closer ↔
          rest.getLast? = some delimiter.closer := by
        rw [List.getLast?_map, Option.map_eq_some_iff]
        simp only [hcloser _, exists_eq_right]
      simp only [hlast, ← List.map_dropLast, collapse_map_toLower hcloser,
        apply_ite (List.map Char.toLower), List.map_cons]

theorem strip_fold (text : String) : strip (fold text) = fold (strip text) := by
  rw [strip, Text.toList_fold, stripChars_map_toLower, strip, fold, String.toList_ofList]

end Delimited

/-! ## Names -/

/-- The names of two identifiers differ in nothing but the case of letters. -/
def Identifier.IsCaseVariant (i i' : Identifier) : Prop :=
  Text.IsCaseVariant i.name i'.name

instance (i i' : Identifier) : Decidable (i.IsCaseVariant i') :=
  inferInstanceAs (Decidable (Text.IsCaseVariant i.name i'.name))

namespace NameTable

/-- Where names are compared without regard to case, a table holds a name if it holds the name in
lower case. -/
theorem contains_ofList_insensitive {identifiers : List Identifier} {name : String} :
    (ofList .insensitive identifiers).contains name = true ↔
      fold name ∈ identifiers.map fun i => fold i.name := by
  rw [contains_ofList, List.mem_map]
  rfl

/-- Such a table does not depend on how the names are spelled that go in. -/
theorem contains_ofList_caseVariant {identifiers identifiers' : List Identifier}
    (h : List.Forall₂ Identifier.IsCaseVariant identifiers identifiers') (name : String) :
    (ofList .insensitive identifiers').contains name =
      (ofList .insensitive identifiers).contains name := by
  have hfold : identifiers'.map (fun i => fold i.name) = identifiers.map fun i => fold i.name := by
    induction h with
    | nil => rfl
    | cons hi _ ih => rw [List.map_cons, List.map_cons, Text.IsCaseVariant.fold_eq hi, ih]
  rw [Bool.eq_iff_iff, contains_ofList_insensitive, contains_ofList_insensitive, hfold]

theorem contains_fold (identifiers : List Identifier) (name : String) :
    (ofList .insensitive identifiers).contains (fold name) =
      (ofList .insensitive identifiers).contains name := by
  rw [Bool.eq_iff_iff, contains_ofList_insensitive, contains_ofList_insensitive, Text.fold_fold]

end NameTable

/-! ## Kinds -/

namespace Grammar

/-- The grammar takes a text in lower case for what it is. -/
theorem kindOf_fold (text : String) : sql.kindOf (fold text) = sql.kindOf text := by
  show Sql.kindOf (fold text) = Sql.kindOf text
  unfold Sql.kindOf
  rw [Text.toList_fold, Text.fold_fold]
  cases text.toList with
  | nil => rfl
  | cons first rest =>
    have hcomment := Lexeme.opensComment_map_toLower (first :: rest)
    have hquote : first.toLower = Lexeme.stringQuote ↔ first = Lexeme.stringQuote :=
      Lexeme.isCaseless_of_all (by decide) first
    rw [List.map_cons] at hcomment ⊢
    simp only [hcomment, hquote, Lexeme.isDigit_toLower, Lexeme.ofOpener?_toLower,
      Lexeme.isWordStart_toLower, Lexeme.isOperator_toLower]

/-- So it is with the names laid over it, where these are compared without regard to case. -/
theorem kindIn_fold (identifiers : List Identifier) (text : String) :
    sql.kindIn (.ofList .insensitive identifiers) (fold text) =
      sql.kindIn (.ofList .insensitive identifiers) text := by
  rw [kindIn, kindIn, kindOf_fold, Delimited.strip_fold, NameTable.contains_fold]

theorem kindIn_congr {table table' : NameTable}
    (h : ∀ name, table'.contains name = table.contains name) (text : String) :
    sql.kindIn table' text = sql.kindIn table text := by
  rw [kindIn, kindIn, h]

/-- Texts that differ in nothing but the case of letters have their lexemes at the same places, and
these are of the same kinds; and so are their tokens where names are compared without regard to
case, even if the names in sight differ in the case of letters too. -/
theorem tokensIn_caseVariant {text text' : String} (htext : Text.IsCaseVariant text text')
    {identifiers identifiers' : List Identifier}
    (hnames : List.Forall₂ Identifier.IsCaseVariant identifiers identifiers') :
    (Lexeme.all text').map (fun l => (sql.kindOf l.text, l.start, l.stop)) =
        (Lexeme.all text).map (fun l => (sql.kindOf l.text, l.start, l.stop)) ∧
      (sql.tokensIn (.ofList .insensitive identifiers') text').map
          (fun t => (t.kind, t.start, t.stop)) =
        (sql.tokensIn (.ofList .insensitive identifiers) text).map
          (fun t => (t.kind, t.start, t.stop)) := by
  refine ⟨Lexeme.map_all_of_isCaseVariant kindOf_fold htext, ?_⟩
  have htable := NameTable.contains_ofList_caseVariant hnames
  have hkinds := Lexeme.map_all_of_isCaseVariant (kindIn_fold identifiers) htext
  simp only [tokensIn, Token.all, List.map_map, Function.comp_def, Token.ofLexeme,
    kindIn_congr htable]
  exact hkinds

theorem tokensIn_caseVariant_sales :
    let text := "Select [Grand]]Total], 1E-5 from sales"
    let text' := "SELECT [gRAND]]tOTAL], 1e-5 FROM Sales"
    let identifiers : List Identifier := [⟨"SALES", .sheet⟩, ⟨"grand]total", .column⟩]
    let identifiers' : List Identifier := [⟨"saleS", .sheet⟩, ⟨"Grand]total", .column⟩]
    Text.IsCaseVariant text text' ∧
      List.Forall₂ Identifier.IsCaseVariant identifiers identifiers' ∧
      (Lexeme.all text').map (fun l => (sql.kindOf l.text, l.start, l.stop)) =
        (Lexeme.all text).map (fun l => (sql.kindOf l.text, l.start, l.stop)) ∧
      (sql.tokensIn (.ofList .insensitive identifiers') text').map
          (fun t => (t.kind, t.start, t.stop)) =
        (sql.tokensIn (.ofList .insensitive identifiers) text).map
          (fun t => (t.kind, t.start, t.stop)) := by
  intro text text' identifiers identifiers'
  have htext : Text.IsCaseVariant text text' := by decide +kernel
  have hnames : List.Forall₂ Identifier.IsCaseVariant identifiers identifiers' := by
    decide +kernel
  exact ⟨htext, hnames, tokensIn_caseVariant htext hnames⟩

end Grammar

end QueryPad
