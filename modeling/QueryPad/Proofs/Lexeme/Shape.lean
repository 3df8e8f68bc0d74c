import Mathlib.Logic.Basic
import QueryPad.Grammar.Sql
import QueryPad.Proofs.Lexeme.Ending
import QueryPad.Proofs.Lexeme.Lookahead

/-!
# The shapes of lexemes

What a lexeme looks like, said without the scans that find it: `Shape.Fits` tells for each shape how
a lexeme begins and why it ends where it does, given what follows it in the text. Main statement:
`exists_shape`, every lexeme is of exactly one shape, and the grammar, which sees the lexeme alone,
takes it for what its shape says. Lexer and grammar agree because both go by what the first character
opens (`Shape.Begins.opening_eq`, `kindOf_eq_kind_opening`), and that is the same with or without the
text behind the lexeme (`opening_tail`).
-/

namespace QueryPad.Lexeme

/-! ## Shapes -/

/-- What a lexeme can look like. -/
inductive Shape
  | lineComment
  | blockComment
  | string
  /-- A name between delimiters. -/
  | name (delimiter : Delimiter)
  | number
  | word
  | operator
  /-- A character by itself. -/
  | single
  deriving DecidableEq, Repr

/-- The characters of a lexeme are of a shape, before those that follow it. -/
def Shape.Fits (cs more : List Char) : Shape → Prop
  | .lineComment => ['-', '-'] <+: cs ∧ '\n' ∉ cs ∧ (more = [] ∨ more.head? = some '\n')
  | .blockComment => ∃ t, cs = '/' :: '*' :: t ∧ EndsComment t more
  | .string => ∃ t, cs = stringQuote :: t ∧ EndsQuote stringQuote t more
  | .name d => ∃ t, cs = d.opener :: t ∧ EndsQuote d.closer t more
  | .number => ∃ c t, cs = c :: t ∧ c.isDigit = true ∧
      IsRun (fun p c rest => isNumberPart c || isExponentSign p c rest) cs more
  | .word => ∃ c t, cs = c :: t ∧ isWordStart c = true ∧ IsRun (fun _ c _ => isWordPart c) cs more
  | .operator => ∃ c t, cs = c :: t ∧ isOperator c = true ∧ opensComment (cs ++ more) = false ∧
      IsRun (fun _ c rest => isOperator c && !opensComment (c :: rest)) cs more
  | .single => ∃ c, cs = [c] ∧ c ≠ stringQuote ∧ (∀ d, c ≠ Delimiter.opener d) ∧
      c.isDigit = false ∧ isWordStart c = false ∧ isOperator c = false

/-- What a lexeme of the shape is. -/
def Shape.kind (text : String) : Shape → Token.Kind
  | .lineComment | .blockComment => .comment
  | .string | .number => .literal
  | .name _ => .identifier
  | .word => Vocabulary.kindOf (Text.fold text)
  | .operator => .operator
  | .single => .other

/-- A lexeme of the shape begins with `c`, before `rest`. -/
def Shape.Begins (c : Char) (rest : List Char) : Shape → Prop
  | .lineComment => opensLineComment (c :: rest) = true
  | .blockComment => opensBlockComment (c :: rest) = true
  | .string => c = stringQuote
  | .name d => c = d.opener
  | .number => c.isDigit = true
  | .word => isWordStart c = true
  | .operator => isOperator c = true ∧ opensComment (c :: rest) = false
  | .single => c ≠ stringQuote ∧ (∀ d, c ≠ Delimiter.opener d) ∧
      c.isDigit = false ∧ isWordStart c = false ∧ isOperator c = false

/-- What the first character of a lexeme of the shape opens. -/
def Shape.opening : Shape → Opening
  | .lineComment => .lineComment
  | .blockComment => .blockComment
  | .string => .quoted stringQuote
  | .name d => .quoted d.closer
  | .number => .number
  | .word => .word
  | .operator => .operator
  | .single => .single

theorem Delimiter.closer_injective : Function.Injective Delimiter.closer := by
  intro d d' h
  cases d <;> cases d' <;> first | rfl | exact absurd h (by decide)

theorem Delimiter.closer_ne_stringQuote (d : Delimiter) : d.closer ≠ stringQuote := by
  cases d <;> decide

theorem Shape.opening_injective : Function.Injective Shape.opening := by
  intro s s' h
  cases s with
  | string =>
    cases s' with
    | string => rfl
    | name d => exact absurd (Opening.quoted.inj h).symm d.closer_ne_stringQuote
    | _ => cases h
  | name d =>
    cases s' with
    | string => exact absurd (Opening.quoted.inj h) d.closer_ne_stringQuote
    | name d' => exact congrArg name (Delimiter.closer_injective (Opening.quoted.inj h))
    | _ => cases h
  | _ => cases s' <;> first | rfl | cases h

variable {c : Char} {rest : List Char} {s : Shape}

/-! ## Classes of characters -/

/-- A character of a class is none of those outside it. -/
theorem ne_of_class {p : Char → Bool} {ds : List Char} {d : Char} (hc : p c = true)
    (h : ds.any p = false) (hd : d ∈ ds) : c ≠ d := by
  rintro rfl
  exact List.any_eq_false.1 h c hd hc

/-- A character of a class that has no quotes in it opens nothing quoted. -/
theorem unquoted_of_class {p : Char → Bool} (hc : p c = true)
    (h : [stringQuote, '\x22', '\x60', '['].any p = false) :
    c ≠ stringQuote ∧ ∀ d, c ≠ Delimiter.opener d := by
  refine ⟨ne_of_class hc h (by decide), fun d => ne_of_class hc h ?_⟩
  cases d <;> decide

/-- A character of a class that has no dash and no slash in it begins no comment. -/
theorem opensComment_of_class {p : Char → Bool} (hc : p c = true)
    (h : ['-', '/'].any p = false) : opensComment (c :: rest) = false := by
  rw [← Bool.not_eq_true, opensComment_iff]
  rintro (⟨_, heq⟩ | ⟨_, heq⟩)
  · exact ne_of_class hc h (by decide : '-' ∈ ['-', '/']) (List.cons.inj heq).1
  · exact ne_of_class hc h (by decide : '/' ∈ ['-', '/']) (List.cons.inj heq).1

/-- No word begins with a digit. -/
theorem isDigit_of_isWordStart (h : isWordStart c = true) : c.isDigit = false := by
  rw [← Bool.not_eq_true]
  intro hdigit
  have hword : (decide (c.val ≥ 65 ∧ c.val ≤ 90) || (c.val ≥ 97 && c.val ≤ 122) || c = '_' ||
      ('\x7f' ≤ c && c ≤ '\uffff')) = true := h
  have hdigit : (c.val ≥ 48 && c.val ≤ 57) = true := hdigit
  simp only [Bool.or_eq_true, Bool.and_eq_true, decide_eq_true_eq, ge_iff_le, Char.le_def,
    UInt32.le_iff_toNat_le, Char.reduceVal, UInt32.reduceToNat] at hword hdigit
  rcases hword with ((hupper | hlower) | rfl) | hother
  · omega
  · omega
  · simp only [Char.reduceVal, UInt32.reduceToNat] at hdigit
    omega
  · omega

/-- Operators are apart from numbers and words. -/
theorem isDigit_isWordStart_of_isOperator (h : isOperator c = true) :
    c.isDigit = false ∧ isWordStart c = false := by
  have hall : operatorChars.any (fun d => d.isDigit || isWordStart d) = false := by decide
  have hnot := List.any_eq_false.1 hall c (List.contains_iff_mem.1 h)
  rwa [Bool.not_eq_true, Bool.or_eq_false_iff] at hnot

/-! ## How a lexeme begins -/

/-- What a character opens that begins neither a comment nor anything quoted. -/
theorem opening_of_unquoted (hcomment : opensComment (c :: rest) = false)
    (hunquoted : c ≠ stringQuote ∧ ∀ d, c ≠ Delimiter.opener d) :
    opening c rest =
      if c.isDigit then .number
      else if isWordStart c then .word
      else if isOperator c then .operator
      else .single := by
  have hopener : Delimiter.ofOpener? c = none := by
    cases hd : Delimiter.ofOpener? c with
    | none => rfl
    | some d => exact absurd (Delimiter.opener_of_ofOpener? hd).symm (hunquoted.2 d)
  rw [opensComment, Bool.or_eq_false_iff] at hcomment
  simp only [opening, hcomment, hunquoted.1, hopener, Bool.false_eq_true, if_false]

/-- A lexeme is opened as its shape says. -/
theorem Shape.Begins.opening_eq (h : s.Begins c rest) : Lexeme.opening c rest = s.opening := by
  cases s with
  | lineComment => exact if_pos h
  | blockComment =>
    obtain ⟨t, heq⟩ := opensBlockComment_iff.1 h
    cases heq
    rfl
  | string =>
    cases h
    rfl
  | name d =>
    cases h
    cases d <;> rfl
  | number =>
    rw [opening_of_unquoted (opensComment_of_class h (by decide)) (unquoted_of_class h (by decide))]
    exact if_pos h
  | word =>
    rw [opening_of_unquoted (opensComment_of_class h (by decide)) (unquoted_of_class h (by decide)),
      isDigit_of_isWordStart h]
    exact if_pos h
  | operator =>
    obtain ⟨hdigit, hword⟩ := isDigit_isWordStart_of_isOperator h.1
    rw [opening_of_unquoted h.2 (unquoted_of_class h.1 (by decide)), hdigit, hword]
    exact if_pos h.1
  | single =>
    obtain ⟨hquote, hopener, hdigit, hword, hoperator⟩ := h
    have hnot : (!isOperator c) = true := by rw [hoperator, Bool.not_false]
    have hcomment : opensComment (c :: rest) = false :=
      opensComment_of_class (p := fun c => !isOperator c) hnot (by decide)
    rw [opening_of_unquoted hcomment ⟨hquote, hopener⟩, hdigit, hword, hoperator]
    rfl

/-- Whatever a text begins with is the beginning of some shape. -/
theorem exists_begins (c : Char) (rest : List Char) : ∃ s : Shape, s.Begins c rest := by
  by_cases hline : opensLineComment (c :: rest) = true
  · exact ⟨.lineComment, hline⟩
  by_cases hblock : opensBlockComment (c :: rest) = true
  · exact ⟨.blockComment, hblock⟩
  by_cases hquote : c = stringQuote
  · exact ⟨.string, hquote⟩
  by_cases hopener : ∃ d, c = Delimiter.opener d
  · obtain ⟨d, hd⟩ := hopener
    exact ⟨.name d, hd⟩
  by_cases hdigit : c.isDigit = true
  · exact ⟨.number, hdigit⟩
  by_cases hword : isWordStart c = true
  · exact ⟨.word, hword⟩
  rw [Bool.not_eq_true] at hline hblock hdigit hword
  by_cases hoperator : isOperator c = true
  · exact ⟨.operator, hoperator, by rw [opensComment, hline, hblock, Bool.or_false]⟩
  · rw [Bool.not_eq_true] at hoperator
    exact ⟨.single, hquote, fun d hd => hopener ⟨d, hd⟩, hdigit, hword, hoperator⟩

/-- What fits a shape begins as the shape does. -/
theorem Shape.Fits.begins {t more : List Char} (h : s.Fits (c :: t) more) :
    s.Begins c (t ++ more) := by
  cases s with
  | lineComment =>
    obtain ⟨⟨u, hu⟩, -⟩ := h
    cases hu
    rfl
  | blockComment =>
    obtain ⟨u, hu, -⟩ := h
    cases hu
    rfl
  | string | name =>
    obtain ⟨u, hu, -⟩ := h
    exact (List.cons.inj hu).1
  | number | word =>
    obtain ⟨c, u, hu, hc, -⟩ := h
    cases hu
    exact hc
  | operator =>
    obtain ⟨c, u, hu, hc, hcomment, -⟩ := h
    cases hu
    exact ⟨hc, hcomment⟩
  | single =>
    obtain ⟨c, hu, hc⟩ := h
    cases hu
    exact hc

/-- A lexeme fits the shape that it begins as. -/
theorem Shape.Begins.exists_fits (h : s.Begins c rest) :
    ∃ more, rest = tail c rest ++ more ∧ s.Fits (c :: tail c rest) more := by
  rw [tail, h.opening_eq]
  cases s with
  | lineComment =>
    obtain ⟨t, heq⟩ := opensLineComment_iff.1 h
    cases heq
    obtain ⟨more, ht, hnewline, hmore⟩ := exists_takeWhile_ne '\n' t
    refine ⟨more, congrArg ('-' :: ·) ht, List.prefix_append ['-', '-'] _, ?_, hmore⟩
    exact List.not_mem_cons_of_ne_of_not_mem (by decide)
      (List.not_mem_cons_of_ne_of_not_mem (by decide) hnewline)
  | blockComment =>
    obtain ⟨t, heq⟩ := opensBlockComment_iff.1 h
    cases heq
    obtain ⟨more, ht, hends⟩ := exists_endsComment t
    exact ⟨more, congrArg ('*' :: ·) ht, _, rfl, hends⟩
  | string =>
    cases h
    obtain ⟨more, hrest, hends⟩ := exists_endsQuote stringQuote rest
    exact ⟨more, hrest, _, rfl, hends⟩
  | name d =>
    cases h
    obtain ⟨more, hrest, hends⟩ := exists_endsQuote d.closer rest
    exact ⟨more, hrest, _, rfl, hends⟩
  | number =>
    obtain ⟨more, hrest, hrun⟩ := exists_isRun _ c rest
    rw [← numberTail_eq_run] at hrest hrun
    exact ⟨more, hrest, c, _, rfl, h, hrun⟩
  | word =>
    obtain ⟨more, hrest, hrun⟩ := exists_isRun _ c rest
    rw [← takeWhile_eq_run] at hrest hrun
    exact ⟨more, hrest, c, _, rfl, h, hrun⟩
  | operator =>
    obtain ⟨more, hrest, hrun⟩ := exists_isRun _ c rest
    rw [← operatorTail_eq_run] at hrest hrun
    have hcomment : opensComment (c :: operatorTail rest ++ more) = false := by
      rw [List.cons_append, ← hrest]
      exact h.2
    exact ⟨more, hrest, c, _, rfl, h.1, hcomment, hrun⟩
  | single => exact ⟨rest, rfl, c, rfl, h⟩

/-! ## What the grammar takes a lexeme for -/

/-- The first character of a lexeme opens the same without what follows the lexeme. -/
theorem opening_tail (c : Char) (rest : List Char) : opening c (tail c rest) = opening c rest := by
  obtain ⟨more, hrest⟩ := tail_isPrefix c rest
  have htail : tail c (tail c rest ++ more) = tail c rest := by rw [hrest]
  have hopening := (agrees_nil more).stopsToo.opening_eq htail
  rwa [List.append_nil, hrest] at hopening

/-- What the grammar takes a lexeme for that is opened so. -/
def Opening.kind (text : String) : Opening → Token.Kind
  | .lineComment | .blockComment => .comment
  | .quoted close => if close = stringQuote then .literal else .identifier
  | .number => .literal
  | .word => Vocabulary.kindOf (Text.fold text)
  | .operator => .operator
  | .single => .other

theorem Shape.kind_opening (s : Shape) (text : String) : s.opening.kind text = s.kind text := by
  cases s with
  | name d => exact if_neg d.closer_ne_stringQuote
  | _ => rfl

/-- The grammar goes by what the first character opens. -/
theorem kindOf_eq_kind_opening (c : Char) (rest : List Char) :
    Grammar.sql.kindOf (String.ofList (c :: rest)) =
      (opening c rest).kind (String.ofList (c :: rest)) := by
  show Grammar.Sql.kindOf _ = _
  cases hopener : Delimiter.ofOpener? c with
  | some d =>
    cases Delimiter.opener_of_ofOpener? hopener
    rw [Grammar.Sql.kindOf, String.toList_ofList]
    cases d <;> rfl
  | none =>
    simp only [Grammar.Sql.kindOf, String.toList_ofList, opening, opensComment, hopener,
      apply_ite (Opening.kind _)]
    by_cases hquote : c = stringQuote
    · cases hquote
      rfl
    · simp only [hquote, decide_false, Bool.false_or, Option.isSome_none, if_false,
        Bool.false_eq_true]
      cases opensLineComment (c :: rest) <;> cases opensBlockComment (c :: rest) <;> rfl

/-- What fits two shapes fits but one. -/
theorem Shape.Fits.unique {cs more : List Char} {s' : Shape} (h : s.Fits cs more)
    (h' : s'.Fits cs more) (hne : cs ≠ []) : s' = s := by
  obtain ⟨c, t, rfl⟩ := List.exists_cons_of_ne_nil hne
  exact Shape.opening_injective (h'.begins.opening_eq.symm.trans h.begins.opening_eq)

/-- A lexeme stands in its text as one of the shapes. -/
theorem exists_fits_of_mem_all {text : String} {l : Lexeme} (hl : l ∈ all text) :
    ∃ left more, text.toList = left ++ (l.text.toList ++ more) ∧ Text.width left = l.start ∧
      ∃ s : Shape, s.Fits l.text.toList more := by
  obtain ⟨left, c, rest, hpart, htext⟩ := exists_of_mem_all hl
  obtain ⟨heq, hstart⟩ := Text.append_of_part? hpart
  obtain ⟨s, hbegins⟩ := exists_begins c rest
  obtain ⟨more, hrest, hfits⟩ := hbegins.exists_fits
  rw [htext, String.toList_ofList]
  refine ⟨left, more, ?_, hstart, s, hfits⟩
  rw [heq, List.cons_append, ← hrest]

/-- Every lexeme of a text is of exactly one shape, and the grammar takes it for what the shape
says. -/
theorem exists_shape {text : String} {l : Lexeme} (hl : l ∈ all text) :
    ∃ left more, text.toList = left ++ (l.text.toList ++ more) ∧ Text.width left = l.start ∧
      ∃ s : Shape, s.Fits l.text.toList more ∧
        (∀ s' : Shape, s'.Fits l.text.toList more → s' = s) ∧
        Grammar.sql.kindOf l.text = s.kind l.text := by
  obtain ⟨left, c, rest, hpart, htext⟩ := exists_of_mem_all hl
  obtain ⟨heq, hstart⟩ := Text.append_of_part? hpart
  obtain ⟨s, hbegins⟩ := exists_begins c rest
  obtain ⟨more, hrest, hfits⟩ := hbegins.exists_fits
  rw [htext, String.toList_ofList]
  refine ⟨left, more, ?_, hstart, s, hfits, ?_, ?_⟩
  · rw [heq, List.cons_append, ← hrest]
  · intro s' hfits'
    have hbegins' := hfits'.begins
    rw [← hrest] at hbegins'
    exact Shape.opening_injective (hbegins'.opening_eq.symm.trans hbegins.opening_eq)
  · rw [kindOf_eq_kind_opening, opening_tail, hbegins.opening_eq, Shape.kind_opening]

/-- The operator in the middle stops before the dash that begins a comment, and the grammar takes it
for an operator though it begins with a dash itself. -/
theorem exists_shape_minus :
    ({ text := "-*", start := 1 } : Lexeme) ∈ all "x-*--y" ∧
      ∃ left more, "x-*--y".toList = left ++ ("-*".toList ++ more) ∧ Text.width left = 1 ∧
        ∃ s : Shape, s.Fits "-*".toList more ∧ (∀ s' : Shape, s'.Fits "-*".toList more → s' = s) ∧
          Grammar.sql.kindOf "-*" = s.kind "-*" := by
  have hl : ({ text := "-*", start := 1 } : Lexeme) ∈ all "x-*--y" := by decide +kernel
  exact ⟨hl, exists_shape hl⟩

end QueryPad.Lexeme
