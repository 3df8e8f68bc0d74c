import QueryPad.Proofs.Lexeme.Lookahead
import QueryPad.Token

/-!
# Lexemes on lines of their own

`onePerLine` writes the lexemes of a text one to a line. Main statement: `map_text_all_onePerLine`,
nothing is lost or joined by that, so that this is a normal form of the text. What is not closed runs
to the end of the text and is its last lexeme; any other lexeme has found its end, and then it ends
at a line break as well (`stopsToo_newline`).
-/

namespace QueryPad.Lexeme

open Text (isBlank)

/-! ## Line breaks -/

/-- A line break stops every scan that has not run to the end of the text. -/
theorem stopsToo_newline {more : List Char} (h : more ≠ []) (rest : List Char) :
    StopsToo more ('\n' :: rest) where
  eq_nil hmore := absurd hmore h
  head?_eq d hd hne := absurd (Option.some.inj hd).symm hne
  numberTail_eq_nil previous _ := by
    have hpart : isNumberPart '\n' = false := by decide
    have hsign : isExponentSign previous '\n' rest = false := by simp [isExponentSign]
    rw [numberTail, hpart, hsign]
    rfl
  operatorTail_eq_nil _ := by
    have hoperator : isOperator '\n' = false := by decide
    rw [operatorTail, hoperator]
    rfl

/-! ## The characters of lexemes -/

/-- The characters of a piece that is a lexeme. -/
def Piece.lexeme? : Piece → Option (List Char)
  | .blank _ => none
  | .lexeme cs => some cs

/-- The lexemes of a text, each by its characters. -/
def texts (cs : List Char) : List (List Char) :=
  (pieces cs).filterMap Piece.lexeme?

@[simp] theorem texts_nil : texts [] = [] := by
  simp [texts]

theorem texts_blank {c : Char} (h : isBlank c = true) (rest : List Char) :
    texts (c :: rest) = texts rest := by
  rw [texts, pieces_blank h]
  rfl

/-- The lexeme that the first character opens, and those that it leaves. -/
theorem texts_of_tail {c : Char} {t more : List Char} (hblank : isBlank c = false)
    (h : tail c (t ++ more) = t) : texts (c :: (t ++ more)) = (c :: t) :: texts more := by
  rw [texts, pieces_cons_of_tail hblank h]
  rfl

theorem map_text_place (offset : Nat) (ps : List Piece) :
    (place offset ps).map (·.text) = (ps.filterMap Piece.lexeme?).map String.ofList := by
  induction ps generalizing offset with
  | nil => rfl
  | cons p ps ih => cases p <;> simp [place, Piece.lexeme?, List.filterMap_cons, ih]

/-- The texts of the lexemes are what their characters spell. -/
theorem map_text_all (text : String) :
    (all text).map (·.text) = (texts text.toList).map String.ofList :=
  map_text_place 0 _

/-- A lexeme by itself is the only one. -/
theorem texts_lexeme {c : Char} {t more : List Char} (hblank : isBlank c = false)
    (h : tail c (t ++ more) = t) : texts (c :: t) = [c :: t] := by
  have hend : tail c (t ++ []) = t := (agrees_nil more).stopsToo.tail_eq h
  have htexts := texts_of_tail hblank hend
  rwa [List.append_nil, texts_nil] at htexts

/-- A lexeme that does not run to the end of the text is the first of a line. -/
theorem texts_line {c : Char} {t more : List Char} (hblank : isBlank c = false)
    (h : tail c (t ++ more) = t) (hmore : more ≠ []) (rest : List Char) :
    texts (c :: t ++ '\n' :: rest) = (c :: t) :: texts rest := by
  have hline : tail c (t ++ '\n' :: rest) = t := (stopsToo_newline hmore rest).tail_eq h
  rw [List.cons_append, texts_of_tail hblank hline, texts_blank rfl]

/-- The lexemes of a text that are put on lines of their own are the lexemes of the lines. -/
theorem texts_intercalate_texts (cs : List Char) :
    texts (['\n'].intercalate (texts cs)) = texts cs := by
  fun_induction pieces cs with
  | case1 => simp
  | case2 c rest hblank ih => rw [texts_blank hblank, ih]
  | case3 c rest hblank ih =>
    rw [Bool.not_eq_true] at hblank
    have htail := congrArg (tail c) (tail_append_drop c rest)
    rw [← tail_append_drop c rest, texts_of_tail hblank htail]
    cases hmore : texts (rest.drop (tail c rest).length) with
    | nil => rw [List.intercalate_singleton, texts_lexeme hblank htail]
    | cons next others =>
      -- a lexeme with others behind it did not run to the end of the text
      have hne : rest.drop (tail c rest).length ≠ [] := by
        intro hnil
        rw [hnil, texts_nil] at hmore
        cases hmore
      rw [hmore] at ih
      rw [List.intercalate_cons_cons, List.append_assoc, List.singleton_append,
        texts_line hblank htail hne, ih]

/-! ## Texts -/

/-- The lexemes of a text, each on a line of its own. -/
def onePerLine (text : String) : String :=
  "\n".intercalate ((all text).map (·.text))

theorem toList_onePerLine (text : String) :
    (onePerLine text).toList = ['\n'].intercalate (texts text.toList) := by
  rw [onePerLine, map_text_all, String.toList_intercalate]
  simp

/-- Lexemes that are put on lines of their own are read back as they were, and so are of the same
kinds, however lexemes are classified. -/
theorem map_text_all_onePerLine (text : String) :
    (all (onePerLine text)).map (·.text) = (all text).map (·.text) ∧
      ∀ classify : String → Token.Kind,
        (Token.all classify (onePerLine text)).map (·.kind) =
          (Token.all classify text).map (·.kind) := by
  have htext : (all (onePerLine text)).map (·.text) = (all text).map (·.text) := by
    rw [map_text_all, map_text_all, toList_onePerLine, texts_intercalate_texts]
  refine ⟨htext, ?_⟩
  intro classify
  have hkinds (text : String) : (Token.all classify text).map (·.kind) =
      ((all text).map (·.text)).map classify := by
    simp [Token.all, Token.ofLexeme]
  rw [hkinds, hkinds, htext]

/-- The operator ends where the comment begins, and the string runs to the end of the text. -/
example : onePerLine "a*-- b\n'x y" = "a\n*\n-- b\n'x y" := by decide +kernel

end QueryPad.Lexeme
