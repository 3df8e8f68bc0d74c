import QueryPad.Lexeme.Alphabet
import QueryPad.Text.Property

/-!
# The pieces of a text

A text falls into pieces: blank characters and lexemes. Any text does, since a string, a delimited
name or a comment that is not closed runs to the end. `tail` says which of the characters behind
the first of a lexeme belong to it. Main statement: `flatten_pieces`, the pieces put together are
the text.
-/

namespace QueryPad.Lexeme

/-! ## What the first characters open -/

/-- What a lexeme is, by the characters it begins with. -/
inductive Opening
  | lineComment
  | blockComment
  /-- A string or a delimited name, up to the closing character. -/
  | quoted (close : Char)
  | number
  | word
  | operator
  /-- A character that is a lexeme by itself. -/
  | single
  deriving DecidableEq, Repr

/-- What a character opens, given what follows it. -/
def opening (c : Char) (rest : List Char) : Opening :=
  if opensLineComment (c :: rest) then .lineComment
  else if opensBlockComment (c :: rest) then .blockComment
  else if c = stringQuote then .quoted stringQuote
  else match Delimiter.ofOpener? c with
    | some delimiter => .quoted delimiter.closer
    | none =>
      if c.isDigit then .number
      else if isWordStart c then .word
      else if isOperator c then .operator
      else .single

/-! ## How far a lexeme runs -/

/-- Up to and with the closing character, where two closing characters in a row stand for one in
the text. -/
def quotedTail (close : Char) : List Char → List Char
  | [] => []
  | c :: cs =>
    if c = close then
      match cs with
      | [] => [c]
      | d :: ds => if d = close then c :: d :: quotedTail close ds else [c]
    else c :: quotedTail close cs

/-- Up to and with the terminator of a comment. -/
def commentTail : List Char → List Char
  | '*' :: '/' :: _ => ['*', '/']
  | c :: cs => c :: commentTail cs
  | [] => []

/-- Whether a character is the sign of an exponent, by the characters on both sides. -/
def isExponentSign (previous c : Char) (rest : List Char) : Bool :=
  (c = '+' || c = '-') && (previous = 'e' || previous = 'E') && rest.head?.any Char.isDigit

/-- The characters that go on with a number behind a given one. -/
def numberTail (previous : Char) : List Char → List Char
  | [] => []
  | c :: cs =>
    if isNumberPart c || isExponentSign previous c cs then c :: numberTail c cs else []

/-- The characters that go on with an operator; a comment ends it. -/
def operatorTail : List Char → List Char
  | [] => []
  | c :: cs => if isOperator c && !opensComment (c :: cs) then c :: operatorTail cs else []

/-- The characters behind the first that belong to its lexeme. -/
def Opening.tail (c : Char) (rest : List Char) : Opening → List Char
  | .lineComment => rest.takeWhile (· ≠ '\n')
  | .blockComment => rest.take 1 ++ commentTail (rest.drop 1)
  | .quoted close => quotedTail close rest
  | .number => numberTail c rest
  | .word => rest.takeWhile isWordPart
  | .operator => operatorTail rest
  | .single => []

/-- The characters behind `c` that belong to the lexeme it opens. -/
def tail (c : Char) (rest : List Char) : List Char :=
  (opening c rest).tail c rest

theorem quotedTail_cons_of_ne {close c : Char} (h : c ≠ close) (cs : List Char) :
    quotedTail close (c :: cs) = c :: quotedTail close cs := by
  rw [quotedTail.eq_def]
  exact if_neg h

/-- Two closing characters in a row do not close. -/
theorem quotedTail_doubled (close : Char) (cs : List Char) :
    quotedTail close (close :: close :: cs) = close :: close :: quotedTail close cs := by
  rw [quotedTail.eq_def]
  exact (if_pos rfl).trans (if_pos rfl)

/-- A closing character that no other follows closes. -/
theorem quotedTail_closed {close : Char} {cs : List Char} (h : cs.head? ≠ some close) :
    quotedTail close (close :: cs) = [close] := by
  rw [quotedTail.eq_def]
  refine (if_pos rfl).trans ?_
  cases cs with
  | nil => rfl
  | cons d ds => exact if_neg fun hd => h (congrArg some hd)

theorem commentTail_closed (cs : List Char) : commentTail ('*' :: '/' :: cs) = ['*', '/'] := rfl

theorem commentTail_cons {c : Char} {cs : List Char} (h : ¬ (c = '*' ∧ cs.head? = some '/')) :
    commentTail (c :: cs) = c :: commentTail cs := by
  rw [commentTail]
  rintro ds rfl rfl
  exact h ⟨rfl, rfl⟩

theorem quotedTail_isPrefix (close : Char) (cs : List Char) : quotedTail close cs <+: cs := by
  fun_induction quotedTail close cs <;> simp_all

theorem commentTail_isPrefix (cs : List Char) : commentTail cs <+: cs := by
  fun_induction commentTail cs <;> simp_all

theorem numberTail_isPrefix (previous : Char) (cs : List Char) :
    numberTail previous cs <+: cs := by
  fun_induction numberTail previous cs <;> simp_all

theorem operatorTail_isPrefix (cs : List Char) : operatorTail cs <+: cs := by
  fun_induction operatorTail cs <;> simp_all

theorem tail_isPrefix (c : Char) (rest : List Char) : tail c rest <+: rest := by
  unfold tail
  cases opening c rest with
  | lineComment => exact List.takeWhile_prefix _
  | blockComment =>
    have h : rest.take 1 ++ commentTail (rest.drop 1) <+: rest.take 1 ++ rest.drop 1 :=
      (List.prefix_append_right_inj _).2 (commentTail_isPrefix _)
    rwa [List.take_append_drop] at h
  | quoted close => exact quotedTail_isPrefix close rest
  | number => exact numberTail_isPrefix c rest
  | word => exact List.takeWhile_prefix _
  | operator => exact operatorTail_isPrefix rest
  | single => exact List.nil_prefix

/-! ## The pieces -/

/-- A piece of a text. -/
inductive Piece
  /-- A blank character between lexemes. -/
  | blank (c : Char)
  /-- The characters of a lexeme. -/
  | lexeme (cs : List Char)
  deriving DecidableEq, Repr

/-- The characters of a piece. -/
def Piece.chars : Piece → List Char
  | .blank c => [c]
  | .lexeme cs => cs

/-- The pieces of a text, in order. -/
def pieces (cs : List Char) : List Piece :=
  match cs with
  | [] => []
  | c :: rest =>
    if Text.isBlank c then .blank c :: pieces rest
    else .lexeme (c :: tail c rest) :: pieces (rest.drop (tail c rest).length)
termination_by cs.length
decreasing_by all_goals simp only [List.length_drop, List.length_cons]; omega

@[simp] theorem pieces_nil : pieces [] = [] := by
  rw [pieces]

theorem pieces_blank {c : Char} (h : Text.isBlank c = true) (rest : List Char) :
    pieces (c :: rest) = .blank c :: pieces rest := by
  rw [pieces, if_pos h]

theorem pieces_lexeme {c : Char} (h : Text.isBlank c = false) (rest : List Char) :
    pieces (c :: rest) =
      .lexeme (c :: tail c rest) :: pieces (rest.drop (tail c rest).length) := by
  rw [pieces, if_neg (by simp [h])]

/-- The lexeme that the first character opens, and the pieces that it leaves. -/
theorem pieces_cons_of_tail {c : Char} {t more : List Char} (hblank : Text.isBlank c = false)
    (h : tail c (t ++ more) = t) :
    pieces (c :: (t ++ more)) = .lexeme (c :: t) :: pieces more := by
  rw [pieces_lexeme hblank, h, List.drop_left]

theorem tail_append_drop (c : Char) (rest : List Char) :
    tail c rest ++ rest.drop (tail c rest).length = rest := by
  obtain ⟨more, h⟩ := tail_isPrefix c rest
  calc tail c rest ++ rest.drop (tail c rest).length
      = tail c rest ++ (tail c rest ++ more).drop (tail c rest).length := by rw [h]
    _ = rest := by rw [List.drop_left, h]

/-- The pieces put together are the text. -/
theorem flatten_pieces (cs : List Char) : (pieces cs).flatMap Piece.chars = cs := by
  fun_induction pieces cs with
  | case1 => rfl
  | case2 c rest _ ih => simp [Piece.chars, ih]
  | case3 c rest _ ih => simp [Piece.chars, ih, tail_append_drop]

end QueryPad.Lexeme
