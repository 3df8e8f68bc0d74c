import QueryPad.Lexeme.Basic
import QueryPad.Proofs.Lexeme.Lookahead
import QueryPad.Proofs.Text.Fold

/-!
# Lexemes and the case of letters

To find lexemes a letter's case is never looked at but in the sign of an exponent, and there both
cases count. So to fold a text before its lexemes are found is to fold them afterwards. Main
statement: `all_fold`. Each scan commutes with folding for the same reason, that the classes of
characters by which it goes do not depend on case.
-/

namespace QueryPad.Lexeme

open Text (isBlank apply_toLower)

/-! ## Classes of characters -/

@[simp] theorem isBlank_toLower (c : Char) : isBlank c.toLower = isBlank c :=
  apply_toLower isBlank (by decide) c

@[simp] theorem isDigit_toLower (c : Char) : c.toLower.isDigit = c.isDigit :=
  apply_toLower Char.isDigit (by decide) c

@[simp] theorem isWordStart_toLower (c : Char) : isWordStart c.toLower = isWordStart c :=
  apply_toLower isWordStart (by decide) c

@[simp] theorem isWordPart_toLower (c : Char) : isWordPart c.toLower = isWordPart c :=
  apply_toLower isWordPart (by decide) c

@[simp] theorem isNumberPart_toLower (c : Char) : isNumberPart c.toLower = isNumberPart c :=
  apply_toLower isNumberPart (by decide) c

@[simp] theorem isOperator_toLower (c : Char) : isOperator c.toLower = isOperator c :=
  apply_toLower isOperator (by decide) c

@[simp] theorem ofOpener?_toLower (c : Char) :
    Delimiter.ofOpener? c.toLower = Delimiter.ofOpener? c :=
  apply_toLower Delimiter.ofOpener? (by decide) c

/-- The characters that no letter becomes by folding, and that are no letter themselves. -/
def IsCaseless (d : Char) : Prop :=
  ∀ c : Char, c.toLower = d ↔ c = d

/-- Whatever is neither a capital nor a small letter has no case. -/
theorem isCaseless_of_all {d : Char}
    (h : Text.capitals.all (fun c => decide (c.toLower = d) = decide (c = d)) = true) :
    IsCaseless d :=
  fun c => decide_eq_decide.1 (apply_toLower (fun c => decide (c = d)) h c)

theorem isCaseless_of_opening_quoted {c close : Char} {rest : List Char}
    (h : opening c rest = .quoted close) : IsCaseless close := by
  have hclose := mem_of_opening_quoted h
  simp only [List.mem_cons, List.not_mem_nil, or_false] at hclose
  rcases hclose with rfl | rfl | rfl | rfl
  all_goals exact isCaseless_of_all (by decide)

/-! ## What a character opens -/

theorem exists_map_toLower_eq_iff {x y : Char} (hx : IsCaseless x) (hy : IsCaseless y)
    {cs : List Char} :
    (∃ rest, cs.map Char.toLower = x :: y :: rest) ↔ ∃ rest, cs = x :: y :: rest := by
  refine ⟨?_, ?_⟩
  · rintro ⟨rest, h⟩
    obtain ⟨c, more, rfl, hc, hmore⟩ := List.map_eq_cons_iff.1 h
    obtain ⟨d, more, rfl, hd, -⟩ := List.map_eq_cons_iff.1 hmore
    rw [(hx c).1 hc, (hy d).1 hd]
    exact ⟨more, rfl⟩
  · rintro ⟨rest, rfl⟩
    rw [List.map_cons, List.map_cons, (hx x).2 rfl, (hy y).2 rfl]
    exact ⟨_, rfl⟩

theorem opensLineComment_map_toLower (cs : List Char) :
    opensLineComment (cs.map Char.toLower) = opensLineComment cs := by
  have hdash : IsCaseless '-' := isCaseless_of_all (by decide)
  rw [Bool.eq_iff_iff, opensLineComment_iff, opensLineComment_iff,
    exists_map_toLower_eq_iff hdash hdash]

theorem opensBlockComment_map_toLower (cs : List Char) :
    opensBlockComment (cs.map Char.toLower) = opensBlockComment cs := by
  have hslash : IsCaseless '/' := isCaseless_of_all (by decide)
  have hstar : IsCaseless '*' := isCaseless_of_all (by decide)
  rw [Bool.eq_iff_iff, opensBlockComment_iff, opensBlockComment_iff,
    exists_map_toLower_eq_iff hslash hstar]

theorem opensComment_map_toLower (cs : List Char) :
    opensComment (cs.map Char.toLower) = opensComment cs := by
  rw [opensComment, opensComment, opensLineComment_map_toLower, opensBlockComment_map_toLower]

/-- What a character opens does not depend on case. -/
theorem opening_toLower (c : Char) (rest : List Char) :
    opening c.toLower (rest.map Char.toLower) = opening c rest := by
  have hquote : c.toLower = stringQuote ↔ c = stringQuote := isCaseless_of_all (by decide) c
  have hline := opensLineComment_map_toLower (c :: rest)
  have hblock := opensBlockComment_map_toLower (c :: rest)
  rw [List.map_cons] at hline hblock
  simp only [opening, hline, hblock, hquote, ofOpener?_toLower, isDigit_toLower,
    isWordStart_toLower, isOperator_toLower]

/-! ## Scans -/

theorem takeWhile_map_toLower {p : Char → Bool} (hp : ∀ c, p c.toLower = p c) (cs : List Char) :
    (cs.map Char.toLower).takeWhile p = (cs.takeWhile p).map Char.toLower := by
  have hcomp : p ∘ Char.toLower = p := funext hp
  rw [List.takeWhile_map, hcomp]

theorem quotedTail_map_toLower {close : Char} (hclose : IsCaseless close) (cs : List Char) :
    quotedTail close (cs.map Char.toLower) = (quotedTail close cs).map Char.toLower := by
  have hsame : close.toLower = close := (hclose close).2 rfl
  fun_induction quotedTail close cs with
  | case1 => rfl
  | case2 =>
    simp only [List.map_cons, List.map_nil, hsame]
    refine quotedTail_closed ?_
    intro h
    cases h
  | case3 ds ih => simp only [List.map_cons, hsame, quotedTail_doubled, ih]
  | case4 d ds hd =>
    simp only [List.map_cons, List.map_nil, hsame]
    refine quotedTail_closed ?_
    intro h
    exact hd ((hclose d).1 (Option.some.inj h))
  | case5 c cs hc ih =>
    rw [List.map_cons, List.map_cons, quotedTail_cons_of_ne (mt (hclose c).1 hc), ih]

theorem commentTail_map_toLower (cs : List Char) :
    commentTail (cs.map Char.toLower) = (commentTail cs).map Char.toLower := by
  have hstar : IsCaseless '*' := isCaseless_of_all (by decide)
  have hslash : IsCaseless '/' := isCaseless_of_all (by decide)
  fun_induction commentTail cs with
  | case1 ds => rfl
  | case2 c cs hnot ih =>
    rw [List.map_cons, List.map_cons, commentTail_cons, ih]
    rintro ⟨hc, hcs⟩
    obtain ⟨ds, hds⟩ := List.head?_eq_some_iff.1 hcs
    have hmap : (c :: cs).map Char.toLower = '*' :: '/' :: ds := by rw [List.map_cons, hc, hds]
    obtain ⟨rest, heq⟩ := (exists_map_toLower_eq_iff hstar hslash).1 ⟨ds, hmap⟩
    cases heq
    exact hnot rest rfl rfl
  | case3 => rfl

/-- An exponent may be written with either letter. -/
theorem isExponentSign_toLower (previous c : Char) (rest : List Char) :
    isExponentSign previous.toLower c.toLower (rest.map Char.toLower) =
      isExponentSign previous c rest := by
  have hsign := apply_toLower (fun c => c = '+' || c = '-') (by decide) c
  have hletter := apply_toLower (fun c => c = 'e' || c = 'E') (by decide) previous
  have hdigit : (rest.map Char.toLower).head?.any Char.isDigit = rest.head?.any Char.isDigit := by
    cases rest with
    | nil => rfl
    | cons d ds => exact isDigit_toLower d
  simp only [isExponentSign, hdigit]
  rw [hsign, hletter]

theorem numberTail_map_toLower (previous : Char) (cs : List Char) :
    numberTail previous.toLower (cs.map Char.toLower) =
      (numberTail previous cs).map Char.toLower := by
  induction cs generalizing previous with
  | nil => rfl
  | cons c cs ih =>
    rw [List.map_cons, numberTail, numberTail, isNumberPart_toLower, isExponentSign_toLower, ih,
      apply_ite (List.map Char.toLower)]
    rfl

theorem operatorTail_map_toLower (cs : List Char) :
    operatorTail (cs.map Char.toLower) = (operatorTail cs).map Char.toLower := by
  induction cs with
  | nil => rfl
  | cons c cs ih =>
    have hcomment := opensComment_map_toLower (c :: cs)
    rw [List.map_cons] at hcomment
    rw [List.map_cons, operatorTail, operatorTail, isOperator_toLower, hcomment, ih,
      apply_ite (List.map Char.toLower)]
    rfl

/-- The characters that belong to a lexeme are the same in either case. -/
theorem tail_toLower (c : Char) (rest : List Char) :
    tail c.toLower (rest.map Char.toLower) = (tail c rest).map Char.toLower := by
  rw [tail, tail, opening_toLower]
  cases hopening : opening c rest with
  | lineComment =>
    have hnewline (c : Char) : decide (c.toLower ≠ '\n') = decide (c ≠ '\n') :=
      apply_toLower (fun c => decide (c ≠ '\n')) (by decide) c
    exact takeWhile_map_toLower hnewline rest
  | blockComment =>
    simp only [Opening.tail, List.map_append, List.map_take, ← List.map_drop,
      commentTail_map_toLower]
  | quoted close => exact quotedTail_map_toLower (isCaseless_of_opening_quoted hopening) rest
  | number => exact numberTail_map_toLower c rest
  | word => exact takeWhile_map_toLower isWordPart_toLower rest
  | operator => exact operatorTail_map_toLower rest
  | single => rfl

/-! ## Lexemes -/

/-- The piece with its letters in lower case. -/
def Piece.fold : Piece → Piece
  | .blank c => .blank c.toLower
  | .lexeme cs => .lexeme (cs.map Char.toLower)

theorem pieces_map_toLower (cs : List Char) :
    pieces (cs.map Char.toLower) = (pieces cs).map Piece.fold := by
  fun_induction pieces cs with
  | case1 => simp
  | case2 c rest hblank ih =>
    have hblank' : isBlank c.toLower = true := by rw [isBlank_toLower, hblank]
    rw [List.map_cons, List.map_cons, pieces_blank hblank', ih]
    rfl
  | case3 c rest hblank ih =>
    have hblank' : isBlank c.toLower = false := by
      rw [isBlank_toLower, ← Bool.not_eq_true]
      exact hblank
    rw [List.map_cons, List.map_cons, pieces_lexeme hblank', tail_toLower, List.length_map,
      ← List.map_drop, ih]
    rfl

/-- The lexeme with its letters in lower case. -/
def fold (l : Lexeme) : Lexeme :=
  { l with text := Text.fold l.text }

theorem stop_fold (l : Lexeme) : l.fold.stop = l.stop :=
  congrArg (l.start + ·) (Text.utf8ByteSize_fold l.text)

theorem place_map_fold (offset : Nat) (ps : List Piece) :
    place offset (ps.map Piece.fold) = (place offset ps).map fold := by
  induction ps generalizing offset with
  | nil => rfl
  | cons p ps ih =>
    cases p with
    | blank c =>
      rw [List.map_cons, Piece.fold, place, place, Text.utf8Size_toLower, ih]
    | lexeme cs =>
      rw [List.map_cons, Piece.fold, place, place, Text.width_map_toLower, ih, List.map_cons, fold,
        Text.fold, String.toList_ofList]

/-- The lexemes of a text in lower case are its lexemes in lower case. -/
theorem all_fold (text : String) : all (Text.fold text) = (all text).map fold := by
  rw [all, Text.toList_fold, pieces_map_toLower, place_map_fold, all]

/-- What does not depend on case is the same for the lexemes of two texts that differ in nothing
else, and these stand at the same places. -/
theorem map_all_of_isCaseVariant {α : Type} {f : String → α}
    (hf : ∀ text, f (Text.fold text) = f text) {text text' : String}
    (h : Text.IsCaseVariant text text') :
    (all text').map (fun l => (f l.text, l.start, l.stop)) =
      (all text).map (fun l => (f l.text, l.start, l.stop)) := by
  have hfold (text : String) : (all text).map (fun l => (f l.text, l.start, l.stop)) =
      (all (Text.fold text)).map (fun l => (f l.text, l.start, l.stop)) := by
    rw [all_fold, List.map_map]
    refine List.map_congr_left ?_
    intro l _
    rw [Function.comp_apply, stop_fold, fold, hf]
  rw [hfold text', h.fold_eq, ← hfold]

end QueryPad.Lexeme
