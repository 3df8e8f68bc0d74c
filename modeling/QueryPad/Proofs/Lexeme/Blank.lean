import QueryPad.Proofs.Lexeme.Alphabet
import QueryPad.Proofs.Lexeme.Shape
import QueryPad.Proofs.Lexeme.Tiling

/-!
# Blanks inside lexemes

Blanks part lexemes, and yet some lexemes hold blanks: comments, strings and delimited names do, and
so do words, since every character from U+007F to U+FFFF goes on with a word and the blanks outside
ASCII are among them. Main statement: `exists_fits_isBlank`, no other lexeme holds a blank and no
word holds one of ASCII.
-/

namespace QueryPad.Lexeme

open Text (isBlank)

/-! ## Shapes -/

/-- The lexeme runs up to something that closes it, over blanks and all. -/
def Shape.isEnclosed : Shape → Bool
  | .lineComment | .blockComment | .string | .name _ => true
  | .number | .word | .operator | .single => false

variable {c first : Char} {t before after cs more : List Char} {s : Shape}

/-! ## The characters of a run -/

/-- A character of a run is its first or one with which it goes on. -/
theorem IsRun.exists_goesOn {goesOn : Char → Char → List Char → Bool}
    (h : IsRun goesOn (first :: t) more) (heq : first :: t = before ++ c :: after) :
    (before = [] ∧ c = first) ∨ (before ≠ [] ∧ ∃ p rest, goesOn p c rest = true) := by
  obtain rfl | ⟨front, p, rfl⟩ := List.eq_nil_or_concat before
  · exact .inl ⟨rfl, (List.cons.inj heq).1.symm⟩
  · rw [List.concat_eq_append, List.append_assoc, List.singleton_append] at heq
    refine .inr ⟨by simp, p, _, h.goesOn_of_eq front p c after heq⟩

/-- A blank that goes on with a word is none of ASCII. -/
theorem le_of_isBlank_of_isWordPart (hblank : isBlank c = true) (h : isWordPart c = true) :
    '\x7f' ≤ c ∧ c ≤ '\uffff' := by
  have hvisible : isVisible c = false := by
    rw [← Bool.not_eq_true]
    intro hvisible
    rw [isBlank_of_isVisible hvisible] at hblank
    cases hblank
  simp only [isWordPart, isWordStart, Bool.or_eq_true, Bool.and_eq_true, decide_eq_true_eq] at h
  rcases h with ((h | rfl) | h) | h
  · rw [isVisible_of_isAlpha h] at hvisible
    cases hvisible
  · exact absurd hvisible (by decide)
  · exact h
  · rw [isVisible_of_isDigit h] at hvisible
    cases hvisible

/-- A run whose first character is visible, as is every character with which it goes on, holds no
blank. -/
theorem IsRun.isBlank_eq_false {goesOn : Char → Char → List Char → Bool}
    (h : IsRun goesOn (first :: t) more) (hfirst : isVisible first = true)
    (hgo : ∀ p c rest, goesOn p c rest = true → isVisible c = true)
    (heq : first :: t = before ++ c :: after) : isBlank c = false := by
  refine isBlank_of_isVisible ?_
  rcases h.exists_goesOn heq with ⟨-, rfl⟩ | ⟨-, p, rest, hc⟩
  · exact hfirst
  · exact hgo p c rest hc

/-- Where a lexeme that begins with no blank holds one, its shape is one that runs over blanks, or it
is a word and the blank is none of ASCII. -/
theorem Shape.Fits.isBlank_cases (h : s.Fits cs more) (hcs : cs = before ++ c :: after)
    (hfirst : ∀ d ∈ cs.head?, isBlank d = false) (hblank : isBlank c = true) :
    s.isEnclosed = true ∨ (s = .word ∧ before ≠ [] ∧ '\x7f' ≤ c ∧ c ≤ '\uffff') := by
  have hnot : isBlank c ≠ false := by rw [hblank]; decide
  cases s with
  | lineComment | blockComment | string | name => exact .inl rfl
  | number =>
    obtain ⟨first, t, rfl, hdigit, hrun⟩ := h
    have hvisible := isVisible_of_isDigit hdigit
    exact absurd (hrun.isBlank_eq_false hvisible (fun _ _ _ => isVisible_of_numberGoesOn) hcs) hnot
  | operator =>
    obtain ⟨first, t, rfl, hoperator, -, hrun⟩ := h
    refine absurd (hrun.isBlank_eq_false (isVisible_of_isOperator hoperator) ?_ hcs) hnot
    intro p c rest hgo
    rw [Bool.and_eq_true] at hgo
    exact isVisible_of_isOperator hgo.1
  | word =>
    obtain ⟨first, t, rfl, -, hrun⟩ := h
    rcases hrun.exists_goesOn hcs with ⟨-, rfl⟩ | ⟨hne, p, rest, hc⟩
    · exact absurd (hfirst c rfl) hnot
    · exact .inr ⟨rfl, hne, le_of_isBlank_of_isWordPart hblank hc⟩
  | single =>
    obtain ⟨d, rfl, -⟩ := h
    cases before with
    | nil =>
      cases hcs
      exact absurd (hfirst c rfl) hnot
    | cons _ before => simp at hcs

/-! ## The lexemes of a text -/

/-- A lexeme that holds a blank is a comment, a string or a delimited name, or else it is a word that
goes on with the blank, and then that is none of the blanks of ASCII. -/
theorem exists_fits_isBlank {text : String} {l : Lexeme} (hl : l ∈ all text) :
    ∃ left more, text.toList = left ++ (l.text.toList ++ more) ∧ Text.width left = l.start ∧
      ∃ s : Shape, s.Fits l.text.toList more ∧
        (∀ s' : Shape, s'.Fits l.text.toList more → s' = s) ∧
        ∀ before c after, l.text.toList = before ++ c :: after → isBlank c = true →
          s.isEnclosed = true ∨ (s = .word ∧ before ≠ [] ∧ '\x7f' ≤ c ∧ c ≤ '\uffff') := by
  obtain ⟨left, more, htext, hstart, s, hfits⟩ := exists_fits_of_mem_all hl
  obtain ⟨first, t, hcons, hfirst⟩ := isBlank_first_of_mem_place hl
  refine ⟨left, more, htext, hstart, s, hfits, ?_, ?_⟩
  · intro s' hfits'
    exact hfits.unique hfits' (hcons ▸ List.cons_ne_nil first t)
  · intro before c after hcs hblank
    refine hfits.isBlank_cases hcs ?_ hblank
    rw [hcons]
    rintro d ⟨⟩
    exact hfirst

/-- The blank behind the number parts it from the operator, and the same blank belongs to the word. -/
theorem exists_fits_isBlank_noBreak :
    { text := "a\u00a0b", start := 5 } ∈ all "1\u00a0+ a\u00a0b" ∧
      ∃ left more, "1\u00a0+ a\u00a0b".toList = left ++ ("a\u00a0b".toList ++ more) ∧
        Text.width left = 5 ∧
        ∃ s : Shape, s.Fits "a\u00a0b".toList more ∧
          (∀ s' : Shape, s'.Fits "a\u00a0b".toList more → s' = s) ∧
          ∀ before c after, "a\u00a0b".toList = before ++ c :: after → isBlank c = true →
            s.isEnclosed = true ∨ (s = .word ∧ before ≠ [] ∧ '\x7f' ≤ c ∧ c ≤ '\uffff') := by
  have hl : ({ text := "a\u00a0b", start := 5 } : Lexeme) ∈ all "1\u00a0+ a\u00a0b" := by
    decide +kernel
  exact ⟨hl, exists_fits_isBlank hl⟩

/-- A word that holds a blank, which is passed over in front of it. -/
theorem isBlank_mem_word_noBreak :
    pieces "\u00a0a\u00a0b".toList = [.blank '\u00a0', .lexeme "a\u00a0b".toList] ∧
      { text := "a\u00a0b", start := 2 } ∈ all "\u00a0a\u00a0b" ∧
      Shape.word.Fits "a\u00a0b".toList [] ∧ Shape.word.isEnclosed = false ∧
      '\u00a0' ∈ "a\u00a0b".toList ∧ isBlank '\u00a0' = true := by
  have hbegins : Shape.word.Begins 'a' ['\u00a0', 'b'] := (rfl : isWordStart 'a' = true)
  obtain ⟨more, hmore, hfits⟩ := hbegins.exists_fits
  have htail : tail 'a' ['\u00a0', 'b'] = ['\u00a0', 'b'] := by decide +kernel
  rw [htail] at hmore hfits
  have hnil : more = [] := List.append_right_eq_self.1 hmore.symm
  subst hnil
  refine ⟨by decide +kernel, by decide +kernel, hfits, rfl, by decide +kernel, by decide⟩

end QueryPad.Lexeme
