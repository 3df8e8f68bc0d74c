import QueryPad.Lexeme.Piece

/-!
# The characters of numbers and operators

Numbers and operators are made of the ASCII characters from `!` to `~`, none of which is blank or
takes up more than a byte. Words also go on with every character from U+007F to U+FFFF, and some of
these are blank. Main statements: `isVisible_of_numberGoesOn`, `isVisible_of_isOperator`,
`isBlank_of_isVisible`, `utf8Size_of_isVisible` and `isWordPart_of_toNat`.
-/

namespace QueryPad.Lexeme

open Text (isBlank)

/-- An ASCII character that is neither blank nor a control character. -/
def isVisible (c : Char) : Bool :=
  '!' ≤ c && c ≤ '~'

variable {c : Char}

theorem isVisible_iff : isVisible c = true ↔ 33 ≤ c.toNat ∧ c.toNat ≤ 126 := by
  simp only [isVisible, Bool.and_eq_true, decide_eq_true_eq, Char.le_def, UInt32.le_iff_toNat_le]
  exact Iff.rfl

/-- No visible character takes up more than a byte. -/
theorem utf8Size_of_isVisible (h : isVisible c = true) : c.utf8Size = 1 := by
  rw [isVisible_iff] at h
  have hval : c.val.toNat = c.toNat := rfl
  simp only [Char.utf8Size_eq_one_iff, UInt32.le_iff_toNat_le, UInt32.reduceToNat, hval]
  omega

/-- The space and the blank control characters come before the visible characters, and all other
blanks behind them. -/
theorem toNat_of_isBlank (h : isBlank c = true) :
    c.toNat ≤ 32 ∨ (133 ≤ c.toNat ∧ c.toNat ≤ 12288) := by
  obtain ⟨range, hmem, hlow, hhigh⟩ := Text.CodeRange.exists_mem_of_within h
  have hranges : ∀ range ∈ Text.blankRanges,
      range.2 ≤ 32 ∨ (133 ≤ range.1 ∧ range.2 ≤ 12288) := by
    decide
  have := hranges range hmem
  omega

/-- No visible character is blank. -/
theorem isBlank_of_isVisible (h : isVisible c = true) : isBlank c = false := by
  rw [← Bool.not_eq_true]
  intro hblank
  have := toNat_of_isBlank hblank
  rw [isVisible_iff] at h
  omega

/-- The letters and digits of ASCII by their code points. -/
theorem isAlphanum_iff : c.isAlphanum = true ↔
    (48 ≤ c.toNat ∧ c.toNat ≤ 57) ∨ (65 ≤ c.toNat ∧ c.toNat ≤ 90) ∨
      (97 ≤ c.toNat ∧ c.toNat ≤ 122) := by
  show ((decide (c.val ≥ 65 ∧ c.val ≤ 90) || (c.val ≥ 97 && c.val ≤ 122)) ||
    (c.val ≥ 48 && c.val ≤ 57)) = true ↔ _
  have hval : c.val.toNat = c.toNat := rfl
  simp only [Bool.or_eq_true, Bool.and_eq_true, decide_eq_true_eq, ge_iff_le,
    UInt32.le_iff_toNat_le, UInt32.reduceToNat, hval]
  omega

theorem isVisible_of_isAlphanum (h : c.isAlphanum = true) : isVisible c = true := by
  rw [isAlphanum_iff] at h
  rw [isVisible_iff]
  omega

theorem isVisible_of_isAlpha (h : c.isAlpha = true) : isVisible c = true :=
  isVisible_of_isAlphanum (by rw [Char.isAlphanum, h, Bool.true_or])

theorem isVisible_of_isDigit (h : c.isDigit = true) : isVisible c = true :=
  isVisible_of_isAlphanum (by rw [Char.isAlphanum, h, Bool.or_true])

theorem isVisible_of_isOperator (h : isOperator c = true) : isVisible c = true := by
  have hall : operatorChars.all isVisible = true := by decide
  exact List.all_eq_true.1 hall c (List.contains_iff_mem.1 h)

theorem isVisible_of_isNumberPart (h : isNumberPart c = true) : isVisible c = true := by
  simp only [isNumberPart, Bool.or_eq_true, decide_eq_true_eq] at h
  rcases h with (h | rfl) | rfl
  · exact isVisible_of_isAlphanum h
  · decide
  · decide

/-- A character goes on with a word if its code point is one of 127 to 65535. -/
theorem isWordPart_of_toNat (hlow : 127 ≤ c.toNat) (hhigh : c.toNat ≤ 65535) :
    isWordPart c = true := by
  have hrange : ('\x7f' ≤ c && c ≤ '\uffff') = true := by
    simp only [Bool.and_eq_true, decide_eq_true_eq, Char.le_def, UInt32.le_iff_toNat_le]
    exact ⟨hlow, hhigh⟩
  rw [isWordPart, isWordStart, hrange, Bool.or_true, Bool.true_or]

/-- A number goes on with visible characters only. -/
theorem isVisible_of_numberGoesOn {previous : Char} {rest : List Char}
    (h : (isNumberPart c || isExponentSign previous c rest) = true) : isVisible c = true := by
  rw [Bool.or_eq_true] at h
  rcases h with h | h
  · exact isVisible_of_isNumberPart h
  · simp only [isExponentSign, Bool.and_eq_true, Bool.or_eq_true, decide_eq_true_eq] at h
    rcases h.1.1 with rfl | rfl <;> decide

end QueryPad.Lexeme
