import Mathlib.Data.List.DropRight
import QueryPad.Editor.Basic
import QueryPad.Proofs.Lexeme.Blank

/-!
# The word to be completed

What is to be completed is found by going backwards from the cursor over letters, digits and
underscores, and words are found by going forwards over the characters of the SQLite dialect. The two
agree on the part of a word in front of the cursor exactly if it is made of letters, digits and
underscores and none of these stands right before the word. Main statement: `typedBefore_eq_iff`; it
also says what may stand there, the end of a number or a letter beyond U+FFFF.
-/

namespace QueryPad

open Text (width width_cons width_append isBlank isAlphanumeric IsBoundary)
open Lexeme (isWordStart isWordPart isOperator operatorChars isWordPart_of_toNat)
open Text.CodeRange (within exists_mem_of_within)

/-! ## Going backwards -/

section Suffix
variable {p : Char → Bool} {front : List Char}

/-- Over a stretch of a class one goes on into what stands before it. -/
theorem rtakeWhile_append_of_forall (left : List Char) (h : ∀ c ∈ front, p c = true) :
    (left ++ front).rtakeWhile p = left.rtakeWhile p ++ front := by
  have hreverse : ∀ c ∈ front.reverse, p c = true := fun c hc => h c (List.mem_reverse.1 hc)
  rw [List.rtakeWhile, List.reverse_append, List.takeWhile_append_of_pos hreverse,
    List.reverse_append, List.reverse_reverse, List.rtakeWhile]

/-- A stretch is passed over and nothing before it, exactly if it is of the class and what stands right
before it is not. -/
theorem rtakeWhile_append_eq_iff {left : List Char} :
    (left ++ front).rtakeWhile p = front ↔
      (∀ c ∈ front, p c = true) ∧ ∀ c ∈ left.getLast?, p c = false := by
  have hleft : left.rtakeWhile p = [] ↔ ∀ c ∈ left.getLast?, p c = false := by
    obtain rfl | ⟨first, d, rfl⟩ := List.eq_nil_or_concat left
    · exact iff_of_true rfl nofun
    · simp [List.rtakeWhile_concat]
  rw [← hleft]
  refine ⟨?_, ?_⟩
  · intro heq
    have hfront : ∀ c ∈ front, p c = true := by
      intro c hc
      rw [← heq] at hc
      exact List.mem_rtakeWhile_imp hc
    rw [rtakeWhile_append_of_forall left hfront] at heq
    exact ⟨hfront, List.append_left_eq_self.1 heq⟩
  · rintro ⟨hfront, hnil⟩
    rw [rtakeWhile_append_of_forall left hfront, hnil, List.nil_append]

end Suffix

/-! ## Letters, digits and underscores -/

section Classes
variable {c : Char}

/-- No blank is part of what is to be completed. -/
theorem isTyped_of_isBlank (h : isBlank c = true) : isTyped c = false := by
  have hall : ∀ range ∈ Text.blankRanges, ∀ n ∈ List.range' range.1 (range.2 + 1 - range.1),
      within n Text.alphanumericRanges = false ∧ n ≠ '_'.toNat := by
    decide +kernel
  obtain ⟨range, hmem, hlow, hhigh⟩ := exists_mem_of_within h
  obtain ⟨hnot, hne⟩ := hall range hmem c.toNat (List.mem_range'_1.2 ⟨hlow, by omega⟩)
  rw [isTyped, isAlphanumeric, hnot, Bool.false_or, decide_eq_false_iff_not]
  rintro rfl
  exact hne rfl

/-- Among the characters of ASCII the letters and digits are as usual. -/
theorem isAlphanum_of_isAlphanumeric (h : isAlphanumeric c = true) (hascii : c.toNat < 127) :
    c.isAlphanum = true := by
  have hall : ∀ range ∈ Text.alphanumericRanges, 127 ≤ range.1 ∨
      range = (48, 57) ∨ range = (65, 90) ∨ range = (97, 122) := by
    decide +kernel
  obtain ⟨range, hmem, hlow, hhigh⟩ := exists_mem_of_within h
  rw [Lexeme.isAlphanum_iff]
  rcases hall range hmem with hbeyond | rfl | rfl | rfl
  all_goals omega

/-- What is completed has no other characters than words have, but for those beyond U+FFFF. -/
theorem isWordPart_of_isTyped (h : isTyped c = true) (hhigh : c ≤ '\uffff') :
    isWordPart c = true := by
  rw [isTyped, Bool.or_eq_true, decide_eq_true_eq] at h
  rcases h with h | rfl
  · by_cases hascii : c.toNat < 127
    · have halphanum := isAlphanum_of_isAlphanumeric h hascii
      rw [Char.isAlphanum, Bool.or_eq_true] at halphanum
      rcases halphanum with halpha | hdigit
      · simp [isWordPart, isWordStart, halpha]
      · simp [isWordPart, hdigit]
    · exact isWordPart_of_toNat (Nat.not_lt.1 hascii) hhigh
  · decide

/-- No operator is part of what is to be completed. -/
theorem isTyped_of_isOperator (h : isOperator c = true) : isTyped c = false := by
  have hall : operatorChars.all (fun d => !isTyped d) = true := by decide +kernel
  have hnot := List.all_eq_true.1 hall c (List.contains_iff_mem.1 h)
  rwa [Bool.not_eq_true'] at hnot

end Classes

/-! ## What stands before a word -/

namespace Lexeme

variable {l : Lexeme} {offset : Nat} {cs : List Char}

/-- Before a lexeme stands nothing, a blank or another lexeme. -/
theorem exists_before_of_mem_place (h : l ∈ place offset (pieces cs)) :
    ∃ left right, cs = left ++ right ∧ offset + width left = l.start ∧
      (left = [] ∨ (∃ first c, left = first ++ [c] ∧ isBlank c = true) ∨
        ∃ m ∈ place offset (pieces cs), m.stop = l.start) := by
  fun_induction pieces cs generalizing offset with
  | case1 => cases h
  | case2 c rest hblank ih =>
    obtain ⟨left, right, rfl, hstart, hbefore⟩ := ih h
    refine ⟨c :: left, right, rfl, by rw [← hstart, width_cons, Nat.add_assoc], .inr ?_⟩
    rcases hbefore with rfl | ⟨first, d, rfl, hd⟩ | hlexeme
    · exact .inl ⟨[], c, rfl, hblank⟩
    · exact .inl ⟨c :: first, d, rfl, hd⟩
    · exact .inr hlexeme
  | case3 c rest hblank ih =>
    rcases List.mem_cons.1 h with rfl | h
    · exact ⟨[], c :: rest, rfl, rfl, .inl rfl⟩
    · obtain ⟨left, right, heq, hstart, hbefore⟩ := ih h
      refine ⟨c :: tail c rest ++ left, right, ?_, ?_, .inr ?_⟩
      · rw [List.append_assoc, ← heq, List.cons_append, tail_append_drop]
      · rw [← hstart, width_append, Nat.add_assoc]
      · rcases hbefore with rfl | ⟨first, d, rfl, hd⟩ | ⟨m, hm, hstop⟩
        · refine .inr ⟨_, List.mem_cons_self, ?_⟩
          rw [stop, Text.utf8ByteSize_ofList, ← hstart]
          rfl
        · exact .inl ⟨c :: tail c rest ++ first, d, (List.append_assoc ..).symm, hd⟩
        · exact .inr ⟨m, List.mem_cons_of_mem _ hm, hstop⟩

variable {c d : Char} {t more : List Char} {s : Shape}

/-- Behind its first character a lexeme goes on to its last. -/
theorem getLast?_cons_of_getLast? (h : t.getLast? = some d) : (c :: t).getLast? = some d := by
  rw [List.getLast?_cons, h, Option.getD_some]

/-- A quoted lexeme that something follows ends in its closing character. -/
theorem EndsQuote.getLast?_eq {close : Char} (h : EndsQuote close t (c :: more)) :
    t.getLast? = some close := by
  obtain ⟨inner, ⟨rfl, -⟩ | ⟨-, hnil⟩⟩ := h
  · rw [List.getLast?_concat]
  · cases hnil

/-- A comment that something follows ends in a slash. -/
theorem EndsComment.getLast?_eq (h : EndsComment t (c :: more)) : t.getLast? = some '/' := by
  rcases h with ⟨inner, rfl, -⟩ | ⟨-, hnil⟩
  · simp
  · cases hnil

/-- Of the lexemes that a word can follow without a blank, numbers alone and letters beyond U+FFFF end
in a letter, a digit or an underscore. -/
theorem Shape.Fits.cases_of_isTyped (h : s.Fits cs (c :: more)) (hc : isWordStart c = true)
    (hd : cs.getLast? = some d) (htyped : isTyped d = true) :
    s = .number ∨ (s = .single ∧ cs = [d] ∧ '\uffff' < d) := by
  have hlast {e : Char} (he : isTyped e = false) : cs.getLast? ≠ some e := by
    intro heq
    rw [hd, Option.some.injEq] at heq
    rw [← heq, htyped] at he
    cases he
  obtain ⟨first, hcs⟩ := List.getLast?_eq_some_iff.1 hd
  cases s with
  | lineComment =>
    rcases h.2.2 with hnil | hnewline
    · cases hnil
    · cases hnewline
      exact absurd hc (by decide)
  | blockComment =>
    obtain ⟨t, rfl, hends⟩ := h
    have hslash : ('/' :: '*' :: t).getLast? = some '/' :=
      getLast?_cons_of_getLast? (getLast?_cons_of_getLast? hends.getLast?_eq)
    exact absurd hslash (hlast (by decide +kernel))
  | string =>
    obtain ⟨t, rfl, hends⟩ := h
    exact absurd (getLast?_cons_of_getLast? hends.getLast?_eq) (hlast (by decide +kernel))
  | name delimiter =>
    obtain ⟨t, rfl, hends⟩ := h
    have hcloser : isTyped delimiter.closer = false := by cases delimiter <;> decide +kernel
    exact absurd (getLast?_cons_of_getLast? hends.getLast?_eq) (hlast hcloser)
  | number => exact .inl rfl
  | word =>
    obtain ⟨_, _, _, -, hrun⟩ := h
    have hstop : isWordPart c = false := hrun.stops first d c more hcs rfl
    rw [isWordPart, hc, Bool.true_or] at hstop
    cases hstop
  | operator =>
    obtain ⟨e, t, rfl, he, -, hrun⟩ := h
    refine absurd hd (hlast (isTyped_of_isOperator ?_))
    rcases hrun.exists_goesOn hcs with ⟨-, rfl⟩ | ⟨-, p, rest, hgo⟩
    · exact he
    · rw [Bool.and_eq_true] at hgo
      exact hgo.1
  | single =>
    obtain ⟨e, rfl, -, -, hdigit, hword, -⟩ := h
    obtain rfl : e = d := Option.some.inj hd
    refine .inr ⟨rfl, rfl, Char.not_le.1 ?_⟩
    intro hhigh
    have hpart := isWordPart_of_isTyped htyped hhigh
    rw [isWordPart, hword, hdigit] at hpart
    cases hpart

/-- What stands right before a word and is a letter, a digit or an underscore, is the end of a number or
a letter by itself beyond U+FFFF. -/
theorem exists_of_isTyped_before {text : String} {l : Lexeme} (hl : l ∈ all text)
    (hword : ∃ c ∈ l.text.toList.head?, isWordStart c = true) {left right : List Char}
    (htext : text.toList = left ++ right) (hleft : width left = l.start)
    (hd : left.getLast? = some d) (htyped : isTyped d = true) :
    ∃ m ∈ all text, m.stop = l.start ∧
      ((∃ e ∈ m.text.toList.head?, e.isDigit = true) ∨
        (m.text = String.singleton d ∧ '\uffff' < d)) := by
  obtain ⟨left', right', htext', hstart, hbefore⟩ := exists_before_of_mem_place hl
  rw [Nat.zero_add] at hstart
  obtain ⟨rfl, rfl⟩ := Text.append_inj_of_width (htext.symm.trans htext') (hleft.trans hstart.symm)
  rcases hbefore with rfl | ⟨first, e, rfl, hblank⟩ | ⟨m, hm, hstop⟩
  · cases hd
  · rw [List.getLast?_concat, Option.some.injEq] at hd
    rw [← hd, isTyped_of_isBlank hblank] at htyped
    cases htyped
  · -- the word follows the lexeme `m` without a blank
    obtain ⟨first, more, htext', hfirst, s, hfits⟩ := exists_fits_of_mem_all hm
    obtain ⟨_, more', hword', hstart', -⟩ := exists_fits_of_mem_all hl
    have hwidth : width (first ++ m.text.toList) = width left := by
      rw [width_append, hfirst, ← Text.utf8ByteSize_eq, hleft, ← hstop, stop]
    rw [← List.append_assoc] at htext'
    obtain ⟨rfl, rfl⟩ := Text.append_inj_of_width (htext'.symm.trans htext) hwidth
    obtain ⟨-, hright⟩ := Text.append_inj_of_width (htext.symm.trans hword') (hleft.trans hstart'.symm)
    obtain ⟨c, hc, hstartsWord⟩ := hword
    obtain ⟨t, hcons⟩ := List.head?_eq_some_iff.1 hc
    rw [hright, hcons, List.cons_append] at hfits
    obtain ⟨e, u, hm', -⟩ := isBlank_first_of_mem_place hm
    have hlast : m.text.toList.getLast? = some d := by
      rwa [List.getLast?_append_of_ne_nil _ (hm' ▸ List.cons_ne_nil e u)] at hd
    refine ⟨m, hm, hstop, ?_⟩
    rcases hfits.cases_of_isTyped hstartsWord hlast htyped with rfl | ⟨-, hsingle, hhigh⟩
    · obtain ⟨e, u, hnumber, hdigit, -⟩ := hfits
      exact .inl ⟨e, by rw [hnumber]; rfl, hdigit⟩
    · refine .inr ⟨String.toList_injective ?_, hhigh⟩
      rw [hsingle, String.toList_singleton]

end Lexeme

/-! ## The word at the cursor -/

variable {text : String} {l : Lexeme} {cursor : Nat}

/-- What is to be completed at a cursor within a word is the part of the word before it, exactly if that
is made of letters, digits and underscores and none of these stands right before the word. If one does,
it ends a number or is a letter beyond U+FFFF. -/
theorem typedBefore_eq_iff (hl : l ∈ Lexeme.all text)
    (hword : ∃ c ∈ l.text.toList.head?, isWordStart c = true)
    (hcursor : IsBoundary text cursor) (hlt : l.start < cursor) (hle : cursor ≤ l.stop) :
    ∃ left front right, text.toList = left ++ front ++ right ∧ width left = l.start ∧
      width left + width front = cursor ∧ front <+: l.text.toList ∧
      (typedBefore text cursor = String.ofList front ↔
        (∀ c ∈ front, isTyped c = true) ∧ ∀ c ∈ left.getLast?, isTyped c = false) ∧
      ∀ c ∈ left.getLast?, isTyped c = true → ∃ m ∈ Lexeme.all text, m.stop = l.start ∧
        ((∃ d ∈ m.text.toList.head?, d.isDigit = true) ∨
          (m.text = String.singleton c ∧ '\uffff' < c)) := by
  obtain ⟨first, more, htext, hfirst, s, hfits⟩ := Lexeme.exists_fits_of_mem_all hl
  have hstart : IsBoundary text l.start := ⟨first, _, htext, hfirst⟩
  obtain ⟨left, front, right, htext', hleft, hfront⟩ :=
    Text.exists_of_isBoundary hstart hcursor (Nat.le_of_lt hlt)
  have hbefore : Text.before? text cursor = some (left ++ front) :=
    Text.before?_eq_some_iff.2 ⟨right, htext', by rw [width_append, hfront]⟩
  have htyped : typedBefore text cursor = String.ofList ((left ++ front).rtakeWhile isTyped) := by
    rw [typedBefore, hbefore]
    rfl
  refine ⟨left, front, right, htext', hleft, hfront, ?_, ?_, ?_⟩
  · rw [List.append_assoc] at htext'
    obtain ⟨-, hrest⟩ := Text.append_inj_of_width (htext.symm.trans htext') (hfirst.trans hleft.symm)
    refine Text.prefix_of_width_le (List.prefix_append front right) ?_ ?_
    · exact hrest ▸ List.prefix_append l.text.toList more
    · rw [Lexeme.stop, Text.utf8ByteSize_eq] at hle
      omega
  · rw [htyped, String.ofList_inj, rtakeWhile_append_eq_iff]
  · intro c hc htyped
    exact Lexeme.exists_of_isTyped_before hl hword (htext'.trans (List.append_assoc ..)) hleft hc htyped

/-- Within a column's name, behind the dot of its sheet. -/
theorem typedBefore_eq_iff_column :
    ({ text := "año_2", start := 2 } : Lexeme) ∈ Lexeme.all "x.año_2 b" ∧
      IsBoundary "x.año_2 b" 5 ∧ typedBefore "x.año_2 b" 5 = "añ" ∧
      ∃ left front right, "x.año_2 b".toList = left ++ front ++ right ∧ width left = 2 ∧
        width left + width front = 5 ∧ front <+: "año_2".toList ∧
        (typedBefore "x.año_2 b" 5 = String.ofList front ↔
          (∀ c ∈ front, isTyped c = true) ∧ ∀ c ∈ left.getLast?, isTyped c = false) ∧
        ∀ c ∈ left.getLast?, isTyped c = true → ∃ m ∈ Lexeme.all "x.año_2 b", m.stop = 2 ∧
          ((∃ d ∈ m.text.toList.head?, d.isDigit = true) ∨
            (m.text = String.singleton c ∧ '\uffff' < c)) := by
  have hl : ({ text := "año_2", start := 2 } : Lexeme) ∈ Lexeme.all "x.año_2 b" := by
    decide +kernel
  have hcursor : IsBoundary "x.año_2 b" 5 := by decide +kernel
  have hword : ∃ c ∈ "año_2".toList.head?, isWordStart c = true := ⟨'a', rfl, rfl⟩
  exact ⟨hl, hcursor, by decide +kernel,
    typedBefore_eq_iff hl hword hcursor (by decide) (by decide +kernel)⟩

/-- A currency sign is part of a word and not of what is completed, and a digit is part of what is
completed though the word begins behind it. -/
theorem typedBefore_euro_digit :
    ({ text := "a€b", start := 0 } : Lexeme) ∈ Lexeme.all "a€b" ∧ isWordStart 'a' = true ∧
      IsBoundary "a€b" 5 ∧ typedBefore "a€b" 5 = "b" ∧ "b" ≠ "a€b" ∧
      ({ text := "é", start := 1 } : Lexeme) ∈ Lexeme.all "1é" ∧ isWordStart 'é' = true ∧
      IsBoundary "1é" 3 ∧ typedBefore "1é" 3 = "1é" ∧ "1é" ≠ "é" := by
  decide +kernel

end QueryPad
