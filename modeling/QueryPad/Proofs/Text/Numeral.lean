import QueryPad.Proofs.Computation
import QueryPad.Text.Numeral
import QueryPad.Text.Property

/-!
# Numerals written and read

Main statements: `read_write`, a number of a range that is written as a numeral is read back, and
`holds_of_read`, nothing but numbers of the range is read.
-/

namespace QueryPad.Text.Numeral

/-- The number lies in the range. -/
def Range.Holds (range : Range) (n : Int) : Prop :=
  -(range.least : Int) ≤ n ∧ n ≤ range.greatest

instance (range : Range) (n : Int) : Decidable (range.Holds n) :=
  inferInstanceAs (Decidable (-(range.least : Int) ≤ n ∧ n ≤ range.greatest))

variable {greatest n m : Nat} {beyond : Fault} {cs : List Char}

/-! ## Digits -/

theorem digit?_of_isDigit {c : Char} (h : c.isDigit = true) :
    digit? c = some (c.toNat - '0'.toNat) :=
  if_pos h

/-- More digits make no smaller number. -/
theorem le_ofDigitChars (n : Nat) (cs : List Char) : n ≤ Nat.ofDigitChars 10 cs n := by
  induction cs generalizing n with
  | nil => exact Nat.le_refl n
  | cons c cs ih =>
    rw [Nat.ofDigitChars_cons]
    have := ih (10 * n + (c.toNat - '0'.toNat))
    omega

/-- Digits are read as the number that they denote, if that is in reach. -/
theorem readDigits_eq_ok (hdigits : ∀ c ∈ cs, c.isDigit = true)
    (h : Nat.ofDigitChars 10 cs n ≤ greatest) :
    readDigits greatest beyond n cs = .ok (Nat.ofDigitChars 10 cs n) := by
  induction cs generalizing n with
  | nil => rfl
  | cons c cs ih =>
    obtain ⟨hc, hcs⟩ := List.forall_mem_cons.1 hdigits
    rw [Nat.ofDigitChars_cons] at h ⊢
    have hle : 10 * n + (c.toNat - '0'.toNat) ≤ greatest :=
      Nat.le_trans (le_ofDigitChars _ cs) h
    rw [readDigits, digit?_of_isDigit hc]
    simp only [if_pos hle]
    exact ih hcs h

/-- The number that is read stays in reach. -/
theorem le_of_readDigits (h : readDigits greatest beyond n cs = .ok m) (hn : n ≤ greatest) :
    m ≤ greatest := by
  induction cs generalizing n with
  | nil =>
    cases h
    exact hn
  | cons c cs ih =>
    rw [readDigits] at h
    split at h
    · cases h
    · split at h
      · next hle => exact ih h hle
      · cases h

/-! ## Numerals -/

/-- The digits of a number. -/
theorem exists_toDigits (n : Nat) : ∃ c cs, Nat.toDigits 10 n = c :: cs ∧
    (∀ d ∈ c :: cs, d.isDigit = true) ∧ Nat.ofDigitChars 10 (c :: cs) 0 = n := by
  obtain ⟨c, cs, h⟩ := List.exists_cons_of_ne_nil (Nat.toDigits_ne_nil (n := n) (b := 10))
  refine ⟨c, cs, h, ?_, ?_⟩
  · intro d hd
    rw [← h] at hd
    exact Nat.isDigit_of_mem_toDigits (by decide) (by decide) hd
  · rw [← h]
    exact Nat.ofDigitChars_ten_toDigits

/-- A numeral holds no blank character. -/
theorem isBlank_of_mem_write {n : Int} {c : Char} (h : c ∈ write n) : isBlank c = false := by
  have hdigit : c.isDigit = true → isBlank c = false := by
    intro hc
    obtain ⟨hlow, hhigh⟩ := Char.isDigit_iff_toNat.1 hc
    have hlow : 48 ≤ c.toNat := hlow
    have hhigh : c.toNat ≤ 57 := hhigh
    simp only [isBlank, blankRanges, CodeRange.within]
    grind
  have hmem : c ∈ Nat.toDigits 10 n.natAbs → isBlank c = false := fun hc =>
    hdigit (Nat.isDigit_of_mem_toDigits (by decide) (by decide) hc)
  rw [write] at h
  split at h
  · rcases List.mem_cons.1 h with rfl | h
    · decide
    · exact hmem h
  · exact hmem h

/-- A number that is written is read back. -/
theorem read_write {range : Range} {n : Int} (h : range.Holds n) : read range (write n) = .ok n := by
  obtain ⟨hleast, hgreatest⟩ := h
  obtain ⟨c, cs, heq, hdigits, hvalue⟩ := exists_toDigits n.natAbs
  rw [write, heq]
  by_cases hn : n < 0
  · have hne : range.least ≠ 0 := by omega
    have hle : Nat.ofDigitChars 10 (c :: cs) 0 ≤ range.least := by omega
    rw [if_pos hn, read, if_neg hne, readDigits_eq_ok hdigits hle, hvalue]
    show Except.ok (-(n.natAbs : Int)) = .ok n
    congr
    omega
  · have hle : Nat.ofDigitChars 10 (c :: cs) 0 ≤ range.greatest := by omega
    have hplus : c ≠ '+' := by
      rintro rfl
      exact absurd (hdigits _ List.mem_cons_self) (by decide)
    have hminus : c ≠ '-' := by
      rintro rfl
      exact absurd (hdigits _ List.mem_cons_self) (by decide)
    have hread : read range (c :: cs) =
        (readDigits range.greatest .tooLarge 0 (c :: cs)).map Int.ofNat := by
      unfold read
      split <;> simp_all
    rw [if_neg hn, hread, readDigits_eq_ok hdigits hle, hvalue]
    show Except.ok (n.natAbs : Int) = .ok n
    congr
    omega

/-- Whatever is read is a number of the range. -/
theorem holds_of_read {range : Range} {n : Int} (h : read range cs = .ok n) : range.Holds n := by
  have hplain {ds : List Char}
      (h : (readDigits range.greatest .tooLarge 0 ds).map Int.ofNat = .ok n) : range.Holds n := by
    obtain ⟨m, hdigits, rfl⟩ := exists_of_map_eq_ok h
    have hle := le_of_readDigits hdigits (Nat.zero_le _)
    rw [Range.Holds, Int.ofNat_eq_natCast]
    omega
  unfold read at h
  split at h
  · cases h
  · exact hplain h
  · split at h
    · cases h
    · obtain ⟨_, hread, rfl⟩ := exists_of_map_eq_ok h
      obtain ⟨m, hdigits, hm⟩ := exists_of_bind_eq_ok hread
      cases hm
      have hle := le_of_readDigits hdigits (Nat.zero_le _)
      rw [Range.Holds]
      omega
  · exact hplain h

end QueryPad.Text.Numeral
