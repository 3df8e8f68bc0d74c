import QueryPad.Proofs.Lexeme.Alphabet
import QueryPad.Proofs.Lexeme.Lookahead
import QueryPad.Proofs.Lexeme.Tiling

/-!
# Lexemes that no later text can change

A text that is being typed may go on in many ways. A lexeme that ends two bytes before the end of what
is there is settled: no scan looks further than that (`stopsToo_append`), so it is read the same in
every continuation. Main statement: `filter_isSettled_all_append`, the settled lexemes are the first
of every continuation, and no other lexeme of a continuation ends so early.
-/

namespace QueryPad.Lexeme

open Text (width width_cons width_append isBlank)

/-- The lexeme ends two bytes or more before a byte offset. -/
def IsSettled (n : Nat) (l : Lexeme) : Prop :=
  l.stop + 2 ≤ n

instance (n : Nat) (l : Lexeme) : Decidable (l.IsSettled n) :=
  inferInstanceAs (Decidable (_ ≤ _))

/-! ## Two bytes ahead -/

/-- A character that takes up several bytes stops every scan, whatever follows it, or goes on with it,
whatever follows it. -/
theorem stopsToo_cons_of_utf8Size {c : Char} (h : c.utf8Size ≠ 1) (v w : List Char) :
    StopsToo (c :: v) (c :: w) where
  eq_nil hnil := nomatch hnil
  head?_eq _ hd _ := hd
  numberTail_eq_nil previous _ := by
    rw [numberTail, if_neg]
    intro hgo
    exact h (utf8Size_of_isVisible (isVisible_of_numberGoesOn hgo))
  operatorTail_eq_nil _ := by
    rw [operatorTail, if_neg]
    intro hgo
    rw [Bool.and_eq_true] at hgo
    exact h (utf8Size_of_isVisible (isVisible_of_isOperator hgo.1))

/-- Two bytes that follow a lexeme tell whether it ends before them: they are two characters, or they
begin with one that takes up several bytes. -/
theorem stopsToo_append {cs : List Char} (h : 2 ≤ width cs) (v w : List Char) :
    StopsToo (cs ++ v) (cs ++ w) := by
  match cs with
  | [] => exact absurd h (by decide)
  | [c] =>
    refine stopsToo_cons_of_utf8Size ?_ v w
    rw [width_cons, Text.width_nil] at h
    omega
  | c :: d :: ds => exact (agrees_cons_cons c d (ds ++ v) (ds ++ w)).stopsToo

/-! ## The settled lexemes of two continuations -/

variable {o n : Nat} {c : Char} {l : Lexeme} {cs u v : List Char}

/-- No lexeme behind the last byte but one of a text is settled by it. -/
theorem not_isSettled_of_mem_place (hn : n < o + 2) (h : l ∈ place o (pieces cs)) :
    ¬ l.IsSettled n := by
  have hle : o ≤ l.stop := Nat.le_trans (le_start_of_mem_place h) (Nat.le_add_right _ _)
  rw [IsSettled]
  omega

/-- If the first lexeme of a continuation is settled, two bytes of the text follow it. -/
theorem exists_of_isSettled {t : List Char}
    (h : IsSettled (o + width (c :: u)) { text := String.ofList (c :: t), start := o })
    (ht : t <+: u ++ v) : ∃ more, u = t ++ more ∧ 2 ≤ width more := by
  rw [IsSettled, stop, Text.utf8ByteSize_ofList] at h
  simp only [width_cons] at h
  have hprefix : t <+: u := by
    refine Text.prefix_of_width_le ht (List.prefix_append u v) ?_
    omega
  obtain ⟨more, rfl⟩ := hprefix
  refine ⟨more, rfl, ?_⟩
  rw [width_append] at h
  omega

/-- If the first lexeme of a continuation is not settled, none is. -/
theorem not_isSettled_of_first (hblank : isBlank c = false)
    (h : ¬ IsSettled n { text := String.ofList (c :: tail c cs), start := o })
    (hl : l ∈ place o (pieces (c :: cs))) : ¬ l.IsSettled n := by
  rw [pieces_lexeme hblank] at hl
  rcases List.mem_cons.1 hl with rfl | hl
  · exact h
  · refine not_isSettled_of_mem_place ?_ hl
    rw [IsSettled, stop, Text.utf8ByteSize_ofList] at h
    exact Nat.not_le.1 h

/-- The first lexeme of a continuation is settled and then followed by two bytes of the text, or no
lexeme of it is. -/
theorem exists_or_not_isSettled (hblank : isBlank c = false) (o : Nat) (u v : List Char) :
    (∃ t more, u = t ++ more ∧ 2 ≤ width more ∧ tail c (t ++ (more ++ v)) = t) ∨
      ∀ l ∈ place o (pieces (c :: (u ++ v))), ¬ l.IsSettled (o + width (c :: u)) := by
  by_cases hfirst : IsSettled (o + width (c :: u))
      { text := String.ofList (c :: tail c (u ++ v)), start := o }
  · obtain ⟨more, hu, hmore⟩ := exists_of_isSettled hfirst (tail_isPrefix c (u ++ v))
    refine .inl ⟨tail c (u ++ v), more, hu, hmore, ?_⟩
    rw [← List.append_assoc, ← hu]
  · exact .inr fun l hl => not_isSettled_of_first hblank hfirst hl

/-- Two continuations of a text have the same lexemes up to where one has a lexeme that is not
settled, and there neither has a settled one any more. -/
theorem exists_append_of_isSettled (u v w : List Char) (o : Nat) :
    ∃ ks ls ms, place o (pieces (u ++ v)) = ks ++ ls ∧ place o (pieces (u ++ w)) = ks ++ ms ∧
      (∀ k ∈ ks, k.IsSettled (o + width u)) ∧ (∀ l ∈ ls, ¬ l.IsSettled (o + width u)) ∧
        ∀ m ∈ ms, ¬ m.IsSettled (o + width u) := by
  match u with
  | [] =>
    refine ⟨[], _, _, rfl, rfl, nofun, ?_, ?_⟩
    all_goals
      intro l hl
      exact not_isSettled_of_mem_place (Nat.lt_add_of_pos_right Nat.two_pos) hl
  | c :: u =>
    rw [List.cons_append, List.cons_append]
    cases hblank : isBlank c with
    | true =>
      rw [pieces_blank hblank, pieces_blank hblank, width_cons, ← Nat.add_assoc]
      exact exists_append_of_isSettled u v w (o + c.utf8Size)
    | false =>
      by_cases hfirst : ∃ t more, u = t ++ more ∧ 2 ≤ width more ∧ tail c (t ++ (more ++ v)) = t
      · obtain ⟨t, more, heq, hmore, hv⟩ := hfirst
        have hshorter : more.length ≤ u.length := by
          rw [heq, List.length_append]
          exact Nat.le_add_left _ _
        have hw : tail c (t ++ (more ++ w)) = t := (stopsToo_append hmore v w).tail_eq hv
        have hn : o + width (c :: u) = o + width (c :: t) + width more := by
          rw [heq, ← List.cons_append, width_append, Nat.add_assoc]
        obtain ⟨ks, ls, ms, hks, hms, hsettled, hrest⟩ :=
          exists_append_of_isSettled more v w (o + width (c :: t))
        rw [heq, List.append_assoc, List.append_assoc, pieces_cons_of_tail hblank hv,
          pieces_cons_of_tail hblank hw, ← heq, hn]
        refine ⟨_ :: ks, ls, ms, congrArg (List.cons _) hks, congrArg (List.cons _) hms, ?_, hrest⟩
        refine List.forall_mem_cons.2 ⟨?_, hsettled⟩
        rw [IsSettled, stop, Text.utf8ByteSize_ofList]
        exact Nat.add_le_add_left hmore _
      · have hfirst' : ¬ ∃ t more, u = t ++ more ∧ 2 ≤ width more ∧
            tail c (t ++ (more ++ w)) = t := by
          rintro ⟨t, more, hu, hmore, hw⟩
          exact hfirst ⟨t, more, hu, hmore, (stopsToo_append hmore w v).tail_eq hw⟩
        exact ⟨[], _, _, rfl, rfl, nofun, (exists_or_not_isSettled hblank o u v).resolve_left hfirst,
          (exists_or_not_isSettled hblank o u w).resolve_left hfirst'⟩
termination_by u.length
decreasing_by all_goals simp only [List.length_cons]; omega

/-! ## Texts -/

/-- Whatever follows a text, the lexemes that it settles are the same: they are the first ones, and no
other lexeme ends two bytes before the end of that text. -/
theorem filter_isSettled_all_append (u v w : String) :
    (all (u ++ v)).filter (·.IsSettled u.utf8ByteSize) <+: all (u ++ w) ∧
      (all (u ++ v)).filter (·.IsSettled u.utf8ByteSize) =
        (all (u ++ w)).filter (·.IsSettled u.utf8ByteSize) := by
  obtain ⟨ks, ls, ms, hv, hw, hks, hls, hms⟩ :=
    exists_append_of_isSettled u.toList v.toList w.toList 0
  rw [Nat.zero_add, ← Text.utf8ByteSize_eq] at hks hls hms
  have hfilter {ls : List Lexeme} (hls : ∀ l ∈ ls, ¬ l.IsSettled u.utf8ByteSize) :
      (ks ++ ls).filter (·.IsSettled u.utf8ByteSize) = ks := by
    have hkept : ks.filter (·.IsSettled u.utf8ByteSize) = ks := by
      simpa only [List.filter_eq_self, decide_eq_true_eq] using hks
    have hleft : ls.filter (·.IsSettled u.utf8ByteSize) = [] := by
      simpa only [List.filter_eq_nil_iff, decide_eq_true_eq] using hls
    rw [List.filter_append, hkept, hleft, List.append_nil]
  rw [all, all, String.toList_append, String.toList_append, hv, hw, hfilter hls, hfilter hms]
  exact ⟨List.prefix_append ks ms, rfl⟩

/-- One byte would not be enough: with a digit behind it the sign belongs to the number. -/
example : all "1e-" = [{ text := "1e", start := 0 }, { text := "-", start := 2 }] ∧
    all "1e-5" = [{ text := "1e-5", start := 0 }] := by
  decide +kernel

end QueryPad.Lexeme
