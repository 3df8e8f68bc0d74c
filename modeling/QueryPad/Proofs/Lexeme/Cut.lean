import QueryPad.Lexeme.Basic
import QueryPad.Proofs.Lexeme.Lookahead

/-!
# Cutting a text between lexemes

Where a text is cut, both parts are read as if the other were not there, unless the cut goes through
a lexeme. Main statement: `all_eq_append_shift_iff`, the lexemes of a text are those of its parts
exactly if none of them lies on both sides of the cut. The cut may end a lexeme early only in the
middle of a comment's two opening characters, and then it goes through that comment
(`agrees_of_not_straddles`).
-/

namespace QueryPad.Lexeme

open Text (width width_cons width_append width_pos isBlank)

/-- The lexeme lies on both sides of a byte offset. -/
def Straddles (l : Lexeme) (p : Nat) : Prop :=
  l.start < p ∧ p < l.stop

instance (l : Lexeme) (p : Nat) : Decidable (l.Straddles p) :=
  inferInstanceAs (Decidable (_ ∧ _))

/-- The lexemes of a text lie within it. -/
theorem stop_le_of_mem_all {text : String} {l : Lexeme} (h : l ∈ all text) :
    l.stop ≤ text.utf8ByteSize := by
  obtain ⟨left, c, rest, hpart, hl⟩ := exists_of_mem_all h
  obtain ⟨htext, hstart⟩ := Text.append_of_part? hpart
  obtain ⟨more, hrest⟩ := tail_isPrefix c rest
  have hwidth : width rest = width (tail c rest) + width more := by rw [← width_append, hrest]
  rw [stop, hl, Text.utf8ByteSize_ofList, Text.utf8ByteSize_eq, htext]
  simp only [width_append, width_cons]
  omega

/-! ## Cuts -/

/-- Behind a lexeme the part of a text before a cut looks like the whole text, if the cut goes
through no lexeme. -/
theorem agrees_of_not_straddles {left right : List Char} {o : Nat}
    (h : ∀ l ∈ place o (pieces (left ++ right)), ¬ l.Straddles (o + width left)) :
    Agrees (left ++ right) left := by
  match left with
  | [] => exact agrees_nil _
  | c :: d :: cs => exact agrees_cons_cons c d _ _
  | [c] =>
    refine agrees_singleton (Bool.eq_false_iff.2 ?_)
    intro hcomment
    have hblank : isBlank c = false := by
      rcases opensComment_iff.1 hcomment with ⟨_, heq⟩ | ⟨_, heq⟩ <;> cases heq <;> rfl
    have htail : 0 < width (tail c right) := width_pos (tail_ne_nil_of_opensComment hcomment)
    rw [List.singleton_append, pieces_lexeme hblank] at h
    refine h _ (List.mem_cons_self ..) ⟨?_, ?_⟩
    · have := c.utf8Size_pos
      simp only [width_cons]
      omega
    · rw [stop, Text.utf8ByteSize_ofList]
      simp only [width_cons, Text.width_nil]
      omega

/-- A cut that goes through no lexeme parts the pieces. -/
theorem pieces_append (left right : List Char) (o : Nat)
    (h : ∀ l ∈ place o (pieces (left ++ right)), ¬ l.Straddles (o + width left)) :
    pieces (left ++ right) = pieces left ++ pieces right := by
  match left with
  | [] => rw [List.nil_append, pieces_nil, List.nil_append]
  | c :: rest =>
    rw [List.cons_append] at h ⊢
    cases hblank : isBlank c with
    | true =>
      rw [pieces_blank hblank] at h
      rw [pieces_blank hblank, pieces_blank hblank, List.cons_append,
        pieces_append rest right (o + c.utf8Size) (by rwa [Nat.add_assoc])]
    | false =>
      have hstop := h ⟨_, o⟩ (by rw [pieces_lexeme hblank]; exact List.mem_cons_self ..)
      have hprefix : tail c (rest ++ right) <+: rest := by
        refine Text.prefix_of_width_le (tail_isPrefix c _) (List.prefix_append rest right) ?_
        simp only [Straddles, stop, Text.utf8ByteSize_ofList, width_cons] at hstop
        have := c.utf8Size_pos
        omega
      generalize htail : tail c (rest ++ right) = t at hprefix
      obtain ⟨left, heq⟩ := hprefix
      have hshorter : left.length ≤ rest.length := by
        rw [← heq, List.length_append]
        omega
      rw [← heq, List.append_assoc] at h htail ⊢
      rw [pieces_cons_of_tail hblank htail] at h ⊢
      have hrest : ∀ l ∈ place (o + width (c :: t)) (pieces (left ++ right)),
          ¬ l.Straddles (o + width (c :: t) + width left) := by
        intro l hl
        have := h l (List.mem_cons_of_mem _ hl)
        rwa [← List.cons_append, width_append, ← Nat.add_assoc] at this
      rw [pieces_cons_of_tail hblank ((agrees_of_not_straddles hrest).stopsToo.tail_eq htail),
        List.cons_append, pieces_append left right _ hrest]
termination_by left.length
decreasing_by all_goals simp only [List.length_cons]; omega

/-- The lexemes of pieces put one after another. -/
theorem place_pieces_append (left right : List Char) :
    place 0 (pieces left ++ pieces right) =
      place 0 (pieces left) ++ (place 0 (pieces right)).map (shift (width left)) := by
  rw [place_append, flatten_pieces, Nat.zero_add, place_eq_map_shift (width left)]

variable {text : String} {p : Nat} {left right : List Char}

/-- The lexemes of a text are those of the parts before and after a byte offset, the latter moved on
by as much, exactly if the offset is not inside a lexeme. -/
theorem all_eq_append_shift_iff (h : Text.part? text.toList p = some (left, right)) :
    all text = all (String.ofList left) ++ (all (String.ofList right)).map (shift p) ↔
      ∀ l ∈ all text, ¬ l.Straddles p := by
  obtain ⟨htext, rfl⟩ := Text.append_of_part? h
  refine ⟨?_, ?_⟩
  · rintro heq l hl ⟨hstart, hstop⟩
    rw [heq, List.mem_append] at hl
    rcases hl with hl | hl
    · have := stop_le_of_mem_all hl
      rw [Text.utf8ByteSize_ofList] at this
      omega
    · obtain ⟨l, -, rfl⟩ := List.mem_map.1 hl
      exact absurd hstart (Nat.not_lt.2 (Nat.le_add_right _ _))
  · intro hcut
    simp only [all, htext, String.toList_ofList] at hcut ⊢
    rw [pieces_append left right 0 (by rwa [Nat.zero_add]), place_pieces_append]

/-- An operator and a comment are read apart, though the operator ends only where the comment
begins. -/
theorem all_eq_append_shift_minus :
    Text.part? "a*-- b".toList 2 = some (['a', '*'], "-- b".toList) ∧
      (∀ l ∈ all "a*-- b", ¬ l.Straddles 2) ∧
      all "a*-- b" = all (String.ofList ['a', '*']) ++ (all "-- b").map (shift 2) := by
  have hpart : Text.part? "a*-- b".toList 2 = some (['a', '*'], "-- b".toList) := by
    decide +kernel
  have hcut : ∀ l ∈ all "a*-- b", ¬ l.Straddles 2 := by decide +kernel
  have heq := (all_eq_append_shift_iff hpart).2 hcut
  rw [String.ofList_toList] at heq
  exact ⟨hpart, hcut, heq⟩

end QueryPad.Lexeme
