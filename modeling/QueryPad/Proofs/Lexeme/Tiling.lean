import Mathlib.Data.List.Pairwise
import QueryPad.Token

/-!
# Tokens tile a text

The tokens of a text are stretches of it in order, and what lies between them is blank. `Tiling`
says so in terms of byte offsets alone, and `Token.tiling_all` is the main statement: however the
lexemes are classified, their tokens are a tiling. What lies between lexemes is found by recursion
over the pieces (`isBlank_of_not_covered`); that a token holds all the bytes of a character or none
follows from its ends being positions of the text (`IsBoundary.le_or_le`).
-/

namespace QueryPad

/-! ## Characters and positions -/

namespace Text

/-- The character stands at a byte offset in the text. -/
def IsAt (text : String) (offset : Nat) (c : Char) : Prop :=
  ∃ left right, text.toList = left ++ c :: right ∧ width left = offset

/-- Every byte of a text belongs to one of its characters. -/
theorem exists_append_cons_of_lt_width {cs : List Char} {n : Nat} (h : n < width cs) :
    ∃ left c right, cs = left ++ c :: right ∧ width left ≤ n ∧ n < width left + c.utf8Size := by
  induction cs generalizing n with
  | nil => exact absurd h (Nat.not_lt_zero n)
  | cons d cs ih =>
    rw [width_cons] at h
    by_cases hn : n < d.utf8Size
    · exact ⟨[], d, cs, rfl, Nat.zero_le n, by rwa [width_nil, Nat.zero_add]⟩
    · obtain ⟨left, c, right, rfl, hle, hlt⟩ := ih (n := n - d.utf8Size) (by omega)
      exact ⟨d :: left, c, right, rfl, by rw [width_cons]; omega, by rw [width_cons]; omega⟩

/-- A position of the text lies before a character or behind it. -/
theorem IsBoundary.le_or_le {text : String} {n offset : Nat} {c : Char} (hn : IsBoundary text n)
    (hc : IsAt text offset c) : n ≤ offset ∨ offset + c.utf8Size ≤ n := by
  obtain ⟨first, second, hfirst, rfl⟩ := hn
  obtain ⟨left, right, htext, rfl⟩ := hc
  by_cases hle : width first ≤ width left
  · exact .inl hle
  · refine .inr ?_
    have hgt : width left < width first := Nat.lt_of_not_le hle
    have hleft : left <+: text.toList := ⟨c :: right, htext.symm⟩
    obtain ⟨more, rfl⟩ := prefix_of_width_le hleft ⟨second, hfirst.symm⟩ (Nat.le_of_lt hgt)
    rw [htext, List.append_assoc, List.append_cancel_left_eq] at hfirst
    cases more with
    | nil => rw [List.append_nil] at hgt; exact absurd hgt (Nat.lt_irrefl _)
    | cons d more =>
      obtain ⟨rfl, -⟩ := List.cons.inj hfirst
      rw [width_append, width_cons]
      omega

end Text

open Text (width width_cons width_append isBlank IsBoundary IsAt)

/-! ## Lexemes -/

namespace Lexeme

variable {l : Lexeme} {offset : Nat} {cs : List Char}

/-- A lexeme begins at or behind the place from which its text is read. -/
theorem le_start_of_mem_place (h : l ∈ place offset (pieces cs)) : offset ≤ l.start := by
  obtain ⟨left, _, _, _, rfl⟩ := exists_of_mem_place h
  exact Nat.le_add_right _ _

/-- A lexeme begins with a character that is not blank. -/
theorem isBlank_first_of_mem_place (h : l ∈ place offset (pieces cs)) :
    ∃ c rest, l.text.toList = c :: rest ∧ isBlank c = false := by
  fun_induction pieces cs generalizing offset with
  | case1 => cases h
  | case2 c rest hblank ih => exact ih h
  | case3 c rest hblank ih =>
    rcases List.mem_cons.1 h with rfl | h
    · exact ⟨c, tail c rest, String.toList_ofList, Bool.not_eq_true _ ▸ hblank⟩
    · exact ih h

/-- Every lexeme ends before the next ones begin. -/
theorem pairwise_place (offset : Nat) (cs : List Char) :
    (place offset (pieces cs)).Pairwise fun l m => l.stop ≤ m.start := by
  fun_induction pieces cs generalizing offset with
  | case1 => exact .nil
  | case2 c rest hblank ih => exact ih _
  | case3 c rest hblank ih =>
    refine List.pairwise_cons.2 ⟨?_, ih _⟩
    intro m hm
    rw [stop, Text.utf8ByteSize_ofList]
    exact le_start_of_mem_place hm

/-- A character that no lexeme covers is blank. -/
theorem isBlank_of_not_covered {left right : List Char} {c : Char} (hcs : cs = left ++ c :: right)
    (h : ∀ l ∈ place offset (pieces cs),
      ¬ (l.start ≤ offset + width left ∧ offset + width left < l.stop)) :
    isBlank c = true := by
  fun_induction pieces cs generalizing offset left with
  | case1 => simp at hcs
  | case2 d rest hblank ih =>
    cases left with
    | nil =>
      obtain ⟨rfl, -⟩ := List.cons.inj hcs
      exact hblank
    | cons e left =>
      obtain ⟨rfl, hrest⟩ := List.cons.inj hcs
      rw [width_cons, ← Nat.add_assoc] at h
      exact ih hrest h
  | case3 d rest hblank ih =>
    have hfirst := h _ (List.mem_cons_self ..)
    rw [stop, Text.utf8ByteSize_ofList] at hfirst
    have hle : width (d :: tail d rest) ≤ width left := by
      dsimp only at hfirst
      omega
    have hprefix : d :: tail d rest <+: d :: rest :=
      List.cons_prefix_cons.2 ⟨rfl, tail_isPrefix d rest⟩
    obtain ⟨left, rfl⟩ := Text.prefix_of_width_le hprefix ⟨c :: right, hcs.symm⟩ hle
    have hrest : rest.drop (tail d rest).length = left ++ c :: right := by
      have hrest : rest = tail d rest ++ (left ++ c :: right) := by simpa using hcs
      exact List.append_cancel_left ((tail_append_drop d rest).trans hrest)
    rw [width_append, ← Nat.add_assoc] at h
    exact ih hrest fun l hl => h l (List.mem_cons_of_mem _ hl)

end Lexeme

/-! ## Tokens -/

namespace Token

/-- The token is what stands in the text from its start to its stop. -/
def IsSlice (text : String) (t : Token) : Prop :=
  ∃ left right, text.toList = left ++ (t.text.toList ++ right) ∧
    width left = t.start ∧ width left + width t.text.toList = t.stop

variable {text : String} {t : Token}

/-- A slice starts and stops at positions of the text. -/
theorem IsSlice.isBoundary (h : t.IsSlice text) :
    IsBoundary text t.start ∧ IsBoundary text t.stop := by
  obtain ⟨left, right, htext, hstart, hstop⟩ := h
  refine ⟨⟨left, _, htext, hstart⟩, ⟨left ++ t.text.toList, right, ?_, ?_⟩⟩
  · rw [htext, List.append_assoc]
  · rw [width_append, hstop]

/-- A slice that begins with a character has a byte. -/
theorem IsSlice.start_lt_stop (h : t.IsSlice text) (hne : t.text.toList ≠ []) :
    t.start < t.stop := by
  obtain ⟨left, right, -, hstart, hstop⟩ := h
  have := Text.width_pos hne
  omega

/-- One of the tokens stops before the other starts. -/
def IsApart (t u : Token) : Prop :=
  t.stop ≤ u.start ∨ u.stop ≤ t.start

instance : Std.Symm IsApart :=
  ⟨fun _ _ => Or.symm⟩

theorem covers_iff {n : Nat} : t.covers n = true ↔ t.start ≤ n ∧ n < t.stop := by
  rw [covers, Bool.and_eq_true, decide_eq_true_eq, decide_eq_true_eq]

end Token

/-- The character that stands at an offset has no byte in common with any of the tokens. -/
def IsOutside (tokens : List Token) (offset : Nat) (c : Char) : Prop :=
  ∀ t ∈ tokens, t.stop ≤ offset ∨ offset + c.utf8Size ≤ t.start

/-- The tokens lie in the text in order, and between them it is blank. -/
structure Tiling (text : String) (tokens : List Token) : Prop where
  isSlice : ∀ t ∈ tokens, t.IsSlice text
  isBoundary : ∀ t ∈ tokens, IsBoundary text t.start ∧ IsBoundary text t.stop
  start_lt_stop : ∀ t ∈ tokens, t.start < t.stop
  /-- No token begins with a blank. -/
  isBlank_first : ∀ t ∈ tokens, ∃ c rest, t.text.toList = c :: rest ∧ isBlank c = false
  pairwise : tokens.Pairwise fun t u => t.start < u.start ∧ t.stop ≤ u.start
  isBlank_of_isOutside : ∀ offset c, IsAt text offset c → IsOutside tokens offset c →
    isBlank c = true
  /-- A byte belongs to one token or else to a blank. -/
  covers_or_isBlank : ∀ n < text.utf8ByteSize,
    (∃! t, t ∈ tokens ∧ t.covers n = true) ∨
      ∃ offset c, IsAt text offset c ∧ offset ≤ n ∧ n < offset + c.utf8Size ∧
        isBlank c = true ∧ IsOutside tokens offset c

/-- A character one of whose bytes belongs to no token has no byte in common with any. -/
theorem isOutside_of_not_covers {text : String} {tokens : List Token}
    (hboundary : ∀ t ∈ tokens, IsBoundary text t.start ∧ IsBoundary text t.stop) {offset n : Nat}
    {c : Char} (hc : IsAt text offset c) (hle : offset ≤ n) (hlt : n < offset + c.utf8Size)
    (h : ∀ t ∈ tokens, ¬ t.covers n = true) : IsOutside tokens offset c := by
  intro t ht
  have hnot := h t ht
  rw [Token.covers_iff] at hnot
  have hstart := (hboundary t ht).1.le_or_le hc
  have hstop := (hboundary t ht).2.le_or_le hc
  omega

/-- Where tokens do not overlap, a byte that belongs to one belongs to no other. -/
theorem existsUnique_covers {tokens : List Token}
    (hpairwise : tokens.Pairwise fun t u => t.stop ≤ u.start) {t : Token} (ht : t ∈ tokens)
    {n : Nat} (h : t.covers n = true) : ∃! t, t ∈ tokens ∧ t.covers n = true := by
  refine ⟨t, ⟨ht, h⟩, ?_⟩
  rintro u ⟨hu, hn⟩
  have hapart : tokens.Pairwise Token.IsApart := hpairwise.imp .inl
  by_contra hne
  have : u.stop ≤ t.start ∨ t.stop ≤ u.start := hapart.forall hu ht hne
  rw [Token.covers_iff] at h hn
  omega

namespace Token

variable {classify : String → Kind} {text : String} {t : Token}

/-- The tokens of a text are slices of it. -/
theorem isSlice_of_mem_all (h : t ∈ all classify text) : t.IsSlice text := by
  obtain ⟨l, hl, rfl⟩ := List.mem_map.1 h
  obtain ⟨left, c, rest, hpart, htext⟩ := Lexeme.exists_of_mem_all hl
  obtain ⟨heq, hstart⟩ := Text.append_of_part? hpart
  refine ⟨left, rest.drop (Lexeme.tail c rest).length, ?_, hstart, ?_⟩
  · show _ = left ++ (l.text.toList ++ _)
    rw [htext, String.toList_ofList, List.cons_append, Lexeme.tail_append_drop, heq]
  · show _ + width l.text.toList = l.start + l.text.utf8ByteSize
    rw [hstart, Text.utf8ByteSize_eq]

/-- A character that no token of the text covers is blank. -/
theorem isBlank_of_isOutside_all {offset : Nat} {c : Char} (hc : IsAt text offset c)
    (h : IsOutside (all classify text) offset c) : isBlank c = true := by
  obtain ⟨left, right, htext, rfl⟩ := hc
  have hcovered : ∀ l ∈ Lexeme.all text,
      ¬ (l.start ≤ 0 + width left ∧ 0 + width left < l.stop) := by
    intro l hl
    have houtside : l.stop ≤ width left ∨ width left + c.utf8Size ≤ l.start :=
      h (ofLexeme classify l) (List.mem_map_of_mem hl)
    have := c.utf8Size_pos
    omega
  exact Lexeme.isBlank_of_not_covered htext hcovered

/-- However the lexemes of a text are classified, each is one token, and the tokens tile the
text. -/
theorem tiling_all (classify : String → Kind) (text : String) :
    ((all classify text).map fun t => (t.kind, t.text, t.start, t.stop)) =
        ((Lexeme.all text).map fun l => (classify l.text, l.text, l.start, l.stop)) ∧
      Tiling text (all classify text) := by
  have hslice : ∀ t ∈ all classify text, t.IsSlice text := fun _ => isSlice_of_mem_all
  have hboundary : ∀ t ∈ all classify text, IsBoundary text t.start ∧ IsBoundary text t.stop :=
    fun t ht => (hslice t ht).isBoundary
  have hfirst : ∀ t ∈ all classify text, ∃ c rest, t.text.toList = c :: rest ∧
      isBlank c = false := by
    intro t ht
    obtain ⟨l, hl, rfl⟩ := List.mem_map.1 ht
    exact Lexeme.isBlank_first_of_mem_place hl
  have hlt : ∀ t ∈ all classify text, t.start < t.stop := by
    intro t ht
    obtain ⟨c, rest, hcons, -⟩ := hfirst t ht
    exact (hslice t ht).start_lt_stop (hcons ▸ List.cons_ne_nil c rest)
  have hpairwise : (all classify text).Pairwise fun t u => t.stop ≤ u.start :=
    List.pairwise_map.2 (Lexeme.pairwise_place 0 text.toList)
  refine ⟨?_, hslice, hboundary, hlt, hfirst, ?_, fun _ _ => isBlank_of_isOutside_all, ?_⟩
  · rw [all, List.map_map]
    rfl
  · refine hpairwise.imp_of_mem ?_
    intro t u ht _ hle
    exact ⟨Nat.lt_of_lt_of_le (hlt t ht) hle, hle⟩
  · intro n hn
    rw [Text.utf8ByteSize_eq] at hn
    obtain ⟨left, c, right, htext, hle, hchar⟩ := Text.exists_append_cons_of_lt_width hn
    have hc : IsAt text (width left) c := ⟨left, right, htext, rfl⟩
    by_cases hcovered : ∃ t ∈ all classify text, t.covers n = true
    · obtain ⟨t, ht, h⟩ := hcovered
      exact .inl (existsUnique_covers hpairwise ht h)
    · have houtside := isOutside_of_not_covers hboundary hc hle hchar
        fun t ht h => hcovered ⟨t, ht, h⟩
      exact .inr ⟨_, c, hc, hle, hchar, isBlank_of_isOutside_all hc houtside, houtside⟩

end Token

end QueryPad
