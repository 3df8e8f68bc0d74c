import QueryPad.Lexeme.Piece
import QueryPad.Text.Offset

/-!
# Lexemes

The lexemes of a text, each with the byte offset at which it begins. Main statements:
`place_append`, the offsets of later pieces count on from the width of the earlier ones;
`place_eq_map_shift`, to begin further on moves every lexeme by as much; `exists_of_mem_all`, a
lexeme is what its first character opens where it stands.
-/

namespace QueryPad

/-- A lexeme and where in the text it begins. -/
structure Lexeme where
  text : String
  /-- The byte offset of its first character. -/
  start : Nat
  deriving DecidableEq, Repr

namespace Lexeme

/-- The byte offset behind its last character. -/
def stop (l : Lexeme) : Nat :=
  l.start + l.text.utf8ByteSize

/-- The same lexeme, so many bytes further on. -/
def shift (n : Nat) (l : Lexeme) : Lexeme :=
  { l with start := n + l.start }

/-- The lexemes among pieces that begin at a byte offset. -/
def place (offset : Nat) : List Piece → List Lexeme
  | [] => []
  | .blank c :: more => place (offset + c.utf8Size) more
  | .lexeme cs :: more =>
    { text := String.ofList cs, start := offset } :: place (offset + Text.width cs) more

/-- The lexemes of a text, in order. -/
def all (text : String) : List Lexeme :=
  place 0 (pieces text.toList)

theorem place_append (offset : Nat) (ps qs : List Piece) :
    place offset (ps ++ qs) =
      place offset ps ++ place (offset + Text.width (ps.flatMap Piece.chars)) qs := by
  induction ps generalizing offset with
  | nil => simp [place]
  | cons p ps ih => cases p <;> simp [place, ih, Piece.chars, Nat.add_assoc]

theorem place_eq_map_shift (offset : Nat) (ps : List Piece) :
    place offset ps = (place 0 ps).map (shift offset) := by
  suffices h : ∀ n, place (offset + n) ps = (place n ps).map (shift offset) from h 0
  induction ps with
  | nil => simp [place]
  | cons p ps ih => cases p <;> simp [place, ih, shift, Nat.add_assoc]

/-- A lexeme among the pieces of a text begins behind some of its characters. -/
theorem exists_of_mem_place {l : Lexeme} {offset : Nat} {cs : List Char}
    (h : l ∈ place offset (pieces cs)) :
    ∃ left c rest, cs = left ++ c :: rest ∧
      l = { text := String.ofList (c :: tail c rest), start := offset + Text.width left } := by
  fun_induction pieces cs generalizing offset with
  | case1 => cases h
  | case2 c rest _ ih =>
    obtain ⟨left, d, more, rfl, rfl⟩ := ih h
    exact ⟨c :: left, d, more, rfl, by rw [Text.width_cons, Nat.add_assoc]⟩
  | case3 c rest _ ih =>
    rcases List.mem_cons.1 h with rfl | h
    · exact ⟨[], c, rest, rfl, rfl⟩
    · obtain ⟨left, d, more, heq, rfl⟩ := ih h
      refine ⟨c :: tail c rest ++ left, d, more, ?_, by rw [Text.width_append, Nat.add_assoc]⟩
      rw [List.cons_append, List.cons_append, List.append_assoc, ← heq, tail_append_drop]

/-- A lexeme is what the first character where it begins opens. -/
theorem exists_of_mem_all {text : String} {l : Lexeme} (h : l ∈ all text) :
    ∃ left c rest, Text.part? text.toList l.start = some (left, c :: rest) ∧
      l.text = String.ofList (c :: tail c rest) := by
  obtain ⟨left, c, rest, heq, rfl⟩ := exists_of_mem_place h
  exact ⟨left, c, rest, Text.part?_eq_some_iff.2 ⟨heq, (Nat.zero_add _).symm⟩, rfl⟩

end Lexeme

end QueryPad
