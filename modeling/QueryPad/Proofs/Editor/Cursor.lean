import Mathlib.Order.Bounds.Basic
import Mathlib.Order.MinMax
import QueryPad.Proofs.Editor.Press

/-!
# Where the cursor is put

A cursor can be sent to any offset. One that falls inside a character or past the end is brought
down to the position before it, which is sought one byte at a time. That a byte is the first of a
character shows from the byte alone (`Text.isBoundary_iff_isUTF8FirstByte`), and as no character
takes up more than four bytes the search is short (`Text.IsBoundary.exists_next`). The position found
is the greatest one (`Buffer.isGreatest_cursor_moveCursor`), and the rest follows from the order of
the offsets. Main statement: `Buffer.isGreatest_monotone_cursor_moveCursor`.
-/

namespace QueryPad

/-! ## Positions and bytes -/

namespace Text

variable {text : String} {n : Nat}

/-- The positions of a text are those that the standard library holds valid. -/
theorem isBoundary_iff_isValid : IsBoundary text n ↔ (⟨n⟩ : String.Pos.Raw).IsValid text := by
  rw [String.Pos.Raw.isValid_iff_exists_append]
  constructor
  · rintro ⟨left, right, htext, rfl⟩
    refine ⟨String.ofList left, String.ofList right, ?_, ?_⟩
    · rw [← String.ofList_append, ← htext, String.ofList_toList]
    · exact congrArg String.Pos.Raw.mk (utf8ByteSize_ofList left).symm
  · rintro ⟨left, right, rfl, hn⟩
    refine ⟨left.toList, right.toList, String.toList_append, ?_⟩
    rw [← utf8ByteSize_eq]
    exact (congrArg String.Pos.Raw.byteIdx hn).symm

/-- A position is the end of the text or the place of a byte that begins a character. -/
theorem isBoundary_iff_isUTF8FirstByte : IsBoundary text n ↔ n = text.utf8ByteSize ∨
    ∃ h : n < text.utf8ByteSize, (text.getUTF8Byte ⟨n⟩ h).IsUTF8FirstByte := by
  rw [isBoundary_iff_isValid, String.Pos.Raw.isValid_iff_isUTF8FirstByte]
  exact or_congr_left String.Pos.Raw.ext_iff

/-- Where the text goes on behind a position, the next one is at most four bytes away. -/
theorem IsBoundary.exists_next (h : IsBoundary text n) (hlt : n < text.utf8ByteSize) :
    ∃ m, IsBoundary text m ∧ n < m ∧ m ≤ n + 4 := by
  obtain ⟨left, right, htext, rfl⟩ := h
  cases right with
  | nil =>
    rw [utf8ByteSize_eq, htext, List.append_nil] at hlt
    exact absurd hlt (Nat.lt_irrefl _)
  | cons c right =>
    have hpos := c.utf8Size_pos
    have hle := c.utf8Size_le_four
    refine ⟨width left + c.utf8Size, ⟨left ++ [c], right, ?_, ?_⟩, by omega, by omega⟩
    · rw [htext, List.append_assoc, List.singleton_append]
    · rw [width_append, width_cons, width_nil, Nat.add_zero]

end Text

/-! ## The cursor -/

namespace Buffer

/-- The cursor goes to the last position at or before an offset. -/
theorem isGreatest_cursor_moveCursor (b : Buffer) (n : Nat) :
    IsGreatest {k | Text.IsBoundary b.text k ∧ k ≤ min n b.text.utf8ByteSize}
      (b.moveCursor n).cursor := by
  obtain ⟨hboundary, hle, hlast⟩ :=
    Text.lastBoundary?_eq_some_iff.1 (b.lastBoundary?_eq_cursor_moveCursor n)
  exact ⟨⟨hboundary, hle⟩, fun k hk => hlast k hk.1 hk.2⟩

/-- From a greater offset there are more positions to go to. -/
theorem monotone_cursor_moveCursor (b : Buffer) : Monotone fun n => (b.moveCursor n).cursor := by
  intro n m hnm
  refine (b.isGreatest_cursor_moveCursor n).mono (b.isGreatest_cursor_moveCursor m) ?_
  rintro k ⟨hboundary, hle⟩
  exact ⟨hboundary, hle.trans (min_le_min_right _ hnm)⟩

/-- A position is where the cursor goes if it is sent there. -/
theorem cursor_moveCursor_of_isBoundary {b : Buffer} {n : Nat} (h : Text.IsBoundary b.text n) :
    (b.moveCursor n).cursor = n :=
  (b.isGreatest_cursor_moveCursor n).unique
    ⟨⟨h, le_min le_rfl h.le⟩, fun _ hk => hk.2.trans (min_le_left _ _)⟩

/-- The search takes at most three steps, or else there would be another position on the way. -/
theorem le_cursor_moveCursor_add_three (b : Buffer) (n : Nat) :
    min n b.text.utf8ByteSize ≤ (b.moveCursor n).cursor + 3 := by
  obtain ⟨⟨hboundary, hle⟩, hlast⟩ := b.isGreatest_cursor_moveCursor n
  by_contra hfar
  obtain ⟨next, hnext, hlt, hnear⟩ := hboundary.exists_next (by omega)
  have : next ≤ (b.moveCursor n).cursor := hlast ⟨hnext, by omega⟩
  omega

/-- Wherever the cursor is sent, the search for a position ends after three steps down at most, and
never goes below the beginning of the text. It finds the greatest position that is behind neither the
offset nor the end of the text, so that a greater offset never leads to an earlier place and the
cursor stays where it is if it is sent there. The positions are the end of the text and the places of
the bytes with which its characters begin. -/
theorem isGreatest_monotone_cursor_moveCursor (b : Buffer) :
    (∀ n, Text.lastBoundary? b.text (min n b.text.utf8ByteSize) = some (b.moveCursor n).cursor ∧
      min n b.text.utf8ByteSize ≤ (b.moveCursor n).cursor + 3 ∧
      IsGreatest {k | Text.IsBoundary b.text k ∧ k ≤ min n b.text.utf8ByteSize}
        (b.moveCursor n).cursor ∧
      (b.moveCursor n).moveCursor (b.moveCursor n).cursor = b.moveCursor n) ∧
    (Monotone fun n => (b.moveCursor n).cursor) ∧
    ∀ k, Text.IsBoundary b.text k ↔ k = b.text.utf8ByteSize ∨
      ∃ h : k < b.text.utf8ByteSize, (b.text.getUTF8Byte ⟨k⟩ h).IsUTF8FirstByte := by
  refine ⟨fun n => ⟨?_, ?_, ?_, ?_⟩, b.monotone_cursor_moveCursor, ?_⟩
  · exact b.lastBoundary?_eq_cursor_moveCursor n
  · exact b.le_cursor_moveCursor_add_three n
  · exact b.isGreatest_cursor_moveCursor n
  · -- the text is the same and nothing is selected, so the two differ by their cursors at most
    have hboundary : Text.IsBoundary (b.moveCursor n).text (b.moveCursor n).cursor :=
      (b.isGreatest_cursor_moveCursor n).1.1
    exact congrArg (fun cursor => b.edited b.text cursor)
      (cursor_moveCursor_of_isBoundary hboundary)
  · exact fun _ => Text.isBoundary_iff_isUTF8FirstByte

/-- Inside a character of three bytes, and past the end. -/
example : ((empty.setText "a€b").moveCursor 3).cursor = 1 ∧
    ((empty.setText "a€b").moveCursor 9).cursor = 5 := by
  decide

end Buffer

end QueryPad
