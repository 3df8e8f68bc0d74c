import QueryPad.Grammar.Sql
import QueryPad.Proofs.Editor.WellFormed

/-!
# Editors on well-formed buffers

An editor changes its buffer by operations of the buffer alone (`exists_buffer_apply`), so the buffer
of every editor that comes about is well-formed (`IsReachable.isWellFormed`), and the suggestions are
for the word before the cursor. Main statement: `isWellFormed_isSafe_suggestions_eq`.
-/

namespace QueryPad

namespace Editor

variable {grammar : Grammar} {e : Editor grammar}

/-- The editors that come about: opened on a buffer that came about, and then changed through the
editor or by what is done to its buffer, which may be replaced altogether. -/
inductive IsReachable : Editor grammar → Prop
  | openOn {sheet : String} {names : NameTable} {dark : Bool} {opened : Logged (Editor grammar)}
      (os : List Buffer.Operation) :
      Editor.openOn grammar sheet names dark (Buffer.empty.after os) = .ok opened →
      IsReachable opened.value
  | setNames {e : Editor grammar} (names : NameTable) : IsReachable e →
      IsReachable (e.setNames names).value
  | apply {e : Editor grammar} (edit : Edit) : IsReachable e → IsReachable (e.apply edit).value
  | perform {e : Editor grammar} (o : Buffer.Operation) : IsReachable e →
      IsReachable { e with buffer := e.buffer.perform o }
  | replaceBuffer {e : Editor grammar} (os : List Buffer.Operation) : IsReachable e →
      IsReachable { e with buffer := Buffer.empty.after os }

/-- A change of an editor is a run of its buffer. -/
theorem exists_buffer_apply (e : Editor grammar) (edit : Edit) :
    ∃ os, (e.apply edit).value.buffer = e.buffer.after os := by
  cases edit with
  | setText text => exact ⟨[.setText text, .paint _], rfl⟩
  | moveCursor offset => exact ⟨[.moveCursor offset], rfl⟩
  | select start stop => exact ⟨[.select start stop], rfl⟩
  | bind binding => exact ⟨[.bind binding], rfl⟩
  | press chord =>
    have hpress : (e.buffer.press chord).2 = e.buffer.perform (.press chord) := rfl
    rw [apply, press]
    generalize hresult : e.buffer.press chord = result at hpress
    rcases result with ⟨reaction, buffer⟩
    cases hpress
    cases reaction with
    | edited => exact ⟨[.press chord, .paint _], rfl⟩
    | triggered | ignored => exact ⟨[.press chord], rfl⟩

/-- The buffer of an editor stays well-formed. -/
theorem IsReachable.isWellFormed (h : e.IsReachable) : e.buffer.IsWellFormed := by
  induction h with
  | openOn os hopen =>
    rw [eq_repaint_of_openOn hopen]
    exact (Buffer.isWellFormed_empty.after os).after
      [.setTheme _, .setText _, .bind _, .paint _]
  | setNames names _ ih => exact ih.perform (.paint _)
  | @apply e edit _ ih =>
    obtain ⟨os, hos⟩ := e.exists_buffer_apply edit
    rw [hos]
    exact ih.after os
  | perform o _ ih => exact ih.perform o
  | replaceBuffer os _ _ => exact Buffer.isWellFormed_empty.after os

/-- Where the cursor is a position of the text, suggestions are for the word before it. -/
theorem exists_suggestions_eq (h : Text.IsBoundary e.text e.buffer.cursor) :
    ∃ left right, e.text.toList = left ++ right ∧ Text.width left = e.buffer.cursor ∧
      Text.before? e.text e.buffer.cursor = some left ∧
      e.suggestions = grammar.suggestIn e.names
        (String.ofList (left.reverse.takeWhile isTyped).reverse) e.buffer.cursor := by
  obtain ⟨left, hleft⟩ := Option.isSome_iff_exists.1 (Text.isSome_before?_iff.2 h)
  obtain ⟨right, htext, hwidth⟩ := Text.before?_eq_some_iff.1 hleft
  refine ⟨left, right, htext, hwidth, hleft, ?_⟩
  rw [suggestions, suggestionsAt, typedBefore, hleft, Option.getD_some]

/-- Whatever is done to an empty buffer, it stays well-formed, no operation on it can go wrong, and a
chord triggers an action exactly if it is bound to it, which is by the last binding that it got. An
editor on such a buffer always suggests for the word before its cursor. -/
theorem isWellFormed_isSafe_suggestions_eq (grammar : Grammar) :
    (∀ os : List Buffer.Operation, (Buffer.empty.after os).IsWellFormed ∧
      (Buffer.empty.after os).IsSafe ∧
      ∀ chord action,
        (((Buffer.empty.after os).press chord).1 = .triggered action ↔
          ⟨action, chord⟩ ∈ (Buffer.empty.after os).bindings) ∧
        (((Buffer.empty.after os).press chord).1 = .triggered action ↔
          Buffer.lastBound? chord os = some action)) ∧
    ∀ e : Editor grammar, e.IsReachable →
      ∃ left right, e.text.toList = left ++ right ∧ Text.width left = e.buffer.cursor ∧
        Text.before? e.text e.buffer.cursor = some left ∧
        e.suggestions = grammar.suggestIn e.names
          (String.ofList (left.reverse.takeWhile isTyped).reverse) e.buffer.cursor := by
  constructor
  · intro os
    have hwell := Buffer.isWellFormed_empty.after os
    have hempty chord : Buffer.empty.actionOf? chord = none := rfl
    refine ⟨hwell, hwell.isSafe, ?_⟩
    intro chord action
    rw [← hwell.actionOf?_eq_some_iff, Buffer.fst_press_eq_triggered_iff, Buffer.actionOf?_after,
      hempty, Option.or_none]
    exact ⟨Iff.rfl, Iff.rfl⟩
  · intro e he
    exact exists_suggestions_eq he.isWellFormed.isBoundary_cursor

/-- The cursor is sent into the middle of a character and stays before it. -/
theorem isWellFormed_isSafe_suggestions_eq_select :
    ∃ e : Editor .sql, e.IsReachable ∧ e.text = "select año" ∧ e.buffer.cursor = 8 ∧
      ∃ left right, e.text.toList = left ++ right ∧ Text.width left = e.buffer.cursor ∧
        Text.before? e.text e.buffer.cursor = some left ∧
        e.suggestions = Grammar.sql.suggestIn e.names
          (String.ofList (left.reverse.takeWhile isTyped).reverse) e.buffer.cursor := by
  obtain ⟨opened, hopen⟩ : ∃ opened, openOn .sql "sales" (.empty .sensitive) false .empty =
    .ok opened := ⟨_, rfl⟩
  have hreach : IsReachable _ :=
    .replaceBuffer [.setText "select año", .moveCursor 9] (.openOn [] hopen)
  have hcursor : (Buffer.empty.after [.setText "select año", .moveCursor 9]).cursor = 8 := by
    decide
  exact ⟨_, hreach, rfl, hcursor, (isWellFormed_isSafe_suggestions_eq .sql).2 _ hreach⟩

end Editor

end QueryPad
