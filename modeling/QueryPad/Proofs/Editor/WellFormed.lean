import Mathlib.Data.List.Nodup
import QueryPad.Proofs.Editor.Press

/-!
# Buffers are well-formed

Whatever is done to a buffer, its cursor and its selection stay positions of its text, and the
selection ends at the cursor (`IsWellFormed`). One operation keeps a buffer so
(`IsWellFormed.perform`), and with it every run (`IsWellFormed.after`). The offsets that an operation
on such a buffer counts on are positions as well (`IsWellFormed.isSafe`), so the partial functions
behind a key press never fail.
-/

namespace QueryPad

namespace Buffer

/-! ## Runs -/

/-- What can be done to a buffer. -/
inductive Operation
  | setText (text : String)
  | moveCursor (offset : Nat)
  | select (start stop : Nat)
  | bind (binding : Binding)
  | setTheme (theme : Theme)
  | paint (tokens : List Token)
  | press (chord : Chord)

/-- What an operation makes of a buffer. -/
def perform (b : Buffer) : Operation → Buffer
  | .setText text => b.setText text
  | .moveCursor offset => b.moveCursor offset
  | .select start stop => b.select start stop
  | .bind binding => b.bind binding
  | .setTheme theme => b.setTheme theme
  | .paint tokens => b.paint tokens
  | .press chord => (b.press chord).2

/-- The buffer after operations. -/
def after (os : List Operation) (b : Buffer) : Buffer :=
  os.foldl perform b

/-! ## The invariant -/

/-- Cursor and selection are positions of the text, the selection ends at the cursor, and no chord
is bound twice. -/
structure IsWellFormed (b : Buffer) : Prop where
  cursor_le : b.cursor ≤ b.text.utf8ByteSize
  isBoundary_cursor : Text.IsBoundary b.text b.cursor
  selection : ∀ span ∈ b.selection,
    span.start ≤ span.stop ∧ Text.IsBoundary b.text span.start ∧
      Text.IsBoundary b.text span.stop ∧ span.stop = b.cursor
  nodup_chords : (b.bindings.map (·.chord)).Nodup

variable {b b' : Buffer}

/-- With nothing selected, a position for the cursor and distinct chords will do. -/
theorem isWellFormed_of_selection_eq_none (hselection : b.selection = none)
    (hcursor : Text.IsBoundary b.text b.cursor) (hchords : (b.bindings.map (·.chord)).Nodup) :
    b.IsWellFormed where
  cursor_le := hcursor.le
  isBoundary_cursor := hcursor
  selection span hspan := by
    rw [hselection] at hspan
    cases hspan
  nodup_chords := hchords

theorem isWellFormed_empty : empty.IsWellFormed :=
  isWellFormed_of_selection_eq_none rfl (Text.isBoundary_zero _) List.nodup_nil

namespace IsWellFormed

variable (h : b.IsWellFormed)
include h

/-- An edit whose cursor is a position of the new text. -/
theorem edited {text : String} {cursor : Nat} (hcursor : Text.IsBoundary text cursor) :
    (b.edited text cursor).IsWellFormed :=
  isWellFormed_of_selection_eq_none rfl hcursor h.nodup_chords

theorem setText (text : String) : (b.setText text).IsWellFormed :=
  h.edited (Text.isBoundary_utf8ByteSize text)

theorem moveCursor (offset : Nat) : (b.moveCursor offset).IsWellFormed := by
  have hcursor : Text.IsBoundary b.text (b.moveCursor offset).cursor :=
    (Text.lastBoundary?_eq_some_iff.1 (b.lastBoundary?_eq_cursor_moveCursor offset)).1
  exact h.edited hcursor

theorem select (start stop : Nat) : (b.select start stop).IsWellFormed := by
  unfold Buffer.select
  dsimp only
  split
  · next hspan =>
    refine ⟨hspan.2.le, hspan.2, ?_, h.nodup_chords⟩
    rintro _ ⟨⟩
    exact ⟨Nat.min_le_right _ _, hspan.1, hspan.2, rfl⟩
  · exact h

theorem bind (binding : Binding) : (b.bind binding).IsWellFormed := by
  refine ⟨h.cursor_le, h.isBoundary_cursor, h.selection, ?_⟩
  have hkept : ((b.bindings.filter (·.chord ≠ binding.chord)).map (·.chord)).Nodup :=
    h.nodup_chords.sublist (List.filter_sublist.map _)
  simp only [Buffer.bind, List.map_append, List.map_singleton]
  refine List.nodup_append.2 ⟨hkept, List.nodup_singleton _, ?_⟩
  rintro chord hchord _ hbound rfl
  obtain ⟨kept, hmem, rfl⟩ := List.mem_map.1 hchord
  exact of_decide_eq_true (List.mem_filter.1 hmem).2 (List.mem_singleton.1 hbound)

/-! ### Edits -/

/-- What is selected can be taken out. -/
theorem exists_eraseSelection? :
    ∃ b', b.eraseSelection? = some b' ∧ b'.IsWellFormed ∧ b'.selection = none := by
  unfold eraseSelection?
  split
  · next hnone => exact ⟨b, rfl, h, hnone⟩
  · next span hspan =>
    obtain ⟨hle, hstart, hstop, -⟩ := h.selection span hspan
    obtain ⟨text, htext, hcursor, -⟩ := Text.exists_splice? hstart hstop hle []
    refine ⟨b.edited text span.start, ?_, h.edited hcursor, rfl⟩
    rw [htext]
    rfl

/-- Characters can be put in. -/
theorem exists_insert? (new : List Char) : ∃ b', b.insert? new = some b' ∧ b'.IsWellFormed := by
  -- the cursor to insert at is the one that taking out the selection leaves
  obtain ⟨erased, herased, hwell, hnone⟩ := h.exists_eraseSelection?
  have hcursor := hwell.isBoundary_cursor
  obtain ⟨text, htext, -, hbehind⟩ := Text.exists_splice? hcursor hcursor (Nat.le_refl _) new
  refine ⟨erased.edited text (erased.cursor + Text.width new), ?_, hwell.edited hbehind⟩
  rw [insert?, herased, Option.bind_eq_bind, Option.bind_some, htext, Buffer.edited, ← hnone]
  rfl

/-- A backspace goes through. -/
theorem exists_backspace? : ∃ reaction b', b.backspace? = some (reaction, b') ∧ b'.IsWellFormed := by
  unfold backspace?
  split
  · obtain ⟨erased, herased, hwell, -⟩ := h.exists_eraseSelection?
    exact ⟨.edited, erased, by rw [herased, Option.map_some], hwell⟩
  · next hnone =>
    obtain ⟨left, hleft⟩ := Option.isSome_iff_exists.1
      (Text.isSome_before?_iff.2 h.isBoundary_cursor)
    rw [hleft, Option.bind_eq_bind, Option.bind_some]
    cases hc : left.getLast? with
    | none => exact ⟨.ignored, b, rfl, h⟩
    | some c =>
      obtain ⟨-, hstart⟩ := Text.isBoundary_sub_of_getLast? hleft hc
      obtain ⟨text, htext, hcursor, -⟩ :=
        Text.exists_splice? hstart h.isBoundary_cursor (Nat.sub_le _ _) []
      refine ⟨.edited, b.edited text (b.cursor - c.utf8Size), ?_, h.edited hcursor⟩
      simp only [htext, Buffer.edited, hnone]
      rfl

/-- Every chord goes through. -/
theorem exists_press? (chord : Chord) :
    ∃ result, b.press? chord = some result ∧ result.2.IsWellFormed := by
  unfold press?
  split
  · exact ⟨_, rfl, h⟩
  split
  · cases chord.key with
    | enter | tab | char =>
      obtain ⟨inserted, hinserted, hwell⟩ := h.exists_insert? _
      exact ⟨_, congrArg (Option.map _) hinserted, hwell⟩
    | backspace =>
      obtain ⟨reaction, b', hbackspace, hwell⟩ := h.exists_backspace?
      exact ⟨(reaction, b'), hbackspace, hwell⟩
  · exact ⟨_, rfl, h⟩

theorem press (chord : Chord) : (b.press chord).2.IsWellFormed := by
  obtain ⟨result, hresult, hwell⟩ := h.exists_press? chord
  rwa [Buffer.press, hresult, Option.getD_some]

/-- Every operation keeps a buffer well-formed. -/
theorem perform (o : Operation) : (b.perform o).IsWellFormed := by
  cases o with
  | setText text => exact h.setText text
  | moveCursor offset => exact h.moveCursor offset
  | select start stop => exact h.select start stop
  | bind binding => exact h.bind binding
  | setTheme | paint => exact ⟨h.cursor_le, h.isBoundary_cursor, h.selection, h.nodup_chords⟩
  | press chord => exact h.press chord

/-- So does every run. -/
theorem after (os : List Operation) : (b.after os).IsWellFormed := by
  induction os generalizing b with
  | nil => exact h
  | cons o os ih => exact ih (h.perform o)

end IsWellFormed

example : (empty.after [.setText "año", .select 1 3, .press (.ofKey .backspace)]).text = "ao" := by
  decide

/-! ## Offsets that an operation counts on -/

/-- Whatever is done next, the offsets that it counts on are positions of the text that it counts
them in, so that no text is taken apart inside a character or past its end. -/
structure IsSafe (b : Buffer) : Prop where
  /-- A cursor is found before the search goes below the beginning of the text. -/
  isSome_lastBoundary? : ∀ offset,
    (Text.lastBoundary? b.text (min offset b.text.utf8ByteSize)).isSome
  /-- A span that is selected next can be taken out. -/
  isBoundary_select : ∀ start stop, ∀ span ∈ (b.select start stop).selection,
    span.start ≤ span.stop ∧ Text.IsBoundary b.text span.start ∧ Text.IsBoundary b.text span.stop
  /-- What is selected can be taken out. -/
  isSome_eraseSelection? : b.eraseSelection?.isSome
  /-- Afterwards characters can be put in at the cursor. -/
  isBoundary_of_eraseSelection? : ∀ erased ∈ b.eraseSelection?,
    Text.IsBoundary erased.text erased.cursor
  isSome_insert? : ∀ new, (b.insert? new).isSome
  /-- The text can be taken apart at the cursor, and once more before the last character there. -/
  isSome_before? : (Text.before? b.text b.cursor).isSome
  isBoundary_of_before? : ∀ left ∈ Text.before? b.text b.cursor, ∀ c ∈ left.getLast?,
    c.utf8Size ≤ b.cursor ∧ Text.IsBoundary b.text (b.cursor - c.utf8Size)
  isSome_backspace? : b.backspace?.isSome
  isSome_press? : ∀ chord, (b.press? chord).isSome

/-- Of a well-formed buffer an operation counts on positions alone. -/
theorem IsWellFormed.isSafe (h : b.IsWellFormed) : b.IsSafe where
  isSome_lastBoundary? offset := Text.isSome_lastBoundary? _ _
  isBoundary_select start stop span hspan := by
    obtain ⟨hle, hstart, hstop, -⟩ := (h.select start stop).selection span hspan
    obtain ⟨cursor, selection, hselect⟩ := b.exists_select_eq start stop
    rw [hselect] at hstart hstop
    exact ⟨hle, hstart, hstop⟩
  isSome_eraseSelection? := by
    obtain ⟨erased, herased, -⟩ := h.exists_eraseSelection?
    rw [herased, Option.isSome_some]
  isBoundary_of_eraseSelection? erased herased := by
    obtain ⟨erased', herased', hwell, -⟩ := h.exists_eraseSelection?
    cases herased.symm.trans herased'
    exact hwell.isBoundary_cursor
  isSome_insert? new := by
    obtain ⟨inserted, hinserted, -⟩ := h.exists_insert? new
    rw [hinserted, Option.isSome_some]
  isSome_before? := Text.isSome_before?_iff.2 h.isBoundary_cursor
  isBoundary_of_before? left hleft c hc := Text.isBoundary_sub_of_getLast? hleft hc
  isSome_backspace? := by
    obtain ⟨reaction, b', hbackspace, -⟩ := h.exists_backspace?
    rw [hbackspace, Option.isSome_some]
  isSome_press? chord := by
    obtain ⟨result, hresult, -⟩ := h.exists_press? chord
    rw [hresult, Option.isSome_some]

/-! ## Chords that are bound -/

/-- Where no chord is bound twice, a chord has the action that it is bound to. -/
theorem IsWellFormed.actionOf?_eq_some_iff (h : b.IsWellFormed) {chord : Chord} {action : Action} :
    b.actionOf? chord = some action ↔ ⟨action, chord⟩ ∈ b.bindings := by
  have hfound {binding : Binding} (hfind : b.bindings.find? (·.chord = chord) = some binding) :
      binding ∈ b.bindings ∧ binding.chord = chord :=
    ⟨List.mem_of_find?_eq_some hfind, of_decide_eq_true (List.find?_some hfind :)⟩
  constructor
  · intro haction
    obtain ⟨binding, hfind, rfl⟩ := Option.map_eq_some_iff.1 haction
    obtain ⟨hmem, rfl⟩ := hfound hfind
    exact hmem
  · intro hmem
    obtain ⟨action', haction⟩ := exists_actionOf?_iff.2 ⟨_, hmem, rfl⟩
    obtain ⟨binding, hfind, rfl⟩ := Option.map_eq_some_iff.1 haction
    obtain ⟨hmem', hchord⟩ := hfound hfind
    -- the chord is bound once
    rw [List.inj_on_of_nodup_map h.nodup_chords hmem' hmem hchord] at haction
    exact haction

/-- The action that an operation binds a chord to. -/
def Operation.bound? (chord : Chord) : Operation → Option Action
  | .bind binding => if binding.chord = chord then some binding.action else none
  | .setText _ | .moveCursor _ | .select _ _ | .setTheme _ | .paint _ | .press _ => none

/-- The action that a run binds a chord to last. -/
def lastBound? (chord : Chord) : List Operation → Option Action
  | [] => none
  | o :: os => (lastBound? chord os).or (o.bound? chord)

/-- Nothing but a binding changes the bindings. -/
theorem bindings_perform {o : Operation} (h : ∀ chord, o.bound? chord = none) :
    (b.perform o).bindings = b.bindings := by
  cases o with
  | bind binding =>
    have hbound := h binding.chord
    rw [Operation.bound?, if_pos rfl] at hbound
    cases hbound
  | press chord =>
    rw [perform]
    rcases b.press_cases chord with ⟨_, -, hpress⟩ | ⟨-, _, _, hpress⟩ | ⟨-, hpress⟩
    all_goals rw [hpress]
    rfl
  | select start stop =>
    obtain ⟨cursor, selection, hselect⟩ := b.exists_select_eq start stop
    rw [perform, hselect]
  | setText | moveCursor | setTheme | paint => rfl

theorem actionOf?_perform (b : Buffer) (o : Operation) (chord : Chord) :
    (b.perform o).actionOf? chord = (o.bound? chord).or (b.actionOf? chord) := by
  cases o with
  | bind binding =>
    rw [perform, actionOf?_bind, Operation.bound?]
    split <;> rfl
  | setText | moveCursor | select | setTheme | paint | press =>
    rw [actionOf?, bindings_perform fun _ => rfl]
    rfl

/-- After a run a chord has the action that it was bound to last. -/
theorem actionOf?_after (b : Buffer) (os : List Operation) (chord : Chord) :
    (b.after os).actionOf? chord = (lastBound? chord os).or (b.actionOf? chord) := by
  induction os generalizing b with
  | nil => rfl
  | cons o os ih =>
    rw [show b.after (o :: os) = (b.perform o).after os from rfl, ih, actionOf?_perform,
      lastBound?, Option.or_assoc]

end Buffer

end QueryPad
