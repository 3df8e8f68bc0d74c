import QueryPad.Editor.Basic

/-!
# What a key press comes to

A chord that is bound triggers its action and leaves everything as it was; any other edits the text,
which ends the selection, or is ignored. `Buffer.press_cases` says so once for buffers and
`Editor.press_cases` for editors, and later proofs about key presses start from them. From the
second follows that no change leaves an editor with colours that are out of date
(`Editor.IsFresh.apply`).
-/

namespace QueryPad

namespace Buffer

variable {b b' : Buffer} {chord : Chord}

/-- To select concerns nothing but the cursor and the selection. -/
theorem exists_select_eq (start stop : Nat) (b : Buffer) : ∃ cursor selection,
    b.select start stop = { b with cursor := cursor, selection := selection } := by
  unfold select
  dsimp only
  split
  · exact ⟨_, _, rfl⟩
  · exact ⟨b.cursor, b.selection, rfl⟩

/-- The search for where the cursor goes always ends at a position, which is where it then is. -/
theorem lastBoundary?_eq_cursor_moveCursor (b : Buffer) (offset : Nat) :
    Text.lastBoundary? b.text (min offset b.text.utf8ByteSize) =
      some (b.moveCursor offset).cursor := by
  obtain ⟨n, hn⟩ := Option.isSome_iff_exists.1
    (Text.isSome_lastBoundary? b.text (min offset b.text.utf8ByteSize))
  simp only [moveCursor, hn, Option.getD_some]

/-! ## Bound chords -/

/-- Some binding has the chord. -/
def Binds (b : Buffer) (chord : Chord) : Prop :=
  ∃ binding ∈ b.bindings, binding.chord = chord

instance (b : Buffer) (chord : Chord) : Decidable (b.Binds chord) :=
  inferInstanceAs (Decidable (∃ binding ∈ b.bindings, binding.chord = chord))

/-- A chord triggers no action exactly if no binding has it. -/
theorem actionOf?_eq_none_iff : b.actionOf? chord = none ↔ ¬ b.Binds chord := by
  rw [actionOf?, Option.map_eq_none_iff, List.find?_eq_none]
  simp only [decide_eq_true_eq, Binds, not_exists, not_and]

/-- A chord triggers an action exactly if some binding has it. -/
theorem exists_actionOf?_iff : (∃ action, b.actionOf? chord = some action) ↔ b.Binds chord := by
  rw [← Option.isSome_iff_exists, ← Option.not_isNone, Bool.not_eq_true', ← Bool.not_eq_true,
    Option.isNone_iff_eq_none, actionOf?_eq_none_iff, Classical.not_not]

/-- To bind a chord changes what it triggers and no other. -/
theorem actionOf?_bind (b : Buffer) (binding : Binding) (chord : Chord) :
    (b.bind binding).actionOf? chord =
      if binding.chord = chord then some binding.action else b.actionOf? chord := by
  by_cases h : binding.chord = chord
  · -- what the chord was bound to before is gone
    have hgone : (b.bindings.filter (·.chord ≠ binding.chord)).find? (·.chord = chord) = none := by
      simp [List.find?_filter, h]
    rw [actionOf?, Buffer.bind, List.find?_append, hgone, Option.none_or, if_pos h]
    simp [h]
  · have hkept : (b.bindings.filter (·.chord ≠ binding.chord)).find? (·.chord = chord) =
        b.bindings.find? (·.chord = chord) := by
      rw [List.find?_filter]
      congr
      funext kept
      simp only [decide_eq_true_eq, decide_eq_decide, and_iff_right_iff_imp]
      rintro rfl
      exact Ne.symm h
    rw [actionOf?, Buffer.bind, List.find?_append, hkept, if_neg h]
    simp [h, actionOf?]

/-! ## Edits -/

/-- The buffer once its text was edited: nothing is selected any more. -/
def edited (text : String) (cursor : Nat) (b : Buffer) : Buffer :=
  { b with text := text, cursor := cursor, selection := none }

/-- To take out a selection is an edit; where there is none the buffer has no selection to lose. -/
theorem exists_edited_of_eraseSelection? (h : b.eraseSelection? = some b') :
    ∃ text cursor, b' = b.edited text cursor := by
  unfold eraseSelection? at h
  split at h
  · next hnone =>
    cases h
    exact ⟨b.text, b.cursor, by rw [edited, ← hnone]⟩
  · obtain ⟨text, _, h⟩ := Option.bind_eq_some_iff.1 h
    cases h
    exact ⟨text, _, rfl⟩

/-- To put characters in is an edit. -/
theorem exists_edited_of_insert? {new : List Char} (h : b.insert? new = some b') :
    ∃ text cursor, b' = b.edited text cursor := by
  obtain ⟨erased, herased, h⟩ := Option.bind_eq_some_iff.1 h
  obtain ⟨text, _, h⟩ := Option.bind_eq_some_iff.1 h
  obtain ⟨_, _, rfl⟩ := exists_edited_of_eraseSelection? herased
  cases h
  exact ⟨text, _, rfl⟩

/-- A backspace is an edit, unless it is ignored and leaves the buffer as it was. -/
theorem backspace?_cases {reaction : Reaction} (h : b.backspace? = some (reaction, b')) :
    (reaction = .edited ∧ ∃ text cursor, b' = b.edited text cursor) ∨
      (reaction = .ignored ∧ b' = b) := by
  unfold backspace? at h
  split at h
  · obtain ⟨erased, herased, h⟩ := Option.map_eq_some_iff.1 h
    cases h
    exact .inl ⟨rfl, exists_edited_of_eraseSelection? herased⟩
  · next hnone =>
    obtain ⟨before, _, h⟩ := Option.bind_eq_some_iff.1 h
    split at h
    · cases h
      exact .inr ⟨rfl, rfl⟩
    · obtain ⟨text, _, h⟩ := Option.bind_eq_some_iff.1 h
      cases h
      exact .inl ⟨rfl, text, _, by rw [edited, ← hnone]⟩

/-- What a plain key does is an edit, unless it is ignored and leaves the buffer as it was. -/
theorem edit?_cases {key : Key} {reaction : Reaction} (h : b.edit? key = some (reaction, b')) :
    (reaction = .edited ∧ ∃ text cursor, b' = b.edited text cursor) ∨
      (reaction = .ignored ∧ b' = b) := by
  have hinsert {new : List Char}
      (h : (b.insert? new).map (fun b => (Reaction.edited, b)) = some (reaction, b')) :
      reaction = .edited ∧ ∃ text cursor, b' = b.edited text cursor := by
    obtain ⟨inserted, hinserted, h⟩ := Option.map_eq_some_iff.1 h
    cases h
    exact ⟨rfl, exists_edited_of_insert? hinserted⟩
  cases key with
  | enter | tab | char _ => exact .inl (hinsert h)
  | backspace => exact backspace?_cases h

/-- What a chord comes to: its action, an edit, or nothing. -/
theorem press_cases (b : Buffer) (chord : Chord) :
    (∃ action, b.actionOf? chord = some action ∧ b.press chord = (.triggered action, b)) ∨
      (b.actionOf? chord = none ∧
        ∃ text cursor, b.press chord = (.edited, b.edited text cursor)) ∨
      (b.actionOf? chord = none ∧ b.press chord = (.ignored, b)) := by
  cases hbound : b.actionOf? chord with
  | some action => exact .inl ⟨action, rfl, by rw [press, press?, hbound]; rfl⟩
  | none =>
    refine .inr ?_
    cases hpress : b.press? chord with
    | none => exact .inr ⟨rfl, by rw [press, hpress]; rfl⟩
    | some result =>
      have hresult : b.press chord = result := by rw [press, hpress]; rfl
      rw [press?, hbound] at hpress
      dsimp only at hpress
      split at hpress
      · have hedit : b.edit? chord.key = some (result.1, result.2) := hpress
        rcases edit?_cases hedit with ⟨hr, text, cursor, hb⟩ | ⟨hr, hb⟩
        · exact .inl ⟨rfl, text, cursor, by rw [hresult, ← hr, ← hb]⟩
        · exact .inr ⟨rfl, by rw [hresult, ← hr, ← hb]⟩
      · cases hpress
        exact .inr ⟨rfl, hresult⟩

/-- A chord triggers an action exactly if it has it. -/
theorem fst_press_eq_triggered_iff {chord : Chord} {action : Action} :
    (b.press chord).1 = .triggered action ↔ b.actionOf? chord = some action := by
  rcases b.press_cases chord with ⟨_, hbound, hpress⟩ | ⟨hbound, _, _, hpress⟩ | ⟨hbound, hpress⟩
  · rw [hpress, hbound, Option.some.injEq, Reaction.triggered.injEq]
  all_goals
    rw [hpress, hbound]
    exact iff_of_false nofun nofun

end Buffer

namespace Editor

variable {grammar : Grammar} {e : Editor grammar}

/-- What a chord comes to in an editor: its action, an edit that is painted, or nothing. -/
theorem press_cases (e : Editor grammar) (chord : Chord) :
    (∃ action, e.buffer.actionOf? chord = some action ∧
        e.press chord = (some action, ⟨e, []⟩)) ∨
      (e.buffer.actionOf? chord = none ∧ ∃ text cursor,
        e.press chord = (none, repaint { e with buffer := e.buffer.edited text cursor })) ∨
      (e.buffer.actionOf? chord = none ∧ e.press chord = (none, ⟨e, []⟩)) := by
  rcases e.buffer.press_cases chord with
    ⟨action, hbound, hpress⟩ | ⟨hbound, text, cursor, hpress⟩ | ⟨hbound, hpress⟩
  · exact .inl ⟨action, hbound, by rw [press, hpress]⟩
  · exact .inr (.inl ⟨hbound, text, cursor, by rw [press, hpress]⟩)
  · exact .inr (.inr ⟨hbound, by rw [press, hpress]⟩)

/-- A chord that is bound triggers its action and leaves the editor as it was. -/
theorem press_of_bound {chord : Chord} {action : Action}
    (h : e.buffer.actionOf? chord = some action) : e.press chord = (some action, ⟨e, []⟩) := by
  rcases e.press_cases chord with ⟨other, hbound, hpress⟩ | ⟨hbound, -⟩ | ⟨hbound, -⟩
  · rw [h] at hbound
    cases hbound
    exact hpress
  all_goals
    rw [h] at hbound
    cases hbound

/-- A chord that is not bound triggers no action. -/
theorem fst_press_of_unbound {chord : Chord} (h : e.buffer.actionOf? chord = none) :
    (e.press chord).1 = none := by
  rcases e.press_cases chord with ⟨action, hbound, -⟩ | ⟨-, _, _, hpress⟩ | ⟨-, hpress⟩
  · rw [h] at hbound
    cases hbound
  all_goals rw [hpress]

/-! ## Colours that are up to date -/

/-- The buffer shows the tokens of its text. -/
def IsFresh (e : Editor grammar) : Prop :=
  e.buffer.painted = e.tokens

/-- An editor that was just painted is up to date. -/
theorem isFresh_repaint (e : Editor grammar) : e.repaint.value.IsFresh :=
  painted_repaint e

/-- A key press leaves an editor up to date: either it paints or it leaves the text alone. -/
theorem IsFresh.press (h : e.IsFresh) (chord : Chord) : (e.press chord).2.value.IsFresh := by
  rcases e.press_cases chord with ⟨_, -, hpress⟩ | ⟨-, _, _, hpress⟩ | ⟨-, hpress⟩
  · rw [hpress]
    exact h
  · rw [hpress]
    exact isFresh_repaint _
  · rw [hpress]
    exact h

/-- A key press leaves the names in sight alone. -/
@[simp] theorem names_press (e : Editor grammar) (chord : Chord) :
    (e.press chord).2.value.names = e.names := by
  rcases e.press_cases chord with ⟨_, -, hpress⟩ | ⟨-, _, _, hpress⟩ | ⟨-, hpress⟩
  all_goals rw [hpress]
  rfl

/-- A change of the cursor, the selection or the bindings concerns neither text nor colours. -/
theorem IsFresh.apply (h : e.IsFresh) (edit : Edit) : (e.apply edit).value.IsFresh := by
  cases edit with
  | setText text => exact isFresh_repaint _
  | press chord => exact h.press chord
  | moveCursor offset => exact h
  | select start stop =>
    obtain ⟨cursor, selection, hselect⟩ := e.buffer.exists_select_eq start stop
    rw [Editor.apply, hselect]
    exact h
  | bind binding => exact h

/-- No change concerns the names in sight. -/
@[simp] theorem names_apply (e : Editor grammar) (edit : Edit) :
    (e.apply edit).value.names = e.names := by
  cases edit with
  | press chord => exact names_press e chord
  | setText _ | moveCursor _ | select _ _ | bind _ => rfl

/-- An editor that could be opened was painted when everything else was in place. -/
theorem eq_repaint_of_openOn {sheet : String} {names : NameTable}
    {dark : Bool} {buffer : Buffer} {opened : Logged (Editor grammar)}
    (h : openOn grammar sheet names dark buffer = .ok opened) :
    opened.value = (repaint {
      sheet := sheet
      names := names
      buffer := ((buffer.setTheme (.ofMode dark)).setText (openingQuery sheet)).bind
        ⟨.submitQuery, .submit .current⟩ }).value := by
  unfold openOn at h
  split at h
  · cases h
  · cases h
    rfl

/-! ## What editing logs -/

/-- To classify is logged at the trace level. -/
theorem level_of_mem_classifiedEvents {tokens : List Token} :
    ∀ event ∈ classifiedEvents tokens, event.level = .trace := by
  intro event hevent
  obtain ⟨_, _, rfl⟩ := List.mem_map.1 hevent
  rfl

/-- Nothing but the paint that follows a key press is logged. -/
theorem level_of_mem_press (e : Editor grammar) (chord : Chord) :
    ∀ event ∈ (e.press chord).2.events, event.level = .trace := by
  rcases e.press_cases chord with ⟨_, -, hpress⟩ | ⟨-, _, _, hpress⟩ | ⟨-, hpress⟩
  · rw [hpress]
    exact List.forall_mem_nil _
  · rw [hpress]
    exact level_of_mem_classifiedEvents
  · rw [hpress]
    exact List.forall_mem_nil _

/-- Nothing but the paint that follows a change is logged. -/
theorem level_of_mem_apply (e : Editor grammar) (edit : Edit) :
    ∀ event ∈ (e.apply edit).events, event.level = .trace := by
  cases edit with
  | setText => exact level_of_mem_classifiedEvents
  | press chord => exact e.level_of_mem_press chord
  | moveCursor | select | bind => exact List.forall_mem_nil _

/-- The first paint of an editor is logged, and that it was opened. -/
theorem events_openOn {sheet : String} {names : NameTable} {dark : Bool} {buffer : Buffer}
    {opened : Logged (Editor grammar)} (h : openOn grammar sheet names dark buffer = .ok opened) :
    opened.events = classifiedEvents opened.value.tokens ++
      [.opened sheet (.ofMode dark) (.submit .current)] := by
  unfold openOn at h
  split at h
  · cases h
  · cases h
    rfl

end Editor

end QueryPad
