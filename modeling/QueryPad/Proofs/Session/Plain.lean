import QueryPad.Proofs.Session.Alike

/-!
# Sessions without names and colours

What an operation answers, and what it does to text, cursor, limit, page and requests, has nothing to
do with the names in sight, with how names are compared or with what the buffer shows. `plain` takes
all of that away, and two sessions of which the same is left are alike in everything else. Main
statement: `plain_perform`, an operation gets the same answer from both and leaves them alike. To
take note of a workbook makes no difference at all (`plain_setSheets`).
-/

namespace QueryPad

/-! ## Buffers -/

namespace Buffer

variable (b : Buffer)

/-- The buffer without theme and colours. -/
def plain : Buffer :=
  { b with theme := none, painted := [], paints := 0 }

theorem eraseSelection?_plain : b.plain.eraseSelection? = b.eraseSelection?.map plain := by
  cases h : b.selection <;> simp [eraseSelection?, plain, h, Option.map_bind, Function.comp_def]

theorem insert?_plain (new : List Char) : b.plain.insert? new = (b.insert? new).map plain := by
  rw [insert?, insert?, eraseSelection?_plain]
  cases b.eraseSelection? <;> simp [plain, Option.map_bind, Function.comp_def]

theorem backspace?_plain :
    b.plain.backspace? = b.backspace?.map fun (reaction, b') => (reaction, b'.plain) := by
  cases h : b.selection with
  | some span =>
    have hplain : b.plain.selection = some span := h
    simp only [backspace?, h, hplain, eraseSelection?_plain, Option.map_map, Function.comp_def]
  | none =>
    have hplain : b.plain.selection = none := h
    have hbefore : Text.before? b.plain.text b.plain.cursor = Text.before? b.text b.cursor := rfl
    simp only [backspace?, h, hplain, hbefore, Option.bind_eq_bind, Option.map_bind,
      Function.comp_def]
    congr
    funext left
    cases left.getLast? with
    | none => rfl
    | some c =>
      rw [Option.map_bind]
      rfl

theorem edit?_plain (key : Key) :
    b.plain.edit? key = (b.edit? key).map fun (reaction, b') => (reaction, b'.plain) := by
  cases key with
  | enter | tab | char =>
    simp only [edit?, insert?_plain, Option.map_map, Function.comp_def]
  | backspace => exact b.backspace?_plain

/-- What a chord comes to has nothing to do with theme and colours. -/
theorem press_plain (chord : Chord) :
    b.plain.press chord = ((b.press chord).1, (b.press chord).2.plain) := by
  have h : b.plain.press? chord =
      (b.press? chord).map fun (reaction, b') => (reaction, b'.plain) := by
    have hbound : b.plain.actionOf? chord = b.actionOf? chord := rfl
    rw [press?, press?, hbound]
    cases b.actionOf? chord with
    | some action => rfl
    | none =>
      by_cases htyping : chord.modifiers.permitTyping = true
      · simp only [if_pos htyping, edit?_plain]
      · simp only [if_neg htyping, Option.map_some]
  rw [press, press, h]
  cases b.press? chord <;> rfl

theorem select_plain (start stop : Nat) :
    b.plain.select start stop = (b.select start stop).plain := by
  have htext : b.plain.text = b.text := rfl
  unfold select
  rw [htext]
  dsimp only
  split <;> rfl

end Buffer

/-! ## Editors -/

namespace Editor

variable {grammar : Grammar} (e : Editor grammar)

/-- The editor without names and colours. -/
def plain : Editor grammar :=
  { e with names := .empty .sensitive, buffer := e.buffer.plain }

/-- A chord triggers the same action in an editor without names and colours, and edits the same. -/
theorem press_plain (chord : Chord) :
    (e.plain.press chord).1 = (e.press chord).1 ∧
      (e.plain.press chord).2.value.plain = (e.press chord).2.value.plain := by
  have h := e.buffer.press_plain chord
  have hbuffer : e.plain.buffer = e.buffer.plain := rfl
  rw [press, press, hbuffer, h]
  rcases e.buffer.press chord with ⟨reaction, buffer⟩
  cases reaction <;> exact ⟨rfl, rfl⟩

/-- A change comes to the same in an editor without names and colours. -/
theorem apply_plain (edit : Edit) : (e.plain.apply edit).value.plain = (e.apply edit).value.plain := by
  cases edit with
  | press chord => exact (e.press_plain chord).2
  | select start stop =>
    show plain { e.plain with buffer := e.buffer.plain.select start stop } = _
    rw [Buffer.select_plain]
    rfl
  | setText | moveCursor | bind => rfl

end Editor

/-! ## Sessions -/

namespace Session

variable {s t : Session} {o : Operation}

/-- The session without names and colours. -/
def plain (s : Session) : Session :=
  { s with casing := .sensitive, editor := s.editor.plain }

theorem settle_plain (s : Session) (o : Operation) :
    (o.settle s.plain).value.plain = (o.settle s).value.plain := by
  cases o with
  | press chord =>
    show ({ s.plain with editor := (s.editor.plain.press chord).2.value.plain } : Session) = _
    rw [(s.editor.press_plain chord).2]
    rfl
  | edit change =>
    show ({ s.plain with editor := (s.editor.plain.apply change).value.plain } : Session) = _
    rw [s.editor.apply_plain change]
    rfl
  | enable | disable | setLimit | setPage | submit | setSheets | showMessage => rfl

/-- No operation looks at names and colours, other than to log them or to paint. -/
theorem forgets_plain : Forgets plain where
  phase_eq _ := rfl
  actionOf?_eq _ _ := rfl
  setLimit_eq _ _ := rfl
  setPage_eq _ _ := rfl
  settle_eq := settle_plain
  submitted_eq _ := rfl

/-- Of sessions that are alike an operation makes sessions that are alike, with the same answer. -/
theorem plain_perform (h : s.plain = t.plain) (o : Operation) :
    ((perform o).run s).result = ((perform o).run t).result ∧
      ((perform o).run s).session.plain = ((perform o).run t).session.plain :=
  forgets_plain.perform_of_eq h o

/-- A session that takes note of a workbook stays the same but for names and colours. -/
theorem plain_setSheets (s : Session) (book : Workbook) :
    ((perform (.setSheets book)).run s).session.plain = s.plain := by
  have hdraft : (Operation.setSheets book).draft? s = none := rfl
  rw [perform_of_draft?_eq_none hdraft]
  rfl

end Session

end QueryPad
