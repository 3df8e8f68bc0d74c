import QueryPad.Proofs.Editor.WellFormed

/-!
# What a key press tells

A reaction tells whoever pressed the key whether to paint again. It is `triggered` or `ignored` only
where nothing has changed. A backspace that is `edited` took out a run of characters in front of the
cursor (`Erases`), and one that is `ignored` had none to take out. Main statement:
`press_of_isReachable`. The run has characters but in one case: a selection may be empty, and then a
backspace ends it and is `edited` although the text is what it was (`press_backspace_emptySelection`).
-/

namespace QueryPad

namespace Buffer

open Text (width width_append IsBoundary)

variable {b b' : Buffer} {run : List Char} {chord : Chord}

/-- A buffer that came about. -/
def IsReachable (b : Buffer) : Prop :=
  ∃ os : List Operation, b = empty.after os

theorem IsReachable.isWellFormed (h : b.IsReachable) : b.IsWellFormed := by
  obtain ⟨os, rfl⟩ := h
  exact isWellFormed_empty.after os

/-! ## Runs in front of the cursor -/

/-- The characters in front of the cursor are taken out, the cursor goes where they began, and nothing
is selected any more. -/
def Erases (b : Buffer) (run : List Char) (b' : Buffer) : Prop :=
  ∃ left right, b.text.toList = left ++ run ++ right ∧ width left + width run = b.cursor ∧
    b' = b.edited (String.ofList (left ++ right)) (width left)

/-- The text is shorter by what was taken out. -/
theorem Erases.utf8ByteSize_add (h : b.Erases run b') :
    b'.text.utf8ByteSize + width run = b.text.utf8ByteSize := by
  obtain ⟨left, right, htext, -, rfl⟩ := h
  rw [edited, Text.utf8ByteSize_ofList, Text.utf8ByteSize_eq, htext]
  simp only [width_append]
  omega

/-- To take out a run makes the text shorter exactly if there is something in it. -/
theorem Erases.utf8ByteSize_lt_iff (h : b.Erases run b') :
    b'.text.utf8ByteSize < b.text.utf8ByteSize ↔ run ≠ [] := by
  have hsize := h.utf8ByteSize_add
  refine ⟨?_, ?_⟩
  · rintro hlt rfl
    rw [Text.width_nil] at hsize
    omega
  · intro hne
    have := Text.width_pos hne
    omega

/-- At the beginning of the text there is nothing to take out. -/
theorem Erases.eq_nil_of_cursor_eq (h : b.Erases run b') (hcursor : b.cursor = 0) : run = [] := by
  obtain ⟨left, right, -, hwidth, -⟩ := h
  by_contra hne
  have := Text.width_pos hne
  omega

/-- A run of characters can be taken out of the text that it stands in. -/
theorem splice?_run {text : String} {left right : List Char}
    (htext : text.toList = left ++ run ++ right) :
    Text.splice? text (width left) (width left + width run) [] =
      some (String.ofList (left ++ right)) := by
  refine Text.splice?_eq_some_iff.2 ⟨left, run, right, htext, rfl, rfl, ?_⟩
  rw [List.append_nil]

/-- A selection is a run in front of the cursor, and it can be taken out. -/
theorem IsWellFormed.exists_erases (h : b.IsWellFormed) {span : Span}
    (hspan : b.selection = some span) :
    ∃ run b', b.eraseSelection? = some b' ∧ b.Erases run b' ∧
      (run = [] ↔ span.start = span.stop) := by
  obtain ⟨hle, hstart, hstop, hcursor⟩ := h.selection span hspan
  obtain ⟨left, run, right, htext, hleft, hrun⟩ := Text.exists_of_isBoundary hstart hstop hle
  have hsplice := splice?_run htext
  rw [hrun, hleft] at hsplice
  refine ⟨run, b.edited (String.ofList (left ++ right)) span.start, ?_, ?_, ?_⟩
  · simp only [eraseSelection?, hspan, hsplice]
    rfl
  · exact ⟨left, right, htext, hrun.trans hcursor, by rw [hleft]⟩
  · rw [← hrun, ← hleft]
    refine ⟨?_, ?_⟩
    · rintro rfl
      rfl
    · intro heq
      by_contra hne
      have := Text.width_pos hne
      omega

/-! ## Backspaces -/

/-- With nothing selected, a backspace takes out the character before the cursor. -/
theorem backspace?_of_concat {left right : List Char} {c : Char} (hselection : b.selection = none)
    (htext : b.text.toList = left ++ [c] ++ right) (hcursor : width left + width [c] = b.cursor) :
    b.backspace? = some (.edited, b.edited (String.ofList (left ++ right)) (width left)) := by
  have hbefore : Text.before? b.text b.cursor = some (left ++ [c]) :=
    Text.before?_eq_some_iff.2 ⟨right, htext, by rw [width_append, hcursor]⟩
  have hstart : b.cursor - c.utf8Size = width left := by
    rw [Text.width_cons, Text.width_nil] at hcursor
    omega
  have hsplice := splice?_run htext
  rw [hcursor] at hsplice
  simp only [backspace?, hselection, hbefore, Option.bind_eq_bind, Option.bind_some,
    List.getLast?_concat, hstart, hsplice]
  rfl

/-- A backspace takes out the selection, or else the character before the cursor, or else it is at the
beginning of the text. -/
theorem IsWellFormed.backspace?_cases (h : b.IsWellFormed) :
    (b.cursor = 0 ∧ b.selection = none ∧ b.backspace? = some (.ignored, b)) ∨
      ∃ run b', b.backspace? = some (.edited, b') ∧ b.Erases run b' ∧
        (run = [] ↔ ∃ n, b.selection = some ⟨n, n⟩) := by
  cases hselection : b.selection with
  | some span =>
    obtain ⟨run, b', herase, hrun, hempty⟩ := h.exists_erases hselection
    refine .inr ⟨run, b', ?_, hrun, hempty.trans ?_⟩
    · simp only [backspace?, hselection, herase, Option.map_some]
    · obtain ⟨start, stop⟩ := span
      simp only [Option.some.injEq, Span.mk.injEq, exists_eq_left', eq_comm]
  | none =>
    obtain ⟨left, hleft⟩ := Option.isSome_iff_exists.1
      (Text.isSome_before?_iff.2 h.isBoundary_cursor)
    obtain ⟨right, htext, hcursor⟩ := Text.before?_eq_some_iff.1 hleft
    obtain rfl | ⟨front, c, rfl⟩ := List.eq_nil_or_concat left
    · refine .inl ⟨hcursor.symm, rfl, ?_⟩
      simp only [backspace?, hselection, hleft]
      rfl
    · rw [List.concat_eq_append] at htext hcursor
      rw [width_append] at hcursor
      exact .inr ⟨[c], _, backspace?_of_concat hselection htext hcursor,
        ⟨front, right, htext, hcursor, rfl⟩, iff_of_false (List.cons_ne_nil c []) nofun⟩

/-- Where its chord is not bound, a backspace comes to what it does to the text. -/
theorem press_backspace (hbound : ¬ b.Binds chord) (hkey : chord.key = .backspace)
    (htyping : chord.modifiers.permitTyping = true) :
    b.press chord = b.backspace?.getD (.ignored, b) := by
  rw [press, press?, actionOf?_eq_none_iff.2 hbound, htyping, hkey]
  rfl

/-! ## Reactions -/

/-- Nothing changes but by an edit. -/
theorem press_eq_self_of_ne_edited (h : (b.press chord).1 ≠ .edited) : (b.press chord).2 = b := by
  rcases b.press_cases chord with ⟨_, -, hpress⟩ | ⟨-, _, _, hpress⟩ | ⟨-, hpress⟩
  · rw [hpress]
  · rw [hpress] at h
    exact absurd rfl h
  · rw [hpress]

/-- A chord that triggers an action or is ignored leaves the buffer as it was. A backspace that is not
bound is ignored exactly at the beginning of the text with nothing selected. Otherwise it takes out the
characters up to the cursor, and the text gets shorter unless they are an empty selection. -/
theorem press_of_isReachable (h : b.IsReachable) (chord : Chord) :
    (∀ action, (b.press chord).1 = .triggered action → (b.press chord).2 = b) ∧
      ((b.press chord).1 = .ignored → (b.press chord).2 = b) ∧
      (¬ b.Binds chord → chord.key = .backspace → chord.modifiers.permitTyping = true →
        ((b.press chord).1 = .ignored ↔ b.cursor = 0 ∧ b.selection = none) ∧
          ((b.press chord).1 = .edited → ∃ run, b.Erases run (b.press chord).2 ∧
            (run = [] ↔ ∃ n, b.selection = some ⟨n, n⟩) ∧
            ((b.press chord).2.text.utf8ByteSize < b.text.utf8ByteSize ↔
              ¬ ∃ n, b.selection = some ⟨n, n⟩))) := by
  refine ⟨?_, ?_, ?_⟩
  · intro action hreaction
    exact press_eq_self_of_ne_edited (by rw [hreaction]; exact nofun)
  · intro hreaction
    exact press_eq_self_of_ne_edited (by rw [hreaction]; exact nofun)
  · intro hbound hkey htyping
    rw [press_backspace hbound hkey htyping]
    rcases h.isWellFormed.backspace?_cases with
      ⟨hcursor, hselection, hback⟩ | ⟨run, b', hback, herases, hempty⟩
    · rw [hback]
      exact ⟨iff_of_true rfl ⟨hcursor, hselection⟩, nofun⟩
    · rw [hback]
      refine ⟨iff_of_false nofun ?_, ?_⟩
      · rintro ⟨hcursor, hselection⟩
        obtain ⟨n, hn⟩ := hempty.1 (herases.eq_nil_of_cursor_eq hcursor)
        rw [hselection] at hn
        cases hn
      · intro _
        exact ⟨run, herases, hempty, herases.utf8ByteSize_lt_iff.trans (not_congr hempty)⟩

/-- Shift makes no difference to a backspace, which takes out a character of two bytes. -/
theorem press_of_isReachable_shift :
    ∃ b : Buffer, b.IsReachable ∧ b.text = "año" ∧ b.cursor = 3 ∧ b.selection = none ∧
      ((b.press ⟨⟨false, false, true, false⟩, .backspace⟩).1 = .edited ∧
        ∃ run, b.Erases run (b.press ⟨⟨false, false, true, false⟩, .backspace⟩).2 ∧
          (run = [] ↔ ∃ n, b.selection = some ⟨n, n⟩) ∧
          ((b.press ⟨⟨false, false, true, false⟩, .backspace⟩).2.text.utf8ByteSize <
            b.text.utf8ByteSize ↔ ¬ ∃ n, b.selection = some ⟨n, n⟩)) := by
  have hreach : (empty.after [.setText "año", .moveCursor 3]).IsReachable := ⟨_, rfl⟩
  have hpress := press_of_isReachable hreach ⟨⟨false, false, true, false⟩, .backspace⟩
  have hedited : ((empty.after [.setText "año", .moveCursor 3]).press
      ⟨⟨false, false, true, false⟩, .backspace⟩).1 = .edited := by
    decide
  exact ⟨_, hreach, rfl, by decide, rfl, hedited, (hpress.2.2 (by decide) rfl rfl).2 hedited⟩

/-- A backspace over an empty selection is an edit that takes nothing out, though there is a character
in front of the cursor. -/
theorem press_backspace_emptySelection :
    ¬ (empty.after [.setText "ab", .select 1 1]).Binds (.ofKey .backspace) ∧
      (empty.after [.setText "ab", .select 1 1]).cursor = 1 ∧
      (empty.after [.setText "ab", .select 1 1]).selection = some ⟨1, 1⟩ ∧
      (empty.after [.setText "ab", .select 1 1]).text = "ab" ∧
      ((empty.after [.setText "ab", .select 1 1]).press (.ofKey .backspace)).1 = .edited ∧
      ((empty.after [.setText "ab", .select 1 1]).press (.ofKey .backspace)).2.text = "ab" := by
  decide

end Buffer

end QueryPad
