import QueryPad.Proofs.Session.Step

/-!
# Sessions that are alike

An operation looks at part of a session only. A function that takes away what no operation looks at
(`Forgets`) makes two sessions alike if it leaves the same of both. Main statement:
`Forgets.perform_of_eq`, from sessions that are alike an operation gets the same answer, and it
leaves sessions that are alike.
-/

namespace QueryPad.Session

variable {s t : Session} {o : Operation} {f : Session → Session}

/-! ## What an operation comes to, with its draft and without -/

/-- An operation that has a draft comes to what becomes of the draft. -/
theorem perform_of_draft? {draft : Except Error Session} (h : o.draft? s = some draft) :
    (perform o).run s = match draft with
      | .error e => ⟨.error e, s, []⟩
      | .ok draft => if s.phase = .enabled then draft.dispatch else ⟨.error .disabled, s, []⟩ := by
  have hstep := step_perform o s
  generalize (perform o).run s = out at hstep ⊢
  cases hstep with
  | enable | disable | setSheets | showMessage | edit => cases h
  | type hbound =>
    rw [Operation.draft?, hbound] at h
    cases h
  | submit hdraft hphase =>
    cases hdraft.symm.trans h
    exact (if_pos hphase).symm
  | bar hdraft hphase =>
    cases hdraft.symm.trans h
    rw [hphase]
    rfl
  | refuse hdraft =>
    cases hdraft.symm.trans h
    rfl

/-- What an operation that submits nothing makes of the session, and what it logs. -/
def Operation.settle (s : Session) : Operation → Logged Session
  | .enable => ⟨{ s with phase := .enabled },
      if s.phase = .enabled then [] else [.phaseChanged s.phase .enabled]⟩
  | .disable => ⟨{ s with phase := .disabled },
      if s.phase = .disabled then [] else [.phaseChanged s.phase .disabled]⟩
  | .press chord => ⟨{ s with editor := (s.editor.press chord).2.value },
      (s.editor.press chord).2.events⟩
  | .setSheets book => ⟨{ s with editor := (s.editor.setNames (book.names s.casing)).value },
      .sheetsChanged book.size (book.names s.casing).size ::
        (s.editor.setNames (book.names s.casing)).events⟩
  | .showMessage message => ⟨{ s with messages := (s.messages.display message).value },
      (s.messages.display message).events⟩
  | .edit change => ⟨{ s with editor := (s.editor.apply change).value },
      (s.editor.apply change).events⟩
  | .setLimit _ | .setPage _ | .submit _ => ⟨s, []⟩

/-- An operation without a draft succeeds. -/
theorem perform_of_draft?_eq_none (h : o.draft? s = none) :
    (perform o).run s = ⟨.ok (), (o.settle s).value, (o.settle s).events⟩ := by
  have hstep := step_perform o s
  generalize (perform o).run s = out at hstep ⊢
  cases hstep with
  | enable | disable | setSheets | showMessage | edit | type => rfl
  | submit hdraft | bar hdraft | refuse hdraft => cases hdraft.symm.trans h

/-! ## What no operation looks at -/

/-- The function takes away from a session what no operation looks at; an operation may well set it,
but not to anything that depends on what was taken away. -/
structure Forgets (f : Session → Session) : Prop where
  phase_eq : ∀ s, (f s).phase = s.phase
  actionOf?_eq : ∀ s chord,
    (f s).editor.buffer.actionOf? chord = s.editor.buffer.actionOf? chord
  setLimit_eq : ∀ s limit, f { s with limit := limit, page := 0 } =
    { f s with limit := limit, page := 0 }
  setPage_eq : ∀ s page, f { s with page := page } = { f s with page := page }
  settle_eq : ∀ (s : Session) (o : Operation), f (o.settle (f s)).value = f (o.settle s).value
  submitted_eq : ∀ s, f ((f s).submitted false) = f (s.submitted false)

/-- The draft is the same without what is taken away. -/
theorem Forgets.draft?_eq (h : Forgets f) (s : Session) (o : Operation) :
    o.draft? (f s) = (o.draft? s).map fun draft => draft.map f := by
  cases o with
  | setLimit n =>
    simp only [Operation.draft?, Option.map_some]
    cases checkLimit n with
    | error e => rfl
    | ok limit => exact congrArg (some <| Except.ok ·) (h.setLimit_eq s limit).symm
  | setPage n =>
    simp only [Operation.draft?, Option.map_some]
    cases checkPage n with
    | error e => rfl
    | ok page => exact congrArg (some <| Except.ok ·) (h.setPage_eq s page).symm
  | submit fromFirstPage =>
    cases fromFirstPage with
    | false => rfl
    | true => exact congrArg (some <| Except.ok ·) (h.setPage_eq s 0).symm
  | press chord =>
    simp only [Operation.draft?, h.actionOf?_eq]
    cases s.editor.buffer.actionOf? chord with
    | none => rfl
    | some action => exact congrArg (some <| Except.ok ·) (h.setPage_eq s 0).symm
  | enable | disable | setSheets | showMessage | edit => rfl

/-- With and without what is taken away, an operation takes the same course: it submits nothing, it
fails and leaves the session as it was, or it dispatches a draft. -/
theorem Forgets.perform_cases (h : Forgets f) (s : Session) (o : Operation) :
    ((perform o).run s = ⟨.ok (), (o.settle s).value, (o.settle s).events⟩ ∧
        (perform o).run (f s) = ⟨.ok (), (o.settle (f s)).value, (o.settle (f s)).events⟩) ∨
      (∃ e, (perform o).run s = ⟨.error e, s, []⟩ ∧
        (perform o).run (f s) = ⟨.error e, f s, []⟩) ∨
      ∃ draft, (perform o).run s = draft.dispatch ∧ (perform o).run (f s) = (f draft).dispatch := by
  have hdraft' := h.draft?_eq s o
  cases hdraft : o.draft? s with
  | none =>
    rw [hdraft, Option.map_none] at hdraft'
    exact .inl ⟨perform_of_draft?_eq_none hdraft, perform_of_draft?_eq_none hdraft'⟩
  | some draft =>
    rw [hdraft, Option.map_some] at hdraft'
    rw [perform_of_draft? hdraft, perform_of_draft? hdraft', h.phase_eq]
    cases draft with
    | error e => exact .inr (.inl ⟨e, rfl, rfl⟩)
    | ok draft =>
      dsimp only [Except.map]
      split
      · exact .inr (.inr ⟨draft, rfl, rfl⟩)
      · exact .inr (.inl ⟨.disabled, rfl, rfl⟩)

/-- An operation gets the same answer without what is taken away, and does the same otherwise. -/
theorem Forgets.perform (h : Forgets f) (s : Session) (o : Operation) :
    ((perform o).run (f s)).result = ((perform o).run s).result ∧
      f ((perform o).run (f s)).session = f ((perform o).run s).session := by
  rcases h.perform_cases s o with ⟨hs, hf⟩ | ⟨e, hs, hf⟩ | ⟨draft, hs, hf⟩
  · rw [hs, hf]
    exact ⟨rfl, h.settle_eq s o⟩
  · rw [hs, hf]
    exact ⟨rfl, h.settle_eq s (.submit false)⟩
  · rw [hs, hf]
    exact ⟨rfl, h.submitted_eq draft⟩

/-- Of sessions that are alike an operation makes sessions that are alike, with the same answer. -/
theorem Forgets.perform_of_eq (h : Forgets f) (hst : f s = f t) (o : Operation) :
    ((Session.perform o).run s).result = ((Session.perform o).run t).result ∧
      f ((Session.perform o).run s).session = f ((Session.perform o).run t).session := by
  obtain ⟨hresult, hsession⟩ := h.perform s o
  obtain ⟨hresult', hsession'⟩ := h.perform t o
  rw [← hresult, ← hsession, hst, hresult', hsession']
  exact ⟨rfl, rfl⟩

end QueryPad.Session
