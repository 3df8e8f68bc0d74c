import QueryPad.Proofs.Session.Notification

/-!
# Workbooks that are known from the start

A session may be set up with the names of a workbook, and compares them by its own casing. None are
lost if they were collected by that casing or by the one that tells all names apart
(`Setup.initialNames_of_known`). To take note of the workbook then brings nothing new:
`paintedAgain` is the session with nothing changed but the number of paints. Main statement:
`perform_setSheets_of_known`, it is so all along every run until a workbook is taken note of.
-/

namespace QueryPad

/-- A session set up with the names of a workbook holds them as if it had collected them by its own
casing. -/
theorem Setup.initialNames_of_known {setup : Setup} {book : Workbook} {casing : Casing}
    (hnames : setup.names = some (book.names casing))
    (hcasing : casing = setup.casing ∨ casing = .sensitive) :
    setup.initialNames = book.names setup.casing := by
  simp only [initialNames, hnames, Workbook.names_eq_ofList]
  exact NameTable.recase_ofList hcasing book.identifiers

/-- To paint what is shown already changes nothing but the number of paints. -/
theorem Editor.IsFresh.repaint_eq {grammar : Grammar} {e : Editor grammar} (h : e.IsFresh) :
    e.repaint.value = { e with buffer := { e.buffer with paints := e.buffer.paints + 1 } } := by
  show { e with buffer := { e.buffer with painted := e.tokens, paints := e.buffer.paints + 1 } } = _
  rw [← h]

namespace Session

variable {s : Session} {book : Workbook} {os : List Operation}

/-- The session after one more paint that shows nothing new. -/
def paintedAgain (s : Session) : Session :=
  { s with editor :=
    { s.editor with buffer := { s.editor.buffer with paints := s.editor.buffer.paints + 1 } } }

/-- To take note of a workbook whose names are in sight already comes to a paint. -/
theorem perform_setSheets_of_names_eq (hfresh : s.editor.IsFresh)
    (hnames : s.editor.names = book.names s.casing) :
    ((perform (.setSheets book)).run s).session = s.paintedAgain := by
  have hstep := step_perform (.setSheets book) s
  generalize (perform (.setSheets book)).run s = out at hstep ⊢
  cases hstep with
  | setSheets =>
    have heditor : s.editor.setNames (book.names s.casing) = s.editor.repaint := by
      rw [← hnames]
      rfl
    rw [heditor, hfresh.repaint_eq]
    rfl
  | submit hdraft | bar hdraft | refuse hdraft => cases hdraft

/-- Operations that take note of no workbook leave the names in sight as they are. -/
theorem names_after_of_forall (hos : ∀ o ∈ os, o.sheets? = none) :
    (after os s).editor.names = s.editor.names := by
  have hlatest : latestSheets? os = none := by
    rw [latestSheets?, List.filterMap_eq_nil_iff.2 hos]
    rfl
  rw [names_after, hlatest]
  rfl

/-- A session that can be built with the names of a workbook, collected by its own casing or by the
one that tells all names apart, holds the names of the workbook. To take note of the workbook, after
any operations that take note of none, then leaves all as it was but for the number of paints: the
names in sight, the tokens painted and the suggestions for every text and cursor. -/
theorem perform_setSheets_of_known {setup : Setup} {casing : Casing} {opened : Logged Session}
    (hnames : setup.names = some (book.names casing))
    (hcasing : casing = setup.casing ∨ casing = .sensitive) (h : setup.build = .ok opened) :
    opened.value.editor.names = book.names setup.casing ∧
      ∀ os, (∀ o ∈ os, o.sheets? = none) →
        let before := after os opened.value
        let noted := ((perform (.setSheets book)).run before).session
        noted = before.paintedAgain ∧
          noted.editor.names = before.editor.names ∧
          noted.editor.buffer.painted = before.editor.buffer.painted ∧
          ∀ text offset, (noted.editor.setText text).value.suggestionsAt offset =
            (before.editor.setText text).value.suggestionsAt offset := by
  have hopened : opened.value.editor.names = book.names setup.casing := by
    obtain ⟨_, _, _, _, editor, -, hopen, rfl⟩ := Setup.exists_of_build h
    show editor.value.names = _
    rw [Editor.eq_repaint_of_openOn hopen]
    exact Setup.initialNames_of_known hnames hcasing
  refine ⟨hopened, ?_⟩
  intro os hos before noted
  have hhighlit := (highlit_of_build h).after os
  have hbefore : before.editor.names = book.names before.casing := by
    rw [names_after_of_forall hos, hopened, hhighlit.casing_eq]
  have hnoted : noted = before.paintedAgain :=
    perform_setSheets_of_names_eq hhighlit.isFresh hbefore
  rw [hnoted]
  exact ⟨rfl, rfl, rfl, fun _ _ => rfl⟩

theorem perform_setSheets_of_known_sales :
    let book : Workbook := ⟨[⟨"sales", ["Region", "REGION", "Sales"]⟩]⟩
    let setup := { Setup.sales with names := some (book.names .sensitive), casing := .insensitive }
    ∃ opened, setup.build = .ok opened ∧
      opened.value.editor.names = book.names .insensitive ∧
      let before := after [.enable, .submit true] opened.value
      let noted := ((perform (.setSheets book)).run before).session
      noted = before.paintedAgain ∧
        noted.editor.names = before.editor.names ∧
        noted.editor.buffer.painted = before.editor.buffer.painted ∧
        ∀ text offset, (noted.editor.setText text).value.suggestionsAt offset =
          (before.editor.setText text).value.suggestionsAt offset := by
  intro book setup
  obtain ⟨opened, h⟩ : ∃ opened, setup.build = .ok opened := ⟨_, rfl⟩
  obtain ⟨hnames, hnoted⟩ := perform_setSheets_of_known rfl (.inr rfl) h
  exact ⟨opened, h, hnames, hnoted [.enable, .submit true] (by decide)⟩

/-- Collected without regard to case, names are lost for a session that does regard it. -/
example :
    ((Workbook.mk [⟨"sales", ["Region", "REGION"]⟩]).names .insensitive).recase .sensitive ≠
      (Workbook.mk [⟨"sales", ["Region", "REGION"]⟩]).names .sensitive := by
  decide +kernel

end Session

end QueryPad
