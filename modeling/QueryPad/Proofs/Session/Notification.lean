import QueryPad.Proofs.Session.Highlight
import QueryPad.Proofs.Session.Plain

/-!
# When a session takes note of a workbook does not matter

A session may take note of workbooks at any time and as often as it likes. Of what it answers and
hands over nothing depends on it, and what it shows in the end depends on the last workbook alone.
Main statement: `eq_of_others_eq`, two runs of a session that differ in nothing but workbooks, and
agree on the last of these, come to the same. The other operations of a run, on their own, leave a
session that is alike but for names and colours (`plain_after`); the last workbook decides about
those (`names_after`).
-/

namespace QueryPad.Session

variable {s t : Session}

/-! ## Runs without their workbooks -/

/-- The operations by which a session takes note of no workbook. -/
def others (os : List Operation) : List Operation :=
  os.filter (·.sheets?.isNone)

/-- What those came to. -/
def answers (os : List Operation) (s : Session) : List (Except Error Unit) :=
  ((os.zip (performAll os s)).filter (·.1.sheets?.isNone)).map (·.2.result)

theorem answers_cons (o : Operation) (os : List Operation) (s : Session) :
    answers (o :: os) s =
      if o.sheets?.isNone then
        ((perform o).run s).result :: answers os ((perform o).run s).session
      else answers os ((perform o).run s).session := by
  simp only [answers, performAll, List.zip_cons_cons, List.filter_cons]
  split <;> rfl

/-- An operation that concerns a workbook leaves the session alike. -/
theorem plain_perform_of_sheets? {o : Operation} {book : Workbook} (h : o.sheets? = some book) :
    ((perform o).run s).session.plain = s.plain := by
  cases o with
  | setSheets book' => exact plain_setSheets s book'
  | enable | disable | setLimit | setPage | submit | press | showMessage | edit => cases h

/-- A run answers as its operations do without the workbooks, and comes to the same but for names
and colours. -/
theorem plain_after (h : s.plain = t.plain) (os : List Operation) :
    answers os s = answers (others os) t ∧ (after os s).plain = (after (others os) t).plain := by
  induction os generalizing s t with
  | nil => exact ⟨rfl, h⟩
  | cons o os ih =>
    cases hsheets : o.sheets? with
    | some book =>
      have hothers : others (o :: os) = others os := by
        simp only [others, List.filter_cons, hsheets, Option.isNone_some, Bool.false_eq_true, if_false]
      rw [hothers, answers_cons, hsheets]
      exact ih ((plain_perform_of_sheets? hsheets).trans h)
    | none =>
      have hothers : others (o :: os) = o :: others os := by
        simp only [others, List.filter_cons, hsheets, Option.isNone_none, if_true]
      obtain ⟨hresult, hplain⟩ := plain_perform h o
      obtain ⟨hanswers, hafter⟩ := ih hplain
      rw [hothers, answers_cons, answers_cons, hsheets, hresult, hanswers]
      exact ⟨rfl, hafter⟩

/-! ## The last workbook -/

/-- An operation that submits concerns no workbook. -/
theorem sheets?_of_draft? {o : Operation} {draft : Except Error Session}
    (h : o.draft? s = some draft) : o.sheets? = none := by
  cases o with
  | setSheets book => cases h
  | enable | disable | setLimit | setPage | submit | press | showMessage | edit => rfl

/-- The names in sight change with a workbook alone, and the casing never does. -/
theorem names_perform (o : Operation) (s : Session) :
    ((perform o).run s).session.casing = s.casing ∧
      ((perform o).run s).session.editor.names =
        (o.sheets?.map (·.names s.casing)).getD s.editor.names := by
  have hstep := step_perform o s
  generalize (perform o).run s = out at hstep ⊢
  cases hstep with
  | enable | disable | setSheets | showMessage => exact ⟨rfl, rfl⟩
  | edit change => exact ⟨rfl, Editor.names_apply _ _⟩
  | type => exact ⟨rfl, Editor.names_press _ _⟩
  | submit hdraft =>
    rw [sheets?_of_draft? hdraft, (drafted_of_draft? hdraft).eq]
    exact ⟨rfl, rfl⟩
  | bar hdraft | refuse hdraft =>
    rw [sheets?_of_draft? hdraft]
    exact ⟨rfl, rfl⟩

/-- After a run the names in sight are those of the last workbook, or else those of before. -/
theorem names_after (os : List Operation) (s : Session) :
    (after os s).editor.names =
      ((latestSheets? os).map (·.names s.casing)).getD s.editor.names := by
  induction os generalizing s with
  | nil => rfl
  | cons o os ih =>
    obtain ⟨hcasing, hnames⟩ := names_perform o s
    rw [show after (o :: os) s = after os ((perform o).run s).session from rfl, ih, hcasing, hnames,
      latestSheets?_cons]
    cases latestSheets? os <;> rfl

/-! ## Two runs -/

/-- Two runs of a session that can be built, of the same operations but for workbooks and with the
same workbook last, get the same answers; they leave the same text, cursor, selection, limit, page,
phase, messages and requests behind, with the same names in sight and the same tokens painted. -/
theorem eq_of_others_eq {setup : Setup} {opened : Logged Session} (h : setup.build = .ok opened)
    {os os' : List Operation} (hothers : others os = others os')
    (hlatest : latestSheets? os = latestSheets? os') :
    answers os opened.value = answers os' opened.value ∧
      (after os opened.value).plain = (after os' opened.value).plain ∧
      (after os opened.value).editor.names = (after os' opened.value).editor.names ∧
      (after os opened.value).editor.buffer.painted =
        (after os' opened.value).editor.buffer.painted := by
  obtain ⟨hanswers, hplain⟩ := plain_after (Eq.refl opened.value.plain) os
  obtain ⟨hanswers', hplain'⟩ := plain_after (Eq.refl opened.value.plain) os'
  rw [← hothers] at hanswers' hplain'
  have halike := hplain.trans hplain'.symm
  have hnames : (after os opened.value).editor.names = (after os' opened.value).editor.names := by
    rw [names_after, names_after, hlatest]
  have htext : (after os opened.value).editor.text = (after os' opened.value).editor.text :=
    congrArg (·.editor.text) halike
  have hfresh := ((highlit_of_build h).after os).isFresh
  have hfresh' := ((highlit_of_build h).after os').isFresh
  refine ⟨hanswers.trans hanswers'.symm, halike, hnames, ?_⟩
  rw [hfresh, hfresh', Editor.tokens, Editor.tokens, hnames, htext]

theorem eq_of_others_eq_sales :
    ∃ opened, Setup.sales.build = .ok opened ∧
      let costs : Workbook := ⟨[⟨"costs", ["total"]⟩]⟩
      let os : List Operation := [.setSheets .empty, .enable, .submit true, .setSheets costs]
      let os' : List Operation := [.enable, .setSheets costs, .submit true]
      others os = others os' ∧ latestSheets? os = latestSheets? os' ∧
        answers os opened.value = answers os' opened.value ∧
        (after os opened.value).plain = (after os' opened.value).plain ∧
        (after os opened.value).editor.names = (after os' opened.value).editor.names ∧
        (after os opened.value).editor.buffer.painted =
          (after os' opened.value).editor.buffer.painted := by
  obtain ⟨opened, h⟩ : ∃ opened, Setup.sales.build = .ok opened := ⟨_, rfl⟩
  exact ⟨opened, h, rfl, rfl, eq_of_others_eq h rfl rfl⟩

end QueryPad.Session
