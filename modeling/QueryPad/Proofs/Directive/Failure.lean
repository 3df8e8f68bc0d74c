import QueryPad.Directive.Apply
import QueryPad.Proofs.Session.Refusal

/-!
# What a directive that fails leaves behind

A directive asks at most one operation of its session, and a query is put into the editor before.
Where the operation fails, that is all that has happened (`session_of_apply_error`): a limit or a
page that is refused leaves the session as it was, but a query that is refused has already replaced
the one before. Main statement: `view_apply_eq_iff`, a directive that fails goes unnoticed exactly
if it is no query, or the one that is in the editor already, with the cursor at its end and nothing
selected. `View` is what can be noticed.
-/

namespace QueryPad

/-! ## What can be seen of a session -/

/-- What can be seen of a session, but for its colours, theme and bindings. -/
structure Session.View where
  text : String
  limit : UInt32
  page : UInt32
  phase : Phase
  cursor : Nat
  selection : Option Span
  names : NameTable
  messages : MessageLine
  /-- The requests that were handed over. -/
  handed : List Request

/-- What can be seen of a session as it stands. -/
def Session.view (s : Session) : View where
  text := s.editor.text
  limit := s.limit
  page := s.page
  phase := s.phase
  cursor := s.editor.buffer.cursor
  selection := s.editor.buffer.selection
  names := s.editor.names
  messages := s.messages
  handed := s.executor.handed

/-- An operation of which only the answer is replaced. -/
theorem SessionM.run_bind_pure {α β : Type} (m : SessionM α) (b : β) (s : Session) :
    (m >>= fun _ => pure b).run s =
      ⟨(m.run s).result.map fun _ => b, (m.run s).session, (m.run s).events⟩ := by
  rw [run_bind]
  cases (m.run s).result with
  | error e => rfl
  | ok a => simp only [run_pure, Except.map, List.append_nil]

namespace Directive

variable {s : Session} {d : Directive} {o : Session.Operation} {e : Error}

/-! ## The course of a directive -/

/-- The operation that a directive asks of its session. -/
def operation? : Directive → Option Session.Operation
  | .query _ => some (.submit true)
  | .limit n => some (.setLimit n)
  | .page n => some (.setPage n)
  | .sheets book => some (.setSheets book)
  | .enable => some .enable
  | .disable => some .disable
  | .complete _ | .tokens | .quit => none

/-- The session of which a directive asks its operation: a query is in the editor by then. -/
def prepare (s : Session) : Directive → Session
  | .query text => { s with editor := (s.editor.setText text).value }
  | .limit _ | .page _ | .sheets _ | .complete _ | .tokens | .enable | .disable | .quit => s

/-- A directive comes to what its operation comes to. -/
theorem apply_of_operation? (h : d.operation? = some o) :
    (d.apply.run s).result =
        ((Session.perform o).run (d.prepare s)).result.map (fun _ => .goOn) ∧
      (d.apply.run s).session = ((Session.perform o).run (d.prepare s)).session := by
  cases d with
  | query text =>
    cases h
    have hedit : (Session.edit (.setText text)).run s =
        ⟨.ok (), (Directive.query text).prepare s, (s.editor.setText text).events⟩ := by
      simp only [Session.edit, SessionM.run_bind, SessionM.run_current,
        Session.run_replaceEditor, List.nil_append]
      rfl
    simp only [apply, SessionM.run_bind _ _ s, hedit, SessionM.run_bind_pure]
    exact ⟨rfl, rfl⟩
  | limit | page | sheets | enable | disable =>
    cases h
    simp only [apply, SessionM.run_bind_pure]
    exact ⟨rfl, rfl⟩
  | complete | tokens | quit => cases h

/-- A directive without an operation succeeds. -/
theorem exists_of_operation?_eq_none (h : d.operation? = none) :
    ∃ c, (d.apply.run s).result = .ok c := by
  cases d with
  | query | limit | page | sheets | enable | disable => cases h
  | complete | tokens => exact ⟨.goOn, rfl⟩
  | quit => exact ⟨.stop, rfl⟩

/-! ## Directives that fail -/

/-- Where a directive fails, nothing has happened but what came before its operation. -/
theorem session_of_apply_error (h : (d.apply.run s).result = .error e) :
    (d.apply.run s).session = d.prepare s := by
  cases hop : d.operation? with
  | none =>
    obtain ⟨c, hc⟩ := exists_of_operation?_eq_none (s := s) hop
    rw [hc] at h
    cases h
  | some o =>
    obtain ⟨hresult, hsession⟩ := apply_of_operation? (s := s) hop
    rw [hresult] at h
    rw [hsession, Session.perform_eq_of_error (eq_error_of_map_eq_error h)]

/-- To put a query into the editor goes unnoticed if it was there already. -/
theorem view_prepare_eq_iff :
    (d.prepare s).view = s.view ↔ ∀ text, d = .query text →
      text = s.editor.text ∧ s.editor.buffer.cursor = text.utf8ByteSize ∧
        s.editor.buffer.selection = none := by
  cases d with
  | query text =>
    simp only [Directive.query.injEq, forall_eq']
    constructor
    · intro h
      exact ⟨congrArg Session.View.text h, (congrArg Session.View.cursor h).symm,
        (congrArg Session.View.selection h).symm⟩
    · rintro ⟨htext, hcursor, hselection⟩
      show ({ s.view with text := text, cursor := text.utf8ByteSize, selection := none } :
        Session.View) = s.view
      rw [← hcursor, ← hselection, htext]
      rfl
  | limit | page | sheets | complete | tokens | enable | disable | quit =>
    exact iff_of_true rfl nofun

/-- A directive that fails leaves all that can be seen as it was, unless it is a query that is new
to the editor. -/
theorem view_apply_eq_iff (h : (d.apply.run s).result = .error e) :
    (d.apply.run s).session.view = s.view ↔ ∀ text, d = .query text →
      text = s.editor.text ∧ s.editor.buffer.cursor = text.utf8ByteSize ∧
        s.editor.buffer.selection = none := by
  rw [session_of_apply_error h]
  exact view_prepare_eq_iff

theorem view_apply_limit_sales :
    ∃ opened, Setup.sales.build = .ok opened ∧
      ((limit 0).apply.run opened.value).result = .error (.limitNotPositive 0) ∧
      ((limit 0).apply.run opened.value).session.view = opened.value.view := by
  obtain ⟨opened, h⟩ : ∃ opened, Setup.sales.build = .ok opened := ⟨_, rfl⟩
  have hresult : ((limit 0).apply.run opened.value).result = .error (.limitNotPositive 0) := rfl
  exact ⟨opened, h, hresult, (view_apply_eq_iff hresult).2 nofun⟩

/-- A query that is refused has replaced the one before. -/
theorem text_apply_query_sales :
    ∃ opened, Setup.sales.build = .ok opened ∧
      ((query "select 1").apply.run opened.value).result = .error .disabled ∧
      opened.value.view.text = "select * from sales" ∧
      ((query "select 1").apply.run opened.value).session.view.text = "select 1" :=
  ⟨_, rfl, rfl, rfl, rfl⟩

end Directive

end QueryPad
