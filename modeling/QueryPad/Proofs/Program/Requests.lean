import QueryPad.Proofs.Program.Log
import QueryPad.Proofs.Session.Plain
import QueryPad.Proofs.Text.Words

/-!
# Which requests come of an input

The requests that the program hands over depend on its sheet, its limit and the orders among its
lines. Lines that list or announce something, and lines that cannot be read, give no order, and after
a line that quits nothing is read (`SameOrders`). Two runs are compared by what `Session.plain` leaves
of their sessions: it is kept by every directive (`plain_apply`), so that of a whole run the orders
alone can be told (`plain_afterLines`). Main statement: `requests_eq_of_sameOrders`.
-/

namespace QueryPad

namespace Directive

variable {s t : Session} {d : Directive}

/-! ## Directives on sessions that are alike -/

/-- The directive concerns what is shown and nothing else. -/
def IsDisplay : Directive → Prop
  | .sheets _ | .complete _ | .tokens => True
  | .query _ | .limit _ | .page _ | .enable | .disable | .quit => False

instance : DecidablePred IsDisplay
  | .sheets _ | .complete _ | .tokens => .isTrue trivial
  | .query _ | .limit _ | .page _ | .enable | .disable | .quit => .isFalse id

/-- A directive that concerns what is shown leaves the session alike. -/
theorem plain_apply_of_isDisplay (h : d.IsDisplay) : (d.apply.run s).session.plain = s.plain := by
  cases d with
  | sheets book =>
    rw [(apply_of_operation? rfl).2]
    exact Session.plain_setSheets s book
  | complete | tokens => rw [session_of_operation?_eq_none rfl]
  | query | limit | page | enable | disable | quit => exact h.elim

theorem plain_prepare (h : s.plain = t.plain) (d : Directive) :
    (d.prepare s).plain = (d.prepare t).plain := by
  cases d with
  | query text =>
    have hedit (s : Session) : ((Directive.query text).prepare s).plain =
        { s.plain with editor := (s.plain.editor.setText text).value.plain } := rfl
    rw [hedit, hedit, h]
  | limit | page | sheets | complete | tokens | enable | disable | quit => exact h

/-- Of sessions that are alike a directive makes sessions that are alike. -/
theorem plain_apply (h : s.plain = t.plain) (d : Directive) :
    (d.apply.run s).session.plain = (d.apply.run t).session.plain := by
  cases hop : d.operation? with
  | none => rwa [session_of_operation?_eq_none hop, session_of_operation?_eq_none hop]
  | some o =>
    rw [(apply_of_operation? hop).2, (apply_of_operation? hop).2]
    exact (Session.plain_perform (plain_prepare h d) o).2

end Directive

namespace Program

variable {s t : Session} {line : String}

/-! ## The orders of an input -/

/-- The line gives no order: it concerns what is shown, or it cannot be read. -/
def IsIdle (line : String) : Prop :=
  ∀ d, Directive.parse line = .ok d → d.IsDisplay

instance : DecidablePred IsIdle := fun line =>
  match h : Directive.parse line with
  | .error _ => .isTrue fun _ hd => nomatch h.symm.trans hd
  | .ok d => decidable_of_iff d.IsDisplay
      ⟨fun hd _ hd' => Except.ok.inj (h.symm.trans hd') ▸ hd, fun hidle => hidle d h⟩

/-- The orders that lines give, up to one that quits. -/
def orders : List String → List Directive
  | [] => []
  | line :: lines =>
    match Directive.parse line with
    | .error _ => orders lines
    | .ok d =>
      if d = .quit then [] else if d.IsDisplay then orders lines else d :: orders lines

/-- The session after directives, whether or not they fail. -/
def afterOrders (ds : List Directive) (s : Session) : Session :=
  ds.foldl (fun s d => (d.apply.run s).session) s

/-- The second input comes of the first where lines that give no order are put in or left out
anywhere, and where what follows a line that quits is replaced. -/
inductive SameOrders : List String → List String → Prop
  | refl (lines : List String) : SameOrders lines lines
  | trans {lines₁ lines₂ lines₃ : List String} : SameOrders lines₁ lines₂ →
      SameOrders lines₂ lines₃ → SameOrders lines₁ lines₃
  | insert {line : String} (before after : List String) : IsIdle line →
      SameOrders (before ++ after) (before ++ line :: after)
  | delete {line : String} (before after : List String) : IsIdle line →
      SameOrders (before ++ line :: after) (before ++ after)
  | replaceRest {line : String} (before after after' : List String) :
      Directive.parse line = .ok .quit →
      SameOrders (before ++ line :: after) (before ++ line :: after')

theorem orders_of_isIdle (h : IsIdle line) (lines : List String) :
    orders (line :: lines) = orders lines := by
  rw [orders]
  cases hparse : Directive.parse line with
  | error e => rfl
  | ok d =>
    have hdisplay := h d hparse
    have hquit : d ≠ .quit := by
      rintro rfl
      exact hdisplay
    dsimp only
    rw [if_neg hquit, if_pos hdisplay]

theorem orders_of_quit (h : Directive.parse line = .ok .quit) (lines : List String) :
    orders (line :: lines) = [] := by
  rw [orders, h]
  exact if_pos rfl

/-- What follows does not matter but for its own orders. -/
theorem orders_append_congr {lines lines' : List String} (h : orders lines = orders lines')
    (before : List String) : orders (before ++ lines) = orders (before ++ lines') := by
  induction before with
  | nil => exact h
  | cons line before ih => simp only [List.cons_append, orders, ih]

/-- Inputs that are so alike give the same orders. -/
theorem orders_eq_of_sameOrders {lines lines' : List String} (h : SameOrders lines lines') :
    orders lines = orders lines' := by
  induction h with
  | refl => rfl
  | trans _ _ ih₁ ih₂ => exact ih₁.trans ih₂
  | insert before after hline =>
    exact orders_append_congr (orders_of_isIdle hline after).symm before
  | delete before after hline => exact orders_append_congr (orders_of_isIdle hline after) before
  | replaceRest before after after' hquit =>
    refine orders_append_congr ?_ before
    rw [orders_of_quit hquit, orders_of_quit hquit]

/-- A run leaves a session that is alike to what its orders leave. -/
theorem plain_afterLines (h : s.plain = t.plain) (lines : List String) :
    (afterLines lines s).plain = (afterOrders (orders lines) t).plain := by
  induction lines generalizing s t with
  | nil => exact h
  | cons line lines ih =>
    rw [afterLines, orders]
    cases hparse : Directive.parse line with
    | error e =>
      obtain ⟨hnext, hsession⟩ := takeTurn_of_error hparse s
      rw [hnext, hsession]
      exact ih h
    | ok d =>
      obtain ⟨hnext, hsession⟩ := takeTurn_of_ok hparse s
      dsimp only
      by_cases hquit : d = .quit
      · rw [hnext, if_pos hquit, if_pos hquit, hsession, hquit]
        exact h
      rw [hnext, if_neg hquit, if_neg hquit, hsession]
      -- a directive that gives no order is taken by `s` alone, any other by both
      by_cases hdisplay : d.IsDisplay
      · rw [if_pos hdisplay]
        exact ih ((Directive.plain_apply_of_isDisplay hdisplay).trans h)
      · rw [if_neg hdisplay]
        exact ih (Directive.plain_apply h d)

/-! ## The beginning of a run -/

/-- What the program begins with, but for names and colours. -/
def opening (sheet : String) (limit : UInt32) : Session where
  editor := {
    sheet := sheet
    names := .empty .sensitive
    buffer := (Buffer.empty.setText (openingQuery sheet)).bind ⟨.submitQuery, .submit .current⟩ }
  executor := .new .listening
  messages := .new .log
  casing := .sensitive
  limit := limit
  page := 0
  phase := .enabled

/-- Settings with a limit and a sheet that is not blank open a session, which depends on nothing
else but for names and colours. -/
theorem exists_openSession (settings : Settings) (hlimit : settings.limit ≠ 0)
    (hsheet : ∃ c ∈ settings.sheet.toList, Text.isBlank c = false) :
    ∃ opened, openSession settings = .ok opened ∧
      opened.value.plain = opening settings.sheet settings.limit := by
  have htrim : ¬ (Text.trim settings.sheet.toList).isEmpty = true := by
    obtain ⟨c, hc, hblank⟩ := hsheet
    rw [List.isEmpty_iff, Text.trim_eq_nil_iff]
    intro h
    rw [h c hc] at hblank
    cases hblank
  simp only [openSession, Setup.build, Setup.need, Setup.configure, bind, Except.bind,
    if_neg hlimit, Editor.openOn, if_neg htrim]
  exact ⟨_, rfl, rfl⟩

/-! ## Two runs -/

/-- Settings that open a session hand over the same requests on inputs that give the same orders,
however they compare names and whatever their mode, and the log of a run tells of these. -/
theorem requests_eq_of_sameOrders {settings settings' : Settings} (hlimit : settings.limit ≠ 0)
    (hsheet : ∃ c ∈ settings.sheet.toList, Text.isBlank c = false)
    (hlimit' : settings'.limit = settings.limit) (hsheet' : settings'.sheet = settings.sheet)
    {lines lines' : List String} (h : SameOrders lines lines') :
    ∃ rs, requests settings lines = .ok rs ∧ requests settings' lines' = .ok rs ∧
      ∀ env bytes, IsRun settings lines env bytes ∨ IsRun settings' lines' env bytes →
        Event.requests (log env bytes) = rs := by
  obtain ⟨opened, hopen, hplain⟩ := exists_openSession settings hlimit hsheet
  obtain ⟨opened', hopen', hplain'⟩ :=
    exists_openSession settings' (hlimit' ▸ hlimit) (hsheet' ▸ hsheet)
  rw [hlimit', hsheet', ← hplain] at hplain'
  have hafter := plain_afterLines hplain'.symm lines
  rw [orders_eq_of_sameOrders h, ← plain_afterLines rfl] at hafter
  have hreceived : (afterLines lines opened.value).executor.received =
      (afterLines lines' opened'.value).executor.received :=
    congrArg (·.executor.received) hafter
  have hrequests : requests settings lines =
      .ok (afterLines lines opened.value).executor.received := by
    rw [requests, hopen]
    rfl
  have hrequests' : requests settings' lines' =
      .ok (afterLines lines opened.value).executor.received := by
    rw [requests, hopen', hreceived]
    rfl
  refine ⟨_, hrequests, hrequests', ?_⟩
  rintro env bytes (hrun | hrun)
  · exact requests_log hrun hrequests
  · exact requests_log hrun hrequests'

theorem requests_eq_of_sameOrders_default :
    let settings' := { Settings.default with caseSensitive := false, darkMode := true }
    let lines := [":limit ten", "select 1", ":quit", "select 2"]
    let lines' := ["select 1", ":sheets costs", ":quit"]
    Settings.default.limit ≠ 0 ∧
      (∃ c ∈ Settings.default.sheet.toList, Text.isBlank c = false) ∧
      settings'.limit = Settings.default.limit ∧ settings'.sheet = Settings.default.sheet ∧
      SameOrders lines lines' ∧
      ∃ rs, requests .default lines = .ok rs ∧ requests settings' lines' = .ok rs ∧
        ∀ env bytes, IsRun .default lines env bytes ∨ IsRun settings' lines' env bytes →
          Event.requests (log env bytes) = rs := by
  intro settings' lines lines'
  have hlimit : Settings.default.limit ≠ 0 := by decide
  have hsheet : ∃ c ∈ Settings.default.sheet.toList, Text.isBlank c = false :=
    ⟨'s', by decide, by decide⟩
  have horders : SameOrders lines lines' :=
    .trans (.delete [] _ (by decide)) <| .trans (.insert ["select 1"] _ (by decide))
      (.replaceRest ["select 1", ":sheets costs"] ["select 2"] [] rfl)
  have hlimit' : settings'.limit = Settings.default.limit := rfl
  exact ⟨hlimit, hsheet, hlimit', rfl, horders,
    requests_eq_of_sameOrders hlimit hsheet hlimit' rfl horders⟩

end Program

end QueryPad
