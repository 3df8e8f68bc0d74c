import QueryPad.Proofs.Computation
import QueryPad.Proofs.Editor.Press
import QueryPad.Session.Setup

/-!
# The steps of a session

What each operation comes to, said once: `Step` has a constructor for every course that an operation
can take, and `step_perform` shows that there is no other. An operation that submits has a draft, the
session as it would be when the request is handed over; a refusal leaves the session as it was.
`exists_of_build` says what a session is built as, and `after_induction` carries a property from
there over every run.
-/

namespace QueryPad

namespace Session

/-! ## Numbers in range -/

/-- A number that is not negative fits exactly if it is a number of 32 bits. -/
theorem fit_eq_ok_iff {quantity : Quantity} {n : Int} {m : UInt32} (hn : 0 ≤ n) :
    fit quantity n = .ok m ↔ n = m.toNat := by
  have hm := m.toNat_lt
  rw [fit]
  split
  · next hle =>
    have hlt : n.toNat < 2 ^ 32 := by
      simp only [Text.Numeral.unsigned32] at hle
      omega
    rw [Except.ok.injEq]
    constructor
    · rintro rfl
      rw [UInt32.toNat_ofNat_of_lt' hlt, Int.toNat_of_nonneg hn]
    · rintro rfl
      rw [Int.toNat_natCast, UInt32.ofNat_toNat]
  · next hgt =>
    simp only [Text.Numeral.unsigned32] at hgt
    refine ⟨?_, ?_⟩
    · intro h
      cases h
    · intro h
      omega

/-- The limits that may be set are the positive numbers of 32 bits. -/
theorem checkLimit_eq_ok_iff {n : Int} {limit : UInt32} :
    checkLimit n = .ok limit ↔ 1 ≤ n ∧ n = limit.toNat := by
  rw [checkLimit]
  split
  · refine ⟨?_, ?_⟩
    · intro h
      cases h
    · intro h
      omega
  · next hn =>
    rw [fit_eq_ok_iff (by omega)]
    refine ⟨?_, And.right⟩
    intro h
    exact ⟨by omega, h⟩

/-- The pages that can be gone to are the numbers of 32 bits. -/
theorem checkPage_eq_ok_iff {n : Int} {page : UInt32} :
    checkPage n = .ok page ↔ n = page.toNat := by
  rw [checkPage]
  split
  · refine ⟨?_, ?_⟩
    · intro h
      cases h
    · intro h
      omega
  · next hn => exact fit_eq_ok_iff (by omega)

/-! ## Drafts -/

/-- The session as an operation would submit it, or why it may not; `none` if the operation submits
nothing. -/
def Operation.draft? (s : Session) : Operation → Option (Except Error Session)
  | .setLimit n => some ((checkLimit n).map fun limit => { s with limit := limit, page := 0 })
  | .setPage n => some ((checkPage n).map fun page => { s with page := page })
  | .submit fromFirstPage => some (.ok (if fromFirstPage then { s with page := 0 } else s))
  | .press chord => (s.editor.buffer.actionOf? chord).map fun _ => .ok { s with page := 0 }
  | .enable | .disable | .setSheets _ | .showMessage _ | .edit _ => none

/-- The drafts of a session, by the operations that have them. -/
inductive Drafted (s : Session) : Operation → Session → Prop
  | setLimit {n : Int} {limit : UInt32} : checkLimit n = .ok limit →
      Drafted s (.setLimit n) { s with limit := limit, page := 0 }
  | setPage {n : Int} {page : UInt32} : checkPage n = .ok page →
      Drafted s (.setPage n) { s with page := page }
  | submit : Drafted s (.submit false) s
  | submitFirst : Drafted s (.submit true) { s with page := 0 }
  | press {chord : Chord} : s.editor.buffer.Binds chord →
      Drafted s (.press chord) { s with page := 0 }

/-- A draft is one of those. -/
theorem drafted_of_draft? {s draft : Session} {o : Operation}
    (h : o.draft? s = some (.ok draft)) : Drafted s o draft := by
  cases o with
  | setLimit n =>
    obtain ⟨limit, hlimit, rfl⟩ := exists_of_map_eq_ok (Option.some.inj h)
    exact .setLimit hlimit
  | setPage n =>
    obtain ⟨page, hpage, rfl⟩ := exists_of_map_eq_ok (Option.some.inj h)
    exact .setPage hpage
  | submit fromFirstPage =>
    cases fromFirstPage with
    | false =>
      cases h
      exact .submit
    | true =>
      cases h
      exact .submitFirst
  | press chord =>
    obtain ⟨action, haction, h⟩ := Option.map_eq_some_iff.1 h
    cases h
    exact .press (Buffer.exists_actionOf?_iff.1 ⟨action, haction⟩)
  | enable | disable | setSheets | showMessage | edit => cases h

/-- A draft differs from the session in nothing but the limit and the page. -/
theorem Drafted.eq {s draft : Session} {o : Operation} (h : Drafted s o draft) :
    draft = { s with limit := draft.limit, page := draft.page } := by
  cases h <;> rfl

/-- The limit of a draft is the one of the session or a positive one that was set. -/
theorem Drafted.one_le_limit {s draft : Session} {o : Operation} (h : Drafted s o draft)
    (hs : 1 ≤ s.limit.toNat) : 1 ≤ draft.limit.toNat := by
  cases h with
  | @setLimit n limit hlimit =>
    have := checkLimit_eq_ok_iff.1 hlimit
    show 1 ≤ limit.toNat
    omega
  | setPage | submit | submitFirst | press => exact hs

/-- What comes of a draft that is submitted. -/
def dispatch (draft : Session) : Outcome Unit where
  result := .ok ()
  session := draft.submitted false
  events := .submitting draft.limit draft.page :: (draft.executor.take draft.request).events

/-- What an operation can come to. -/
inductive Step (s : Session) : Operation → Outcome Unit → Prop
  | enable : Step s .enable ⟨.ok (), { s with phase := .enabled },
      if s.phase = .enabled then [] else [.phaseChanged s.phase .enabled]⟩
  | disable : Step s .disable ⟨.ok (), { s with phase := .disabled },
      if s.phase = .disabled then [] else [.phaseChanged s.phase .disabled]⟩
  | setSheets (book : Workbook) : Step s (.setSheets book)
      ⟨.ok (), { s with editor := (s.editor.setNames (book.names s.casing)).value },
        .sheetsChanged book.size (book.names s.casing).size ::
          (s.editor.setNames (book.names s.casing)).events⟩
  | showMessage (message : String) : Step s (.showMessage message)
      ⟨.ok (), { s with messages := (s.messages.display message).value },
        (s.messages.display message).events⟩
  | edit (change : Edit) : Step s (.edit change)
      ⟨.ok (), { s with editor := (s.editor.apply change).value }, (s.editor.apply change).events⟩
  /-- A chord that is not bound. -/
  | type {chord : Chord} : s.editor.buffer.actionOf? chord = none → Step s (.press chord)
      ⟨.ok (), { s with editor := (s.editor.press chord).2.value }, (s.editor.press chord).2.events⟩
  | submit {o : Operation} {draft : Session} : o.draft? s = some (.ok draft) →
      s.phase = .enabled → Step s o draft.dispatch
  /-- A submission while the session is disabled. -/
  | bar {o : Operation} {draft : Session} : o.draft? s = some (.ok draft) →
      s.phase = .disabled → Step s o ⟨.error .disabled, s, []⟩
  /-- A number out of range. -/
  | refuse {o : Operation} {e : Error} : o.draft? s = some (.error e) →
      Step s o ⟨.error e, s, []⟩

/-! ## The course of each operation -/

variable {s : Session}

/-- Only a change of the phase is logged. -/
theorem run_turn (target : Phase) (s : Session) :
    (turn target).run s = ⟨.ok (), { s with phase := target },
      if s.phase = target then [] else [.phaseChanged s.phase target]⟩ := by
  by_cases h : s.phase = target
  · subst h
    simp [turn, SessionM.run_bind]
  · simp [turn, SessionM.run_bind, h]

/-- To submit is to dispatch, with the page set back if so wanted. -/
theorem run_submit (h : s.phase = .enabled) (fromFirstPage : Bool) :
    (submit fromFirstPage).run s =
      dispatch (if fromFirstPage then { s with page := 0 } else s) := by
  rw [submit_of_enabled h]
  cases fromFirstPage <;> rfl

/-- A new editor is put in and what came of it is logged. -/
@[simp] theorem run_replaceEditor (logged : Logged (Editor .sql)) (s : Session) :
    (replaceEditor logged).run s = ⟨.ok (), { s with editor := logged.value }, logged.events⟩ := by
  simp [replaceEditor, SessionM.run_bind]

/-- A number that may not be set refuses the operation that wants to set it. -/
theorem step_setNumber {number : Type} {o : Operation} {check : Except Error number}
    {set : number → Session → Session} (hphase : ∀ a, (set a s).phase = s.phase)
    (hdraft : o.draft? s = some (check.map (set · s)))
    (hrun : (perform o).run s = (do
      let a ← SessionM.ofExcept check
      requireEnabled
      SessionM.update (set a)
      submit false : SessionM Unit).run s) :
    Step s o ((perform o).run s) := by
  rw [hrun]
  cases check with
  | error e => exact .refuse hdraft
  | ok a =>
    cases h : s.phase with
    | disabled =>
      rw [SessionM.run_bind, SessionM.run_ofExcept_ok]
      simp only [SessionM.run_bind, requireEnabled_of_disabled h, List.nil_append]
      exact .bar hdraft h
    | enabled =>
      have hset : (set a s).phase = .enabled := by rw [hphase, h]
      simp only [SessionM.run_bind, SessionM.run_ofExcept_ok, requireEnabled_of_enabled h,
        SessionM.run_update, run_submit hset, List.nil_append]
      exact .submit hdraft h

/-- A chord that is not bound leaves nothing to submit. -/
theorem run_press_of_unbound {chord : Chord} (h : s.editor.buffer.actionOf? chord = none) :
    (press chord).run s = ⟨.ok (), { s with editor := (s.editor.press chord).2.value },
      (s.editor.press chord).2.events⟩ := by
  simp only [press, SessionM.run_bind, SessionM.run_current, run_replaceEditor,
    Editor.fst_press_of_unbound h, SessionM.run_pure, List.nil_append, List.append_nil]

/-- A chord that is bound submits from the first page. -/
theorem run_press_of_bound {chord : Chord} {action : Action}
    (h : s.editor.buffer.actionOf? chord = some action) :
    (press chord).run s = (submit true).run s := by
  cases action
  rw [press, SessionM.run_bind, SessionM.run_current]
  simp only [Editor.press_of_bound h, SessionM.run_bind, run_replaceEditor, List.nil_append]

/-- An operation comes to what the steps say, whatever the session. -/
theorem step_perform (o : Operation) (s : Session) : Step s o ((perform o).run s) := by
  cases o with
  | enable =>
    rw [perform, run_turn]
    exact .enable
  | disable =>
    rw [perform, run_turn]
    exact .disable
  | setLimit n => exact step_setNumber (fun _ => rfl) rfl rfl
  | setPage n => exact step_setNumber (fun _ => rfl) rfl rfl
  | submit fromFirstPage =>
    cases h : s.phase with
    | disabled =>
      rw [perform, submit_of_disabled h]
      exact .bar rfl h
    | enabled =>
      rw [perform, run_submit h]
      exact .submit rfl h
  | press chord =>
    rw [perform]
    cases hbound : s.editor.buffer.actionOf? chord with
    | none =>
      rw [run_press_of_unbound hbound]
      exact .type hbound
    | some action =>
      have hdraft : (Operation.press chord).draft? s = some (.ok { s with page := 0 }) := by
        rw [Operation.draft?, hbound, Option.map_some]
      rw [run_press_of_bound hbound]
      cases h : s.phase with
      | disabled =>
        rw [submit_of_disabled h]
        exact .bar hdraft h
      | enabled =>
        rw [run_submit h]
        exact .submit hdraft h
  | setSheets book =>
    simp only [perform, setSheets, SessionM.run_bind, SessionM.run_current, SessionM.run_log,
      run_replaceEditor, List.nil_append, List.singleton_append]
    exact .setSheets book
  | showMessage message =>
    simp only [perform, showMessage, SessionM.run_bind, SessionM.run_current, SessionM.run_absorb,
      SessionM.run_update, List.nil_append, List.append_nil]
    exact .showMessage message
  | edit change =>
    simp only [perform, edit, SessionM.run_bind, SessionM.run_current, run_replaceEditor,
      List.nil_append]
    exact .edit change

/-! ## Runs -/

/-- What holds at the beginning of a run and is kept by every operation holds all along. -/
theorem after_induction {p : Session → Prop} (hstart : p s)
    (hstep : ∀ s o, p s → p ((perform o).run s).session) (os : List Operation) :
    p (after os s) := by
  induction os generalizing s with
  | nil => exact hstart
  | cons o os ih => exact ih (hstep s o hstart)

end Session

/-! ## The beginning of a run -/

/-- A part that has to be there and raised no error is there. -/
theorem Setup.eq_some_of_need {α : Type} {part : Part} {a? : Option α} {a : α}
    (h : need part a? = .ok a) : a? = some a := by
  cases a? with
  | none => cases h
  | some _ =>
    cases h
    rfl

/-- A setup with all its parts builds a session that is disabled and on its first page. -/
theorem Setup.build_of_parts {setup : Setup} {buffer : Buffer} {sheet : String}
    {executor : Executor.Status} {sink : MessageLine.Sink} {editor : Logged (Editor .sql)}
    (hbuffer : setup.buffer = some buffer) (hsheet : setup.sheet = some sheet)
    (hexecutor : setup.executor = some executor) (hsink : setup.messages = some sink)
    (hlimit : setup.limit ≠ 0)
    (hopen : Editor.openOn .sql sheet setup.initialNames setup.darkMode buffer = .ok editor) :
    setup.build = .ok {
      value := {
        editor := editor.value
        executor := .new executor
        messages := .new sink
        casing := setup.casing
        limit := setup.limit
        page := 0
        phase := .disabled }
      events := editor.events } := by
  simp only [build, need, hbuffer, hsheet, hexecutor, hsink, hlimit, if_false]
  show (Editor.openOn .sql sheet setup.initialNames setup.darkMode buffer >>= _) = _
  rw [hopen]
  rfl

/-- A session that could be built was built from a setup with all its parts. -/
theorem Setup.exists_of_build {setup : Setup} {opened : Logged Session}
    (h : setup.build = .ok opened) :
    ∃ buffer sheet executor sink editor,
      (setup.buffer = some buffer ∧ setup.sheet = some sheet ∧
        setup.executor = some executor ∧ setup.messages = some sink ∧ setup.limit ≠ 0) ∧
      Editor.openOn .sql sheet setup.initialNames setup.darkMode buffer = .ok editor ∧
      opened = {
        value := {
          editor := editor.value
          executor := .new executor
          messages := .new sink
          casing := setup.casing
          limit := setup.limit
          page := 0
          phase := .disabled }
        events := editor.events } := by
  obtain ⟨buffer, hbuffer, h⟩ := exists_of_bind_eq_ok h
  obtain ⟨sheet, hsheet, h⟩ := exists_of_bind_eq_ok h
  obtain ⟨executor, hexecutor, h⟩ := exists_of_bind_eq_ok h
  obtain ⟨sink, hsink, h⟩ := exists_of_bind_eq_ok h
  dsimp only at h
  split at h
  · cases h
  · next hlimit =>
    obtain ⟨editor, hopen, h⟩ := exists_of_bind_eq_ok h
    cases h
    exact ⟨buffer, sheet, executor, sink, editor,
      ⟨eq_some_of_need hbuffer, eq_some_of_need hsheet, eq_some_of_need hexecutor,
        eq_some_of_need hsink, hlimit⟩, hopen, rfl⟩

/-- A setup with all its parts, for a sheet of sales. -/
def Setup.sales : Setup :=
  { Setup.blank with
    buffer := some .empty
    sheet := some "sales"
    executor := some .listening
    messages := some .record }

end QueryPad
