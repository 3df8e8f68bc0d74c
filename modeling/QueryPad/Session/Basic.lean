import QueryPad.Editor.Basic
import QueryPad.Grammar.Sql
import QueryPad.Session.Collaborator
import QueryPad.Workbook

/-!
# Query sessions

A session drives one editor: what is submitted, how many rows a page has, which page is wanted and
whether anything may be submitted at all. Its operations run in `SessionM`, where an operation that
fails keeps whatever it has changed before. Main statements: the equations `submit_of_enabled` and
`submit_of_disabled`, by which every other operation that submits is known.
-/

namespace QueryPad

/-- A query session. -/
structure Session where
  editor : Editor .sql
  executor : Executor
  messages : MessageLine
  /-- How the names of sheets and columns are compared. -/
  casing : Casing
  limit : UInt32
  page : UInt32
  phase : Phase

/-! ## Running operations -/

/-- What an operation came to. -/
structure Session.Outcome (α : Type) where
  result : Except Error α
  /-- The session afterwards, also if the operation failed. -/
  session : Session
  /-- What was logged. -/
  events : List Event

/-- An operation of a session. -/
def SessionM (α : Type) : Type :=
  Session → Session.Outcome α

namespace SessionM

/-- Runs an operation. -/
def run {α : Type} (m : SessionM α) (s : Session) : Session.Outcome α :=
  m s

/-- Nothing happens. -/
def give {α : Type} (a : α) : SessionM α :=
  fun s => ⟨.ok a, s, []⟩

/-- One operation and then another; the second is left out if the first fails. -/
def andThen {α β : Type} (m : SessionM α) (next : α → SessionM β) : SessionM β :=
  fun s =>
    let first := m s
    match first.result with
    | .error e => ⟨.error e, first.session, first.events⟩
    | .ok a =>
      let second := next a first.session
      { second with events := first.events ++ second.events }

instance : Monad SessionM where
  pure := give
  bind := andThen

/-- The session as it stands. -/
def current : SessionM Session :=
  fun s => ⟨.ok s, s, []⟩

/-- Changes the session. -/
def update (f : Session → Session) : SessionM Unit :=
  fun s => ⟨.ok (), f s, []⟩

/-- Logs an event. -/
def log (event : Event) : SessionM Unit :=
  fun s => ⟨.ok (), s, [event]⟩

/-- Fails. -/
def fail {α : Type} (e : Error) : SessionM α :=
  fun s => ⟨.error e, s, []⟩

/-- The result of a check. -/
def ofExcept {α : Type} : Except Error α → SessionM α
  | .ok a => give a
  | .error e => fail e

/-- Logs what was logged on the way to a value. -/
def absorb {α : Type} (logged : Logged α) : SessionM α :=
  fun s => ⟨.ok logged.value, s, logged.events⟩

@[simp] theorem run_pure {α : Type} (a : α) (s : Session) :
    (pure a : SessionM α).run s = ⟨.ok a, s, []⟩ := rfl

theorem run_bind {α β : Type} (m : SessionM α) (next : α → SessionM β) (s : Session) :
    (m >>= next).run s =
      match (m.run s).result with
      | .error e => ⟨.error e, (m.run s).session, (m.run s).events⟩
      | .ok a =>
        { (next a).run (m.run s).session with
          events := (m.run s).events ++ ((next a).run (m.run s).session).events } := rfl

@[simp] theorem run_current (s : Session) : current.run s = ⟨.ok s, s, []⟩ := rfl

@[simp] theorem run_update (f : Session → Session) (s : Session) :
    (update f).run s = ⟨.ok (), f s, []⟩ := rfl

@[simp] theorem run_log (event : Event) (s : Session) :
    (log event).run s = ⟨.ok (), s, [event]⟩ := rfl

@[simp] theorem run_fail {α : Type} (e : Error) (s : Session) :
    (fail e : SessionM α).run s = ⟨.error e, s, []⟩ := rfl

@[simp] theorem run_ofExcept_ok {α : Type} (a : α) (s : Session) :
    (ofExcept (.ok a)).run s = ⟨.ok a, s, []⟩ := rfl

@[simp] theorem run_ofExcept_error {α : Type} (e : Error) (s : Session) :
    (ofExcept (.error e) : SessionM α).run s = ⟨.error e, s, []⟩ := rfl

@[simp] theorem run_absorb {α : Type} (logged : Logged α) (s : Session) :
    (absorb logged).run s = ⟨.ok logged.value, s, logged.events⟩ := rfl

end SessionM

namespace Session

/-! ## Numbers -/

/-- A number that is not negative in 32 bits, if it fits. -/
def fit (quantity : Quantity) (n : Int) : Except Error UInt32 :=
  if n ≤ Text.Numeral.unsigned32.greatest then .ok (.ofNat n.toNat)
  else .error (.tooLarge quantity n)

/-- A limit is at least one. -/
def checkLimit (n : Int) : Except Error UInt32 :=
  if n ≤ 0 then .error (.limitNotPositive n) else fit .limit n

/-- A page is at least zero. -/
def checkPage (n : Int) : Except Error UInt32 :=
  if n < 0 then .error (.pageNegative n) else fit .page n

/-! ## Operations -/

/-- Replaces the editor, keeping what was logged on the way. -/
def replaceEditor (logged : Logged (Editor .sql)) : SessionM Unit := do
  let editor ← SessionM.absorb logged
  SessionM.update ({ · with editor := editor })

/-- Enables or disables the session; only a change is logged. -/
def turn (target : Phase) : SessionM Unit := do
  let s ← SessionM.current
  if s.phase ≠ target then
    SessionM.log (.phaseChanged s.phase target)
    SessionM.update ({ · with phase := target })

/-- Fails while the session is disabled. -/
def requireEnabled : SessionM Unit := do
  let s ← SessionM.current
  match s.phase with
  | .enabled => pure ()
  | .disabled => SessionM.fail .disabled

/-- The request that the session would hand over as it stands. -/
def request (s : Session) : Request :=
  ⟨s.editor.text, s.limit, s.page⟩

/-- Hands a request to the executor. -/
def hand (request : Request) : SessionM Unit := do
  let s ← SessionM.current
  let executor ← SessionM.absorb (s.executor.take request)
  SessionM.update ({ · with executor := executor })

/-- Submits the query as it stands, from the first page if so wanted. -/
def submit (fromFirstPage : Bool) : SessionM Unit := do
  requireEnabled
  if fromFirstPage then
    SessionM.update ({ · with page := 0 })
  SessionM.update fun s => { s with messages := s.messages.clear }
  let s ← SessionM.current
  SessionM.log (.submitting s.limit s.page)
  hand s.request

/-- Changes how many rows a page has and submits from the first page. -/
def setLimit (n : Int) : SessionM Unit := do
  let limit ← SessionM.ofExcept (checkLimit n)
  requireEnabled
  SessionM.update ({ · with limit := limit, page := 0 })
  submit false

/-- Goes to a page and submits. -/
def setPage (n : Int) : SessionM Unit := do
  let page ← SessionM.ofExcept (checkPage n)
  requireEnabled
  SessionM.update ({ · with page := page })
  submit false

/-- Takes note of the open sheets. -/
def setSheets (book : Workbook) : SessionM Unit := do
  let s ← SessionM.current
  let names := book.names s.casing
  SessionM.log (.sheetsChanged book.size names.size)
  replaceEditor (s.editor.setNames names)

/-- Shows a message. -/
def showMessage (message : String) : SessionM Unit := do
  let s ← SessionM.current
  let messages ← SessionM.absorb (s.messages.display message)
  SessionM.update ({ · with messages := messages })

/-- Feeds a chord to the editor and carries out the action that it triggers. -/
def press (chord : Chord) : SessionM Unit := do
  let s ← SessionM.current
  let (action?, editor) := s.editor.press chord
  replaceEditor editor
  match action? with
  | some .submitQuery => submit true
  | none => pure ()

/-- Makes a change to the editor behind the back of the session. -/
def edit (edit : Edit) : SessionM Unit := do
  let s ← SessionM.current
  replaceEditor (s.editor.apply edit)

/-- What can be asked of a session. -/
inductive Operation
  | enable
  | disable
  | setLimit (n : Int)
  | setPage (n : Int)
  | submit (fromFirstPage : Bool)
  | press (chord : Chord)
  | setSheets (book : Workbook)
  | showMessage (message : String)
  | edit (edit : Edit)
  deriving DecidableEq, Repr

/-- Carries out an operation. -/
def perform : Operation → SessionM Unit
  | .enable => turn .enabled
  | .disable => turn .disabled
  | .setLimit n => setLimit n
  | .setPage n => setPage n
  | .submit fromFirstPage => submit fromFirstPage
  | .press chord => press chord
  | .setSheets book => setSheets book
  | .showMessage message => showMessage message
  | .edit change => edit change

/-- Carries out operations one after the other, whether or not they fail: what each came to. -/
def performAll : List Operation → Session → List (Outcome Unit)
  | [], _ => []
  | o :: os, s =>
    let outcome := (perform o).run s
    outcome :: performAll os outcome.session

/-- The session after operations. -/
def after (os : List Operation) (s : Session) : Session :=
  os.foldl (fun s o => ((perform o).run s).session) s

/-! ## What submitting comes to -/

/-- The session once it has submitted. -/
def submitted (fromFirstPage : Bool) (s : Session) : Session :=
  let page := if fromFirstPage then 0 else s.page
  { s with
    page := page
    messages := s.messages.clear
    executor := (s.executor.take ⟨s.editor.text, s.limit, page⟩).value }

theorem requireEnabled_of_enabled {s : Session} (h : s.phase = .enabled) :
    requireEnabled.run s = ⟨.ok (), s, []⟩ := by
  simp [requireEnabled, SessionM.run_bind, h]

theorem requireEnabled_of_disabled {s : Session} (h : s.phase = .disabled) :
    requireEnabled.run s = ⟨.error .disabled, s, []⟩ := by
  simp [requireEnabled, SessionM.run_bind, h]

theorem submit_of_disabled {s : Session} (h : s.phase = .disabled) (fromFirstPage : Bool) :
    (submit fromFirstPage).run s = ⟨.error .disabled, s, []⟩ := by
  simp [submit, SessionM.run_bind, requireEnabled_of_disabled h]

theorem submit_of_enabled {s : Session} (h : s.phase = .enabled) (fromFirstPage : Bool) :
    (submit fromFirstPage).run s =
      ⟨.ok (), s.submitted fromFirstPage,
        .submitting s.limit (s.submitted fromFirstPage).page ::
          (s.executor.take (s.submitted fromFirstPage).request).events⟩ := by
  cases fromFirstPage <;>
    simp [submit, hand, SessionM.run_bind, requireEnabled_of_enabled h, submitted, request]

end Session

end QueryPad
