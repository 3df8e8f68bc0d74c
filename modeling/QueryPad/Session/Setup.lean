import QueryPad.Session.Basic

/-!
# Setting up a session

The settings of a session are read from the variables of an environment, in a fixed order, and the
first that cannot be read is the error; that a page has rows is asked last. A setup gathers what a
session is made of. Its parts may be left out, and building reports the first that is missing.
-/

namespace QueryPad

/-! ## Loading settings -/

namespace Settings

/-- The value of a setting by its reader. It is left at its default if the variable is missing, or if
it is empty and an empty text cannot be read. -/
def value {α : Type} (env : Environment) (setting : Setting) (fallback : α)
    (read : String → Except Setting.Fault α) : Except Error α :=
  match env.lookup setting.key with
  | none => .ok fallback
  | some text =>
    match read text with
    | .ok a => .ok a
    | .error fault => if text.isEmpty then .ok fallback else .error (.badSetting setting fault)

/-- The settings of an environment. -/
def ofEnvironment (env : Environment) : Except Error Settings := do
  let caseSensitive ← value env .caseSensitive default.caseSensitive readBool
  let limit ← value env .limit default.limit readRows
  let darkMode ← value env .darkMode default.darkMode readBool
  let sheet := (env.lookup sheetKey).getD default.sheet
  if limit = 0 then .error .zeroLimitSetting
  else .ok ⟨caseSensitive, limit, darkMode, sheet⟩

/-- The settings of an environment, logged once they are known. -/
def load (env : Environment) : Except Error (Logged Settings) := do
  let settings ← ofEnvironment env
  return ⟨settings, [.settingsLoaded settings]⟩

end Settings

/-! ## Building -/

/-- What a session is made of. -/
structure Setup where
  buffer : Option Buffer
  sheet : Option String
  executor : Option Executor.Status
  messages : Option MessageLine.Sink
  /-- The names that are known from the start. -/
  names : Option NameTable
  casing : Casing
  darkMode : Bool
  limit : UInt32

namespace Setup

/-- Nothing given, and the default settings. -/
def blank : Setup where
  buffer := none
  sheet := none
  executor := none
  messages := none
  names := none
  casing := Settings.default.casing
  darkMode := Settings.default.darkMode
  limit := Settings.default.limit

/-- The casing, the mode and the limit of settings. -/
def configure (settings : Settings) (setup : Setup) : Setup :=
  { setup with
    casing := settings.casing
    darkMode := settings.darkMode
    limit := settings.limit }

/-- A part that has to be there. -/
def need {α : Type} (part : Part) : Option α → Except Error α
  | some a => .ok a
  | none => .error (.missing part)

/-- The names of a new session: those given, compared as the session compares names. -/
def initialNames (setup : Setup) : NameTable :=
  match setup.names with
  | some names => names.recase setup.casing
  | none => .empty setup.casing

/-- Builds the session, which is disabled and on its first page. -/
def build (setup : Setup) : Except Error (Logged Session) := do
  let buffer ← need .buffer setup.buffer
  let sheet ← need .sheet setup.sheet
  let executor ← need .executor setup.executor
  let messages ← need .messages setup.messages
  if setup.limit = 0 then
    throw .zeroLimit
  let editor ← Editor.openOn .sql sheet setup.initialNames setup.darkMode buffer
  return {
    value := {
      editor := editor.value
      executor := .new executor
      messages := .new messages
      casing := setup.casing
      limit := setup.limit
      page := 0
      phase := .disabled }
    events := editor.events }

end Setup

end QueryPad
