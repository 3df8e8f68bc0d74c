import QueryPad.Directive.Apply
import QueryPad.Log.Event
import QueryPad.Log.Filter
import QueryPad.Session.Setup
import QueryPad.Text.Utf8

/-!
# The command line program

The program opens a session on the sheet of its settings and carries out its input line by line.
What happens is logged, an error as well; the requests of a line are received, and logged, before
the next line is read. The program ends at a line that quits, at the end of the input, or at a line
that is not UTF-8.
-/

namespace QueryPad

/-- What the program has come to. -/
inductive Program.State
  /-- It waits for a line. -/
  | waiting (session : Session)
  /-- It is over. -/
  | finished (exitCode : Nat) (complaint : String)

/-- What a step of the program came to. -/
structure Program.Step where
  state : Program.State
  events : List Event

/-- What a run of the program came to. -/
structure Program.Report where
  exitCode : Nat
  /-- The lines of the log. -/
  output : List String
  /-- What is said on the error stream. -/
  complaint : String
  deriving DecidableEq, Repr

namespace Program

/-- The variable that holds the log filter. -/
def filterKey : String := "RUST_LOG"

/-! ## Starting -/

/-- The session that the program opens for its settings. -/
def openSession (settings : Settings) : Except Error (Logged Session) := do
  let setup : Setup := {
    Setup.blank.configure settings with
    buffer := some .empty
    sheet := some settings.sheet
    executor := some .listening
    messages := some .log }
  let built ← setup.build
  let greeting : SessionM Unit := do
    Session.setSheets (.ofList [⟨settings.sheet, []⟩])
    Session.turn .enabled
  let outcome := greeting.run built.value
  return ⟨outcome.session, built.events ++ outcome.events⟩

/-- What is said about an error that keeps the program from starting. -/
def startComplaint (e : Error) : String :=
  s!"Error: Config({Text.quoted e.detail})\n"

/-- Starts the program in an environment. -/
def start (env : Environment) : Step :=
  match Settings.load env with
  | .error e => ⟨.finished 1 (startComplaint e), []⟩
  | .ok settings =>
    match openSession settings.value with
    | .error e => ⟨.finished 1 (startComplaint e), settings.events⟩
    | .ok session => ⟨.waiting session.value, settings.events ++ session.events⟩

/-! ## Lines -/

/-- What a line of text came to. -/
structure Turn where
  next : Continuation
  session : Session
  events : List Event

/-- The requests received between two states of a session. -/
def requestsSince (earlier later : Session) : List Request :=
  later.executor.received.drop earlier.executor.received.length

/-- Carries out a line; an error is logged and does not end the program. -/
def takeTurn (line : String) (s : Session) : Turn :=
  let outcome := (Directive.obey line).run s
  let received := (requestsSince s outcome.session).map Event.requestReceived
  match outcome.result with
  | .ok .stop => ⟨.stop, outcome.session, outcome.events⟩
  | .ok .goOn => ⟨.goOn, outcome.session, outcome.events ++ received⟩
  | .error e => ⟨.goOn, outcome.session, outcome.events ++ [.lineRefused e] ++ received⟩

/-- The session after lines of text, up to one that quits. -/
def afterLines : List String → Session → Session
  | [], s => s
  | line :: lines, s =>
    let turn := takeTurn line s
    match turn.next with
    | .stop => turn.session
    | .goOn => afterLines lines turn.session

/-- The requests received while lines of text are carried out. -/
def requests (settings : Settings) (lines : List String) : Except Error (List Request) := do
  let opened ← openSession settings
  return (afterLines lines opened.value).executor.received

/-! ## Bytes -/

/-- What is said about bytes that are not UTF-8. -/
def decodeComplaint (bytes : List UInt8) (fault : Text.Utf8.Fault) : String :=
  let length := match fault.length? with
    | some n => s!"Some({n})"
    | none => "None"
  let values := ", ".intercalate (bytes.map fun b => toString b.toNat)
  s!"Error: Io(Custom \x7b kind: InvalidData, error: FromUtf8Error \x7b bytes: [{values}], " ++
    s!"error: Utf8Error \x7b valid_up_to: {fault.valid}, error_len: {length} \x7d \x7d \x7d)\n"

/-- Feeds the bytes of a line, without its line break, to the program. -/
def feed (bytes : List UInt8) (state : State) : Step :=
  match state with
  | .finished _ _ => ⟨state, []⟩
  | .waiting session =>
    match Text.Utf8.decode bytes with
    | .error fault => ⟨.finished 1 (decodeComplaint bytes fault), []⟩
    | .ok chars =>
      let turn := takeTurn (String.ofList chars) session
      match turn.next with
      | .goOn => ⟨.waiting turn.session, turn.events⟩
      | .stop => ⟨.finished 0 "", turn.events⟩

/-- A line without the carriage return at its end. -/
def withoutReturn (line : List UInt8) : List UInt8 :=
  if line.getLast? = some 13 then line.dropLast else line

/-- The lines of the input, given the line read so far backwards. A line ends with a line feed, or a
carriage return and a line feed; the last may end with the input. -/
def linesFrom (pending : List UInt8) : List UInt8 → List (List UInt8)
  | [] => if pending.isEmpty then [] else [pending.reverse]
  | b :: bytes =>
    if b = 10 then withoutReturn pending.reverse :: linesFrom [] bytes
    else linesFrom (b :: pending) bytes

/-- The lines of the input. -/
def lines (input : List UInt8) : List (List UInt8) :=
  linesFrom [] input

/-! ## Whole runs -/

/-- Feeds lines to the program until it is over. -/
def feedAll (lines : List (List UInt8)) (state : State) : Step :=
  match lines with
  | [] => ⟨state, []⟩
  | line :: lines =>
    let step := feed line state
    let rest := feedAll lines step.state
    ⟨rest.state, step.events ++ rest.events⟩

/-- The filter of an environment; without one, errors alone are logged. -/
def filterOf (env : Environment) : Filter :=
  .parse ((env.lookup filterKey).getD "")

/-- What is said about a part of the log filter that is no rule. -/
def partComplaint (refused : String × Filter.Fault) : String :=
  s!"ignoring \x60{refused.1}\x60: {refused.2.message}\n"

/-- What is said about the parts of the log filter that are no rules. -/
def filterComplaint (env : Environment) : String :=
  String.join ((Filter.refused ((env.lookup filterKey).getD "")).map partComplaint)

/-- The log lines of the events that a filter admits; a text with line feeds in it takes several. -/
def logLines (filter : Filter) (events : List Event) : List String :=
  (events.filter filter.admits).flatMap fun event =>
    (Text.fields (· = '\n') event.line.toList).map String.ofList

/-- How the program ends: its exit code and its last complaint. The end of the input is no error. -/
def ending : State → Nat × String
  | .waiting _ => (0, "")
  | .finished exitCode complaint => (exitCode, complaint)

/-- Runs the program on a whole input. -/
def run (env : Environment) (input : List UInt8) : Report :=
  let started := start env
  let fed := feedAll (lines input) started.state
  let (exitCode, complaint) := ending fed.state
  { exitCode := exitCode
    output := logLines (filterOf env) (started.events ++ fed.events)
    complaint := filterComplaint env ++ complaint }

end Program

end QueryPad
