import QueryPad.Editor.Buffer
import QueryPad.Error
import QueryPad.Suggestion

/-!
# Events

What there is to log, by what happened. An event has a level, the part of the program that it comes
from, a message and fields; all of them follow from the event, and so does its line in a log. Some
events tell of a session: of the requests that it hands to whoever executes queries, which it does
only while it is enabled, and of being enabled and disabled.
-/

namespace QueryPad

/-! ## What events tell of -/

/-- A query to be executed. -/
structure Request where
  text : String
  /-- The rows of a page. -/
  limit : UInt32
  /-- The page, counted from zero. -/
  page : UInt32
  deriving DecidableEq, Repr

/-- Whether queries may be submitted. -/
inductive Phase
  | disabled
  | enabled
  deriving DecidableEq, Repr

/-- The name of the phase. -/
def Phase.name : Phase → String
  | .disabled => "disabled"
  | .enabled => "enabled"

/-! ## Levels -/

/-- How severe an event is. -/
inductive Level
  | error
  | warn
  | info
  | debug
  | trace
  deriving DecidableEq, Repr

namespace Level

/-- The place of the level, the most severe first. -/
def rank : Level → Nat
  | .error => 1
  | .warn => 2
  | .info => 3
  | .debug => 4
  | .trace => 5

/-- The name of the level. -/
def name : Level → String
  | .error => "ERROR"
  | .warn => "WARN"
  | .info => "INFO"
  | .debug => "DEBUG"
  | .trace => "TRACE"

/-- The level admits events that are as severe as itself or more so. -/
def admits (greatest level : Level) : Bool :=
  level.rank ≤ greatest.rank

end Level

/-! ## Events -/

/-- Something that happened. -/
inductive Event
  /-- A lexeme was classified. -/
  | classified (text : String) (kind : Token.Kind)
  /-- An editor was opened on a sheet. -/
  | opened (sheet : String) (theme : Theme) (chord : Chord)
  /-- The open sheets changed: how many there are and how many names they make. -/
  | sheetsChanged (sheets names : Nat)
  /-- A session was enabled or disabled. -/
  | phaseChanged (source target : Phase)
  /-- A session is about to hand over a request. -/
  | submitting (limit page : UInt32)
  /-- The settings were read. -/
  | settingsLoaded (settings : Settings)
  /-- There was nobody to execute a query. -/
  | requestDropped (text : String)
  /-- A message was shown. -/
  | messageShown (text : String)
  /-- Suggestions were listed. -/
  | suggestionsListed (suggestions : List Suggestion)
  /-- Tokens were listed. -/
  | tokensListed (tokens : List Token)
  /-- A request was received. -/
  | requestReceived (request : Request)
  /-- A line was refused. -/
  | lineRefused (error : Error)
  deriving DecidableEq, Repr

/-- The value of a field. -/
inductive Event.Value
  | number (n : Nat)
  | text (s : String)
  /-- A text that a log line cites in quotes. -/
  | cited (s : String)
  deriving DecidableEq, Repr

namespace Event

/-- How severe the event is. -/
def level : Event → Level
  | .classified _ _ => .trace
  | .opened _ _ _ | .sheetsChanged _ _ | .phaseChanged _ _ | .submitting _ _
  | .settingsLoaded _ => .debug
  | .requestDropped _ | .lineRefused _ => .warn
  | .messageShown _ | .suggestionsListed _ | .tokensListed _ | .requestReceived _ => .info

/-- The part of the program that the event comes from. -/
def target : Event → String
  | .classified _ _ => "sheetquery::sql::tokenizer"
  | .opened _ _ _ => "sheetquery::editor::session"
  | .sheetsChanged _ _ | .phaseChanged _ _ | .submitting _ _ => "sheetquery::query::controller"
  | .settingsLoaded _ => "sheetquery::config"
  | .requestDropped _ | .messageShown _ => "sheetquery::query::collaborator"
  | .suggestionsListed _ | .tokensListed _ => "sheetquery::shell"
  | .requestReceived _ | .lineRefused _ => "sheetquery"

/-- A token as it is listed. -/
def describeToken (t : Token) : String :=
  t.text ++ ":" ++ t.kind.name

/-- The message of the event. -/
def message : Event → String
  | .classified text kind => Text.quoted text ++ " -> " ++ kind.name
  | .opened _ _ _ => "editor opened"
  | .sheetsChanged _ _ => "sheets changed"
  | .phaseChanged _ _ => "query session"
  | .submitting _ _ => "submitting query"
  | .settingsLoaded _ => "configuration loaded"
  | .requestDropped _ => "query executor is gone, dropping query"
  | .messageShown text => text
  | .suggestionsListed suggestions => ", ".intercalate (suggestions.map Suggestion.describe)
  | .tokensListed tokens => " ".intercalate (tokens.map describeToken)
  | .requestReceived _ => "query dispatched"
  | .lineRefused error => error.message

/-- The fields of the event, in the order in which they are written. -/
def fields : Event → List (String × Value)
  | .opened sheet theme chord =>
    [("sheet", .cited sheet), ("theme", .text theme.name), ("chord", .text chord.describe)]
  | .sheetsChanged sheets names => [("sheets", .number sheets), ("identifiers", .number names)]
  | .phaseChanged source target => [("from", .text source.name), ("to", .text target.name)]
  | .submitting limit page => [("limit", .number limit.toNat), ("page", .number page.toNat)]
  | .settingsLoaded settings => [("config", .text settings.describe)]
  | .requestDropped text => [("text", .text text)]
  | .requestReceived request =>
    [("text", .text request.text), ("limit", .number request.limit.toNat),
      ("page", .number request.page.toNat)]
  | .classified _ _ | .messageShown _ | .suggestionsListed _ | .tokensListed _
  | .lineRefused _ => []

/-- The names of the fields of the event, its message being one of them. -/
def fieldNames (e : Event) : List String :=
  "message" :: e.fields.map (·.1)

end Event

/-- A value together with what was logged on the way to it. -/
structure Logged (α : Type) where
  value : α
  events : List Event

/-! ## Lines -/

namespace Event

/-- Two lower-case hexadecimal digits. -/
def twoDigits (n : Nat) : List Char :=
  [Nat.digitChar (n / 16), Nat.digitChar (n % 16)]

/-- A character of a message as it stands in a line: the controls that start a sequence, ring, go
back or feed, and all those from U+007F to U+009F, are escaped. -/
def messageChar (c : Char) : List Char :=
  if c = '\x1b' || c = '\x07' || c = '\x08' || c = '\x0c' || c = '\x7f' then
    ['\\', 'x'] ++ twoDigits c.toNat
  else if '\u0080' ≤ c && c ≤ '\u009f' then Text.codePointEscape c
  else [c]

/-- The message without controls. -/
def plainMessage (e : Event) : String :=
  String.ofList (e.message.toList.flatMap messageChar)

/-- The value of a field as it stands in a line. -/
def Value.write : Value → String
  | .number n => toString n
  | .text s => s
  | .cited s => Text.quoted s

/-- A field as it stands in a line. -/
def writeField (field : String × Value) : String :=
  " " ++ field.1 ++ "=" ++ field.2.write

/-- The event as a line. -/
def line (e : Event) : String :=
  e.level.name ++ " " ++ e.target ++ ": " ++ e.plainMessage ++ String.join (e.fields.map writeField)

end Event

end QueryPad
