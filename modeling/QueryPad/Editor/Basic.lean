import QueryPad.Grammar.Basic
import QueryPad.Log.Event
import QueryPad.Text.Property
import QueryPad.Text.Words

/-!
# Editors

An editor is a buffer opened on a sheet, painted by a grammar and the names in sight. It paints
whenever its text or the names change, and logs every lexeme that it classifies. Main statement:
`painted_repaint`, after a paint the buffer shows the tokens of its text.
-/

namespace QueryPad

/-- An editor over a grammar. -/
structure Editor (grammar : Grammar) where
  /-- The name of the sheet that is queried. -/
  sheet : String
  /-- The names in sight. -/
  names : NameTable
  buffer : Buffer

/-- A change that a user or an owner makes to an editor. -/
inductive Edit
  | setText (text : String)
  | press (chord : Chord)
  | moveCursor (offset : Nat)
  | select (start stop : Nat)
  | bind (binding : Binding)
  deriving DecidableEq, Repr

/-- The query that an editor opens with. -/
def openingQuery (sheet : String) : String :=
  "select * from " ++ sheet

/-- A character of a word to be completed. -/
def isTyped (c : Char) : Bool :=
  Text.isAlphanumeric c || c = '_'

/-- The letters, digits and underscores just before a byte offset; where the offset is no position
of the text, those at its end. -/
def typedBefore (text : String) (cursor : Nat) : String :=
  let head := (Text.before? text cursor).getD text.toList
  String.ofList (head.reverse.takeWhile isTyped).reverse

/-- The log of classified tokens. -/
def classifiedEvents (tokens : List Token) : List Event :=
  tokens.map fun t => .classified t.text t.kind

namespace Editor

variable {grammar : Grammar}

/-! ## Views -/

/-- The text of the buffer. -/
def text (e : Editor grammar) : String :=
  e.buffer.text

/-- The tokens of the text as it stands. -/
def tokens (e : Editor grammar) : List Token :=
  grammar.tokensIn e.names e.text

/-- The tokens of the text as it stands, with the log of classifying them. -/
def listTokens (e : Editor grammar) : Logged (List Token) :=
  ⟨e.tokens, classifiedEvents e.tokens⟩

/-- The suggestions for a cursor at a byte offset, none of them left out. -/
def suggestionsAt (e : Editor grammar) (cursor : Nat) : List Suggestion :=
  grammar.suggestIn e.names (typedBefore e.text cursor) cursor

/-- The suggestions for the word at the cursor, none of them left out. -/
def suggestions (e : Editor grammar) : List Suggestion :=
  e.suggestionsAt e.buffer.cursor

/-! ## Changes -/

/-- Paints the text as it stands. -/
def repaint (e : Editor grammar) : Logged (Editor grammar) :=
  ⟨{ e with buffer := e.buffer.paint e.tokens }, classifiedEvents e.tokens⟩

/-- Replaces the names in sight. -/
def setNames (names : NameTable) (e : Editor grammar) : Logged (Editor grammar) :=
  repaint { e with names := names }

/-- Replaces the whole text. -/
def setText (text : String) (e : Editor grammar) : Logged (Editor grammar) :=
  repaint { e with buffer := e.buffer.setText text }

/-- Feeds a chord to the buffer: the action that it triggers, and the editor afterwards. -/
def press (chord : Chord) (e : Editor grammar) : Option Action × Logged (Editor grammar) :=
  match e.buffer.press chord with
  | (.triggered action, buffer) => (some action, ⟨{ e with buffer := buffer }, []⟩)
  | (.edited, buffer) => (none, repaint { e with buffer := buffer })
  | (.ignored, buffer) => (none, ⟨{ e with buffer := buffer }, []⟩)

/-- Makes a change; the actions that chords trigger are left to the caller of `press`. -/
def apply (edit : Edit) (e : Editor grammar) : Logged (Editor grammar) :=
  match edit with
  | .setText text => e.setText text
  | .press chord => (e.press chord).2
  | .moveCursor offset => ⟨{ e with buffer := e.buffer.moveCursor offset }, []⟩
  | .select start stop => ⟨{ e with buffer := e.buffer.select start stop }, []⟩
  | .bind binding => ⟨{ e with buffer := e.buffer.bind binding }, []⟩

/-- Presses the characters of a text one by one as plain keys: the actions that they trigger, and
the editor afterwards. -/
def type (cs : List Char) (e : Editor grammar) : List Action × Logged (Editor grammar) :=
  match cs with
  | [] => ([], ⟨e, []⟩)
  | c :: cs =>
    let (action?, first) := e.press (.ofKey (.char c))
    let (actions, rest) := first.value.type cs
    (action?.toList ++ actions, ⟨rest.value, first.events ++ rest.events⟩)

/-! ## Opening -/

/-- Opens an editor on a sheet: the buffer gets its theme, the default query and the chord that
submits it, and is painted. -/
def openOn (grammar : Grammar) (sheet : String) (names : NameTable) (dark : Bool)
    (buffer : Buffer) : Except Error (Logged (Editor grammar)) :=
  if (Text.trim sheet.toList).isEmpty then .error .blankSheet
  else
    let theme := Theme.ofMode dark
    let chord := Chord.submit .current
    let buffer := ((buffer.setTheme theme).setText (openingQuery sheet)).bind ⟨.submitQuery, chord⟩
    let editor : Editor grammar := { sheet := sheet, names := names, buffer := buffer }
    let painted := editor.repaint
    .ok ⟨painted.value, painted.events ++ [.opened sheet theme chord]⟩

/-- After a paint the buffer shows the tokens of its text. -/
theorem painted_repaint (e : Editor grammar) :
    e.repaint.value.buffer.painted = grammar.tokensIn e.names e.text := rfl

end Editor

end QueryPad
