import QueryPad.Editor.Chord
import QueryPad.Text.Offset
import QueryPad.Token

/-!
# Buffers

A buffer holds a text, a cursor and perhaps a selection, all counted in bytes. It takes key presses:
a chord that is bound triggers its action and leaves the text alone, a plain key edits the text, any
other chord is ignored. It knows nothing of the language of the text and is painted with whatever
tokens it is given. An edit is partial: `press?` is `none` where the cursor or the selection is no
position of the text.
-/

namespace QueryPad

/-- The colours of an editor. -/
inductive Theme
  | dracula
  | xcode
  deriving DecidableEq, Repr

/-- The theme for a dark or a light mode. -/
def Theme.ofMode (dark : Bool) : Theme :=
  if dark then .dracula else .xcode

/-- The name of the theme. -/
def Theme.name : Theme → String
  | .dracula => "dracula"
  | .xcode => "xcode"

/-- The bytes from `start` up to `stop`. -/
structure Span where
  start : Nat
  stop : Nat
  deriving DecidableEq, Repr

/-- A text that is being edited. -/
structure Buffer where
  text : String
  /-- The byte offset of the cursor. -/
  cursor : Nat
  selection : Option Span
  theme : Option Theme
  /-- The bound chords, the latest last. -/
  bindings : List Binding
  /-- The tokens of the latest paint. -/
  painted : List Token
  /-- How often the buffer was painted. -/
  paints : Nat
  deriving DecidableEq, Repr

/-- What a key press came to. -/
inductive Reaction
  /-- The chord is bound to this action. -/
  | triggered (action : Action)
  /-- The text was edited. -/
  | edited
  | ignored
  deriving DecidableEq, Repr

namespace Buffer

/-- No text, no theme and nothing bound. -/
def empty : Buffer where
  text := ""
  cursor := 0
  selection := none
  theme := none
  bindings := []
  painted := []
  paints := 0

/-! ## Text, cursor and selection -/

/-- Replaces the whole text; the cursor goes to its end. -/
def setText (text : String) (b : Buffer) : Buffer :=
  { b with text := text, cursor := text.utf8ByteSize, selection := none }

/-- Puts the cursor at the last position at or before an offset. -/
def moveCursor (offset : Nat) (b : Buffer) : Buffer :=
  let offset := min offset b.text.utf8ByteSize
  { b with cursor := (Text.lastBoundary? b.text offset).getD 0, selection := none }

/-- Selects a span, cut down to the text, and puts the cursor behind it; a span that begins or ends
inside a character selects nothing. -/
def select (start stop : Nat) (b : Buffer) : Buffer :=
  let stop := min stop b.text.utf8ByteSize
  let start := min start stop
  if Text.IsBoundary b.text start ∧ Text.IsBoundary b.text stop then
    { b with cursor := stop, selection := some ⟨start, stop⟩ }
  else b

/-! ## Theme, bindings and colours -/

/-- Changes the theme. -/
def setTheme (theme : Theme) (b : Buffer) : Buffer :=
  { b with theme := some theme }

/-- Binds a chord to an action in place of what it was bound to. -/
def bind (binding : Binding) (b : Buffer) : Buffer :=
  { b with bindings := b.bindings.filter (·.chord ≠ binding.chord) ++ [binding] }

/-- The action that a chord is bound to. -/
def actionOf? (chord : Chord) (b : Buffer) : Option Action :=
  (b.bindings.find? (·.chord = chord)).map (·.action)

/-- Colours the text. -/
def paint (tokens : List Token) (b : Buffer) : Buffer :=
  { b with painted := tokens, paints := b.paints + 1 }

/-! ## Edits -/

/-- Takes out what is selected; the cursor goes where it began. -/
def eraseSelection? (b : Buffer) : Option Buffer :=
  match b.selection with
  | none => some b
  | some span => do
    let text ← Text.splice? b.text span.start span.stop []
    return { b with text := text, cursor := span.start, selection := none }

/-- Puts characters in at the cursor, in place of what is selected; the cursor goes behind them. -/
def insert? (new : List Char) (b : Buffer) : Option Buffer := do
  let b ← b.eraseSelection?
  let text ← Text.splice? b.text b.cursor b.cursor new
  return { b with text := text, cursor := b.cursor + Text.width new }

/-- Takes out what is selected, otherwise the character before the cursor; nothing happens at the
beginning of the text. -/
def backspace? (b : Buffer) : Option (Reaction × Buffer) :=
  match b.selection with
  | some _ => b.eraseSelection?.map fun b => (.edited, b)
  | none => do
    match (← Text.before? b.text b.cursor).getLast? with
    | none => return (.ignored, b)
    | some c =>
      let start := b.cursor - c.utf8Size
      let text ← Text.splice? b.text start b.cursor []
      return (.edited, { b with text := text, cursor := start })

/-- What a plain key does to the text. -/
def edit? (key : Key) (b : Buffer) : Option (Reaction × Buffer) :=
  match key with
  | .enter => (b.insert? ['\n']).map fun b => (.edited, b)
  | .tab => (b.insert? [' ', ' ']).map fun b => (.edited, b)
  | .char c => (b.insert? [c]).map fun b => (.edited, b)
  | .backspace => b.backspace?

/-- What a chord comes to; `none` if the cursor or the selection is no position of the text. -/
def press? (chord : Chord) (b : Buffer) : Option (Reaction × Buffer) :=
  match b.actionOf? chord with
  | some action => some (.triggered action, b)
  | none => if chord.modifiers.permitTyping then b.edit? chord.key else some (.ignored, b)

/-- What a chord comes to. -/
def press (chord : Chord) (b : Buffer) : Reaction × Buffer :=
  (b.press? chord).getD (.ignored, b)

end Buffer

end QueryPad
