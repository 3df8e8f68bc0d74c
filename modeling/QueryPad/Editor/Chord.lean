/-!
# Key chords

A chord is a key together with the modifiers that are held down. A chord can be bound to an action;
which one submits a query depends on the platform.
-/

namespace QueryPad

/-- The families of operating systems, which differ in their primary modifier. -/
inductive Platform
  | mac
  | other
  deriving DecidableEq, Repr

/-- The platform that the program runs on. -/
def Platform.current : Platform :=
  .other

/-- The modifiers that are held down. -/
structure Modifiers where
  ctrl : Bool
  alt : Bool
  shift : Bool
  /-- The command key. -/
  command : Bool
  deriving DecidableEq, Repr

namespace Modifiers

/-- No modifier. -/
def none : Modifiers :=
  ⟨false, false, false, false⟩

/-- The modifier of shortcuts. -/
def shortcut : Platform → Modifiers
  | .mac => { none with command := true }
  | .other => { none with ctrl := true }

/-- No modifier is held that makes a key a shortcut; shift does not. -/
def permitTyping (m : Modifiers) : Bool :=
  !(m.ctrl || m.alt || m.command)

/-- The names of the modifiers held, in their usual order. -/
def names (m : Modifiers) : List String :=
  (if m.ctrl then ["Ctrl"] else []) ++ (if m.alt then ["Alt"] else []) ++
    (if m.shift then ["Shift"] else []) ++ (if m.command then ["Command"] else [])

end Modifiers

/-- A key. -/
inductive Key
  | enter
  | backspace
  | tab
  | char (c : Char)
  deriving DecidableEq, Repr

/-- The name of the key. -/
def Key.name : Key → String
  | .enter => "Return"
  | .backspace => "Backspace"
  | .tab => "Tab"
  | .char c => String.singleton c

/-- A key and the modifiers held down with it. -/
structure Chord where
  modifiers : Modifiers
  key : Key
  deriving DecidableEq, Repr

namespace Chord

/-- The key alone. -/
def ofKey (key : Key) : Chord :=
  ⟨.none, key⟩

/-- The chord that submits a query. -/
def submit (platform : Platform) : Chord :=
  ⟨.shortcut platform, .enter⟩

/-- The chord as it is shown, such as `Ctrl-Return`. -/
def describe (c : Chord) : String :=
  "-".intercalate (c.modifiers.names ++ [c.key.name])

end Chord

/-- What an editor can be asked to do by a chord, apart from editing. -/
inductive Action
  | submitQuery
  deriving DecidableEq, Repr

/-- The name of the action. -/
def Action.name : Action → String
  | .submitQuery => "submit-query"

/-- An action and the chord that triggers it. -/
structure Binding where
  action : Action
  chord : Chord
  deriving DecidableEq, Repr

end QueryPad
