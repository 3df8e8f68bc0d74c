import QueryPad.Text.Property

/-!
# Patterns

A pattern describes texts: it is a regular expression. No text is ever matched here, so a pattern is
read only to tell whether it is one that could be used: it has to be well formed and not too deeply
nested, it must not need a table of characters, since there is none, and it must not look for the
edges of words of any script.

This module has what the readers of all parts of a pattern share: the mode in which they read, and
what counts about a part once it is read.
-/

namespace QueryPad.Pattern

/-- Why a text cannot be used as a pattern. -/
inductive Fault
  /-- It is not well formed, is too deeply nested, or needs a table of characters. -/
  | unreadable
  /-- It looks for an edge of a word of any script. -/
  | wordEdge
  deriving DecidableEq, Repr

/-- What is said about a fault. -/
def Fault.message : Fault → String
  | .unreadable => "error building NFA"
  | .wordEdge =>
    "unsupported regex feature for DFAs: cannot build DFAs for regexes with Unicode word " ++
      "boundaries; switch to ASCII word boundaries, or heuristically enable Unicode word " ++
      "boundaries or use a different regex engine"

/-! ## Modes -/

/-- How a part of a pattern is read. -/
structure Mode where
  /-- Characters are those of all scripts; else a pattern is about bytes. -/
  unicode : Bool
  /-- Letters stand for both of their cases. -/
  foldsCase : Bool
  /-- Blank characters and comments do not count. -/
  spaced : Bool
  deriving DecidableEq, Repr

namespace Mode

/-- The mode in which a pattern begins. -/
def standard : Mode :=
  ⟨true, false, false⟩

/-- The letters for changes of the mode. Those for lines, for line breaks and for greed make no
difference to whether a pattern can be used. -/
def letters : List Char :=
  ['i', 'm', 's', 'U', 'u', 'R', 'x']

/-- The mode after a change: the letters before a dash turn something on, those behind it off. -/
def change (mode : Mode) (change : List Char) : Mode :=
  let on := change.takeWhile (· ≠ '-')
  let off := change.dropWhile (· ≠ '-')
  let turn (letter : Char) (now : Bool) : Bool := (now || on.contains letter) && !off.contains letter
  ⟨turn 'u' mode.unicode, turn 'i' mode.foldsCase, turn 'x' mode.spaced⟩

end Mode

/-! ## Blank characters and comments -/

/-- The text behind blank characters and comments; a comment runs from its sign to the end of the
line. -/
def skipBlank (inComment : Bool) : List Char → List Char
  | [] => []
  | c :: cs =>
    if inComment then skipBlank (c ≠ '\n') cs
    else if Text.isBlank c then skipBlank false cs
    else if c = '#' then skipBlank true cs
    else c :: cs

/-- The text behind what does not count in the mode. -/
def Mode.skip (mode : Mode) (cs : List Char) : List Char :=
  if mode.spaced then skipBlank false cs else cs

/-- What counts in the mode of the text before a closing brace, and the text behind the brace. -/
def readBraced (mode : Mode) (inComment : Bool) : List Char → Option (List Char × List Char)
  | [] => none
  | c :: cs =>
    if inComment then readBraced mode (c ≠ '\n') cs
    else if mode.spaced && Text.isBlank c then readBraced mode false cs
    else if mode.spaced && c = '#' then readBraced mode true cs
    else if c = '\x7d' then some ([], cs)
    else (readBraced mode false cs).map fun (inside, rest) => (c :: inside, rest)

/-! ## Parts -/

/-- How deeply things taken together are nested, given how deeply each of them is; one by itself is
nested no further. -/
def nestingTogether : List Nat → Nat
  | [] => 0
  | [n] => n
  | ns => ns.foldl max 0 + 1

/-- What counts about a part of a pattern once it is read. -/
structure Part where
  /-- How deeply it is nested; a character by itself is not. -/
  nesting : Nat
  /-- It may be repeated, which a change of the mode may not. -/
  repeatable : Bool
  /-- It looks for an edge of a word of any script. -/
  seeksWord : Bool
  deriving DecidableEq, Repr

namespace Part

/-- A part that is not nested and may be repeated. -/
def plain : Part :=
  ⟨0, true, false⟩

/-- A part with another around it. -/
def wrapped (p : Part) : Part :=
  ⟨p.nesting + 1, true, p.seeksWord⟩

/-- Parts taken together. -/
def together (ps : List Part) : Part :=
  ⟨nestingTogether (ps.map (·.nesting)), true, ps.any (·.seeksWord)⟩

end Part

end QueryPad.Pattern
