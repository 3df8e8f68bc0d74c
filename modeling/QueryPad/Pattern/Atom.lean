import QueryPad.Pattern.Basic

/-!
# Atoms of patterns

The smallest parts of a pattern are characters, the sign for any character, shorthands for digits,
blank characters and word characters, and places between characters. Most of them can be written
with a backslash.

Without a table of characters the shorthands stand for ASCII only, which they do where a pattern is
about bytes, and properties of characters stand for nothing. Nor can the case of letters be folded
unless a pattern is about bytes.
-/

namespace QueryPad.Pattern

/-- A smallest part of a pattern. -/
inductive Atom
  /-- A character; a code of two digits may stand for a byte as well. -/
  | char (c : Char) (isByte : Bool)
  /-- Any character. -/
  | any
  /-- The digits, the blank characters or the word characters, or all others. -/
  | shorthand (negated : Bool)
  /-- A place between characters: at the edge of a word or elsewhere. -/
  | edge (ofWord : Bool)
  deriving DecidableEq, Repr

namespace Atom

/-- The part that an atom is; `none` if it needs a table of characters, or if it is about bytes that
are no characters. -/
def part? (mode : Mode) : Atom → Option Part
  | .char c isByte =>
    if mode.unicode then if mode.foldsCase then none else some .plain
    else if isByte && 128 ≤ c.toNat then none
    else some .plain
  | .any => if mode.unicode then some .plain else none
  | .shorthand negated => if mode.unicode || negated then none else some .plain
  | .edge ofWord => some ⟨0, true, mode.unicode && ofWord⟩

end Atom

/-! ## Codes of characters -/

/-- The value of a hexadecimal digit. -/
def hexDigit? (c : Char) : Option Nat :=
  if c.isDigit then some (c.toNat - '0'.toNat)
  else if 'a' ≤ c && c ≤ 'f' then some (c.toNat - 'a'.toNat + 10)
  else if 'A' ≤ c && c ≤ 'F' then some (c.toNat - 'A'.toNat + 10)
  else none

/-- The character with a code. -/
def charOf? (code : Nat) : Option Char :=
  if code.isValidChar then some (Char.ofNat code) else none

/-- Reads a number of hexadecimal digits behind a number already read. -/
def readHex (mode : Mode) : Nat → Nat → List Char → Option (Nat × List Char)
  | 0, code, cs => some (code, cs)
  | _ + 1, _, [] => none
  | n + 1, code, c :: cs => do
    let digit ← hexDigit? c
    readHex mode n (16 * code + digit) (mode.skip cs)

/-- The number that hexadecimal digits stand for. -/
def ofHex? (digits : List Char) : Option Nat :=
  if digits.isEmpty then none
  else digits.foldlM (fun code c => (hexDigit? c).map (16 * code + ·)) 0

/-- Reads the code of a character, in braces or with a fixed number of digits. -/
def readCode (mode : Mode) (digits : Nat) (cs : List Char) : Option (Atom × List Char) :=
  match mode.skip cs with
  | '\x7b' :: cs => do
    let (inside, rest) ← readBraced mode false cs
    let c ← charOf? (← ofHex? inside)
    return (.char c false, mode.skip rest)
  | cs => do
    let (code, rest) ← readHex mode digits 0 cs
    let c ← charOf? code
    return (.char c (digits = 2), rest)

/-! ## Backslashes -/

/-- The letters for control characters. -/
def controls : List (Char × Char) :=
  [('a', '\x07'), ('f', '\x0c'), ('t', '\t'), ('n', '\n'), ('r', '\r'), ('v', '\x0b')]

/-- The names of the edges of words. -/
def edgeNames : List String :=
  ["start", "end", "start-half", "end-half"]

/-- Reads what stands behind the letter for an edge of a word: the name of the edge in braces. What
is no name may be a count of repetitions. -/
def readEdge (mode : Mode) (cs : List Char) : Option (Atom × List Char) :=
  match cs with
  | '\x7b' :: inside =>
    if (mode.skip inside).head?.any fun c => c.isAlpha || c = '-' then do
      let (name, rest) ← readBraced mode false inside
      if edgeNames.contains (String.ofList name) then some (.edge true, rest) else none
    else some (.edge true, cs)
  | _ => some (.edge true, cs)

/-- A character that a backslash keeps as it is. -/
def isEscapable (c : Char) : Bool :=
  c.toNat < 128 && !c.isAlphanum

/-- Reads what stands behind a backslash. -/
def readEscape (mode : Mode) : List Char → Option (Atom × List Char)
  | [] => none
  | c :: rest =>
    if c = 'x' then readCode mode 2 rest
    else if c = 'u' then readCode mode 4 rest
    else if c = 'U' then readCode mode 8 rest
    else if c = 'd' || c = 's' || c = 'w' then some (.shorthand false, rest)
    else if c = 'D' || c = 'S' || c = 'W' then some (.shorthand true, rest)
    else if c = 'A' || c = 'z' then some (.edge false, rest)
    else if c = 'b' then readEdge mode rest
    else if c = 'B' || c = '<' || c = '>' then some (.edge true, rest)
    else match controls.lookup c with
      | some control => some (.char control false, rest)
      | none => if isEscapable c then some (.char c false, rest) else none

end QueryPad.Pattern
