import QueryPad.Pattern.Atom

/-!
# Sets in brackets

A set of characters is written between brackets: characters, ranges of them, named classes and sets
inside it, all of which may be taken together, and operations between them. A set of bytes has ASCII
members only, so neither it nor a class in it can stand for everything but its members.
-/

namespace QueryPad.Pattern

/-- Whether an atom is a member of a set that can be used: a place is none, case cannot be folded
without a table of characters, and a set of bytes has ASCII members. -/
def Atom.isMember (mode : Mode) : Atom → Bool
  | .char c _ => if mode.unicode then !mode.foldsCase else c.toNat < 128
  | .shorthand negated => !mode.unicode && !negated
  | .any | .edge _ => false

/-- Whether a set may stand for everything but its members. -/
def Mode.allowsNegation (mode : Mode) : Bool :=
  mode.unicode

/-- Whether a named class of ASCII characters, or its negation, is a member that can be used. -/
def Mode.allowsClass (mode : Mode) (negated : Bool) : Bool :=
  if mode.unicode then !mode.foldsCase else !negated

/-! ## Sets being read -/

/-- A set that is being read, by how deeply its members are nested. -/
structure OpenSet where
  /-- Only dashes have been read, which are members here and no operations. -/
  fresh : Bool
  /-- What the operation to come takes on its left. -/
  left : Option Nat
  /-- The members read since. -/
  members : List Nat
  deriving DecidableEq, Repr

namespace OpenSet

/-- A set of which nothing has been read. -/
def blank : OpenSet :=
  ⟨true, none, []⟩

/-- A set with a further member. -/
def add (set : OpenSet) (nesting : Nat) : OpenSet :=
  { set with fresh := false, members := nesting :: set.members }

/-- How deeply the members so far are nested. -/
def inside (set : OpenSet) : Nat :=
  let right := nestingTogether set.members
  match set.left with
  | none => right
  | some left => max left right + 1

/-- A set whose members so far are the left side of an operation. -/
def operate (set : OpenSet) : OpenSet :=
  ⟨false, some set.inside, []⟩

/-- How deeply the set is nested. -/
def nesting (set : OpenSet) : Nat :=
  set.inside + 1

end OpenSet

/-! ## Reading -/

/-- The names of classes of ASCII characters. -/
def classNames : List String :=
  ["alnum", "alpha", "ascii", "blank", "cntrl", "digit", "graph", "lower", "print", "punct",
    "space", "upper", "word", "xdigit"]

/-- Reads the name of a class, between colons, behind an opening bracket: whether the class is
negated, and the text behind the closing bracket. -/
def readClass : List Char → Option (Bool × List Char)
  | ':' :: cs =>
    let (negated, cs) := match cs with
      | '^' :: cs => (true, cs)
      | cs => (false, cs)
    let name := cs.takeWhile (· ≠ ':')
    match cs.drop name.length with
    | ':' :: ']' :: rest =>
      if classNames.contains (String.ofList name) then some (negated, rest) else none
    | _ => none
  | _ => none

/-- The text of a set behind its opening bracket and the sign that negates it. -/
def readNegation (mode : Mode) (cs : List Char) : Option (List Char) :=
  match mode.skip cs with
  | '^' :: rest => if mode.allowsNegation then some rest else none
  | rest => some rest

/-- Reads a character of a set, or what a backslash makes of one. -/
def readMember (mode : Mode) (cs : List Char) : Option (Atom × List Char) := do
  let (atom, rest) ← match cs with
    | [] => none
    | '\\' :: rest => readEscape mode rest
    | c :: rest => some (.char c false, rest)
  if atom.isMember mode then some (atom, rest) else none

/-- The character that decides whether a dash stands for a range: the next that counts, where that
is the first of a comment as well. -/
def behindDash (mode : Mode) (inComment : Bool) : List Char → Option Char
  | [] => none
  | c :: cs =>
    if mode.spaced && Text.isBlank c then behindDash mode inComment cs
    else if mode.spaced && !inComment && c = '#' then behindDash mode true cs
    else some c

/-- The text behind a range or a single member. A dash before the closing bracket or another dash
makes no range. -/
def readRange (mode : Mode) (cs : List Char) : Option (List Char) := do
  let (first, rest) ← readMember mode cs
  match mode.skip rest with
  | '-' :: behind =>
    let next := behindDash mode false behind
    if next = some ']' || next = some '-' then return '-' :: behind
    else
      let (last, rest) ← readMember mode (mode.skip behind)
      match first, last with
      | .char low _, .char high _ => if low ≤ high then return rest else none
      | _, _ => none
  | rest => return rest

/-- Reads members up to the end of a set, and then of the sets around it: how deeply the outermost
is nested, and the text behind it. The fuel is a bound on the number of steps. -/
def readMembers (mode : Mode) : Nat → OpenSet → List OpenSet → List Char → Option (Nat × List Char)
  | 0, _, _, _ => none
  | fuel + 1, set, outer, cs =>
    match mode.skip cs with
    | [] => none
    | c :: rest =>
      if set.fresh && (c = '-' || c = ']' && set.members.isEmpty) then do
        let _ ← readMember mode [c]
        readMembers mode fuel { set.add 0 with fresh := c = '-' } outer rest
      else match c, rest with
        | '[', rest =>
          match readClass rest with
          | some (negated, rest) =>
            if mode.allowsClass negated then readMembers mode fuel (set.add 0) outer rest else none
          | none => do
            let rest ← readNegation mode rest
            readMembers mode fuel .blank (set :: outer) rest
        | ']', rest =>
          match outer with
          | [] => some (set.nesting, rest)
          | next :: outer => readMembers mode fuel (next.add set.nesting) outer rest
        | '&', '&' :: rest => readMembers mode fuel set.operate outer rest
        | '-', '-' :: rest => readMembers mode fuel set.operate outer rest
        | '~', '~' :: rest => readMembers mode fuel set.operate outer rest
        | c, rest => do
          let rest ← readRange mode (c :: rest)
          readMembers mode fuel (set.add 0) outer rest

/-- Reads a set behind its opening bracket: how deeply it is nested, and the text behind it. -/
def readSet (mode : Mode) (cs : List Char) : Option (Nat × List Char) := do
  let rest ← readNegation mode cs
  readMembers mode (rest.length + 1) .blank [] rest

end QueryPad.Pattern
