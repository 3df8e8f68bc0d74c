import QueryPad.Pattern.Bracket
import QueryPad.Text.Numeral
import QueryPad.Text.Property
import QueryPad.Text.Words

/-!
# Reading patterns

A pattern is a choice between sequences of parts. A part is an atom, a set, a group around a choice,
a change of the mode or a repetition of the part before it. A change of the mode lasts to the end of
the group around it.
-/

namespace QueryPad.Pattern

/-! ## Groups -/

/-- What stands behind an opening parenthesis. -/
inductive Opening
  /-- A change of the mode for what follows. -/
  | switch (change : List Char)
  /-- A group, with a change of the mode inside it. -/
  | group (change : List Char)
  /-- A group with a name. -/
  | named (name : String)
  deriving DecidableEq, Repr

/-- The name may be given to a group: it begins with a letter or an underscore, and may go on with
digits, points and brackets. -/
def isGroupName : List Char → Bool
  | [] => false
  | first :: more =>
    (first = '_' || Text.isAlphabetic first) &&
      more.all fun c => c = '_' || c = '.' || c = '[' || c = ']' || Text.isAlphanumeric c

/-- Reads the name of a group up to the closing angle bracket. -/
def readGroupName (cs : List Char) : Option (Opening × List Char) :=
  let name := cs.takeWhile (· ≠ '>')
  match cs.drop name.length with
  | '>' :: rest => if isGroupName name then some (.named (String.ofList name), rest) else none
  | _ => none

/-- Reads the letters of a change of the mode, given those read so far backwards, and says whether
a group follows. No letter is given twice, and one follows the dash. -/
def readChange (read : List Char) : List Char → Option (Opening × List Char)
  | [] => none
  | c :: cs =>
    if c = ':' || c = ')' then
      if read.head? = some '-' then none
      else if c = ':' then some (.group read.reverse, cs)
      else if read.isEmpty then none
      else some (.switch read.reverse, cs)
    else if (c = '-' || Mode.letters.contains c) && !read.contains c then readChange (c :: read) cs
    else none

/-- Reads what stands behind an opening parenthesis. -/
def readOpening (mode : Mode) (cs : List Char) : Option (Opening × List Char) :=
  match mode.skip cs with
  | '?' :: 'P' :: '<' :: rest => readGroupName rest
  | '?' :: '<' :: rest => readGroupName rest
  | '?' :: rest => readChange [] rest
  | rest => some (.group [], rest)

/-! ## Repetitions -/

/-- Reads a count of repetitions behind its opening brace. -/
def readCount (mode : Mode) (cs : List Char) : Option (Nat × List Char) := do
  let (inside, rest) ← readBraced mode false cs
  let digits := Text.trim inside
  if digits.isEmpty then none
  else match Text.Numeral.readDigits Text.Numeral.unsigned32.greatest .tooLarge 0 digits with
    | .ok n => return (n, mode.skip rest)
    | .error _ => none

/-- The text behind a sign that a repetition is to be as short as it can. -/
def afterLazy : List Char → List Char
  | '?' :: rest => rest
  | rest => rest

/-- A repetition of the last part. Nothing is left of a part that is repeated no times. -/
def repeated (count : Nat) : List Part → Option (List Part)
  | [] => none
  | last :: before =>
    if last.repeatable then
      some ({ last.wrapped with seeksWord := count ≠ 0 && last.seeksWord } :: before)
    else none

/-! ## Whole patterns -/

/-- A group that is being read, or the whole pattern, up to a point. The parts and the sequences
stand in reverse order. -/
structure Level where
  mode : Mode
  /-- The sequences before the last sign for a choice. -/
  sequences : List Part
  /-- The parts since. -/
  parts : List Part
  deriving DecidableEq, Repr

namespace Level

/-- The level with another part. -/
def add (level : Level) (part : Part) : Level :=
  { level with parts := part :: level.parts }

/-- The level with its last sequence ended. -/
def endSequence (level : Level) : Level :=
  { level with sequences := Part.together level.parts :: level.sequences, parts := [] }

/-- What the level has come to. -/
def result (level : Level) : Part :=
  Part.together level.endSequence.sequences

end Level

/-- Reads a pattern, given the level that is being read, those around it and the names given to
groups. The fuel is a bound on the number of steps. -/
def readLevels : Nat → Level → List Level → List String → List Char → Option Part
  | 0, _, _, _, _ => none
  | fuel + 1, level, outer, names, cs =>
    match level.mode.skip cs with
    | [] => if outer.isEmpty then some level.result else none
    | '(' :: rest => do
      match ← readOpening level.mode rest with
      | (.switch change, rest) =>
        let level := level.add { Part.plain with repeatable := false }
        readLevels fuel { level with mode := level.mode.change change } outer names rest
      | (.group change, rest) =>
        readLevels fuel ⟨level.mode.change change, [], []⟩ (level :: outer) names rest
      | (.named name, rest) =>
        if names.contains name then none
        else readLevels fuel ⟨level.mode, [], []⟩ (level :: outer) (name :: names) rest
    | ')' :: rest =>
      match outer with
      | [] => none
      | next :: outer => readLevels fuel (next.add level.result.wrapped) outer names rest
    | '|' :: rest => readLevels fuel level.endSequence outer names rest
    | '[' :: rest => do
      let (nesting, rest) ← readSet level.mode rest
      readLevels fuel (level.add { Part.plain with nesting := nesting }) outer names rest
    | '\x7b' :: rest => do
      let (count, rest) ← readCount level.mode rest
      let parts ← repeated count level.parts
      readLevels fuel { level with parts := parts } outer names (afterLazy rest)
    | c :: rest => do
      if c = '?' || c = '*' || c = '+' then
        let parts ← repeated 1 level.parts
        readLevels fuel { level with parts := parts } outer names (afterLazy rest)
      else
        let (atom, rest) ←
          if c = '\\' then readEscape level.mode rest
          else if c = '.' then some (.any, rest)
          else if c = '^' || c = '$' then some (.edge false, rest)
          else some (.char c false, rest)
        let part ← atom.part? level.mode
        readLevels fuel (level.add part) outer names rest

/-- How deeply a pattern may be nested. -/
def nestingLimit : Nat := 250

/-- Reads a pattern. -/
def read (cs : List Char) : Option Part := do
  let part ← readLevels (cs.length + 1) ⟨.standard, [], []⟩ [] [] cs
  if part.nesting ≤ nestingLimit then some part else none

/-- Why a text cannot be used as a pattern, if it cannot. -/
def fault? (cs : List Char) : Option Fault :=
  match read cs with
  | none => some .unreadable
  | some part => if part.seeksWord then some .wordEdge else none

end QueryPad.Pattern
