import QueryPad.Name.Table

/-!
# Suggestions

What an editor offers for completing the word at the cursor: the names in sight, and whatever a
grammar knows. Suggestions are narrowed down to those that go on from what has been typed, the best
first.
-/

namespace QueryPad

/-- Where a suggestion comes from. -/
inductive Suggestion.Origin
  | sheet
  | column
  | keyword
  | function
  | constant
  | dataType
  deriving DecidableEq, Repr

/-- Something to complete a word with. -/
structure Suggestion where
  /-- What is shown. -/
  name : String
  /-- What is put in. -/
  value : String
  /-- The higher, the better. -/
  score : Int
  origin : Suggestion.Origin
  deriving DecidableEq, Repr

namespace Suggestion

/-- How the origin is shown beside a suggestion. -/
def Origin.label : Origin → String
  | .sheet => "Sheet name"
  | .column => "Column name"
  | .keyword => "keyword"
  | .function => "function"
  | .constant => "constant"
  | .dataType => "type"

/-- The suggestion comes from the open sheets and not from a grammar. -/
def Origin.isName : Origin → Bool
  | .sheet | .column => true
  | _ => false

/-- The origin of an identifier. -/
def Origin.ofKind : Identifier.Kind → Origin
  | .sheet => .sheet
  | .column => .column

/-- A word that is put in as it is shown. -/
def ofWord (word : String) (score : Int) (origin : Origin) : Suggestion :=
  ⟨word, word, score, origin⟩

/-- An identifier as a suggestion; names come before what a grammar knows. -/
def ofIdentifier (identifier : Identifier) : Suggestion :=
  ofWord identifier.name 1 (.ofKind identifier.kind)

/-- The names in sight. -/
def ofTable (table : NameTable) : List Suggestion :=
  table.entries.map ofIdentifier

/-- The suggestion as a line of text. -/
def describe (s : Suggestion) : String :=
  s.value ++ " (" ++ s.origin.label ++ ")"

/-- Whether the suggestion goes on from what has been typed, in either case of ASCII letters. -/
def continues (typed : String) (s : Suggestion) : Bool :=
  Text.startsWith (Text.fold s.value) (Text.fold typed)

/-- Puts a suggestion in front of the first that is no better. -/
def place (s : Suggestion) : List Suggestion → List Suggestion
  | [] => [s]
  | t :: ts => if t.score ≤ s.score then s :: t :: ts else t :: place s ts

/-- The best first; suggestions of the same score keep their order. -/
def bestFirst : List Suggestion → List Suggestion
  | [] => []
  | s :: ss => place s (bestFirst ss)

/-- The suggestions that go on from what has been typed, the best first. -/
def narrow (typed : String) (suggestions : List Suggestion) : List Suggestion :=
  bestFirst (suggestions.filter (continues typed))

end Suggestion

end QueryPad
