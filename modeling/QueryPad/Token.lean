import QueryPad.Lexeme.Basic

/-!
# Tokens

A token is a lexeme together with its kind: what it is in the query, and so how it is painted. The
grammar fixes every kind but one; `variable` is for identifiers that name an open sheet or column.
-/

namespace QueryPad

/-- What a lexeme is. -/
inductive Token.Kind
  /-- A reserved word or the name of a data type. -/
  | keyword
  /-- The name of a built-in function. -/
  | function
  /-- An identifier that names an open sheet or one of its columns. -/
  | variable
  /-- Any other identifier. -/
  | identifier
  /-- A string, a number or a truth value. -/
  | literal
  | comment
  | operator
  /-- Punctuation and all that is not recognized. -/
  | other
  deriving DecidableEq, Repr

/-- A classified stretch of a text, from the byte offset `start` up to `stop`. -/
structure Token where
  kind : Token.Kind
  text : String
  start : Nat
  stop : Nat
  deriving DecidableEq, Repr

namespace Token

/-- The name of the kind. -/
def Kind.name : Kind → String
  | .keyword => "keyword"
  | .function => "function"
  | .variable => "variable"
  | .identifier => "identifier"
  | .literal => "literal"
  | .comment => "comment"
  | .operator => "operator"
  | .other => "other"

/-- The grammar alone decides on the kind, whatever names are in sight. -/
def Kind.isFixed : Kind → Bool
  | .identifier | .variable => false
  | _ => true

/-- The scope under which a theme colours the kind. -/
def Kind.scope : Kind → String
  | .keyword => "keyword"
  | .function => "support.function"
  | .variable => "variable"
  | .identifier => "identifier"
  | .literal => "constant"
  | .comment => "comment"
  | .operator => "keyword.operator"
  | .other => "text"

/-- The length in bytes; a stretch that stops before it starts has none. -/
def length (t : Token) : Nat :=
  t.stop - t.start

/-- No byte belongs to the token. -/
def isEmpty (t : Token) : Bool :=
  t.length == 0

/-- Whether the byte at an offset belongs to the token. -/
def covers (t : Token) (offset : Nat) : Bool :=
  t.start ≤ offset && offset < t.stop

/-- The token of a lexeme. -/
def ofLexeme (classify : String → Kind) (l : Lexeme) : Token :=
  ⟨classify l.text, l.text, l.start, l.stop⟩

/-- The tokens of a text, in order. -/
def all (classify : String → Kind) (text : String) : List Token :=
  (Lexeme.all text).map (ofLexeme classify)

end Token

end QueryPad
