import QueryPad.Name.Delimited
import QueryPad.Suggestion
import QueryPad.Token

/-!
# Grammars

A grammar has two abilities: it tells the kind of a lexeme, and it suggests completions. The names
in sight are laid over it. They turn an identifier into a variable and come first among the
suggestions; what the grammar fixes they leave alone. Main statement: `kindIn_of_isFixed`.
-/

namespace QueryPad

/-- What an editor knows about a language. -/
structure Grammar where
  /-- The kind of a lexeme. -/
  kindOf : String → Token.Kind
  /-- The completions for what has been typed up to a byte offset. -/
  suggest : String → Nat → List Suggestion

namespace Grammar

/-- The kind of a lexeme with the names laid over the grammar: an identifier that spells a name in
sight is a variable. -/
def kindIn (grammar : Grammar) (names : NameTable) (text : String) : Token.Kind :=
  match grammar.kindOf text with
  | .identifier => if names.contains (Delimited.strip text) then .variable else .identifier
  | kind => kind

/-- The tokens of a text with the names laid over the grammar. -/
def tokensIn (grammar : Grammar) (names : NameTable) (text : String) : List Token :=
  Token.all (grammar.kindIn names) text

/-- The names in sight, then what the grammar suggests. -/
def suggestIn (grammar : Grammar) (names : NameTable) (typed : String) (cursor : Nat) :
    List Suggestion :=
  Suggestion.ofTable names ++ grammar.suggest typed cursor

/-- What the grammar fixes keeps its kind, whatever names are in sight. -/
theorem kindIn_of_isFixed {grammar : Grammar} {text : String}
    (h : (grammar.kindOf text).isFixed = true) (names : NameTable) :
    grammar.kindIn names text = grammar.kindOf text := by
  unfold kindIn
  split
  · next heq => simp [heq, Token.Kind.isFixed] at h
  · rfl

end Grammar

end QueryPad
