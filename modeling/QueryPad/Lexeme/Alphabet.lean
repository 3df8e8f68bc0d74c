/-!
# The alphabet of a query

The characters that open or continue a lexeme, in the SQLite dialect: words begin with an ASCII
letter, an underscore or a character from U+007F to U+FFFF, and names may be delimited by double
quotes, backticks or brackets.
-/

namespace QueryPad.Lexeme

/-- The characters of operators. -/
def operatorChars : List Char :=
  ['=', '<', '>', '!', '+', '-', '*', '/', '%', '|', '&', '~', '^']

/-- Whether a character belongs to an operator. -/
def isOperator (c : Char) : Bool :=
  operatorChars.contains c

/-- Whether a word may begin with the character. -/
def isWordStart (c : Char) : Bool :=
  c.isAlpha || c = '_' || ('\x7f' ≤ c && c ≤ '\uffff')

/-- Whether a word may go on with the character. -/
def isWordPart (c : Char) : Bool :=
  isWordStart c || c.isDigit

/-- Whether a number may go on with the character, the sign of an exponent aside. -/
def isNumberPart (c : Char) : Bool :=
  c.isAlphanum || c = '.' || c = '_'

/-- The three ways to delimit a name. -/
inductive Delimiter
  | doubleQuote
  | backtick
  | bracket
  deriving DecidableEq, Repr

/-- The character in front of the name. -/
def Delimiter.opener : Delimiter → Char
  | .doubleQuote => '\x22'
  | .backtick => '\x60'
  | .bracket => '['

/-- The character behind the name. -/
def Delimiter.closer : Delimiter → Char
  | .doubleQuote => '\x22'
  | .backtick => '\x60'
  | .bracket => ']'

/-- The delimiter that a character opens. -/
def Delimiter.ofOpener? (c : Char) : Option Delimiter :=
  [Delimiter.doubleQuote, .backtick, .bracket].find? (·.opener == c)

theorem Delimiter.ofOpener?_opener (d : Delimiter) : ofOpener? d.opener = some d := by
  cases d <;> rfl

theorem Delimiter.opener_of_ofOpener? {c : Char} {d : Delimiter} (h : ofOpener? c = some d) :
    d.opener = c := by
  simpa using List.find?_some h

/-- The quote around a string. -/
def stringQuote : Char := '\x27'

/-- The text begins a comment that runs to the end of the line. -/
def opensLineComment : List Char → Bool
  | '-' :: '-' :: _ => true
  | _ => false

/-- The text begins a comment that runs to its terminator. -/
def opensBlockComment : List Char → Bool
  | '/' :: '*' :: _ => true
  | _ => false

/-- The text begins a comment. -/
def opensComment (cs : List Char) : Bool :=
  opensLineComment cs || opensBlockComment cs

end QueryPad.Lexeme
