import QueryPad.Settings

/-!
# Errors

What can go wrong, by its cause, and how it is told. An error is of one of three categories: a value
that is refused, an operation that the session does not allow just now, or a session that cannot be
set up.
-/

namespace QueryPad

/-- The numbers that can be given to a session. -/
inductive Quantity
  | limit
  | page
  deriving DecidableEq, Repr

/-- The name of the quantity. -/
def Quantity.name : Quantity → String
  | .limit => "limit"
  | .page => "page"

/-- The parts that a session cannot do without. -/
inductive Part
  | buffer
  | sheet
  | executor
  | messages
  deriving DecidableEq, Repr

/-- How the part is called in a message. -/
def Part.name : Part → String
  | .buffer => "editing surface"
  | .sheet => "sheet name"
  | .executor => "query executor"
  | .messages => "message display"

/-- Why an operation failed. -/
inductive Error
  /-- A limit below one. -/
  | limitNotPositive (n : Int)
  /-- A page below zero. -/
  | pageNegative (n : Int)
  /-- A number that does not fit into 32 bits. -/
  | tooLarge (quantity : Quantity) (n : Int)
  /-- Something else where a number is expected. -/
  | notNumber (quantity : Quantity) (text : String)
  /-- A sheet without a name. -/
  | unnamedSheet (entry : String)
  /-- A directive that there is not. -/
  | unknownDirective (name : String)
  /-- A query while the session is disabled. -/
  | disabled
  /-- A session without one of its parts. -/
  | missing (part : Part)
  /-- A session whose pages have no rows. -/
  | zeroLimit
  /-- An editor for a sheet whose name is blank. -/
  | blankSheet
  /-- A setting whose value cannot be read. -/
  | badSetting (setting : Setting) (fault : Setting.Fault)
  /-- A limit of zero in the settings. -/
  | zeroLimitSetting
  deriving DecidableEq, Repr

/-- The categories of errors. -/
inductive Error.Category
  | validation
  | invalidState
  | configuration
  deriving DecidableEq, Repr

namespace Error

/-- The category of the error. -/
def category : Error → Category
  | .limitNotPositive _ | .pageNegative _ | .tooLarge _ _ | .notNumber _ _ | .unnamedSheet _
  | .unknownDirective _ => .validation
  | .disabled => .invalidState
  | .missing _ | .zeroLimit | .blankSheet | .badSetting _ _ | .zeroLimitSetting => .configuration

/-- What went wrong, without the category. -/
def detail : Error → String
  | .limitNotPositive n => s!"limit: {n} is not greater than zero"
  | .pageNegative n => s!"page: {n} is negative"
  | .tooLarge quantity n => s!"{quantity.name}: {n} is too large"
  | .notNumber quantity text => s!"{quantity.name}: {Text.quoted text} is not a number"
  | .unnamedSheet entry => s!"sheets: {Text.quoted entry} has no sheet name"
  | .unknownDirective name => s!"directive: :{name} is unknown"
  | .disabled => "cannot query while the session is disabled"
  | .missing part => s!"query session needs a {part.name}"
  | .zeroLimit => "default limit must be greater than zero"
  | .blankSheet => "editor opened without a sheet name"
  | .badSetting setting fault =>
    s!"failed to deserialize value \x60Config::{setting.name}\x60 from environment variable " ++
      s!"\x60{setting.key}\x60: {fault.reason}"
  | .zeroLimitSetting => s!"{Setting.limit.key} must be greater than zero"

/-- How the error is told. -/
def message (e : Error) : String :=
  match e.category with
  | .validation => "Invalid " ++ e.detail
  | .invalidState => "Invalid state: " ++ e.detail
  | .configuration => "Configuration error: " ++ e.detail

end Error

end QueryPad
