import QueryPad.Name.Table
import QueryPad.Text.Numeral
import QueryPad.Text.Quoted
import QueryPad.Text.Words

/-!
# Settings

What can be set from outside: how names are compared, how many rows a page has, the mode and the
sheet that is opened. Settings are read from the variables of an environment.
-/

namespace QueryPad

/-- The variables of an environment and their values. -/
abbrev Environment := List (String × String)

/-- What can be set. -/
structure Settings where
  caseSensitive : Bool
  limit : UInt32
  darkMode : Bool
  sheet : String
  deriving DecidableEq, Repr

/-- The settings whose values have to be read. -/
inductive Setting
  | caseSensitive
  | limit
  | darkMode
  deriving DecidableEq, Repr

/-- Why a value cannot be read; the text is the value without blanks around it. -/
inductive Setting.Fault
  | notBool (text : String)
  | notNumber (text : String) (fault : Text.Numeral.Fault)
  deriving DecidableEq, Repr

namespace Setting

/-- The variable that holds the setting. -/
def key : Setting → String
  | .caseSensitive => "SHEETQUERY_CASE_SENSITIVE"
  | .limit => "SHEETQUERY_DEFAULT_LIMIT"
  | .darkMode => "SHEETQUERY_DARK_MODE"

/-- The name of the setting. -/
def name : Setting → String
  | .caseSensitive => "case_sensitive"
  | .limit => "default_limit"
  | .darkMode => "dark_mode"

/-- Why a numeral cannot be read. -/
def numeralReason : Text.Numeral.Fault → String
  | .empty => "cannot parse integer from empty string"
  | .invalidDigit => "invalid digit found in string"
  | .tooLarge => "number too large to fit in target type"
  | .tooSmall => "number too small to fit in target type"

/-- Why a value cannot be read. -/
def Fault.reason : Fault → String
  | .notBool text => s!"invalid value for bool: '{text}'"
  | .notNumber text fault => s!"invalid value '{text}' for type u32: {numeralReason fault}"

end Setting

/-- The variable that holds the name of the sheet. -/
def Settings.sheetKey : String := "SHEETQUERY_SHEET"

namespace Settings

/-- The settings of an environment without variables. -/
def default : Settings where
  caseSensitive := true
  limit := 100
  darkMode := false
  sheet := "sheet1"

/-- How names are compared. -/
def casing (s : Settings) : Casing :=
  if s.caseSensitive then .sensitive else .insensitive

/-- The settings as they are logged. -/
def describe (s : Settings) : String :=
  s!"Config \x7b case_sensitive: {s.caseSensitive}, default_limit: {s.limit}, " ++
    s!"dark_mode: {s.darkMode}, sheet: {Text.quoted s.sheet} \x7d"

/-! ## Values -/

/-- The words for true. -/
def trueWords : List String := ["1", "true", "yes"]

/-- The words for false. -/
def falseWords : List String := ["0", "false", "no"]

/-- Reads a truth value. -/
def readBool (text : String) : Except Setting.Fault Bool :=
  let text := String.ofList (Text.trim text.toList)
  let word := Text.fold text
  if trueWords.contains word then .ok true
  else if falseWords.contains word then .ok false
  else .error (.notBool text)

/-- Reads a number of rows. -/
def readRows (text : String) : Except Setting.Fault UInt32 :=
  let digits := Text.trim text.toList
  match Text.Numeral.read Text.Numeral.unsigned32 digits with
  | .ok n => .ok (.ofNat n.toNat)
  | .error fault => .error (.notNumber (String.ofList digits) fault)

end Settings

end QueryPad
