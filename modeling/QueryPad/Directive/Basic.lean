import QueryPad.Error
import QueryPad.Workbook

/-!
# Directives

A line of input is a directive. It begins with a colon and a name, or else it is a query.

    select * from sales         replace the query and submit it
    :limit 50                   rows of a page
    :page 2                     go to a page
    :sheets sales=region,amount costs=region,total
                                the open sheets
    :complete re                suggestions for a word
    :tokens                     the tokens of the query
    :enable / :disable
    :quit

`parse` reads a line, and `render` writes a directive as a line.
-/

namespace QueryPad

/-- What a line asks for. -/
inductive Directive
  | query (text : String)
  | limit (n : Int)
  | page (n : Int)
  | sheets (book : Workbook)
  | complete (typed : String)
  | tokens
  | enable
  | disable
  | quit
  deriving DecidableEq, Repr

namespace Directive

/-! ## Reading -/

/-- Reads a number of 64 bits. -/
def readNumber (quantity : Quantity) (args : List Char) : Except Error Int :=
  match Text.Numeral.read Text.Numeral.signed64 args with
  | .ok n => .ok n
  | .error _ => .error (.notNumber quantity (String.ofList args))

/-- Reads a sheet such as `sales=region,amount`; empty column headers are left out. -/
def readSheet (word : List Char) : Except Error Sheet :=
  let (name, columns) := Text.divide (· = '=') word
  if name.isEmpty then .error (.unnamedSheet (String.ofList word))
  else .ok ⟨String.ofList name, (Text.runs (· = ',') columns).map String.ofList⟩

/-- Reads the words of a line as sheets. -/
def readSheets (args : List Char) : Except Error Workbook := do
  let sheets ← (Text.words args).mapM readSheet
  return Workbook.ofList sheets

/-- The directive of a name and of the text behind it. -/
def ofName (name : String) (args : List Char) : Except Error Directive :=
  match name with
  | "limit" => (readNumber .limit args).map .limit
  | "page" => (readNumber .page args).map .page
  | "sheets" => (readSheets args).map .sheets
  | "complete" => .ok (.complete (String.ofList args))
  | "tokens" => .ok .tokens
  | "enable" => .ok .enable
  | "disable" => .ok .disable
  | "quit" | "q" => .ok .quit
  | _ => .error (.unknownDirective name)

/-- Reads a line. -/
def parse (line : String) : Except Error Directive :=
  match Text.trim line.toList with
  | ':' :: rest =>
    let (name, args) := Text.divide Text.isBlank rest
    ofName (String.ofList name) (Text.trim args)
  | text => .ok (.query (String.ofList text))

/-! ## Writing -/

/-- A sheet as it stands in a line. -/
def renderSheet (sheet : Sheet) : String :=
  sheet.name ++ "=" ++ ",".intercalate sheet.columns

/-- A number as it stands in a line. -/
def renderNumber (n : Int) : String :=
  String.ofList (Text.Numeral.write n)

/-- A directive as a line. -/
def render : Directive → String
  | .query text => text
  | .limit n => ":limit " ++ renderNumber n
  | .page n => ":page " ++ renderNumber n
  | .sheets book => ":sheets " ++ " ".intercalate (book.sheets.map renderSheet)
  | .complete typed => ":complete " ++ typed
  | .tokens => ":tokens"
  | .enable => ":enable"
  | .disable => ":disable"
  | .quit => ":quit"

end Directive

end QueryPad
