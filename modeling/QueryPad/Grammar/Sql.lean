import QueryPad.Grammar.Basic

/-!
# The grammar of SQL

A lenient grammar in the SQLite dialect. It tells the kind of a lexeme from the lexeme alone, and
suggests its whole vocabulary whatever has been typed. The vocabulary is written in lower case and in
the order in which it is suggested: the common SQL keywords together with those of SQLite that
queries on sheets make use of, the names of data types and functions, and the truth values. A
reserved word wins over a sheet or column of that name.
-/

/-! ## The vocabulary -/

namespace QueryPad.Vocabulary

/-- The keywords. -/
def keywords : List String :=
  ["select", "insert", "update", "delete", "from", "where", "and", "or", "not", "group", "by",
   "order", "limit", "offset", "having", "as", "case", "when", "then", "else", "end", "type",
   "left", "right", "inner", "outer", "cross", "natural", "join", "on", "using", "asc", "desc",
   "union", "except", "intersect", "all", "distinct", "in", "is", "like", "glob", "between",
   "exists", "with", "create", "table", "primary", "key", "if", "foreign", "references", "default",
   "null", "database", "drop", "grant"]

/-- The names of data types. -/
def dataTypes : List String :=
  ["int", "integer", "bigint", "numeric", "decimal", "number", "real", "float", "double", "money",
   "bit", "binary", "char", "varchar", "text", "date", "timestamp", "set"]

/-- The names of functions. -/
def functions : List String :=
  ["avg", "count", "first", "last", "max", "min", "sum", "ucase", "lcase", "upper", "lower", "mid",
   "substr", "len", "length", "trim", "replace", "instr", "abs", "round", "rank", "now", "format",
   "coalesce", "ifnull", "isnull", "nullif", "nvl", "typeof"]

/-- The truth values. -/
def constants : List String :=
  ["true", "false"]

/-- The keyword that a word in lower case is. -/
def keyword? (word : String) : Option String :=
  keywords.find? (· == word)

/-- A word in lower case is reserved: a keyword or the name of a data type. -/
def isReserved (word : String) : Bool :=
  (keyword? word).isSome || dataTypes.contains word

/-- The kind of a word in lower case. -/
def kindOf (word : String) : Token.Kind :=
  if isReserved word then .keyword
  else if functions.contains word then .function
  else if constants.contains word then .literal
  else .identifier

end QueryPad.Vocabulary

/-! ## The grammar -/

namespace QueryPad.Grammar.Sql

open Lexeme (Delimiter isOperator isWordStart opensComment stringQuote)

/-- The kind of a lexeme. -/
def kindOf (text : String) : Token.Kind :=
  match text.toList with
  | [] => .other
  | first :: rest =>
    if opensComment (first :: rest) then .comment
    else if first = stringQuote || first.isDigit then .literal
    else if (Delimiter.ofOpener? first).isSome then .identifier
    else if isWordStart first then Vocabulary.kindOf (Text.fold text)
    else if isOperator first then .operator
    else .other

/-- The words of the vocabulary, which are no better than one another. -/
def suggestions : List Suggestion :=
  Vocabulary.keywords.map (.ofWord · 0 .keyword) ++
    Vocabulary.functions.map (.ofWord · 0 .function) ++
    Vocabulary.constants.map (.ofWord · 0 .constant) ++
    Vocabulary.dataTypes.map (.ofWord · 0 .dataType)

end Sql

/-- The grammar of SQL. -/
def sql : Grammar where
  kindOf := Sql.kindOf
  suggest _ _ := Sql.suggestions

end QueryPad.Grammar
