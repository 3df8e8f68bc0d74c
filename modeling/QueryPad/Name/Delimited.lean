import QueryPad.Lexeme.Alphabet

/-!
# Delimited names

A name that is no word of the dialect is written between delimiters, with its closing delimiters
doubled. `wrap` writes a name so, and `strip` reads it back. Main statement: `strip_wrap`, reading
what was written gives the name.
-/

namespace QueryPad.Delimited

open Lexeme (Delimiter)

/-- Writes every `k` twice. -/
def double (k : Char) : List Char → List Char
  | [] => []
  | c :: cs => if c = k then k :: k :: double k cs else c :: double k cs

/-- Writes every two `k` in a row once, from the left. -/
def collapse (k : Char) : List Char → List Char
  | [] => []
  | [c] => [c]
  | c :: d :: cs =>
    if c = k ∧ d = k then k :: collapse k cs else c :: collapse k (d :: cs)

/-- The name between delimiters. -/
def wrapChars (delimiter : Delimiter) (name : List Char) : List Char :=
  delimiter.opener :: double delimiter.closer name ++ [delimiter.closer]

/-- The name that stands between delimiters; a text that does not begin with one and end with the
one that closes it stays as it is. -/
def stripChars (cs : List Char) : List Char :=
  match cs with
  | [] => cs
  | first :: rest =>
    match Delimiter.ofOpener? first with
    | none => cs
    | some delimiter =>
      if rest.getLast? = some delimiter.closer then collapse delimiter.closer rest.dropLast else cs

/-- The name between delimiters. -/
def wrap (delimiter : Delimiter) (name : String) : String :=
  String.ofList (wrapChars delimiter name.toList)

/-- The name that a lexeme spells: what stands between its delimiters, or the lexeme itself. -/
def strip (text : String) : String :=
  String.ofList (stripChars text.toList)

theorem collapse_cons_of_ne {k c : Char} (h : c ≠ k) (cs : List Char) :
    collapse k (c :: cs) = c :: collapse k cs := by
  cases cs with
  | nil => rfl
  | cons d cs => rw [collapse, if_neg fun heq => h heq.1]

/-- What is doubled is read back, whatever follows it. -/
theorem collapse_double_append (k : Char) (name more : List Char) :
    collapse k (double k name ++ more) = name ++ collapse k more := by
  induction name with
  | nil => rfl
  | cons c name ih =>
    by_cases hc : c = k
    · subst hc
      rw [double, if_pos rfl, List.cons_append, List.cons_append, collapse, if_pos ⟨rfl, rfl⟩, ih]
      rfl
    · rw [double, if_neg hc, List.cons_append, collapse_cons_of_ne hc, ih]
      rfl

theorem collapse_double (k : Char) (cs : List Char) : collapse k (double k cs) = cs := by
  simpa [collapse] using collapse_double_append k cs []

theorem stripChars_wrapChars (delimiter : Delimiter) (name : List Char) :
    stripChars (wrapChars delimiter name) = name := by
  simp [stripChars, wrapChars, Delimiter.ofOpener?_opener, collapse_double]

/-- Reading a name that was written between delimiters gives the name. -/
theorem strip_wrap (delimiter : Delimiter) (name : String) :
    strip (wrap delimiter name) = name := by
  simp [strip, wrap, stripChars_wrapChars]

end QueryPad.Delimited
