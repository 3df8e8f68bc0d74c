import QueryPad.Text.Property

/-!
# Words

Blank characters around a line do not count, blank characters inside it separate its words, and a
separator divides a word into fields. Words of the vocabulary and, under an insensitive casing, names
are compared with their ASCII letters in lower case. Letters outside ASCII keep their case.
-/

namespace QueryPad.Text

/-! ## Taking a line apart -/

/-- The line without the blank characters at its two ends. -/
def trim (cs : List Char) : List Char :=
  ((cs.dropWhile isBlank).reverse.dropWhile isBlank).reverse

/-- What stands before and after the first character that meets the condition; all and nothing if
there is none. -/
def divide (found : Char → Bool) (cs : List Char) : List Char × List Char :=
  (cs.takeWhile (!found ·), (cs.dropWhile (!found ·)).drop 1)

/-- The pieces between the separators, empty ones included: one more than there are separators. -/
def fields (separates : Char → Bool) : List Char → List (List Char)
  | [] => [[]]
  | c :: cs =>
    if separates c then [] :: fields separates cs
    else match fields separates cs with
      | [] => [[c]]
      | field :: more => (c :: field) :: more

/-- The runs of characters between the separators, none of them empty. -/
def runs (separates : Char → Bool) (cs : List Char) : List (List Char) :=
  (fields separates cs).filter (!·.isEmpty)

/-- The words of a line: its runs of characters that are not blank. -/
def words (cs : List Char) : List (List Char) :=
  runs isBlank cs

/-! ## Folding the case of ASCII letters -/

/-- The text with its ASCII letters in lower case. -/
def fold (text : String) : String :=
  String.ofList (text.toList.map Char.toLower)

@[simp] theorem toList_fold (text : String) : (fold text).toList = text.toList.map Char.toLower := by
  simp [fold]

/-- Whether a text starts with a given one. -/
def startsWith (text start : String) : Bool :=
  start.toList.isPrefixOf text.toList

end QueryPad.Text
