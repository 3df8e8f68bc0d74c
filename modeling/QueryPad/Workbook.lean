import QueryPad.Name.Table

/-!
# Workbooks

A workbook holds the open sheets in the order in which they were opened, one of each name. To insert
a sheet again puts its new columns where it stands. Main statements: `find?_insert` and
`find?_remove_of_ne`, what can be found afterwards; `fst_remove`, what a removal hands back.
-/

namespace QueryPad

/-- An open sheet: its name and the headers of its columns. -/
structure Sheet where
  name : String
  columns : List String
  deriving DecidableEq, Repr

/-- The open sheets. -/
structure Workbook where
  sheets : List Sheet
  deriving DecidableEq, Repr

namespace Workbook

/-- No sheets. -/
def empty : Workbook :=
  ⟨[]⟩

/-- Puts a sheet in the place of the one of its name, or behind all others. -/
def insertInto (sheet : Sheet) : List Sheet → List Sheet
  | [] => [sheet]
  | s :: ss => if s.name = sheet.name then sheet :: ss else s :: insertInto sheet ss

/-- Opens a sheet, or changes the columns of one that is open. -/
def insert (book : Workbook) (sheet : Sheet) : Workbook :=
  ⟨insertInto sheet book.sheets⟩

/-- The open sheet of a name. -/
def find? (book : Workbook) (name : String) : Option Sheet :=
  book.sheets.find? (·.name == name)

/-- Takes the sheet of a name out: the sheet and the others, if there is one. -/
def removeFrom? (name : String) : List Sheet → Option (Sheet × List Sheet)
  | [] => none
  | s :: ss =>
    if s.name = name then some (s, ss)
    else (removeFrom? name ss).map fun taken => (taken.1, s :: taken.2)

/-- Closes the sheet of a name: the sheet that was open, and the workbook without it. -/
def remove (book : Workbook) (name : String) : Option Sheet × Workbook :=
  match removeFrom? name book.sheets with
  | some (sheet, others) => (some sheet, ⟨others⟩)
  | none => (none, book)

/-- The workbook of the sheets in a list, inserted in order. -/
def ofList (sheets : List Sheet) : Workbook :=
  sheets.foldl insert empty

/-- The number of open sheets. -/
def size (book : Workbook) : Nat :=
  book.sheets.length

/-- The elements of a list that are the first of their key, some keys being taken already. -/
def firstsOf {α : Type} (key : α → String) (taken : List String) : List α → List α
  | [] => []
  | a :: as =>
    if key a ∈ taken then firstsOf key taken as
    else a :: firstsOf key (key a :: taken) as

/-- The names of the sheets, then the column headers in the order of the sheets, each once. A column
that has the name of a sheet counts as the sheet. -/
def names (book : Workbook) (casing : Casing) : NameTable :=
  let sheets := book.sheets.map fun sheet => ⟨sheet.name, .sheet⟩
  let columns := firstsOf casing.key [] (book.sheets.flatMap (·.columns))
  NameTable.ofList casing (sheets ++ columns.map fun column => ⟨column, .column⟩)

theorem find?_insertInto (sheet : Sheet) (sheets : List Sheet) (name : String) :
    (insertInto sheet sheets).find? (·.name == name) =
      if sheet.name = name then some sheet else sheets.find? (·.name == name) := by
  induction sheets with
  | nil => by_cases h : sheet.name = name <;> simp [insertInto, h]
  | cons s ss ih =>
    by_cases h : s.name = sheet.name
    · by_cases hn : sheet.name = name <;> simp [insertInto, h, hn]
    · simp only [insertInto, if_neg h]
      by_cases hs : s.name = name
      · have hn : sheet.name ≠ name := fun heq => h (hs.trans heq.symm)
        simp [hs, hn]
      · simp [hs, ih]

theorem find?_insert (book : Workbook) (sheet : Sheet) (name : String) :
    (book.insert sheet).find? name =
      if sheet.name = name then some sheet else book.find? name :=
  find?_insertInto sheet book.sheets name

theorem fst_remove (book : Workbook) (name : String) :
    (book.remove name).1 = book.find? name := by
  have h : ∀ sheets : List Sheet,
      (removeFrom? name sheets).map (·.1) = sheets.find? (·.name == name) := by
    intro sheets
    induction sheets with
    | nil => rfl
    | cons s ss ih =>
      by_cases hs : s.name = name
      · simp [removeFrom?, hs]
      · simp [removeFrom?, hs, ← ih, Function.comp_def]
  unfold remove find?
  rw [← h]
  cases removeFrom? name book.sheets <;> rfl

theorem find?_remove_of_ne (book : Workbook) {name other : String} (h : other ≠ name) :
    (book.remove name).2.find? other = book.find? other := by
  have hfrom : ∀ (sheets : List Sheet) (taken : Sheet × List Sheet),
      removeFrom? name sheets = some taken →
        taken.2.find? (·.name == other) = sheets.find? (·.name == other) := by
    intro sheets
    induction sheets with
    | nil => simp [removeFrom?]
    | cons s ss ih =>
      intro taken htaken
      by_cases hs : s.name = name
      · simp only [removeFrom?, if_pos hs, Option.some.injEq] at htaken
        have hso : s.name ≠ other := fun heq => h (heq.symm.trans hs)
        simp [← htaken, hso]
      · simp only [removeFrom?, if_neg hs, Option.map_eq_some_iff] at htaken
        obtain ⟨rest, hrest, rfl⟩ := htaken
        simp [List.find?_cons, ih rest hrest]
  unfold remove
  split
  · next sheet others heq => exact hfrom _ _ heq
  · rfl

end Workbook

end QueryPad
