import QueryPad.Proofs.Workbook

/-!
# The names of a workbook in a table

Names can meet in every way: two sheets that differ in case, a column called like a sheet, or the same
column of several sheets. `InSight` says what remains of them in a table, in which order and as what.
Main statement: `inSight_names`, the names of a workbook are in sight in the table that is made of
them.
-/

namespace QueryPad.Workbook

variable {casing : Casing} {book : Workbook} {name : String}

theorem casing_names (book : Workbook) (casing : Casing) : (book.names casing).casing = casing :=
  NameTable.casing_ofList casing _

/-! ## The order of the names -/

/-- The sheets come before the columns, and of the columns only those remain that no sheet is called
like. -/
theorem entries_names (book : Workbook) (casing : Casing) :
    (book.names casing).entries =
      (firsts casing.key (book.sheets.map (·.name))).map (Identifier.mk · .sheet) ++
        ((firsts casing.key (book.sheets.flatMap (·.columns))).filter fun column =>
          ∀ sheet ∈ book.sheets, casing.key sheet.name ≠ casing.key column).map
            (Identifier.mk · .column) := by
  rw [names_eq_ofList, NameTable.entries_ofList, identifiers, firsts_append,
    NameTable.firsts_map_mk, NameTable.firsts_map_mk, List.filter_map]
  congr 2
  refine List.filter_congr ?_
  intro column _
  simp

/-! ## What a name is found as -/

/-- A name is found as a sheet exactly if a sheet is called so. -/
theorem exists_find?_names_sheet_iff :
    (∃ i, (book.names casing).find? name = some i ∧ i.kind = .sheet) ↔
      ∃ sheet ∈ book.sheets, casing.key sheet.name = casing.key name := by
  rw [names_eq_ofList, NameTable.find?_ofList]
  constructor
  · rintro ⟨i, hfind, hkind⟩
    have hkey : casing.key i.name = casing.key name := by simpa using List.find?_some hfind
    rcases List.mem_append.1 (List.mem_of_find?_eq_some hfind) with hmem | hmem
    · simp only [List.mem_map, exists_exists_and_eq_and] at hmem
      obtain ⟨sheet, hsheet, rfl⟩ := hmem
      exact ⟨sheet, hsheet, hkey⟩
    · obtain ⟨column, -, rfl⟩ := List.mem_map.1 hmem
      cases hkind
  · rintro ⟨sheet, hsheet, hkey⟩
    -- A sheet of the key is found before any column is looked at.
    have hsome : (((book.sheets.map (·.name)).map (Identifier.mk · .sheet)).find?
        fun i => casing.key i.name == casing.key name).isSome = true :=
      List.find?_isSome.2
        ⟨_, List.mem_map_of_mem (List.mem_map_of_mem hsheet), beq_iff_eq.2 hkey⟩
    obtain ⟨i, hfind⟩ := Option.isSome_iff_exists.1 hsome
    obtain ⟨first, -, rfl⟩ := List.mem_map.1 (List.mem_of_find?_eq_some hfind)
    refine ⟨⟨first, .sheet⟩, ?_, rfl⟩
    rw [identifiers, List.find?_append, hfind, Option.some_or]

/-- A name is found as it is spelled first. -/
theorem map_name_find?_names (book : Workbook) (casing : Casing) (name : String) :
    ((book.names casing).find? name).map (·.name) =
      book.spellings.find? fun spelling => casing.key spelling == casing.key name := by
  rw [names_eq_ofList, NameTable.find?_ofList, ← map_name_identifiers, List.find?_map]
  rfl

/-! ## Names in sight -/

/-- How a table stands to the workbook whose names it holds. -/
structure InSight (casing : Casing) (book : Workbook) (table : NameTable) : Prop where
  /-- The table is that of all names, the columns not being collected among themselves before. -/
  eq_ofList : table = .ofList casing book.identifiers
  pairwise_names : table.names.Pairwise fun name other => casing.key name ≠ casing.key other
  contains_iff (name : String) : table.contains name = true ↔
    (∃ sheet ∈ book.sheets, casing.key sheet.name = casing.key name) ∨
      ∃ sheet ∈ book.sheets, ∃ column ∈ sheet.columns, casing.key column = casing.key name
  /-- The first sheets of each key, then the first columns of each key that no sheet has. -/
  entries_eq : table.entries =
    (firsts casing.key (book.sheets.map (·.name))).map (Identifier.mk · .sheet) ++
      ((firsts casing.key (book.sheets.flatMap (·.columns))).filter fun column =>
        ∀ sheet ∈ book.sheets, casing.key sheet.name ≠ casing.key column).map
          (Identifier.mk · .column)
  exists_sheet_iff (name : String) : (∃ i, table.find? name = some i ∧ i.kind = .sheet) ↔
    ∃ sheet ∈ book.sheets, casing.key sheet.name = casing.key name
  /-- A name is found as it is spelled first. -/
  map_name_find? (name : String) : (table.find? name).map (·.name) =
    book.spellings.find? fun spelling => casing.key spelling == casing.key name

/-- The names of a workbook are in sight, whatever its sheets. -/
theorem inSight_names (book : Workbook) (casing : Casing) :
    InSight casing book (book.names casing) where
  eq_ofList := names_eq_ofList book casing
  pairwise_names := by
    have hpairwise := (book.names casing).pairwise_names
    rwa [casing_names] at hpairwise
  contains_iff name := by
    rw [contains_names]
    simp only [spellings, List.mem_append, List.mem_map, List.mem_flatMap, or_and_right, exists_or,
      exists_exists_and_eq_and]
    refine or_congr_right ?_
    constructor
    · rintro ⟨column, ⟨sheet, hsheet, hcolumn⟩, hkey⟩
      exact ⟨sheet, hsheet, column, hcolumn, hkey⟩
    · rintro ⟨sheet, hsheet, column, hcolumn, hkey⟩
      exact ⟨column, ⟨sheet, hsheet, hcolumn⟩, hkey⟩
  entries_eq := entries_names book casing
  exists_sheet_iff _ := exists_find?_names_sheet_iff
  map_name_find? := map_name_find?_names book casing

example :
    (names ⟨[⟨"region", ["Region", "id"]⟩, ⟨"costs", ["ID"]⟩]⟩ .insensitive).entries =
      [⟨"region", .sheet⟩, ⟨"costs", .sheet⟩, ⟨"id", .column⟩] := by
  decide +kernel

end QueryPad.Workbook
