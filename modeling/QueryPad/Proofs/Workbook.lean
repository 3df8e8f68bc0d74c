import QueryPad.Proofs.Name.Table
import QueryPad.Workbook

/-!
# The sheets and the names of a workbook

A workbook made of sheets has one of each name (`nodup_ofList`), and where the sheets have different
names it has them all in their order (`ofList_of_nodup`). The names that a workbook brings in sight
are collected twice, the columns once among themselves and everything once more in the table, which
comes to the same as to collect everything once (`names_eq_ofList`). Main statement:
`contains_names`, no name is lost on the way.
-/

namespace QueryPad.Workbook

/-! ## Sheets that are inserted -/

/-- The names of the sheets after one was inserted. -/
theorem map_name_insertInto (sheet : Sheet) (sheets : List Sheet) :
    (insertInto sheet sheets).map (·.name) =
      if sheet.name ∈ sheets.map (·.name) then sheets.map (·.name)
      else sheets.map (·.name) ++ [sheet.name] := by
  induction sheets with
  | nil => simp [insertInto]
  | cons s ss ih =>
    by_cases h : s.name = sheet.name
    · simp [insertInto, h]
    · have hne : sheet.name ≠ s.name := fun heq => h heq.symm
      simp only [insertInto, if_neg h, List.map_cons, ih, List.mem_cons, hne, false_or]
      split <;> rfl

/-- A sheet of a new name goes behind all others. -/
theorem insertInto_of_not_mem {sheet : Sheet} {sheets : List Sheet}
    (h : sheet.name ∉ sheets.map (·.name)) : insertInto sheet sheets = sheets ++ [sheet] := by
  induction sheets with
  | nil => rfl
  | cons s ss ih =>
    rw [List.map_cons, List.mem_cons, not_or] at h
    rw [insertInto, if_neg (Ne.symm h.1), ih h.2, List.cons_append]

/-- Every sheet was there before or is the one that was inserted. -/
theorem mem_insertInto {sheet other : Sheet} {sheets : List Sheet}
    (h : other ∈ insertInto sheet sheets) : other = sheet ∨ other ∈ sheets := by
  induction sheets with
  | nil => exact .inl (List.mem_singleton.1 h)
  | cons s ss ih =>
    rw [insertInto] at h
    split at h
    · rcases List.mem_cons.1 h with h | h
      · exact .inl h
      · exact .inr (List.mem_cons_of_mem s h)
    · rcases List.mem_cons.1 h with rfl | h
      · exact .inr List.mem_cons_self
      · exact (ih h).imp id (List.mem_cons_of_mem s)

/-- What insertion keeps holds after a list was inserted. -/
theorem foldl_insert_induction (p : List Sheet → Prop) {sheets : List Sheet} {book : Workbook}
    (hstart : p book.sheets)
    (hstep : ∀ sheet ∈ sheets, ∀ others, p others → p (insertInto sheet others)) :
    p (sheets.foldl insert book).sheets := by
  induction sheets generalizing book with
  | nil => exact hstart
  | cons sheet sheets ih =>
    obtain ⟨hsheet, hsheets⟩ := List.forall_mem_cons.1 hstep
    have hinserted : p (book.insert sheet).sheets := hsheet _ hstart
    exact ih hinserted hsheets

/-- Names that differ still do after a sheet was inserted. -/
theorem nodup_insertInto {sheet : Sheet} {sheets : List Sheet} (h : (sheets.map (·.name)).Nodup) :
    ((insertInto sheet sheets).map (·.name)).Nodup := by
  rw [map_name_insertInto]
  split
  · exact h
  · next hnew =>
    rw [List.nodup_append]
    refine ⟨h, by simp, ?_⟩
    intro a ha b hb heq
    rw [List.mem_singleton] at hb
    exact hnew (hb ▸ heq ▸ ha)

/-- A workbook made of sheets has one of each name. -/
theorem nodup_ofList (sheets : List Sheet) : ((ofList sheets).sheets.map (·.name)).Nodup :=
  foldl_insert_induction (fun others : List Sheet => (others.map Sheet.name).Nodup)
    List.nodup_nil fun _ _ _ => nodup_insertInto

/-- A workbook made of sheets has no others. -/
theorem mem_of_mem_ofList {sheets : List Sheet} {sheet : Sheet} (h : sheet ∈ (ofList sheets).sheets) :
    sheet ∈ sheets := by
  refine foldl_insert_induction (fun others => ∀ s ∈ others, s ∈ sheets)
    (List.forall_mem_nil _) ?_ sheet h
  intro inserted hinserted others hothers s hs
  rcases mem_insertInto hs with rfl | hs
  · exact hinserted
  · exact hothers s hs

/-- Sheets of different names make a workbook of these sheets. -/
theorem ofList_of_nodup {sheets : List Sheet} (h : (sheets.map (·.name)).Nodup) :
    ofList sheets = ⟨sheets⟩ := by
  suffices hfold : ∀ first, ((first ++ sheets).map (·.name)).Nodup →
      sheets.foldl insert ⟨first⟩ = ⟨first ++ sheets⟩ from hfold [] h
  clear h
  induction sheets with
  | nil => intro first _; rw [List.append_nil]; rfl
  | cons sheet sheets ih =>
    intro first hfirst
    have hnew : sheet.name ∉ first.map (·.name) := by
      rw [List.map_append, List.nodup_append] at hfirst
      intro hmem
      exact hfirst.2.2 _ hmem _ List.mem_cons_self rfl
    rw [List.foldl_cons, insert, insertInto_of_not_mem hnew, ih]
    · rw [List.append_assoc, List.singleton_append]
    · rwa [List.append_assoc, List.singleton_append]

/-! ## Names -/

/-- What a workbook calls its sheets and, after them, their columns. -/
def spellings (book : Workbook) : List String :=
  book.sheets.map (·.name) ++ book.sheets.flatMap (·.columns)

/-- The sheets of a workbook and, after them, their columns, as identifiers. -/
def identifiers (book : Workbook) : List Identifier :=
  (book.sheets.map (·.name)).map (Identifier.mk · .sheet) ++
    (book.sheets.flatMap (·.columns)).map (Identifier.mk · .column)

theorem map_name_identifiers (book : Workbook) :
    book.identifiers.map (·.name) = book.spellings := by
  simp [identifiers, spellings, Function.comp_def]

/-- With some keys taken, the first elements of the other keys remain. -/
theorem firstsOf_eq {α : Type} (key : α → String) (taken : List String) (as : List α) :
    firstsOf key taken as = (firsts key as).filter fun a => key a ∉ taken := by
  induction as generalizing taken with
  | nil => rfl
  | cons a as ih =>
    rw [firstsOf, firsts_cons]
    split
    · next ha =>
      rw [ih, List.filter_cons_of_neg (by simpa using ha), filter_filter_ne]
      intro b hb
      simpa [hb] using ha
    · next ha =>
      rw [ih, List.filter_cons_of_pos (by simpa using ha), List.filter_filter]
      congr 1
      refine List.filter_congr ?_
      intro b _
      simp [Bool.and_comm]

theorem firstsOf_nil_eq {α : Type} (key : α → String) (as : List α) :
    firstsOf key [] as = firsts key as := by
  simp [firstsOf_eq]

/-- The columns need not be collected among themselves before. -/
theorem names_eq_ofList (book : Workbook) (casing : Casing) :
    book.names casing = .ofList casing book.identifiers := by
  have hsheets : book.sheets.map (fun sheet => Identifier.mk sheet.name .sheet) =
      (book.sheets.map (·.name)).map (Identifier.mk · .sheet) := by
    rw [List.map_map]
    rfl
  have hcolumns (columns : List String) :
      firsts (fun i => casing.key i.name)
          ((firstsOf casing.key [] columns).map (Identifier.mk · .column)) =
        firsts (fun i => casing.key i.name) (columns.map (Identifier.mk · .column)) := by
    rw [firstsOf_nil_eq, NameTable.firsts_map_mk, NameTable.firsts_map_mk,
      firsts_firsts fun _ _ h => h]
  refine NameTable.ofList_congr ?_
  rw [hsheets, identifiers, firsts_append, firsts_append, hcolumns]

/-- A name is in sight exactly if it has the key of a sheet or of a column. -/
theorem contains_names {book : Workbook} {casing : Casing} {name : String} :
    (book.names casing).contains name = true ↔
      ∃ spelling ∈ book.spellings, casing.key spelling = casing.key name := by
  rw [names_eq_ofList, NameTable.contains_ofList, ← map_name_identifiers]
  simp only [List.mem_map, exists_exists_and_eq_and]

end QueryPad.Workbook
