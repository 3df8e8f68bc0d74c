import Mathlib.Data.Finset.Card
import Mathlib.Data.List.DropRight
import QueryPad.Proofs.Workbook

/-!
# Workbooks by their history

A workbook comes about by sheets that are opened and closed. What it holds follows from these
operations alone: the sheet of a name is the one that was inserted last, if the name was not removed
since (`latest?`), and the sheets stand in the order in which their names were opened (`openedAt`),
which is not changed by inserting an open one again. `Records` says so of a workbook and a history.
Main statement: `records_after`. One operation more is one more at the end of the history, where
`latest?_concat` and `openedAt_concat_of_ne` say what becomes of each name; `Follows` is the invariant
that goes along.
-/

namespace QueryPad.Workbook

/-! ## Runs -/

/-- What is done to a workbook. -/
inductive Operation
  | insert (sheet : Sheet)
  | remove (name : String)
  deriving DecidableEq, Repr

/-- The name of the sheet that is opened or closed. -/
def Operation.name : Operation → String
  | .insert sheet => sheet.name
  | .remove name => name

/-- The sheet that is inserted. -/
def Operation.sheet? : Operation → Option Sheet
  | .insert sheet => some sheet
  | .remove _ => none

/-- What an operation makes of a workbook. -/
def perform (book : Workbook) : Operation → Workbook
  | .insert sheet => book.insert sheet
  | .remove name => (book.remove name).2

/-- The workbook after operations. -/
def after (os : List Operation) (book : Workbook) : Workbook :=
  os.foldl perform book

/-- To make a workbook of sheets is to insert them into an empty one. -/
theorem ofList_eq_after (sheets : List Sheet) :
    ofList sheets = after (sheets.map .insert) empty := by
  rw [ofList, after, List.foldl_map]
  rfl

/-! ## Histories -/

/-- The sheet of the last insertion of a name, if the name was not removed later: what the last
operation on the name inserts. -/
def latest? (name : String) (os : List Operation) : Option Sheet :=
  (os.filter (·.name = name)).getLast?.bind Operation.sheet?

/-- The operations since a name was last removed. -/
def sinceRemoval (name : String) (os : List Operation) : List Operation :=
  os.rtakeWhile (· ≠ .remove name)

/-- Where in a history a name was opened: at its first insertion since it was last removed. Since
then all operations on the name are insertions. -/
def openedAt (name : String) (os : List Operation) : Nat :=
  (os.length - (sinceRemoval name os).length) + (sinceRemoval name os).findIdx (·.name = name)

variable {os : List Operation} {o : Operation} {name : String}

theorem latest?_concat (name : String) (os : List Operation) (o : Operation) :
    latest? name (os ++ [o]) = if o.name = name then o.sheet? else latest? name os := by
  rw [latest?, List.filter_append]
  split
  · next h => simp [h]
  · next h => simp [h, latest?]

theorem sinceRemoval_concat_of_ne (h : o ≠ .remove name) :
    sinceRemoval name (os ++ [o]) = sinceRemoval name os ++ [o] :=
  List.rtakeWhile_concat_pos _ _ _ (decide_eq_true h)

theorem length_sinceRemoval_le (name : String) (os : List Operation) :
    (sinceRemoval name os).length ≤ os.length :=
  (List.rtakeWhile_suffix _ _).length_le

/-- A name is open exactly if there is an operation on it since it was last removed. -/
theorem isSome_latest?_iff :
    (latest? name os).isSome = true ↔ ∃ o ∈ sinceRemoval name os, o.name = name := by
  induction os using List.reverseRecOn with
  | nil => simp [latest?, sinceRemoval]
  | append_singleton os o ih =>
    rw [latest?_concat]
    by_cases hremove : o = .remove name
    · simp [hremove, Operation.name, Operation.sheet?, sinceRemoval]
    · rw [sinceRemoval_concat_of_ne hremove]
      split
      · next hname =>
        refine iff_of_true ?_ ⟨o, by simp, hname⟩
        cases o with
        | insert sheet => rfl
        | remove other => exact absurd (congrArg Operation.remove hname) hremove
      · next hname => simp [ih, hname]

/-- So its insertion is found among the operations since then. -/
theorem findIdx_sinceRemoval_lt_iff :
    (sinceRemoval name os).findIdx (·.name = name) < (sinceRemoval name os).length ↔
      (latest? name os).isSome = true := by
  rw [List.findIdx_lt_length, isSome_latest?_iff]
  simp only [decide_eq_true_eq]

/-- A name that is open was opened before now, -/
theorem openedAt_lt_length (h : (latest? name os).isSome = true) :
    openedAt name os < os.length := by
  have hfound := findIdx_sinceRemoval_lt_iff.2 h
  have hle := length_sinceRemoval_le name os
  rw [openedAt]
  omega

/-- and where does not change until it is removed. -/
theorem openedAt_concat_of_ne (h : (latest? name os).isSome = true) (hne : o ≠ .remove name) :
    openedAt name (os ++ [o]) = openedAt name os := by
  rw [openedAt, openedAt, sinceRemoval_concat_of_ne hne, List.findIdx_append,
    if_pos (findIdx_sinceRemoval_lt_iff.2 h), List.length_append, List.length_append,
    Nat.add_sub_add_right]

/-- A name that is not open is opened now, if it is inserted. -/
theorem openedAt_concat_insert {sheet : Sheet} (h : latest? sheet.name os = none) :
    openedAt sheet.name (os ++ [.insert sheet]) = os.length := by
  have hnot : ¬ (sinceRemoval sheet.name os).findIdx (·.name = sheet.name) <
      (sinceRemoval sheet.name os).length := by
    rw [findIdx_sinceRemoval_lt_iff, h]
    exact nofun
  have hle := length_sinceRemoval_le sheet.name os
  have hthere : [Operation.insert sheet].findIdx (·.name = sheet.name) = 0 := by
    simp [Operation.name]
  rw [openedAt, sinceRemoval_concat_of_ne (by simp), List.findIdx_append, if_neg hnot, hthere,
    List.length_append, List.length_append, Nat.add_sub_add_right]
  omega

/-! ## One operation -/

theorem name_ne_of_not_mem {sheet : Sheet} {sheets : List Sheet}
    (h : sheet.name ∉ sheets.map (·.name)) : ∀ s ∈ sheets, s.name ≠ sheet.name :=
  fun _ hs heq => h (heq ▸ List.mem_map_of_mem hs)

/-- A sheet whose name is open is put where the sheet of that name stands. -/
theorem insertInto_of_mem {sheet : Sheet} {sheets : List Sheet}
    (hnodup : (sheets.map (·.name)).Nodup) (h : sheet.name ∈ sheets.map (·.name)) :
    insertInto sheet sheets = sheets.map fun s => if s.name = sheet.name then sheet else s := by
  induction sheets with
  | nil => cases h
  | cons s ss ih =>
    rw [List.map_cons, List.nodup_cons] at hnodup
    rw [insertInto, List.map_cons]
    split
    · next heq =>
      have hrest : ∀ t ∈ ss, (if t.name = sheet.name then sheet else t) = t :=
        fun t ht => if_neg (heq ▸ name_ne_of_not_mem hnodup.1 t ht)
      rw [List.map_congr_left hrest, List.map_id']
    · next hne =>
      rw [List.map_cons, List.mem_cons, or_iff_right (Ne.symm hne)] at h
      rw [ih hnodup.2 h]

/-- To remove a name takes out the sheets of that name, of which there is one at most. -/
theorem sheets_remove {book : Workbook} (h : (book.sheets.map (·.name)).Nodup) (name : String) :
    (book.remove name).2.sheets = book.sheets.filter (·.name ≠ name) := by
  have hfrom : ∀ sheets : List Sheet, (sheets.map (·.name)).Nodup →
      ((removeFrom? name sheets).map (·.2)).getD sheets = sheets.filter (·.name ≠ name) := by
    intro sheets hnodup
    induction sheets with
    | nil => rfl
    | cons s ss ih =>
      rw [List.map_cons, List.nodup_cons] at hnodup
      by_cases hs : s.name = name
      · have hrest : ss.filter (·.name ≠ name) = ss :=
          List.filter_eq_self.2 fun t ht =>
            decide_eq_true (hs ▸ name_ne_of_not_mem hnodup.1 t ht)
        rw [removeFrom?, if_pos hs, List.filter_cons_of_neg (by simpa using hs), hrest]
        rfl
      · rw [removeFrom?, if_neg hs, List.filter_cons_of_pos (by simpa using hs), ← ih hnodup.2]
        cases removeFrom? name ss <;> rfl
  rw [← hfrom book.sheets h, remove]
  cases removeFrom? name book.sheets <;> rfl

/-- Where no name occurs twice, the sheets are those that are found by their names. -/
theorem mem_sheets_iff {book : Workbook} (h : (book.sheets.map (·.name)).Nodup) {sheet : Sheet} :
    sheet ∈ book.sheets ↔ book.find? sheet.name = some sheet := by
  refine ⟨fun hmem => ?_, List.mem_of_find?_eq_some⟩
  have hsome : (book.find? sheet.name).isSome = true :=
    List.find?_isSome.2 ⟨sheet, hmem, beq_self_eq_true sheet.name⟩
  obtain ⟨s, hs⟩ := Option.isSome_iff_exists.1 hsome
  have hname : s.name = sheet.name := eq_of_beq (List.find?_some hs :)
  rw [hs, List.inj_on_of_nodup_map h (List.mem_of_find?_eq_some hs) hmem hname]

/-- A name is open exactly if a sheet of that name is found. -/
theorem mem_map_name_iff {book : Workbook} :
    name ∈ book.sheets.map (·.name) ↔ (book.find? name).isSome = true := by
  rw [find?, List.find?_isSome, List.mem_map]
  simp only [beq_iff_eq]

/-- After a removal the sheet of that name is not found, and every other one is as before. -/
theorem find?_remove {book : Workbook} (h : (book.sheets.map (·.name)).Nodup)
    (name other : String) :
    (book.remove name).2.find? other = if name = other then none else book.find? other := by
  split
  · next heq =>
    rw [← heq, find?, sheets_remove h, List.find?_eq_none]
    intro s hs
    simpa using (List.mem_filter.1 hs).2
  · next hne => exact find?_remove_of_ne book (Ne.symm hne)

/-! ## Histories and workbooks -/

/-- A workbook follows a history: it finds what the history leaves open, in the order in which it was
opened. -/
structure Follows (os : List Operation) (book : Workbook) : Prop where
  nodup_names : (book.sheets.map (·.name)).Nodup
  find?_eq (name : String) : book.find? name = latest? name os
  pairwise_names : (book.sheets.map (·.name)).Pairwise fun name other =>
    openedAt name os < openedAt other os

variable {book : Workbook}

theorem Follows.mem_map_name_iff (h : Follows os book) :
    name ∈ book.sheets.map (·.name) ↔ (latest? name os).isSome = true := by
  rw [Workbook.mem_map_name_iff, h.find?_eq]

/-- Names that stay open stay in their order. -/
theorem Follows.pairwise_concat (h : Follows os book) {names : List String}
    (hnames : names.Sublist (book.sheets.map (·.name))) (hne : ∀ name ∈ names, o ≠ .remove name) :
    names.Pairwise fun name other => openedAt name (os ++ [o]) < openedAt other (os ++ [o]) := by
  refine (h.pairwise_names.sublist hnames).imp_of_mem ?_
  intro name other hname hother hlt
  rwa [openedAt_concat_of_ne (h.mem_map_name_iff.1 (hnames.subset hname)) (hne name hname),
    openedAt_concat_of_ne (h.mem_map_name_iff.1 (hnames.subset hother)) (hne other hother)]

theorem Follows.insert (h : Follows os book) (sheet : Sheet) :
    Follows (os ++ [.insert sheet]) (book.insert sheet) := by
  refine ⟨nodup_insertInto h.nodup_names, fun name => ?_, ?_⟩
  · rw [latest?_concat, ← h.find?_eq]
    exact find?_insert book sheet name
  · have hne (name : String) : Operation.insert sheet ≠ .remove name := nofun
    have hkept := h.pairwise_concat (List.Sublist.refl _) fun name _ => hne name
    show ((insertInto sheet book.sheets).map (·.name)).Pairwise _
    rw [map_name_insertInto]
    split
    · exact hkept
    · next hnew =>
      -- a new name is opened behind all others
      rw [h.mem_map_name_iff, Option.not_isSome_iff_eq_none] at hnew
      refine List.pairwise_append.2 ⟨hkept, List.pairwise_singleton _ _, ?_⟩
      intro name hname other hother
      have hopen := h.mem_map_name_iff.1 hname
      rw [List.mem_singleton.1 hother, openedAt_concat_insert hnew,
        openedAt_concat_of_ne hopen (hne name)]
      exact openedAt_lt_length hopen

theorem Follows.remove (h : Follows os book) (name : String) :
    Follows (os ++ [.remove name]) (book.remove name).2 := by
  have hsheets := sheets_remove h.nodup_names name
  have hsub : ((book.remove name).2.sheets.map (·.name)).Sublist (book.sheets.map (·.name)) :=
    hsheets ▸ List.filter_sublist.map _
  refine ⟨h.nodup_names.sublist hsub, fun other => ?_, h.pairwise_concat hsub ?_⟩
  · rw [latest?_concat, ← h.find?_eq]
    exact find?_remove h.nodup_names name other
  · intro other hother heq
    cases heq
    rw [hsheets] at hother
    obtain ⟨s, hs, hname⟩ := List.mem_map.1 hother
    simpa [hname] using (List.mem_filter.1 hs).2

/-- Whatever is done to an empty workbook, it follows what was done. -/
theorem follows_after (os : List Operation) : Follows os (after os empty) := by
  induction os using List.reverseRecOn with
  | nil => exact ⟨List.nodup_nil, fun _ => rfl, List.Pairwise.nil⟩
  | append_singleton os o ih =>
    rw [after, List.foldl_append]
    cases o with
    | insert sheet => exact ih.insert sheet
    | remove name => exact ih.remove name

/-- A workbook is the ordered map that a history of insertions and removals makes. -/
structure Records (os : List Operation) (book : Workbook) : Prop where
  nodup_names : (book.sheets.map (·.name)).Nodup
  /-- What is found is the latest sheet that was inserted and not removed. -/
  find?_eq (name : String) : book.find? name = latest? name os
  /-- A removal hands back what is found, -/
  fst_remove (name : String) : (book.remove name).1 = book.find? name
  /-- and afterwards that is not found, and everything else as before. -/
  find?_remove (name other : String) :
    (book.remove name).2.find? other = if name = other then none else book.find? other
  mem_iff (sheet : Sheet) : sheet ∈ book.sheets ↔ latest? sheet.name os = some sheet
  /-- The sheets stand in the order in which they were opened. -/
  pairwise_openedAt : book.sheets.Pairwise fun s t => openedAt s.name os < openedAt t.name os
  /-- A sheet that is inserted while its name is open takes the place of the one that was there. -/
  sheets_insert (sheet : Sheet) : (latest? sheet.name os).isSome = true →
    (book.insert sheet).sheets = book.sheets.map fun s => if s.name = sheet.name then sheet else s
  /-- There are as many sheets as names that are open. -/
  size_eq : book.size =
    ((os.map (·.name)).toFinset.filter fun name => (latest? name os).isSome = true).card

theorem mem_map_name_of_isSome_latest? (h : (latest? name os).isSome = true) :
    name ∈ os.map (·.name) := by
  obtain ⟨o, ho, hname⟩ := isSome_latest?_iff.1 h
  exact List.mem_map.2 ⟨o, (List.rtakeWhile_suffix _ _).subset ho, hname⟩

theorem Follows.size_eq (h : Follows os book) : book.size =
    ((os.map (·.name)).toFinset.filter fun name => (latest? name os).isSome = true).card := by
  have hnames : (os.map (·.name)).toFinset.filter (fun name => (latest? name os).isSome = true) =
      (book.sheets.map (·.name)).toFinset := by
    ext name
    rw [Finset.mem_filter, List.mem_toFinset, List.mem_toFinset, h.mem_map_name_iff]
    exact and_iff_right_of_imp mem_map_name_of_isSome_latest?
  rw [hnames, List.toFinset_card_of_nodup h.nodup_names, List.length_map, size]

/-- Whatever is inserted and removed, starting with the sheets of a list, the workbook is the ordered
map that this makes. -/
theorem records_after (sheets : List Sheet) (os : List Operation) :
    Records (sheets.map .insert ++ os) (after os (ofList sheets)) := by
  have hrun : after os (ofList sheets) = after (sheets.map .insert ++ os) empty := by
    rw [ofList_eq_after, after, after, after, List.foldl_append]
  rw [hrun]
  have h := follows_after (sheets.map .insert ++ os)
  have horder := h.pairwise_names
  rw [List.pairwise_map] at horder
  exact {
    nodup_names := h.nodup_names
    find?_eq := h.find?_eq
    fst_remove := fst_remove _
    find?_remove := find?_remove h.nodup_names
    mem_iff := fun sheet => by rw [mem_sheets_iff h.nodup_names, h.find?_eq]
    pairwise_openedAt := horder
    sheets_insert := fun sheet hopen =>
      insertInto_of_mem h.nodup_names (h.mem_map_name_iff.2 hopen)
    size_eq := h.size_eq }

example :
    let os : List Operation :=
      [.insert ⟨"a", []⟩, .insert ⟨"b", []⟩, .insert ⟨"a", ["x"]⟩, .insert ⟨"c", []⟩, .remove "b",
        .insert ⟨"b", ["y"]⟩]
    (after os empty).sheets = [⟨"a", ["x"]⟩, ⟨"c", []⟩, ⟨"b", ["y"]⟩] ∧
      openedAt "a" os = 0 ∧ openedAt "c" os = 3 ∧ openedAt "b" os = 5 := by
  decide +kernel

end QueryPad.Workbook
