import QueryPad.Directive.Basic
import QueryPad.Proofs.Text.Numeral
import QueryPad.Proofs.Text.Words
import QueryPad.Proofs.Workbook

/-!
# Directives written and read

Not every directive can be written as a line: a query that began with a colon would be read as
something else, and a sheet whose name holds a space as two. `Directive.IsCanonical` says which can.
Main statement: `parse_render`, a canonical directive is read back from the line that it is written
as, and whatever line is read gives a canonical directive. The lines that begin with a colon are
taken apart in one place (`parse_of_colon`); what stands behind the name is then read by itself.
-/

namespace QueryPad

/-- A text that can stand before a character that ends it: it is not empty, and neither that
character nor a blank one is in it. -/
def Text.IsFieldBefore (ending : Char) (text : String) : Prop :=
  text.toList ≠ [] ∧ ∀ c ∈ text.toList, isBlank c = false ∧ c ≠ ending

/-- A sheet that can be written as a word of a line. -/
def Sheet.IsWritable (sheet : Sheet) : Prop :=
  Text.IsFieldBefore '=' sheet.name ∧ ∀ column ∈ sheet.columns, Text.IsFieldBefore ',' column

instance (ending : Char) (text : String) : Decidable (Text.IsFieldBefore ending text) :=
  @instDecidableAnd _ _ inferInstance (List.decidableBAll _ text.toList)

instance (sheet : Sheet) : Decidable sheet.IsWritable :=
  inferInstanceAs (Decidable
    (Text.IsFieldBefore '=' sheet.name ∧ ∀ column ∈ sheet.columns, Text.IsFieldBefore ',' column))

namespace Directive

open Text (isBlank IsFieldBefore IsTrimmed)

/-- A directive that can be written as a line. -/
def IsCanonical : Directive → Prop
  | .query text => IsTrimmed text.toList ∧ text.toList.head? ≠ some ':'
  | .limit n | .page n => Text.Numeral.signed64.Holds n
  | .sheets book => (book.sheets.map (·.name)).Nodup ∧ ∀ sheet ∈ book.sheets, sheet.IsWritable
  | .complete typed => IsTrimmed typed.toList
  | .tokens | .enable | .disable | .quit => True

instance : DecidablePred IsCanonical
  | .query text =>
    inferInstanceAs (Decidable (IsTrimmed text.toList ∧ text.toList.head? ≠ some ':'))
  | .limit n | .page n => inferInstanceAs (Decidable (Text.Numeral.signed64.Holds n))
  | .sheets book => inferInstanceAs (Decidable
      ((book.sheets.map (·.name)).Nodup ∧ ∀ sheet ∈ book.sheets, sheet.IsWritable))
  | .complete typed => inferInstanceAs (Decidable (IsTrimmed typed.toList))
  | .tokens | .enable | .disable | .quit => .isTrue trivial

variable {line text : String} {name args word : List Char} {sheet : Sheet} {d : Directive}

/-! ## Lines -/

/-- A line without blank ends that begins with no colon is a query. -/
theorem parse_of_not_colon (htrimmed : IsTrimmed text.toList)
    (hcolon : text.toList.head? ≠ some ':') : parse text = .ok (.query text) := by
  rw [parse, Text.trim_eq_self htrimmed]
  split
  · next rest heq =>
    rw [heq] at hcolon
    exact absurd rfl hcolon
  · rw [String.ofList_toList]

/-- A line of a colon, a name and what stands behind it is read by the name. -/
theorem parse_of_colon (hline : line.toList = ':' :: name ++ [' '] ++ args)
    (hname : name.any isBlank = false) (hargs : IsTrimmed args) :
    parse line = ofName (String.ofList name) args := by
  have hname : ∀ c ∈ name, isBlank c = false :=
    fun c hc => eq_false_of_ne_true (List.any_eq_false.1 hname c hc)
  have hfront : IsTrimmed (':' :: name) :=
    Text.isTrimmed_of_forall (List.forall_mem_cons.2 ⟨by decide, hname⟩)
  have hspace : isBlank ' ' = true := by decide
  rw [parse, hline]
  by_cases hne : args = []
  · subst hne
    rw [List.append_nil, Text.trim_append hfront (List.forall_mem_singleton.2 hspace)]
    simp only [Text.divide_of_forall hname]
    rfl
  · rw [Text.trim_eq_self (hfront.append (List.cons_ne_nil _ _) [' '] hargs hne)]
    simp only [List.cons_append, List.append_assoc, List.nil_append,
      Text.divide_append hname hspace, Text.trim_eq_self hargs]

/-! ## Numbers -/

theorem toList_renderNumber (n : Int) : (renderNumber n).toList = Text.Numeral.write n :=
  String.toList_ofList

/-- A number of 64 bits that is written is read back. -/
theorem readNumber_write {n : Int} (h : Text.Numeral.signed64.Holds n) (quantity : Quantity) :
    readNumber quantity (Text.Numeral.write n) = .ok n := by
  rw [readNumber, Text.Numeral.read_write h]

/-- A line that begins with the name of a number is read as that number. -/
theorem parse_number {n : Int} (h : Text.Numeral.signed64.Holds n) {quantity : Quantity}
    {make : Int → Directive} (hline : line.toList = ':' :: name ++ [' '] ++ Text.Numeral.write n)
    (hname : name.any isBlank = false)
    (hmake : ∀ args, ofName (String.ofList name) args = (readNumber quantity args).map make) :
    parse line = .ok (make n) := by
  have hwrite : IsTrimmed (Text.Numeral.write n) :=
    Text.isTrimmed_of_forall fun _ => Text.Numeral.isBlank_of_mem_write
  rw [parse_of_colon hline hname hwrite, hmake, readNumber_write h]
  rfl

/-- Whatever is read has 64 bits. -/
theorem holds_of_readNumber {quantity : Quantity} {n : Int} (h : readNumber quantity args = .ok n) :
    Text.Numeral.signed64.Holds n := by
  rw [readNumber] at h
  split at h
  · next m hread =>
    cases h
    exact Text.Numeral.holds_of_read hread
  · cases h

/-! ## Sheets -/

/-- A sheet as a word has its name before the first equals sign. -/
theorem toList_renderSheet (sheet : Sheet) :
    (renderSheet sheet).toList =
      sheet.name.toList ++ '=' :: [','].intercalate (sheet.columns.map String.toList) := by
  rw [renderSheet, String.toList_append, String.toList_append, String.toList_intercalate,
    List.append_assoc]
  rfl

/-- A field is not divided at what ends it. -/
theorem eq_false_of_isFieldBefore {ending : Char} (h : IsFieldBefore ending text) :
    ∀ c ∈ text.toList, decide (c = ending) = false :=
  fun c hc => decide_eq_false (h.2 c hc).2

/-- A sheet that can be written is read back. -/
theorem readSheet_renderSheet (h : sheet.IsWritable) :
    readSheet (renderSheet sheet).toList = .ok sheet := by
  have hname : sheet.name.toList.isEmpty = false := List.isEmpty_eq_false_iff.2 h.1.1
  have hcolumns : ∀ column ∈ sheet.columns.map String.toList,
      column ≠ [] ∧ ∀ c ∈ column, decide (c = ',') = false := by
    intro column hcolumn
    obtain ⟨column, hmem, rfl⟩ := List.mem_map.1 hcolumn
    exact ⟨(h.2 column hmem).1, eq_false_of_isFieldBefore (h.2 column hmem)⟩
  rw [readSheet, toList_renderSheet,
    Text.divide_append (eq_false_of_isFieldBefore h.1) (decide_eq_true rfl)]
  simp only [hname, Bool.false_eq_true, if_false,
    Text.runs_intercalate (decide_eq_true rfl) hcolumns, List.map_map, String.ofList_toList,
    Function.comp_def, List.map_id']

/-- A sheet that is read from a word without blank characters can be written. -/
theorem isWritable_of_readSheet (h : readSheet word = .ok sheet)
    (hword : ∀ c ∈ word, isBlank c = false) : sheet.IsWritable := by
  rw [readSheet] at h
  dsimp only at h
  split at h
  · cases h
  · next hne =>
    cases h
    refine ⟨⟨?_, ?_⟩, ?_⟩
    · rwa [String.toList_ofList, ne_eq, ← List.isEmpty_iff]
    · intro c hc
      rw [String.toList_ofList] at hc
      obtain ⟨hmem, hc⟩ := Text.mem_fst_divide hc
      exact ⟨hword c hmem, of_decide_eq_false hc⟩
    · intro column hcolumn
      obtain ⟨run, hrun, rfl⟩ := List.mem_map.1 hcolumn
      obtain ⟨hne, hrun⟩ := Text.mem_of_mem_runs hrun
      rw [IsFieldBefore, String.toList_ofList]
      refine ⟨hne, ?_⟩
      intro c hc
      obtain ⟨hmem, hc⟩ := hrun c hc
      exact ⟨hword c (Text.mem_of_mem_snd_divide hmem), of_decide_eq_false hc⟩

/-- A sheet that can be written is a word. -/
theorem toList_renderSheet_isWord (h : sheet.IsWritable) :
    (renderSheet sheet).toList ≠ [] ∧ ∀ c ∈ (renderSheet sheet).toList, isBlank c = false := by
  rw [toList_renderSheet]
  refine ⟨fun hnil => h.1.1 (List.append_eq_nil_iff.1 hnil).1, ?_⟩
  intro c hc
  rcases List.mem_append.1 hc with hc | hc
  · exact (h.1.2 c hc).1
  rcases List.mem_cons.1 hc with rfl | hc
  · decide
  rcases Text.mem_intercalate hc with rfl | ⟨_, hcolumn, hc⟩
  · decide
  · obtain ⟨column, hmem, rfl⟩ := List.mem_map.1 hcolumn
    exact ((h.2 column hmem).2 c hc).1

/-! ## Directives -/

/-- The words of sheets that can be written. -/
theorem forall_isWord {book : Workbook} (h : (sheets book).IsCanonical) :
    ∀ word ∈ book.sheets.map fun sheet => (renderSheet sheet).toList,
      word ≠ [] ∧ ∀ c ∈ word, isBlank c = false := by
  intro word hword
  obtain ⟨sheet, hmem, rfl⟩ := List.mem_map.1 hword
  exact toList_renderSheet_isWord (h.2 sheet hmem)

/-- Sheets that can be written are read back, if no two have the same name. -/
theorem readSheets_render {book : Workbook} (h : (sheets book).IsCanonical) :
    readSheets ([' '].intercalate (book.sheets.map fun sheet => (renderSheet sheet).toList)) =
      .ok book := by
  have hspace : isBlank ' ' = true := by decide
  rw [readSheets, Text.words, Text.runs_intercalate hspace (forall_isWord h),
    mapM_map_eq_ok fun sheet hmem => readSheet_renderSheet (h.2 sheet hmem)]
  exact congrArg Except.ok (Workbook.ofList_of_nodup h.1)

/-- Whatever sheets are read can be written. -/
theorem isCanonical_of_readSheets {book : Workbook} (h : readSheets args = .ok book) :
    (sheets book).IsCanonical := by
  obtain ⟨sheets, hsheets, h⟩ := exists_of_bind_eq_ok h
  cases h
  refine ⟨Workbook.nodup_ofList sheets, ?_⟩
  intro sheet hsheet
  obtain ⟨word, hword, hread⟩ :=
    exists_of_mem_of_mapM_eq_ok hsheets (Workbook.mem_of_mem_ofList hsheet)
  exact isWritable_of_readSheet hread fun c hc => ((Text.mem_of_mem_runs hword).2 c hc).2

/-- A canonical directive is read back from the line that it is written as. -/
theorem parse_render_of_isCanonical (h : d.IsCanonical) : parse d.render = .ok d := by
  cases d with
  | query text => exact parse_of_not_colon h.1 h.2
  | limit n =>
    have hline : (render (.limit n)).toList =
        ':' :: "limit".toList ++ [' '] ++ Text.Numeral.write n := by
      rw [render, String.toList_append, toList_renderNumber]
      rfl
    exact parse_number h hline (by decide) fun _ => rfl
  | page n =>
    have hline : (render (.page n)).toList =
        ':' :: "page".toList ++ [' '] ++ Text.Numeral.write n := by
      rw [render, String.toList_append, toList_renderNumber]
      rfl
    exact parse_number h hline (by decide) fun _ => rfl
  | sheets book =>
    have hline : (render (.sheets book)).toList = ':' :: "sheets".toList ++ [' '] ++
        [' '].intercalate (book.sheets.map fun sheet => (renderSheet sheet).toList) := by
      rw [render, String.toList_append, String.toList_intercalate, List.map_map]
      rfl
    rw [parse_of_colon hline (by decide) (Text.isTrimmed_intercalate (forall_isWord h)).1]
    show (readSheets _).map sheets = _
    rw [readSheets_render h]
    rfl
  | complete typed =>
    have hline : (render (.complete typed)).toList =
        ':' :: "complete".toList ++ [' '] ++ typed.toList := by
      rw [render, String.toList_append]
      rfl
    rw [parse_of_colon hline (by decide) h]
    show Except.ok (complete _) = _
    rw [String.ofList_toList]
  | tokens | enable | disable | quit => rfl

/-- What a name and the text behind it are read as is canonical. -/
theorem isCanonical_of_ofName {name : String} (h : ofName name args = .ok d)
    (hargs : IsTrimmed args) : d.IsCanonical := by
  unfold ofName at h
  split at h
  · obtain ⟨n, hread, rfl⟩ := exists_of_map_eq_ok h
    exact holds_of_readNumber hread
  · obtain ⟨n, hread, rfl⟩ := exists_of_map_eq_ok h
    exact holds_of_readNumber hread
  · obtain ⟨book, hread, rfl⟩ := exists_of_map_eq_ok h
    exact isCanonical_of_readSheets hread
  · cases h
    rwa [IsCanonical, String.toList_ofList]
  all_goals cases h
  all_goals trivial

/-- Whatever a line is read as is canonical. -/
theorem isCanonical_of_parse (h : parse line = .ok d) : d.IsCanonical := by
  rw [parse] at h
  split at h
  · exact isCanonical_of_ofName h (Text.isTrimmed_trim _)
  · next hcolon =>
    cases h
    rw [IsCanonical, String.toList_ofList]
    refine ⟨Text.isTrimmed_trim _, ?_⟩
    intro hhead
    obtain ⟨rest, hrest⟩ := List.head?_eq_some_iff.1 hhead
    exact hcolon rest hrest

/-- The canonical directives are those that are read back from the lines that they are written as,
and no line is read as any other. -/
theorem parse_render (d : Directive) :
    (d.IsCanonical → parse d.render = .ok d) ∧ ∀ line, parse line = .ok d → d.IsCanonical :=
  ⟨parse_render_of_isCanonical, fun _ => isCanonical_of_parse⟩

theorem parse_render_sheets :
    let d := sheets ⟨[⟨"sales", ["a=b", "año"]⟩, ⟨"x,y", []⟩]⟩
    d.IsCanonical ∧ parse d.render = .ok d := by
  intro d
  have h : d.IsCanonical := by decide
  exact ⟨h, (parse_render d).1 h⟩

/-- The least number of 64 bits has no positive counterpart. -/
example : parse (limit (-9223372036854775808)).render = .ok (limit (-9223372036854775808)) := by
  decide

end Directive

end QueryPad
