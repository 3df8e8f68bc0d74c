import QueryPad.Proofs.Session.Step
import QueryPad.Proofs.Workbook

/-!
# Highlighting is never stale

What a session shows follows from three things: the text, the casing, and the names in sight, which
are those of the last workbook that it took note of or else those it was set up with. `highlight`
says so without the tables in which an editor keeps names. Main statement: `painted_after`, every
run leaves exactly these tokens painted. `Highlit` is the invariant that carries it, and the names
that it is about change with each workbook (`Highlit.perform`).
-/

namespace QueryPad

/-- A lexeme as it is to be painted: of the kind that the grammar says, but for an identifier that
spells one of the names, which is a variable. -/
def highlight (casing : Casing) (names : List String) (l : Lexeme) : Token where
  kind :=
    if Grammar.sql.kindOf l.text = .identifier ∧
        ∃ name ∈ names, casing.key name = casing.key (Delimited.strip l.text) then .variable
    else Grammar.sql.kindOf l.text
  text := l.text
  start := l.start
  stop := l.stop

/-- A table that holds exactly the names makes an editor show every lexeme as it is to be
painted. -/
theorem Grammar.tokensIn_eq_map_highlight {casing : Casing} {names : List String}
    {table : NameTable}
    (h : ∀ name, table.contains name = true ↔ ∃ n ∈ names, casing.key n = casing.key name)
    (text : String) :
    Grammar.sql.tokensIn table text = (Lexeme.all text).map (highlight casing names) := by
  refine List.map_congr_left ?_
  intro l _
  rw [Token.ofLexeme, highlight, kindIn]
  simp only [← h]
  split
  · next hkind => simp only [hkind, true_and]
  · next hkind => rw [if_neg fun hvariable => hkind hvariable.1]

/-- The names that a session is set up with. -/
def Setup.givenNames (setup : Setup) : List String :=
  match setup.names with
  | some table => table.names
  | none => []

/-- A new session holds the names that it is set up with, compared by its own casing. -/
theorem Setup.contains_initialNames {setup : Setup} {name : String} :
    setup.initialNames.contains name = true ↔
      ∃ n ∈ setup.givenNames, setup.casing.key n = setup.casing.key name := by
  rw [initialNames, givenNames]
  cases setup.names with
  | none => simp [NameTable.contains, NameTable.empty]
  | some table =>
    rw [NameTable.contains_recase]
    constructor
    · rintro ⟨i, hi, hkey⟩
      exact ⟨i.name, List.mem_map_of_mem hi, hkey⟩
    · rintro ⟨n, hn, hkey⟩
      obtain ⟨i, hi, rfl⟩ := List.mem_map.1 hn
      exact ⟨i, hi, hkey⟩

namespace Session

/-! ## The names in sight -/

/-- The workbook that an operation makes the session take note of. -/
def Operation.sheets? : Operation → Option Workbook
  | .setSheets book => some book
  | .enable | .disable | .setLimit _ | .setPage _ | .submit _ | .press _ | .showMessage _
  | .edit _ => none

/-- The last workbook that operations make the session take note of. -/
def latestSheets? (os : List Operation) : Option Workbook :=
  (os.filterMap Operation.sheets?).getLast?

theorem latestSheets?_cons (o : Operation) (os : List Operation) :
    latestSheets? (o :: os) = (latestSheets? os).or o.sheets? := by
  unfold latestSheets?
  cases h : o.sheets? <;> simp [h, List.getLast?_cons]

/-- The names in sight after operations, given those of before: what the last workbook calls its
sheets and columns. -/
def namesAfter (names : List String) (os : List Operation) : List String :=
  match latestSheets? os with
  | some book => book.spellings
  | none => names

theorem namesAfter_cons (names : List String) (o : Operation) (os : List Operation) :
    namesAfter names (o :: os) = namesAfter (namesAfter names [o]) os := by
  simp only [namesAfter, latestSheets?_cons]
  cases latestSheets? os <;> rfl

/-- An operation that submits brings no names in sight. -/
theorem namesAfter_of_draft? {s : Session} {o : Operation} {draft : Except Error Session}
    (h : o.draft? s = some draft) (names : List String) : namesAfter names [o] = names := by
  cases o with
  | setSheets book => cases h
  | enable | disable | setLimit | setPage | submit | press | showMessage | edit => rfl

/-! ## What holds between operations -/

/-- A session compares names by the casing, its editor holds exactly the names, and its colours are
up to date. -/
structure Highlit (casing : Casing) (names : List String) (s : Session) : Prop where
  casing_eq : s.casing = casing
  contains_iff : ∀ name, s.editor.names.contains name = true ↔
    ∃ n ∈ names, casing.key n = casing.key name
  isFresh : s.editor.IsFresh

variable {casing : Casing} {names : List String} {s : Session}

/-- What such a session shows. -/
theorem Highlit.painted_eq (h : Highlit casing names s) :
    s.editor.buffer.painted = (Lexeme.all s.editor.text).map (highlight casing names) := by
  rw [h.isFresh]
  exact Grammar.tokensIn_eq_map_highlight h.contains_iff _

/-- A change of the editor that keeps the names keeps the rest. -/
theorem Highlit.replaceEditor (h : Highlit casing names s) {editor : Editor .sql}
    (hnames : editor.names = s.editor.names) (hfresh : editor.IsFresh) :
    Highlit casing names { s with editor := editor } where
  casing_eq := h.casing_eq
  contains_iff name := by
    show editor.names.contains name = true ↔ _
    rw [hnames, h.contains_iff]
  isFresh := hfresh

/-- Every operation either paints or concerns neither text nor names. -/
theorem Highlit.perform (h : Highlit casing names s) (o : Operation) :
    Highlit casing (namesAfter names [o]) ((perform o).run s).session := by
  have hstep := step_perform o s
  generalize (Session.perform o).run s = out at hstep ⊢
  cases hstep with
  | enable | disable | showMessage => exact ⟨h.casing_eq, h.contains_iff, h.isFresh⟩
  | setSheets book =>
    refine ⟨h.casing_eq, fun name => ?_, Editor.isFresh_repaint _⟩
    show (book.names s.casing).contains name = true ↔ _
    rw [Workbook.contains_names, h.casing_eq]
    rfl
  | edit change => exact h.replaceEditor (Editor.names_apply _ _) (h.isFresh.apply change)
  | type => exact h.replaceEditor (Editor.names_press _ _) (h.isFresh.press _)
  | submit hdraft =>
    rw [namesAfter_of_draft? hdraft, (drafted_of_draft? hdraft).eq]
    exact ⟨h.casing_eq, h.contains_iff, h.isFresh⟩
  | bar hdraft | refuse hdraft =>
    rw [namesAfter_of_draft? hdraft]
    exact h

/-- Operations one after the other keep it too. -/
theorem Highlit.after (h : Highlit casing names s) (os : List Operation) :
    Highlit casing (namesAfter names os) (Session.after os s) := by
  induction os generalizing names s with
  | nil => exact h
  | cons o os ih =>
    rw [namesAfter_cons]
    exact ih (h.perform o)

/-- A session is so when it is built. -/
theorem highlit_of_build {setup : Setup} {opened : Logged Session}
    (h : setup.build = .ok opened) : Highlit setup.casing setup.givenNames opened.value := by
  obtain ⟨_, _, _, _, editor, -, hopen, rfl⟩ := Setup.exists_of_build h
  have heditor := Editor.eq_repaint_of_openOn hopen
  refine ⟨rfl, fun name => ?_, ?_⟩
  · show editor.value.names.contains name = true ↔ _
    rw [heditor]
    exact Setup.contains_initialNames
  · show editor.value.IsFresh
    rw [heditor]
    exact Editor.isFresh_repaint _

/-! ## Whole runs -/

/-- All along every run of a session that can be built, it shows the lexemes of its text, each as it
is to be painted among the names in sight. -/
theorem painted_after {setup : Setup} {opened : Logged Session} (h : setup.build = .ok opened)
    (os : List Operation) :
    (after os opened.value).editor.buffer.painted =
      (Lexeme.all (after os opened.value).editor.text).map
        (highlight setup.casing (namesAfter setup.givenNames os)) :=
  ((highlit_of_build h).after os).painted_eq

theorem painted_after_sales :
    ∃ opened, Setup.sales.build = .ok opened ∧
      (after [.setSheets ⟨[⟨"costs", ["total"]⟩]⟩, .edit (.setText "select total from costs")]
          opened.value).editor.buffer.painted =
        (Lexeme.all "select total from costs").map (highlight .sensitive ["costs", "total"]) := by
  obtain ⟨opened, h⟩ : ∃ opened, Setup.sales.build = .ok opened := ⟨_, rfl⟩
  exact ⟨opened, h, painted_after h
    [.setSheets ⟨[⟨"costs", ["total"]⟩]⟩, .edit (.setText "select total from costs")]⟩

example :
    (Lexeme.all "select total").map (highlight .sensitive ["costs", "total"]) =
      [{ kind := .keyword, text := "select", start := 0, stop := 6 },
       { kind := .variable, text := "total", start := 7, stop := 12 }] := by
  decide +kernel

end Session

end QueryPad
