import Mathlib.Data.List.Forall2
import QueryPad.Grammar.Basic

/-!
# Other names over the same grammar

What becomes of the tokens of a text when other names are laid over its grammar. They stay where they
are, and the kind of a token depends on the names only where the grammar says identifier
(`Recoloured`); a token that is a variable stays one if no name was taken away. Main statements:
`forall₂_recoloured` and `forall₂_variable`, for two tables of names whatever the grammar.
-/

namespace QueryPad

/-- Where the same names are the same, a table that has the names of another one has whatever that
has. -/
theorem NameTable.contains_of_forall {table table' : NameTable} {name : String}
    (hcasing : table'.casing = table.casing)
    (h : ∀ other ∈ table.names, table'.contains other = true) (hname : table.contains name = true) :
    table'.contains name = true := by
  obtain ⟨i, hi, hkey⟩ := contains_iff.1 hname
  obtain ⟨j, hj, hkey'⟩ := contains_iff.1 (h i.name (List.mem_map_of_mem hi))
  rw [hcasing] at hkey'
  exact contains_iff.2 ⟨j, hj, by rw [hcasing, hkey', hkey]⟩

namespace Grammar

variable {grammar : Grammar} {names names' : NameTable} {text : String}

/-- Names matter where the grammar says identifier, -/
theorem kindIn_of_identifier (h : grammar.kindOf text = .identifier) (names : NameTable) :
    grammar.kindIn names text =
      if names.contains (Delimited.strip text) then .variable else .identifier := by
  rw [kindIn, h]

/-- and nowhere else. -/
theorem kindIn_of_ne_identifier (h : grammar.kindOf text ≠ .identifier) (names : NameTable) :
    grammar.kindIn names text = grammar.kindOf text := by
  unfold kindIn
  split
  · next heq => exact absurd heq h
  · rfl

/-- Where names make a difference, an identifier becomes a variable or a variable an identifier. -/
theorem kinds_of_kindIn_ne (hne : grammar.kindIn names' text ≠ grammar.kindIn names text) :
    grammar.kindOf text = .identifier ∧
      (grammar.kindIn names text = .identifier ∧ grammar.kindIn names' text = .variable ∨
        grammar.kindIn names text = .variable ∧ grammar.kindIn names' text = .identifier) := by
  by_cases hkind : grammar.kindOf text = .identifier
  · refine ⟨hkind, ?_⟩
    rw [kindIn_of_identifier hkind, kindIn_of_identifier hkind] at hne ⊢
    cases hnames : names.contains (Delimited.strip text) <;>
      cases hnames' : names'.contains (Delimited.strip text) <;>
        simp [hnames, hnames'] at hne ⊢
  · rw [kindIn_of_ne_identifier hkind, kindIn_of_ne_identifier hkind] at hne
    exact absurd rfl hne

/-- A variable stays one if no name is taken away. -/
theorem kindIn_eq_variable
    (h : ∀ name, names.contains name = true → names'.contains name = true)
    (hvariable : grammar.kindIn names text = .variable) :
    grammar.kindIn names' text = .variable := by
  by_cases hkind : grammar.kindOf text = .identifier
  · rw [kindIn_of_identifier hkind] at hvariable ⊢
    split at hvariable
    · next hcontains => rw [if_pos (h _ hcontains)]
    · cases hvariable
  · rwa [kindIn_of_ne_identifier hkind] at hvariable ⊢

/-! ## Token by token -/

/-- How a token stands to the one in its place when other names are laid over the grammar. -/
structure Recoloured (grammar : Grammar) (t t' : Token) : Prop where
  text_eq : t'.text = t.text
  start_eq : t'.start = t.start
  stop_eq : t'.stop = t.stop
  /-- The kind changes from identifier to variable or back, and only where the grammar says
  identifier. -/
  kinds_of_ne : t'.kind ≠ t.kind → grammar.kindOf t.text = .identifier ∧
    (t.kind = .identifier ∧ t'.kind = .variable ∨ t.kind = .variable ∧ t'.kind = .identifier)
  /-- What the grammar fixes has the kind that the grammar says, before and afterwards. -/
  kinds_of_isFixed : (grammar.kindOf t.text).isFixed = true →
    t.kind = grammar.kindOf t.text ∧ t'.kind = grammar.kindOf t.text

/-- Tokens of the same text can be compared lexeme by lexeme. -/
theorem forall₂_tokensIn {R : Token → Token → Prop}
    (h : ∀ l, R (.ofLexeme (grammar.kindIn names) l) (.ofLexeme (grammar.kindIn names') l))
    (text : String) : List.Forall₂ R (grammar.tokensIn names text) (grammar.tokensIn names' text) := by
  rw [tokensIn, tokensIn, Token.all, Token.all, List.forall₂_map_left_iff,
    List.forall₂_map_right_iff, List.forall₂_same]
  intro l _
  exact h l

/-- Whatever the names, the tokens are the same but for identifiers and variables. -/
theorem forall₂_recoloured (grammar : Grammar) (names names' : NameTable) (text : String) :
    List.Forall₂ (Recoloured grammar) (grammar.tokensIn names text)
      (grammar.tokensIn names' text) := by
  refine forall₂_tokensIn (fun l => ?_) text
  exact {
    text_eq := rfl
    start_eq := rfl
    stop_eq := rfl
    kinds_of_ne := kinds_of_kindIn_ne
    kinds_of_isFixed := fun h => ⟨kindIn_of_isFixed h names, kindIn_of_isFixed h names'⟩ }

/-- If no name is taken away, every variable stays one. -/
theorem forall₂_variable (grammar : Grammar) (hcasing : names'.casing = names.casing)
    (h : ∀ name ∈ names.names, names'.contains name = true) (text : String) :
    List.Forall₂ (fun t t' => t.kind = .variable → t'.kind = .variable)
      (grammar.tokensIn names text) (grammar.tokensIn names' text) :=
  forall₂_tokensIn (fun _ => kindIn_eq_variable fun _ => NameTable.contains_of_forall hcasing h) text

end Grammar

end QueryPad
