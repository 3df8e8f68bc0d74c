import QueryPad.Proofs.Editor.Press
import QueryPad.Proofs.Grammar.Overlay

/-!
# Editors whose names are replaced

The names in sight of an editor may be replaced at any time. An editor always holds those that it was
opened with or given last, whatever else is done to it or to its buffer (`names_after`), and as long as
nobody touches its buffer but through the editor, it shows what they make of the text
(`IsFresh.after`). To replace them is then a matter of colours alone: nothing changes but the names, the
number of paints, and the kinds of tokens, one by one. Main statement: `setNames_after`.
-/

namespace QueryPad.Editor

/-! ## Runs -/

/-- What is done to an editor. -/
inductive Operation
  | setNames (names : NameTable)
  | edit (change : Edit)
  /-- Something is done to the buffer behind the back of the editor. -/
  | touch (f : Buffer → Buffer)

variable {grammar : Grammar} {e : Editor grammar} {o : Operation} {os : List Operation}

/-- What an operation makes of an editor. -/
def perform (e : Editor grammar) : Operation → Editor grammar
  | .setNames names => (e.setNames names).value
  | .edit change => (e.apply change).value
  | .touch f => { e with buffer := f e.buffer }

/-- The editor after operations. -/
def after (os : List Operation) (e : Editor grammar) : Editor grammar :=
  os.foldl perform e

/-! ## The names in sight -/

/-- The names that an operation brings in sight. -/
def Operation.names? : Operation → Option NameTable
  | .setNames names => some names
  | .edit _ | .touch _ => none

/-- The names in sight after operations, given those of before: the last that are brought in sight. -/
def latestNames (names : NameTable) (os : List Operation) : NameTable :=
  (os.filterMap Operation.names?).getLast?.getD names

theorem latestNames_cons (names : NameTable) (o : Operation) (os : List Operation) :
    latestNames names (o :: os) = latestNames (o.names?.getD names) os := by
  unfold latestNames
  cases h : o.names? <;> simp [h, List.getLast?_cons]

theorem names_perform (e : Editor grammar) (o : Operation) :
    (e.perform o).names = o.names?.getD e.names := by
  cases o with
  | setNames names => rfl
  | edit change => exact e.names_apply change
  | touch f => rfl

/-- Nothing but a replacement concerns the names in sight. -/
theorem names_after (os : List Operation) (e : Editor grammar) :
    (after os e).names = latestNames e.names os := by
  induction os generalizing e with
  | nil => rfl
  | cons o os ih =>
    rw [latestNames_cons, ← names_perform]
    exact ih (e.perform o)

section
variable {sheet : String} {names : NameTable} {dark : Bool} {buffer : Buffer}
  {opened : Logged (Editor grammar)}

/-- An editor is opened with the names that it was given, -/
theorem names_openOn (h : openOn grammar sheet names dark buffer = .ok opened) :
    opened.value.names = names := by
  rw [eq_repaint_of_openOn h]
  rfl

/-- and shows what they make of the text. -/
theorem isFresh_openOn (h : openOn grammar sheet names dark buffer = .ok opened) :
    opened.value.IsFresh := by
  rw [eq_repaint_of_openOn h]
  exact isFresh_repaint _

end

/-! ## Colours that are up to date -/

/-- An operation on the editor itself leaves it up to date. -/
theorem IsFresh.perform (h : e.IsFresh) (ho : ∀ f, o ≠ .touch f) : (e.perform o).IsFresh := by
  cases o with
  | setNames names => exact isFresh_repaint _
  | edit change => exact h.apply change
  | touch f => exact absurd rfl (ho f)

/-- So does every run of them. -/
theorem IsFresh.after (h : e.IsFresh) (hos : ∀ f, .touch f ∉ os) : (e.after os).IsFresh := by
  induction os generalizing e with
  | nil => exact h
  | cons o os ih =>
    have ho : ∀ f, o ≠ .touch f := fun f heq => hos f (heq ▸ List.mem_cons_self)
    exact ih (h.perform ho) fun f hf => hos f (List.mem_cons_of_mem o hf)

/-! ## Replacing the names -/

/-- Whatever the grammar, and whatever was done to an editor since it was opened but behind its back:
other names leave everything as it was except for one more paint, in which every token stands where it
stood. The kinds differ between identifiers and variables only, and only where the grammar says
identifier; what the grammar fixes keeps its kind. If the new names are compared in the same way and
include the old ones, every variable stays one. -/
theorem setNames_after {sheet : String} {names : NameTable} {dark : Bool} {buffer : Buffer}
    {opened : Logged (Editor grammar)} (h : openOn grammar sheet names dark buffer = .ok opened)
    (hos : ∀ f, .touch f ∉ os) (names' : NameTable) :
    let before := opened.value.after os
    let replaced := (before.setNames names').value
    replaced = { before with
      names := names'
      buffer := { before.buffer with
        painted := replaced.buffer.painted
        paints := before.buffer.paints + 1 } } ∧
      List.Forall₂ (Grammar.Recoloured grammar) before.buffer.painted replaced.buffer.painted ∧
      (names'.casing = before.names.casing →
        (∀ name ∈ before.names.names, names'.contains name = true) →
          List.Forall₂ (fun t t' => t.kind = .variable → t'.kind = .variable)
            before.buffer.painted replaced.buffer.painted) := by
  intro before replaced
  have hbefore : before.buffer.painted = grammar.tokensIn before.names before.text :=
    (isFresh_openOn h).after hos
  have hreplaced : replaced.buffer.painted = grammar.tokensIn names' before.text := rfl
  rw [hbefore, hreplaced]
  refine ⟨rfl, grammar.forall₂_recoloured _ _ _, fun hcasing hnames => ?_⟩
  exact grammar.forall₂_variable hcasing hnames _

/-- A column comes in sight in a text where a word is a variable by the grammar alone; a name that is a
keyword changes nothing. -/
theorem setNames_after_region :
    let grammar : Grammar :=
      { kindOf := fun text =>
          if text = "select" then .keyword else if text = "it" then .variable else .identifier
        suggest := fun _ _ => [] }
    let sales : NameTable := .ofList .sensitive [⟨"sales", .sheet⟩]
    let names : NameTable := .ofList .sensitive
      [⟨"select", .sheet⟩, ⟨"region", .column⟩, ⟨"sales", .sheet⟩]
    ∃ opened, openOn grammar "sales" sales false .empty = .ok opened ∧
      let before := opened.value.after
        [.edit (.setText "select region it sales"), .edit (.select 7 13)]
      let replaced := (before.setNames names).value
      before.buffer.painted.map (·.kind) = [.keyword, .identifier, .variable, .variable] ∧
        replaced.buffer.painted.map (·.kind) = [.keyword, .variable, .variable, .variable] ∧
        replaced = { before with
          names := names
          buffer := { before.buffer with
            painted := replaced.buffer.painted
            paints := before.buffer.paints + 1 } } ∧
        List.Forall₂ (Grammar.Recoloured grammar) before.buffer.painted replaced.buffer.painted ∧
        List.Forall₂ (fun t t' => t.kind = .variable → t'.kind = .variable)
          before.buffer.painted replaced.buffer.painted := by
  intro grammar sales names
  have h : openOn grammar "sales" sales false .empty = .ok _ := rfl
  have hos : ∀ f, Operation.touch f ∉
      [.edit (.setText "select region it sales"), .edit (.select 7 13)] := by
    simp
  obtain ⟨hreplaced, hkinds, hvariables⟩ := setNames_after h hos names
  exact ⟨_, h, by decide +kernel, by decide +kernel, hreplaced, hkinds,
    hvariables rfl (by decide +kernel)⟩

end QueryPad.Editor
