import Mathlib.Data.List.Induction
import QueryPad.Proofs.Editor.Reaction

/-!
# Typing and taking back

What is typed goes in at the cursor in place of the selection, and as many backspaces take it out
again. The first key consumes the selection (`press_char`), the others find none, so that typing is a
splice of the text (`pressAll_chars`); a backspace knows how far to go back from the text alone, and
takes the characters out in the opposite order (`pressAll_backspaces`). Main statement:
`pressAll_chars_backspaces`.
-/

namespace QueryPad.Buffer

open Text (width width_cons width_nil width_append)

variable {b : Buffer} {left middle right cs : List Char} {chord : Chord}

/-- What the next character replaces: the selection, or nothing at the cursor. -/
def target (b : Buffer) : Span :=
  b.selection.getD ⟨b.cursor, b.cursor⟩

/-- Presses chords one after the other: what each comes to, and the buffer afterwards. -/
def pressAll : List Chord → Buffer → List Reaction × Buffer
  | [], b => ([], b)
  | chord :: chords, b =>
    let (reaction, first) := b.press chord
    let (reactions, last) := first.pressAll chords
    (reaction :: reactions, last)

theorem pressAll_cons {b first last : Buffer} {reaction : Reaction} {reactions : List Reaction}
    {chords : List Chord} (hfirst : b.press chord = (reaction, first))
    (hrest : first.pressAll chords = (reactions, last)) :
    b.pressAll (chord :: chords) = (reaction :: reactions, last) := by
  rw [pressAll, hfirst]
  dsimp only
  rw [hrest]

/-- The keys that type characters. -/
def charKeys (cs : List Char) : List Chord :=
  cs.map fun c => .ofKey (.char c)

/-! ## The span that is replaced -/

/-- The text before, in and after the span that the next character replaces. -/
theorem IsWellFormed.exists_target (h : b.IsWellFormed) : ∃ left middle right,
    b.text.toList = left ++ middle ++ right ∧
      b.target = ⟨width left, width left + width middle⟩ := by
  obtain ⟨hle, hstart, hstop⟩ : b.target.start ≤ b.target.stop ∧
      Text.IsBoundary b.text b.target.start ∧ Text.IsBoundary b.text b.target.stop := by
    rw [target]
    cases hselection : b.selection with
    | none => exact ⟨Nat.le_refl _, h.isBoundary_cursor, h.isBoundary_cursor⟩
    | some span =>
      obtain ⟨hle, hstart, hstop, -⟩ := h.selection span hselection
      exact ⟨hle, hstart, hstop⟩
  obtain ⟨left, middle, right, htext, hleft, hmiddle⟩ :=
    Text.exists_of_isBoundary hstart hstop hle
  exact ⟨left, middle, right, htext, by rw [hmiddle, hleft]⟩

/-- The selection is taken out; if there is none, nothing is. -/
theorem eraseSelection?_of_target (htext : b.text.toList = left ++ middle ++ right)
    (htarget : b.target = ⟨width left, width left + width middle⟩) :
    b.eraseSelection? = some (b.edited (String.ofList (left ++ right)) (width left)) := by
  rw [target] at htarget
  cases hselection : b.selection with
  | none =>
    rw [hselection, Option.getD_none, Span.mk.injEq] at htarget
    obtain ⟨hcursor, hstop⟩ := htarget
    obtain rfl : middle = [] := by
      by_contra hne
      have := Text.width_pos hne
      omega
    have hsame : b.edited b.text b.cursor = b := by rw [edited, ← hselection]
    rw [List.append_nil] at htext
    rw [← htext, String.ofList_toList, ← hcursor, hsame]
    simp only [eraseSelection?, hselection]
  | some span =>
    rw [hselection, Option.getD_some] at htarget
    rw [eraseSelection?, hselection, htarget]
    dsimp only
    rw [splice?_run htext]
    rfl

/-- Characters go in where the selection was. -/
theorem insert?_of_target (htext : b.text.toList = left ++ middle ++ right)
    (htarget : b.target = ⟨width left, width left + width middle⟩) (new : List Char) :
    b.insert? new =
      some (b.edited (String.ofList (left ++ new ++ right)) (width left + width new)) := by
  have hsplice : Text.splice? (String.ofList (left ++ right)) (width left) (width left) new =
      some (String.ofList (left ++ new ++ right)) :=
    Text.splice?_eq_some_iff.2 ⟨left, [], right, by simp, rfl, by simp, rfl⟩
  rw [insert?, eraseSelection?_of_target htext htarget, Option.bind_eq_bind, Option.bind_some,
    edited, hsplice]
  rfl

/-! ## Typing -/

@[simp] theorem binds_edited {text : String} {cursor : Nat} :
    (b.edited text cursor).Binds chord ↔ b.Binds chord :=
  Iff.rfl

@[simp] theorem edited_edited (b : Buffer) (text text' : String) (cursor cursor' : Nat) :
    (b.edited text cursor).edited text' cursor' = b.edited text' cursor' := rfl

/-- A character is put in. -/
theorem press_char {c : Char} (hbound : ¬ b.Binds (.ofKey (.char c)))
    (htext : b.text.toList = left ++ middle ++ right)
    (htarget : b.target = ⟨width left, width left + width middle⟩) :
    b.press (.ofKey (.char c)) =
      (.edited, b.edited (String.ofList (left ++ [c] ++ right)) (width left + width [c])) := by
  rw [press, press?, actionOf?_eq_none_iff.2 hbound]
  show ((b.insert? [c]).map fun b => (Reaction.edited, b)).getD _ = _
  rw [insert?_of_target htext htarget, Option.map_some, Option.getD_some]

/-- Where nothing is selected any more, characters go in one behind the other. -/
theorem pressAll_chars_edited (hbound : ∀ c ∈ cs, ¬ b.Binds (.ofKey (.char c)))
    (left right : List Char) :
    (b.edited (String.ofList (left ++ right)) (width left)).pressAll (charKeys cs) =
      (List.replicate cs.length .edited,
        b.edited (String.ofList (left ++ cs ++ right)) (width (left ++ cs))) := by
  induction cs generalizing left with
  | nil =>
    rw [List.append_nil]
    rfl
  | cons c cs ih =>
    obtain ⟨hc, hcs⟩ := List.forall_mem_cons.1 hbound
    have htext : (b.edited (String.ofList (left ++ right)) (width left)).text.toList =
        left ++ [] ++ right := by
      rw [List.append_nil]
      exact String.toList_ofList
    have hpress := press_char (binds_edited.not.2 hc) htext rfl
    rw [edited_edited, ← width_append] at hpress
    have hrest := ih hcs (left ++ [c])
    rw [List.append_assoc left [c] cs] at hrest
    exact pressAll_cons hpress hrest

/-- Typing replaces what is selected. -/
theorem pressAll_chars (hne : cs ≠ []) (hbound : ∀ c ∈ cs, ¬ b.Binds (.ofKey (.char c)))
    (htext : b.text.toList = left ++ middle ++ right)
    (htarget : b.target = ⟨width left, width left + width middle⟩) :
    b.pressAll (charKeys cs) =
      (List.replicate cs.length .edited,
        b.edited (String.ofList (left ++ cs ++ right)) (width (left ++ cs))) := by
  obtain ⟨c, cs, rfl⟩ := List.exists_cons_of_ne_nil hne
  obtain ⟨hc, hcs⟩ := List.forall_mem_cons.1 hbound
  have hpress := press_char hc htext htarget
  rw [← width_append] at hpress
  have hrest := pressAll_chars_edited hcs (left ++ [c]) right
  rw [List.append_assoc left [c] cs] at hrest
  exact pressAll_cons hpress hrest

/-! ## Taking back -/

/-- As many backspaces take out the characters before the cursor. -/
theorem pressAll_backspaces (hbound : ¬ b.Binds chord) (hkey : chord.key = .backspace)
    (htyping : chord.modifiers.permitTyping = true) (left cs right : List Char) :
    (b.edited (String.ofList (left ++ cs ++ right)) (width (left ++ cs))).pressAll
        (List.replicate cs.length chord) =
      (List.replicate cs.length .edited, b.edited (String.ofList (left ++ right)) (width left)) := by
  -- The last character is the first to go.
  induction cs using List.reverseRecOn with
  | nil =>
    rw [List.append_nil]
    rfl
  | append_singleton cs c ih =>
    rw [← List.append_assoc left cs [c], List.length_append, List.length_singleton]
    refine pressAll_cons ?_ ih
    have hback : (b.edited (String.ofList (left ++ cs ++ [c] ++ right))
        (width (left ++ cs ++ [c]))).backspace? =
          some (.edited, b.edited (String.ofList (left ++ cs ++ right)) (width (left ++ cs))) :=
      backspace?_of_concat rfl String.toList_ofList (width_append _ _).symm
    rw [press_backspace (binds_edited.not.2 hbound) hkey htyping, hback, Option.getD_some]

/-- In every buffer that came about, typing characters that are not bound puts them in place of the
selection or else at the cursor, and as many backspaces then take them out again. Every key press is an
edit, and nothing is selected afterwards. -/
theorem pressAll_chars_backspaces (h : b.IsReachable) {word : String} (hne : word ≠ "")
    (hbound : ∀ c ∈ word.toList, ¬ b.Binds (.ofKey (.char c))) :
    ∃ left middle right, b.text.toList = left ++ middle ++ right ∧
      b.target = ⟨width left, width left + width middle⟩ ∧
      b.pressAll (charKeys word.toList) =
        (List.replicate word.length .edited,
          b.edited (String.ofList (left ++ word.toList ++ right))
            (b.target.start + word.utf8ByteSize)) ∧
      ∀ back : Chord, ¬ b.Binds back → back.key = .backspace →
        back.modifiers.permitTyping = true →
          (b.pressAll (charKeys word.toList)).2.pressAll (List.replicate word.length back) =
            (List.replicate word.length .edited,
              b.edited (String.ofList (left ++ right)) b.target.start) := by
  obtain ⟨left, middle, right, htext, htarget⟩ := h.isWellFormed.exists_target
  have hchars : word.toList ≠ [] := fun hnil => hne (String.toList_injective hnil)
  have htyped := pressAll_chars hchars hbound htext htarget
  refine ⟨left, middle, right, htext, htarget, ?_, fun back hback hkey htyping => ?_⟩
  · rw [htyped, htarget, width_append, Text.utf8ByteSize_eq, String.length_toList]
  · rw [htyped, htarget, ← String.length_toList]
    exact pressAll_backspaces hback hkey htyping left word.toList right

/-- A selection in the middle of a text makes way for characters of three bytes and of one, and
backspaces with shift held down take these out again. -/
theorem pressAll_chars_backspaces_euro :
    ∃ b : Buffer, b.IsReachable ∧ b.text = "año" ∧ b.target = ⟨1, 3⟩ ∧
      ∃ left middle right, b.text.toList = left ++ middle ++ right ∧
        b.target = ⟨width left, width left + width middle⟩ ∧
        b.pressAll (charKeys "€x".toList) =
          (List.replicate 2 .edited,
            b.edited (String.ofList (left ++ "€x".toList ++ right)) (1 + 4)) ∧
        (b.pressAll (charKeys "€x".toList)).2.pressAll
            (List.replicate 2 ⟨⟨false, false, true, false⟩, .backspace⟩) =
          (List.replicate 2 .edited, b.edited (String.ofList (left ++ right)) 1) := by
  have hreach : (empty.after [.setText "año", .select 1 3]).IsReachable := ⟨_, rfl⟩
  have htarget : (empty.after [.setText "año", .select 1 3]).target = ⟨1, 3⟩ := by decide
  have hfree (chord : Chord) : ¬ (empty.after [.setText "año", .select 1 3]).Binds chord := by
    rintro ⟨binding, hmem, -⟩
    cases hmem
  have hne : "€x" ≠ "" := by decide
  obtain ⟨left, middle, right, htext, hspan, htyped, herased⟩ :=
    pressAll_chars_backspaces hreach hne fun c _ => hfree _
  rw [htarget] at htyped herased
  exact ⟨_, hreach, by decide, htarget, left, middle, right, htext, hspan, htyped,
    herased _ (hfree _) rfl rfl⟩

end QueryPad.Buffer
