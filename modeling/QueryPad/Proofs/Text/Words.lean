import Mathlib.Data.List.Basic
import Mathlib.Data.List.TakeWhile
import QueryPad.Text.Words

/-!
# Lines put together and taken apart again

What is put together with separators is found again when the line is taken apart, provided that no
part holds a separator. Main statements: `divide_append` for two parts, `runs_intercalate` for any
number of them, and `isTrimmed_trim` with `trim_eq_self`, trimming leaves a line without blank ends
and such a line alone.
-/

namespace QueryPad.Text

/-! ## Lines without blank ends -/

/-- The line neither begins nor ends with a blank character. -/
def IsTrimmed (cs : List Char) : Prop :=
  (∀ c ∈ cs.head?, isBlank c = false) ∧ ∀ c ∈ cs.getLast?, isBlank c = false

instance : DecidablePred IsTrimmed := fun cs =>
  @instDecidableAnd _ _ cs.head?.decidableForallMem cs.getLast?.decidableForallMem

variable {cs ds : List Char} {p : Char → Bool}

theorem dropWhile_eq_self (h : ∀ c ∈ cs.head?, p c = false) : cs.dropWhile p = cs := by
  cases cs with
  | nil => rfl
  | cons c cs => rw [List.dropWhile_cons, h c rfl]; rfl

theorem eq_false_of_mem_head?_dropWhile {c : Char} (h : c ∈ (cs.dropWhile p).head?) :
    p c = false := by
  have hnot := List.head?_dropWhile_not p cs
  rw [Option.mem_def.1 h] at hnot
  exact hnot

/-- Trimming leaves no blank character at either end. -/
theorem isTrimmed_trim (cs : List Char) : IsTrimmed (trim cs) := by
  obtain ⟨blanks, hblanks⟩ := List.dropWhile_suffix isBlank (l := (cs.dropWhile isBlank).reverse)
  refine ⟨?_, ?_⟩
  · intro c hc
    have hstart : trim cs ++ blanks.reverse = cs.dropWhile isBlank := by
      rw [trim, ← List.reverse_append, hblanks, List.reverse_reverse]
    have hhead : c ∈ (cs.dropWhile isBlank).head? := by
      rw [← hstart, List.head?_append, Option.mem_def.1 hc]
      rfl
    exact eq_false_of_mem_head?_dropWhile hhead
  · intro c hc
    rw [trim, List.getLast?_reverse] at hc
    exact eq_false_of_mem_head?_dropWhile hc

/-- Nothing is left of a line exactly if it is blank. -/
theorem trim_eq_nil_iff : trim cs = [] ↔ ∀ c ∈ cs, isBlank c = true := by
  rw [trim, List.reverse_eq_nil_iff, List.dropWhile_eq_nil_iff, ← List.dropWhile_eq_nil_iff (l := cs)]
  constructor
  · intro h
    by_contra hne
    have hblank := h _ (List.mem_reverse.2 (List.head_mem hne))
    rw [List.head_dropWhile_not isBlank hne] at hblank
    cases hblank
  · intro h c hc
    rw [h] at hc
    cases hc

/-- Blanks behind a line without blank ends are trimmed off. -/
theorem trim_append (h : IsTrimmed cs) {blanks : List Char} (hblanks : ∀ c ∈ blanks, isBlank c = true) :
    trim (cs ++ blanks) = cs := by
  cases cs with
  | nil => exact trim_eq_nil_iff.2 hblanks
  | cons c cs =>
    have hstart : ∀ d ∈ (c :: cs ++ blanks).head?, isBlank d = false := h.1
    have hend : ∀ d ∈ (c :: cs).reverse.head?, isBlank d = false := by
      rw [List.head?_reverse]
      exact h.2
    rw [trim, dropWhile_eq_self hstart, List.reverse_append,
      List.dropWhile_append_of_pos fun d hd => hblanks d (List.mem_reverse.1 hd),
      dropWhile_eq_self hend, List.reverse_reverse]

/-- A line without blank ends is left alone. -/
theorem trim_eq_self (h : IsTrimmed cs) : trim cs = cs := by
  have := trim_append h (List.forall_mem_nil _)
  rwa [List.append_nil] at this

/-- A line without blank characters has no blank ends. -/
theorem isTrimmed_of_forall (h : ∀ c ∈ cs, isBlank c = false) : IsTrimmed cs :=
  ⟨fun c hc => h c (List.mem_of_mem_head? hc), fun c hc => h c (List.mem_of_mem_getLast? hc)⟩

/-- What begins and ends with lines that have no blank ends has none either. -/
theorem IsTrimmed.append (hcs : IsTrimmed cs) (hne : cs ≠ []) (between : List Char)
    (hds : IsTrimmed ds) (hne' : ds ≠ []) : IsTrimmed (cs ++ between ++ ds) := by
  refine ⟨?_, ?_⟩
  · intro c hc
    rw [List.append_assoc, List.head?_append_of_ne_nil _ hne] at hc
    exact hcs.1 c hc
  · intro c hc
    rw [List.getLast?_append_of_ne_nil _ hne'] at hc
    exact hds.2 c hc

/-! ## Parts and separators -/

variable {separates : Char → Bool} {k : Char} {part rest : List Char}

/-- A line is divided at the separator behind a part that holds none. -/
theorem divide_append (hpart : ∀ c ∈ part, separates c = false) (hk : separates k = true) :
    divide separates (part ++ k :: rest) = (part, rest) := by
  have hnot : ∀ c ∈ part, (!separates c) = true := by
    intro c hc
    rw [hpart c hc]
    rfl
  rw [divide, List.takeWhile_append_of_pos hnot, List.dropWhile_append_of_pos hnot]
  simp [hk]

/-- A line without separators is not divided. -/
theorem divide_of_forall (hpart : ∀ c ∈ part, separates c = false) :
    divide separates part = (part, []) := by
  have hnot : ∀ c ∈ part, (!separates c) = true := by
    intro c hc
    rw [hpart c hc]
    rfl
  rw [divide, List.takeWhile_eq_self_iff.2 hnot, List.dropWhile_eq_nil_iff.2 hnot]
  rfl

/-- What stands before the separator. -/
theorem mem_fst_divide {c : Char} (h : c ∈ (divide separates cs).1) :
    c ∈ cs ∧ separates c = false := by
  refine ⟨List.takeWhile_subset _ h, ?_⟩
  simpa using List.mem_takeWhile_imp h

theorem mem_of_mem_snd_divide {c : Char} (h : c ∈ (divide separates cs).2) : c ∈ cs :=
  (List.dropWhile_suffix _).subset (List.mem_of_mem_drop h)

theorem fields_append (hpart : ∀ c ∈ part, separates c = false) (hk : separates k = true) :
    fields separates (part ++ k :: rest) = part :: fields separates rest := by
  induction part with
  | nil => simp [fields, hk]
  | cons c part ih =>
    obtain ⟨hc, hpart⟩ := List.forall_mem_cons.1 hpart
    simp [fields, hc, ih hpart]

theorem fields_of_forall (hpart : ∀ c ∈ part, separates c = false) :
    fields separates part = [part] := by
  induction part with
  | nil => rfl
  | cons c part ih =>
    obtain ⟨hc, hpart⟩ := List.forall_mem_cons.1 hpart
    simp [fields, hc, ih hpart]

/-- A field holds no separator, and nothing but what stands in the line. -/
theorem mem_of_mem_fields {field : List Char} (h : field ∈ fields separates cs) :
    ∀ c ∈ field, c ∈ cs ∧ separates c = false := by
  induction cs generalizing field with
  | nil =>
    cases List.mem_singleton.1 h
    nofun
  | cons d cs ih =>
    intro c hc
    by_cases hd : separates d = true
    · rw [fields, if_pos hd, List.mem_cons] at h
      rcases h with rfl | h
      · cases hc
      · exact ⟨List.mem_cons_of_mem d (ih h c hc).1, (ih h c hc).2⟩
    · rw [fields, if_neg hd] at h
      cases hfields : fields separates cs with
      | nil =>
        rw [hfields] at h
        cases List.mem_singleton.1 h
        cases List.mem_singleton.1 hc
        exact ⟨List.mem_cons_self, Bool.eq_false_iff.2 hd⟩
      | cons first more =>
        rw [hfields] at h ih
        rcases List.mem_cons.1 h with rfl | h
        · rcases List.mem_cons.1 hc with rfl | hc
          · exact ⟨List.mem_cons_self, Bool.eq_false_iff.2 hd⟩
          · have := ih List.mem_cons_self c hc
            exact ⟨List.mem_cons_of_mem d this.1, this.2⟩
        · have := ih (List.mem_cons_of_mem first h) c hc
          exact ⟨List.mem_cons_of_mem d this.1, this.2⟩

/-- A run is a field that is not empty. -/
theorem mem_of_mem_runs {run : List Char} (h : run ∈ runs separates cs) :
    run ≠ [] ∧ ∀ c ∈ run, c ∈ cs ∧ separates c = false := by
  obtain ⟨hfield, hne⟩ := List.mem_filter.1 h
  refine ⟨?_, mem_of_mem_fields hfield⟩
  rintro rfl
  cases hne

/-- Parts put together with a separator are the runs of the line. -/
theorem runs_intercalate (hk : separates k = true) {parts : List (List Char)}
    (h : ∀ part ∈ parts, part ≠ [] ∧ ∀ c ∈ part, separates c = false) :
    runs separates ([k].intercalate parts) = parts := by
  induction parts with
  | nil => rfl
  | cons part parts ih =>
    obtain ⟨⟨hne, hpart⟩, hparts⟩ := List.forall_mem_cons.1 h
    cases parts with
    | nil => simp [runs, fields_of_forall hpart, hne]
    | cons next more =>
      have hrest := ih hparts
      rw [runs] at hrest ⊢
      rw [List.intercalate_cons_cons, List.append_assoc, List.singleton_append,
        fields_append hpart hk, List.filter_cons_of_pos (by simpa using hne), hrest]

/-- What stands in parts put together is the separator or stands in one of them. -/
theorem mem_intercalate {parts : List (List Char)} {c : Char} (h : c ∈ [k].intercalate parts) :
    c = k ∨ ∃ part ∈ parts, c ∈ part := by
  induction parts with
  | nil => cases h
  | cons part parts ih =>
    cases parts with
    | nil =>
      rw [List.intercalate_singleton] at h
      exact .inr ⟨part, List.mem_cons_self, h⟩
    | cons next more =>
      rw [List.intercalate_cons_cons, List.mem_append, List.mem_append, List.mem_singleton] at h
      rcases h with (h | h) | h
      · exact .inr ⟨part, List.mem_cons_self, h⟩
      · exact .inl h
      · refine (ih h).imp id ?_
        rintro ⟨part', hpart', hc⟩
        exact ⟨part', List.mem_cons_of_mem part hpart', hc⟩

/-- Words put together with spaces have no blank ends. -/
theorem isTrimmed_intercalate {words : List (List Char)}
    (h : ∀ word ∈ words, word ≠ [] ∧ ∀ c ∈ word, isBlank c = false) :
    IsTrimmed ([k].intercalate words) ∧ (words ≠ [] → [k].intercalate words ≠ []) := by
  induction words with
  | nil => exact ⟨⟨nofun, nofun⟩, fun hne => absurd rfl hne⟩
  | cons word words ih =>
    obtain ⟨⟨hne, hword⟩, hwords⟩ := List.forall_mem_cons.1 h
    cases words with
    | nil =>
      rw [List.intercalate_singleton]
      exact ⟨isTrimmed_of_forall hword, fun _ => hne⟩
    | cons next more =>
      obtain ⟨htrimmed, hrest⟩ := ih hwords
      rw [List.intercalate_cons_cons]
      refine ⟨(isTrimmed_of_forall hword).append hne [k] htrimmed (hrest (List.cons_ne_nil _ _)), ?_⟩
      intro _ hnil
      exact hne (List.append_eq_nil_iff.1 (List.append_eq_nil_iff.1 hnil).1).1

end QueryPad.Text
