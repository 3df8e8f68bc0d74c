/-!
# Byte offsets into a text

Positions in a text are counted in bytes of its UTF-8 encoding, so not every number is one: an
offset may fall inside a character or past the end. `part?` takes a text apart at an offset and is
`none` where the offset is no position. Main statements: `part?_eq_some_iff`, an offset parts a text
exactly as an append of that width does; `lastBoundary?_eq_some_iff`, the search below an offset
finds the greatest position; `isSome_splice?_iff`, the bytes between two offsets can be replaced
exactly if both are positions, in this order.
-/

namespace QueryPad.Text

/-- The number of bytes that the characters take up in UTF-8. -/
def width : List Char → Nat
  | [] => 0
  | c :: cs => c.utf8Size + width cs

@[simp] theorem width_nil : width [] = 0 := rfl

@[simp] theorem width_cons (c : Char) (cs : List Char) :
    width (c :: cs) = c.utf8Size + width cs := rfl

@[simp] theorem width_append (cs ds : List Char) : width (cs ++ ds) = width cs + width ds := by
  induction cs with
  | nil => simp
  | cons c cs ih => simp [ih, Nat.add_assoc]

theorem width_pos {cs : List Char} (h : cs ≠ []) : 0 < width cs := by
  obtain ⟨c, cs, rfl⟩ := List.exists_cons_of_ne_nil h
  have := c.utf8Size_pos
  rw [width_cons]
  omega

/-- Of two first parts of a text the one that takes up less is a first part of the other. -/
theorem prefix_of_width_le {cs ds es : List Char} (hcs : cs <+: es) (hds : ds <+: es)
    (h : width cs ≤ width ds) : cs <+: ds := by
  rcases List.prefix_or_prefix_of_prefix hcs hds with hprefix | ⟨more, rfl⟩
  · exact hprefix
  · rw [width_append] at h
    by_cases hmore : more = []
    · have heq : ds ++ more = ds := by rw [hmore, List.append_nil]
      exact heq.symm ▸ List.prefix_rfl
    · have := width_pos hmore
      omega

theorem utf8ByteSize_ofList (cs : List Char) : (String.ofList cs).utf8ByteSize = width cs := by
  induction cs with
  | nil => rfl
  | cons c cs ih =>
    have h : String.ofList (c :: cs) = String.singleton c ++ String.ofList cs := by
      apply String.toList_injective
      simp
    rw [h, String.utf8ByteSize_append, ih]
    simp

theorem utf8ByteSize_eq (text : String) : text.utf8ByteSize = width text.toList := by
  rw [← utf8ByteSize_ofList, String.ofList_toList]

/-- The characters before and after a byte offset; `none` if it falls inside a character or past
the end. -/
def part? : List Char → Nat → Option (List Char × List Char)
  | cs, 0 => some ([], cs)
  | [], _ + 1 => none
  | c :: cs, n + 1 =>
    if c.utf8Size ≤ n + 1 then
      (part? cs (n + 1 - c.utf8Size)).map fun halves => (c :: halves.1, halves.2)
    else none

theorem part?_width_append (cs ds : List Char) : part? (cs ++ ds) (width cs) = some (cs, ds) := by
  induction cs with
  | nil => simp [part?]
  | cons c cs ih =>
    have hc := c.utf8Size_pos
    obtain ⟨n, hn⟩ : ∃ n, width (c :: cs) = n + 1 := ⟨c.utf8Size + width cs - 1, by
      simp only [width_cons]; omega⟩
    have hle : c.utf8Size ≤ n + 1 := by simp only [width_cons] at hn; omega
    have hsub : n + 1 - c.utf8Size = width cs := by simp only [width_cons] at hn; omega
    simp [hn, part?, hle, hsub, ih]

theorem append_of_part? {cs left right : List Char} {n : Nat} (h : part? cs n = some (left, right)) :
    cs = left ++ right ∧ width left = n := by
  induction cs generalizing n left with
  | nil =>
    cases n with
    | zero => simp_all [part?]
    | succ n => simp [part?] at h
  | cons c cs ih =>
    cases n with
    | zero => simp_all [part?]
    | succ n =>
      simp only [part?] at h
      split at h
      · next hle =>
        obtain ⟨⟨l, r⟩, hlr, heq⟩ := Option.map_eq_some_iff.1 h
        obtain ⟨rfl, rfl⟩ := Prod.mk.inj heq
        obtain ⟨rfl, hw⟩ := ih hlr
        exact ⟨rfl, by simp only [width_cons]; omega⟩
      · simp at h

theorem part?_eq_some_iff {cs left right : List Char} {n : Nat} :
    part? cs n = some (left, right) ↔ cs = left ++ right ∧ width left = n :=
  ⟨append_of_part?, fun ⟨h, hw⟩ => h ▸ hw ▸ part?_width_append left right⟩

/-- Where a text is parted is told by the bytes before. -/
theorem append_inj_of_width {left left' right right' : List Char}
    (h : left ++ right = left' ++ right') (hwidth : width left = width left') :
    left = left' ∧ right = right' := by
  have hpart := part?_width_append left right
  rw [h, hwidth, part?_width_append, Option.some.injEq, Prod.mk.injEq] at hpart
  exact ⟨hpart.1.symm, hpart.2.symm⟩

/-- An offset is a position of the text: a first part of the text takes up that many bytes. -/
def IsBoundary (text : String) (n : Nat) : Prop :=
  ∃ left right, text.toList = left ++ right ∧ width left = n

theorem isSome_part?_iff {text : String} {n : Nat} :
    (part? text.toList n).isSome ↔ IsBoundary text n := by
  simp [Option.isSome_iff_exists, IsBoundary, part?_eq_some_iff]

instance (text : String) (n : Nat) : Decidable (IsBoundary text n) :=
  decidable_of_iff _ isSome_part?_iff

theorem isBoundary_zero (text : String) : IsBoundary text 0 :=
  ⟨[], text.toList, rfl, rfl⟩

theorem isBoundary_utf8ByteSize (text : String) : IsBoundary text text.utf8ByteSize :=
  ⟨text.toList, [], by simp, (utf8ByteSize_eq text).symm⟩

theorem IsBoundary.le {text : String} {n : Nat} (h : IsBoundary text n) :
    n ≤ text.utf8ByteSize := by
  obtain ⟨left, right, heq, rfl⟩ := h
  rw [utf8ByteSize_eq, heq, width_append]
  omega

/-- The last position at or before an offset, sought downwards one byte at a time; `none` if the
search went below the beginning of the text. -/
def lastBoundary? (text : String) : Nat → Option Nat
  | 0 => if IsBoundary text 0 then some 0 else none
  | n + 1 => if IsBoundary text (n + 1) then some (n + 1) else lastBoundary? text n

theorem lastBoundary?_eq_some_iff {text : String} {n m : Nat} :
    lastBoundary? text n = some m ↔
      IsBoundary text m ∧ m ≤ n ∧ ∀ k, IsBoundary text k → k ≤ n → k ≤ m := by
  induction n with
  | zero =>
    simp only [lastBoundary?, isBoundary_zero, if_true, Option.some.injEq]
    exact ⟨fun h => h ▸ ⟨isBoundary_zero text, Nat.le_refl _, fun _ _ hk => hk⟩, fun h => by omega⟩
  | succ n ih =>
    simp only [lastBoundary?]
    split
    · next h =>
      simp only [Option.some.injEq]
      exact ⟨fun hm => hm ▸ ⟨h, Nat.le_refl _, fun _ _ hk => hk⟩, fun hm => by
        have := hm.2.2 _ h (Nat.le_refl _)
        omega⟩
    · next h =>
      rw [ih]
      have hne : ∀ k, IsBoundary text k → k ≠ n + 1 := fun k hk heq => h (heq ▸ hk)
      constructor
      · rintro ⟨hm, hle, hmax⟩
        exact ⟨hm, by omega, fun k hk hkn => hmax k hk (by have := hne k hk; omega)⟩
      · rintro ⟨hm, hle, hmax⟩
        exact ⟨hm, by have := hne m hm; omega, fun k hk hkn => hmax k hk (by omega)⟩

/-- Every text has a position at its beginning, so the search never goes below it. -/
theorem isSome_lastBoundary? (text : String) (n : Nat) : (lastBoundary? text n).isSome := by
  induction n with
  | zero => simp [lastBoundary?, isBoundary_zero]
  | succ n ih =>
    rw [lastBoundary?]
    split
    · rfl
    · exact ih

/-- Two positions of a text part it in three. -/
theorem exists_of_isBoundary {text : String} {start stop : Nat} (hstart : IsBoundary text start)
    (hstop : IsBoundary text stop) (hle : start ≤ stop) :
    ∃ left middle right, text.toList = left ++ middle ++ right ∧ width left = start ∧
      width left + width middle = stop := by
  obtain ⟨left, rest, htext, rfl⟩ := hstart
  obtain ⟨front, right, htext', rfl⟩ := hstop
  obtain ⟨middle, rfl⟩ : left <+: front :=
    prefix_of_width_le ⟨rest, htext.symm⟩ ⟨right, htext'.symm⟩ hle
  exact ⟨left, middle, right, htext', rfl, (width_append left middle).symm⟩

/-- Replaces the bytes from `start` up to `stop`; `none` if they do not bound a run of characters of
the text. -/
def splice? (text : String) (start stop : Nat) (new : List Char) : Option String := do
  let (left, rest) ← part? text.toList start
  guard (start ≤ stop)
  let (_, right) ← part? rest (stop - start)
  return String.ofList (left ++ new ++ right)

theorem splice?_eq_some_iff {text text' : String} {start stop : Nat} {new : List Char} :
    splice? text start stop new = some text' ↔ ∃ left middle right,
      text.toList = left ++ middle ++ right ∧ width left = start ∧
        width left + width middle = stop ∧ text' = String.ofList (left ++ new ++ right) := by
  constructor
  · intro h
    obtain ⟨⟨left, rest⟩, hleft, h⟩ := Option.bind_eq_some_iff.1 h
    obtain ⟨_, hguard, h⟩ := Option.bind_eq_some_iff.1 h
    obtain ⟨⟨middle, right⟩, hmiddle, h⟩ := Option.bind_eq_some_iff.1 h
    have hle : start ≤ stop := by
      have hguard : (if start ≤ stop then some () else none) = some _ := hguard
      split at hguard
      · assumption
      · cases hguard
    cases h
    obtain ⟨htext, rfl⟩ := part?_eq_some_iff.1 hleft
    obtain ⟨rfl, hwidth⟩ := part?_eq_some_iff.1 hmiddle
    exact ⟨left, middle, right, by rw [htext, List.append_assoc], rfl, by omega, rfl⟩
  · rintro ⟨left, middle, right, htext, rfl, rfl, rfl⟩
    refine Option.bind_eq_some_iff.2 ⟨(left, middle ++ right), ?_, ?_⟩
    · rw [htext, List.append_assoc, part?_width_append]
    refine Option.bind_eq_some_iff.2 ⟨(), if_pos (Nat.le_add_right _ _), ?_⟩
    refine Option.bind_eq_some_iff.2 ⟨(middle, right), ?_, rfl⟩
    rw [Nat.add_sub_cancel_left, part?_width_append]

/-- Bytes can be replaced exactly from one position of the text to another that is not before it. -/
theorem isSome_splice?_iff {text : String} {start stop : Nat} {new : List Char} :
    (splice? text start stop new).isSome ↔
      IsBoundary text start ∧ IsBoundary text stop ∧ start ≤ stop := by
  rw [Option.isSome_iff_exists]
  constructor
  · rintro ⟨text', h⟩
    obtain ⟨left, middle, right, htext, rfl, rfl, -⟩ := splice?_eq_some_iff.1 h
    refine ⟨⟨left, middle ++ right, ?_, rfl⟩, ⟨left ++ middle, right, htext, ?_⟩, by omega⟩
    · rw [htext, List.append_assoc]
    · exact width_append left middle
  · rintro ⟨hstart, hstop, hle⟩
    obtain ⟨left, middle, right, htext, hleft, hmiddle⟩ := exists_of_isBoundary hstart hstop hle
    exact ⟨_, splice?_eq_some_iff.2 ⟨left, middle, right, htext, hleft, hmiddle, rfl⟩⟩

/-- What is put in begins and ends at positions of the new text. -/
theorem isBoundary_of_splice? {text text' : String} {start stop : Nat} {new : List Char}
    (h : splice? text start stop new = some text') :
    IsBoundary text' start ∧ IsBoundary text' (start + width new) := by
  obtain ⟨left, middle, right, -, rfl, -, rfl⟩ := splice?_eq_some_iff.1 h
  refine ⟨⟨left, new ++ right, ?_, rfl⟩, ⟨left ++ new, right, ?_, width_append left new⟩⟩
  · rw [String.toList_ofList, List.append_assoc]
  · rw [String.toList_ofList]

/-- From one position to another, characters can be put in between positions of the new text. -/
theorem exists_splice? {text : String} {start stop : Nat} (hstart : IsBoundary text start)
    (hstop : IsBoundary text stop) (hle : start ≤ stop) (new : List Char) :
    ∃ text', splice? text start stop new = some text' ∧ IsBoundary text' start ∧
      IsBoundary text' (start + width new) := by
  obtain ⟨text', h⟩ := Option.isSome_iff_exists.1 (isSome_splice?_iff.2 ⟨hstart, hstop, hle⟩)
  exact ⟨text', h, isBoundary_of_splice? h⟩

/-- The characters before a byte offset; `none` if it is no position of the text. -/
def before? (text : String) (n : Nat) : Option (List Char) :=
  (part? text.toList n).map (·.1)

theorem before?_eq_some_iff {text : String} {n : Nat} {left : List Char} :
    before? text n = some left ↔ ∃ right, text.toList = left ++ right ∧ width left = n := by
  simp [before?, part?_eq_some_iff]

theorem isSome_before?_iff {text : String} {n : Nat} :
    (before? text n).isSome ↔ IsBoundary text n := by
  rw [before?, Option.isSome_map, isSome_part?_iff]

/-- The last character before a position begins at a position. -/
theorem isBoundary_sub_of_getLast? {text : String} {n : Nat} {left : List Char} {c : Char}
    (hleft : before? text n = some left) (hc : left.getLast? = some c) :
    c.utf8Size ≤ n ∧ IsBoundary text (n - c.utf8Size) := by
  obtain ⟨right, htext, rfl⟩ := before?_eq_some_iff.1 hleft
  obtain ⟨front, rfl⟩ := List.getLast?_eq_some_iff.1 hc
  have hwidth : width (front ++ [c]) = width front + c.utf8Size := by simp
  refine ⟨by omega, front, c :: right, ?_, by omega⟩
  rw [htext, List.append_assoc, List.singleton_append]

end QueryPad.Text
