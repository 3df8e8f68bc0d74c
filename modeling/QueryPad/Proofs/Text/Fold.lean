import Mathlib.Data.List.Forall2
import Mathlib.Data.List.Nodup
import QueryPad.Text.Offset
import QueryPad.Text.Words

/-!
# Texts that differ in the case of letters

`IsCaseVariant` says that two texts differ in nothing but the case of ASCII letters, which is so
exactly if folding makes them the same (`isCaseVariant_iff_fold_eq`). There are 26 capitals, so that
what a function does not tell apart from their small letters it tells apart from no letter's other
case: `apply_toLower` takes a look at each of them once for all. `StartsAlike` says that a text starts
with another one in whatever case, which is what the folded texts tell (`startsWith_fold_iff`).
-/

namespace QueryPad.Text

/-! ## Characters -/

/-- The capital letters of ASCII. -/
def capitals : List Char :=
  (List.range' 65 26).map Char.ofNat

/-- Only a capital letter changes its case. -/
theorem toLower_eq_self_or_mem (c : Char) : c.toLower = c ∨ c ∈ capitals := by
  by_cases h : c.val ≥ 'A'.val ∧ c.val ≤ 'Z'.val
  · refine .inr (List.mem_map.2 ⟨c.toNat, ?_, Char.ofNat_toNat c⟩)
    have hlower : 65 ≤ c.toNat := UInt32.le_iff_toNat_le.1 h.1
    have hupper : c.toNat ≤ 90 := UInt32.le_iff_toNat_le.1 h.2
    rw [List.mem_range'_1]
    omega
  · exact .inl (dif_neg h)

/-- A function that gives the same for capitals and their small letters does not depend on case. -/
theorem apply_toLower {α : Type} [DecidableEq α] (f : Char → α)
    (h : capitals.all (fun c => f c.toLower = f c) = true) (c : Char) : f c.toLower = f c := by
  rcases toLower_eq_self_or_mem c with hc | hc
  · rw [hc]
  · exact of_decide_eq_true (List.all_eq_true.1 h c hc)

theorem toLower_toLower (c : Char) : c.toLower.toLower = c.toLower :=
  apply_toLower Char.toLower (by decide) c

theorem utf8Size_toLower (c : Char) : c.toLower.utf8Size = c.utf8Size :=
  apply_toLower Char.utf8Size (by decide) c

/-- One character is the other, or one of them is a capital and the other its small letter. -/
def SameLetter (c c' : Char) : Prop :=
  c' = c ∨ (c ∈ capitals ∧ c' = c.toLower) ∨ (c' ∈ capitals ∧ c = c'.toLower)

instance (c c' : Char) : Decidable (SameLetter c c') :=
  inferInstanceAs (Decidable (_ ∨ _))

theorem SameLetter.toLower_eq {c c' : Char} (h : SameLetter c c') :
    c'.toLower = c.toLower := by
  rcases h with rfl | ⟨-, rfl⟩ | ⟨-, rfl⟩
  · rfl
  · exact toLower_toLower c
  · exact (toLower_toLower c').symm

/-- No two capital letters have the same small one. -/
theorem SameLetter.of_toLower_eq {c c' : Char} (h : c'.toLower = c.toLower) : SameLetter c c' := by
  rcases toLower_eq_self_or_mem c with hc | hc
  · rcases toLower_eq_self_or_mem c' with hc' | hc'
    · exact .inl (by rw [← hc', h, hc])
    · exact .inr (.inr ⟨hc', by rw [h, hc]⟩)
  · rcases toLower_eq_self_or_mem c' with hc' | hc'
    · exact .inr (.inl ⟨hc, by rw [← h, hc']⟩)
    · exact .inl (List.inj_on_of_nodup_map (by decide : (capitals.map Char.toLower).Nodup) hc' hc h)

/-! ## Texts -/

/-- Two texts differ in nothing but the case of ASCII letters. -/
def IsCaseVariant (text text' : String) : Prop :=
  List.Forall₂ SameLetter text.toList text'.toList

instance (text text' : String) : Decidable (IsCaseVariant text text') :=
  inferInstanceAs (Decidable (List.Forall₂ _ _ _))

theorem map_toLower_eq {cs cs' : List Char} (h : List.Forall₂ SameLetter cs cs') :
    cs'.map Char.toLower = cs.map Char.toLower := by
  induction h with
  | nil => rfl
  | cons hc _ ih => rw [List.map_cons, List.map_cons, hc.toLower_eq, ih]

/-- Folding takes the difference away. -/
theorem IsCaseVariant.fold_eq {text text' : String} (h : IsCaseVariant text text') :
    fold text' = fold text := by
  rw [fold, fold, map_toLower_eq h]

/-- Two texts differ in nothing but case exactly if folding makes them the same. -/
theorem isCaseVariant_iff_fold_eq {text text' : String} :
    IsCaseVariant text text' ↔ fold text' = fold text := by
  refine ⟨IsCaseVariant.fold_eq, ?_⟩
  intro h
  rw [← String.toList_inj, toList_fold, toList_fold] at h
  have hcs : List.Forall₂ (· = ·) (text.toList.map Char.toLower)
      (text'.toList.map Char.toLower) := by
    rw [List.forall₂_eq_eq_eq, h]
  rw [List.forall₂_map_left_iff, List.forall₂_map_right_iff] at hcs
  exact hcs.imp fun _ _ hc => SameLetter.of_toLower_eq hc.symm

/-- A text starts with another one, in whatever case its letters are. -/
def StartsAlike (text start : String) : Prop :=
  ∃ first rest, text = first ++ rest ∧ IsCaseVariant start first

/-- That is what the folded texts tell. -/
theorem startsWith_fold_iff {text start : String} :
    startsWith (fold text) (fold start) = true ↔ StartsAlike text start := by
  rw [startsWith, List.isPrefixOf_iff_prefix, toList_fold, toList_fold]
  constructor
  · rintro ⟨tail, h⟩
    obtain ⟨first, rest, htext, hfirst, -⟩ := List.map_eq_append_iff.1 h.symm
    refine ⟨String.ofList first, String.ofList rest, ?_, isCaseVariant_iff_fold_eq.2 ?_⟩
    · rw [← String.ofList_append, ← htext, String.ofList_toList]
    · rw [fold, String.toList_ofList, hfirst, fold]
  · rintro ⟨first, rest, rfl, hvariant⟩
    rw [String.toList_append, List.map_append, map_toLower_eq hvariant]
    exact List.prefix_append _ _

instance (text start : String) : Decidable (StartsAlike text start) :=
  decidable_of_iff _ startsWith_fold_iff

theorem fold_fold (text : String) : fold (fold text) = fold text := by
  have hchars : (text.toList.map Char.toLower).map Char.toLower = text.toList.map Char.toLower := by
    rw [List.map_map]
    exact List.map_congr_left fun c _ => toLower_toLower c
  rw [fold, toList_fold, hchars, fold]

/-- A text has the same width in either case. -/
theorem width_map_toLower (cs : List Char) : width (cs.map Char.toLower) = width cs := by
  induction cs with
  | nil => rfl
  | cons c cs ih => rw [List.map_cons, width_cons, width_cons, utf8Size_toLower, ih]

theorem utf8ByteSize_fold (text : String) : (fold text).utf8ByteSize = text.utf8ByteSize := by
  rw [utf8ByteSize_eq, utf8ByteSize_eq, toList_fold, width_map_toLower]

end QueryPad.Text
