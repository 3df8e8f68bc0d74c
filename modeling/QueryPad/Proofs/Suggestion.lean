import Mathlib.Data.List.Sort
import QueryPad.Proofs.Text.Fold
import QueryPad.Suggestion

/-!
# Narrowing suggestions down

Suggestions are narrowed down while a word is typed. `IsBestFirst` says what becomes of those that go
on from what has been typed: they come in the order of their score, and as they stood where the score
is the same. To leave suggestions out and to put the best first can be done in either order
(`filter_bestFirst`), since what is placed among suggestions that are in order is placed at the same
spot among any of them. Main statement: `narrow_append_narrow`, suggestions that were narrowed down
already can be narrowed down further, and the case of what was typed does not matter.
-/

namespace QueryPad.Suggestion

/-! ## The best first -/

/-- One suggestion is at least as good as another. -/
def IsAsGood (s t : Suggestion) : Prop :=
  t.score ≤ s.score

instance : DecidableRel IsAsGood :=
  fun s t => inferInstanceAs (Decidable (t.score ≤ s.score))

instance : Std.Total IsAsGood where
  total s t := Int.le_total t.score s.score

instance : IsTrans Suggestion IsAsGood where
  trans _ _ _ hst htu := Int.le_trans htu hst

theorem place_eq_orderedInsert (s : Suggestion) (ts : List Suggestion) :
    place s ts = ts.orderedInsert IsAsGood s := by
  induction ts with
  | nil => rfl
  | cons t ts ih =>
    rw [place, ih]
    rfl

/-- To put the best first is to sort by insertion. -/
theorem bestFirst_eq_insertionSort (ss : List Suggestion) :
    bestFirst ss = ss.insertionSort IsAsGood := by
  induction ss with
  | nil => rfl
  | cons s ss ih => rw [bestFirst, ih, place_eq_orderedInsert, List.insertionSort_cons]

theorem pairwise_bestFirst (ss : List Suggestion) : (bestFirst ss).Pairwise IsAsGood := by
  rw [bestFirst_eq_insertionSort]
  exact List.pairwise_insertionSort IsAsGood ss

theorem perm_bestFirst (ss : List Suggestion) : (bestFirst ss).Perm ss := by
  rw [bestFirst_eq_insertionSort]
  exact List.perm_insertionSort IsAsGood ss

/-- Suggestions that are in order stay as they are. -/
theorem bestFirst_of_pairwise {ss : List Suggestion} (h : ss.Pairwise IsAsGood) :
    bestFirst ss = ss := by
  rw [bestFirst_eq_insertionSort]
  exact h.insertionSort_eq

/-- A suggestion that is as good as all others is placed before them. -/
theorem place_of_forall {s : Suggestion} {ts : List Suggestion} (h : ∀ t ∈ ts, s.IsAsGood t) :
    place s ts = s :: ts := by
  cases ts with
  | nil => rfl
  | cons t ts => exact if_pos (h t List.mem_cons_self)

/-! ## Leaving suggestions out -/

/-- Among suggestions in order, a suggestion is placed at the same spot when some are left out. -/
theorem filter_place {s : Suggestion} {ts : List Suggestion} (h : ts.Pairwise IsAsGood)
    (p : Suggestion → Bool) :
    (place s ts).filter p = if p s = true then place s (ts.filter p) else ts.filter p := by
  induction ts with
  | nil =>
    rw [place, List.filter_cons]
    rfl
  | cons t ts ih =>
    obtain ⟨hbelow, hrest⟩ := List.pairwise_cons.1 h
    rw [place]
    split
    · next hle =>
      -- As good as `t`, it is as good as whatever is left behind it.
      have hall : ∀ u ∈ (t :: ts).filter p, s.IsAsGood u := by
        intro u hu
        rcases List.mem_cons.1 (List.mem_of_mem_filter hu) with rfl | hu
        · exact hle
        · exact trans_of IsAsGood hle (hbelow u hu)
      rw [place_of_forall hall, List.filter_cons]
    · next hlt =>
      rw [List.filter_cons, List.filter_cons, ih hrest]
      cases p t with
      | false => rfl
      | true =>
        simp only [if_true, place, if_neg hlt]
        split <;> rfl

/-- Suggestions may be left out before or after the best were put first. -/
theorem filter_bestFirst (p : Suggestion → Bool) (ss : List Suggestion) :
    (bestFirst ss).filter p = bestFirst (ss.filter p) := by
  induction ss with
  | nil => rfl
  | cons s ss ih =>
    rw [bestFirst, filter_place (pairwise_bestFirst ss), ih, List.filter_cons]
    split <;> rfl

/-- A list has the same suggestions as another one, but the best first, and those of the same score
in their order. -/
structure IsBestFirst (ss ts : List Suggestion) : Prop where
  perm : ts.Perm ss
  pairwise : ts.Pairwise fun s t => t.score ≤ s.score
  filter_score (score : Int) : ts.filter (·.score = score) = ss.filter (·.score = score)

theorem isBestFirst_bestFirst (ss : List Suggestion) : IsBestFirst ss (bestFirst ss) where
  perm := perm_bestFirst ss
  pairwise := pairwise_bestFirst ss
  filter_score score := by
    rw [filter_bestFirst]
    refine bestFirst_of_pairwise (List.pairwise_of_forall_mem_list ?_)
    intro s hs t ht
    have hs := of_decide_eq_true (List.mem_filter.1 hs).2
    have ht := of_decide_eq_true (List.mem_filter.1 ht).2
    exact (ht.trans hs.symm).le

/-! ## Typing -/

/-- A suggestion goes on from what has been typed if its value starts so, whatever the case. -/
theorem continues_iff {typed : String} {s : Suggestion} :
    continues typed s = true ↔ Text.StartsAlike s.value typed :=
  Text.startsWith_fold_iff

/-- What goes on from more that has been typed goes on from less. -/
theorem continues_of_append {typed more : String} {s : Suggestion}
    (h : continues (typed ++ more) s = true) : continues typed s = true := by
  rw [continues, Text.startsWith, List.isPrefixOf_iff_prefix, Text.toList_fold] at h ⊢
  rw [String.toList_append, List.map_append] at h
  exact (List.prefix_append _ _).trans h

/-- Suggestions that were narrowed down already can be narrowed down by anything stricter. -/
theorem narrow_narrow {typed typed' : String}
    (h : ∀ s, continues typed' s = true → continues typed s = true) (ss : List Suggestion) :
    narrow typed' (narrow typed ss) = narrow typed' ss := by
  rw [narrow, narrow, filter_bestFirst, bestFirst_of_pairwise (pairwise_bestFirst _),
    List.filter_filter, narrow]
  refine congrArg bestFirst (List.filter_congr ?_)
  intro s _
  cases hs : continues typed' s with
  | false => rfl
  | true => rw [h s hs, Bool.and_self]

/-- While a word is typed its suggestions may be narrowed down step by step, and narrowing them down
once more changes nothing. It does not matter in which case the word is typed. What remains are the
suggestions whose value starts like the word, the best first. -/
theorem narrow_append_narrow (typed more : String) (ss : List Suggestion) :
    narrow (typed ++ more) (narrow typed ss) = narrow (typed ++ more) ss ∧
      narrow typed (narrow typed ss) = narrow typed ss ∧
      (∀ typed', Text.IsCaseVariant typed typed' → narrow typed' ss = narrow typed ss) ∧
      IsBestFirst (ss.filter fun s => Text.StartsAlike s.value typed) (narrow typed ss) := by
  have hcontinues : continues typed = fun s => decide (Text.StartsAlike s.value typed) := by
    funext s
    rw [Bool.eq_iff_iff, continues_iff, decide_eq_true_iff]
  refine ⟨narrow_narrow (fun _ => continues_of_append) ss, narrow_narrow (fun _ => id) ss, ?_, ?_⟩
  · intro typed' hvariant
    have hsame : continues typed' = continues typed := by
      funext s
      rw [continues, continues, hvariant.fold_eq]
    rw [narrow, narrow, hsame]
  · rw [← hcontinues]
    exact isBestFirst_bestFirst _

theorem narrow_append_narrow_select :
    let ss := [ofWord "set" 0 .dataType, ofWord "Sales" 1 .sheet, ofWord "select" 0 .keyword]
    Text.IsCaseVariant "s" "S" ∧ narrow "S" ss = narrow "s" ss ∧
      narrow ("s" ++ "E") (narrow "s" ss) = narrow ("s" ++ "E") ss := by
  intro ss
  have h := narrow_append_narrow "s" "E" ss
  exact ⟨by decide, h.2.2.1 "S" (by decide), h.1⟩

end QueryPad.Suggestion
