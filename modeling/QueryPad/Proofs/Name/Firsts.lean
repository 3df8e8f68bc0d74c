import Mathlib.Data.List.Basic

/-!
# The first elements of each key

Names are collected so that of those with the same key the first stays, whatever the key is. `firsts`
says which elements of a list these are by what stands before each of them. Main statement:
`firsts_firsts`, to look for them twice comes to the same as to look once, as long as the second key
tells apart no more than the first. What has been collected already can be put in front
(`firsts_append`), and whoever looks for a key finds the same element (`find?_firsts`).
-/

namespace QueryPad

variable {α β : Type}

/-- The elements of a list whose key none of those before them has. -/
def firsts (key : α → String) (as : List α) : List α :=
  (as.zipIdx.filter fun p => key p.1 ∉ (as.take p.2).map key).map Prod.fst

variable {key key' : α → String}

@[simp] theorem firsts_nil : firsts key [] = [] := rfl

/-- An element counts, and of those behind it the ones that have another key. -/
theorem firsts_cons (a : α) (as : List α) :
    firsts key (a :: as) = a :: (firsts key as).filter (key · ≠ key a) := by
  rw [firsts, List.zipIdx_cons, List.filter_cons_of_pos (by simp), List.map_cons, Nat.zero_add,
    List.zipIdx_succ, List.filter_map, List.map_map, firsts, List.filter_map, List.filter_filter]
  congr 2
  refine List.filter_congr ?_
  intro p _
  simp

/-- A filter that no element of some key passes may come after that key was left out. -/
theorem filter_filter_ne {k : String} {p : α → Bool} (h : ∀ a, key a = k → p a = false)
    (as : List α) : (as.filter (key · ≠ k)).filter p = as.filter p := by
  rw [List.filter_filter]
  refine List.filter_congr ?_
  intro a _
  by_cases ha : key a = k
  · simp [ha, h a ha]
  · simp [ha]

/-- Which elements are the first of their key does not change where whole keys are left out. -/
theorem filter_firsts (p : String → Bool) (as : List α) :
    (firsts key as).filter (fun a => p (key a)) = firsts key (as.filter fun a => p (key a)) := by
  induction as with
  | nil => rfl
  | cons a as ih =>
    rw [firsts_cons]
    cases ha : p (key a) with
    | true =>
      simp only [List.filter_cons, ha, if_true]
      rw [firsts_cons, ← ih, List.filter_filter, List.filter_filter]
      simp only [Bool.and_comm]
    | false =>
      simp only [List.filter_cons, ha, Bool.false_eq_true, if_false]
      rw [← ih, filter_filter_ne]
      intro b hb
      rw [hb, ha]

/-- Of two lists one behind the other, the second adds the keys that the first does not have. -/
theorem firsts_append (as bs : List α) :
    firsts key (as ++ bs) =
      firsts key as ++ (firsts key bs).filter fun b => key b ∉ as.map key := by
  induction as with
  | nil => simp
  | cons a as ih =>
    rw [List.cons_append, firsts_cons, ih, List.filter_append, firsts_cons, List.cons_append,
      List.filter_filter]
    congr 2
    refine List.filter_congr ?_
    intro b _
    simp

theorem firsts_map (f : β → α) (bs : List β) :
    firsts key (bs.map f) = (firsts (fun b => key (f b)) bs).map f := by
  induction bs with
  | nil => rfl
  | cons b bs ih =>
    rw [List.map_cons, firsts_cons, ih, firsts_cons, List.map_cons, List.filter_map]
    rfl

/-- To look for the first of each key once more, by keys that tell apart no more, is to look for
them in the whole list. -/
theorem firsts_firsts (h : ∀ a b, key a = key b → key' a = key' b) (as : List α) :
    firsts key' (firsts key as) = firsts key' as := by
  induction as with
  | nil => rfl
  | cons a as ih =>
    have hfilter (bs : List α) : (firsts key' bs).filter (key' · ≠ key' a) =
        firsts key' (bs.filter (key' · ≠ key' a)) :=
      filter_firsts (fun k => decide (k ≠ key' a)) bs
    rw [firsts_cons, firsts_cons, firsts_cons, hfilter, filter_filter_ne, ← hfilter, ih]
    -- Whatever has the key of `a` has its second key as well.
    intro b hb
    simp [h b a hb]

/-- The first element of some key is the first among the firsts. -/
theorem find?_firsts (p : String → Bool) (as : List α) :
    (firsts key as).find? (fun a => p (key a)) = as.find? fun a => p (key a) := by
  rw [← List.head?_filter, ← List.head?_filter, filter_firsts]
  cases as.filter fun a => p (key a) with
  | nil => rfl
  | cons a as => rw [firsts_cons, List.head?_cons, List.head?_cons]

end QueryPad
