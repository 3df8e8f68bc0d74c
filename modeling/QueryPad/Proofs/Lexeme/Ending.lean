import QueryPad.Lexeme.Piece
import QueryPad.Name.Delimited

/-!
# Where a lexeme ends

Why a scan stops where it does, said by what it has passed over and what follows. Line comments,
quotes and block comments have a reason each to end, or else end with the text. The scans that look
at every character anew have one form, `run`, so that words, numbers and operators are found to go
on as long as they may by one induction (`exists_isRun`).
-/

namespace QueryPad.Lexeme

open Delimited (double)

/-! ## Stretches that go on as long as they may -/

section Run
variable {goesOn : Char → Char → List Char → Bool} {p c : Char} {t more : List Char}

/-- Goes on from the character `p` as long as it may: `goesOn p c rest` says whether it goes on to
the next character `c`, with `rest` behind that. -/
def run (goesOn : Char → Char → List Char → Bool) (p : Char) : List Char → List Char
  | [] => []
  | c :: cs => if goesOn p c cs then c :: run goesOn c cs else []

/-- A stretch of characters goes on as long as it may, before those that follow it. -/
structure IsRun (goesOn : Char → Char → List Char → Bool) (cs more : List Char) : Prop where
  goesOn_of_eq : ∀ left p c right, cs = left ++ p :: c :: right →
    goesOn p c (right ++ more) = true
  /-- It does not go on at its end. -/
  stops : ∀ left p c right, cs = left ++ [p] → more = c :: right → goesOn p c right = false

theorem takeWhile_eq_run (q : Char → Bool) (p : Char) (cs : List Char) :
    cs.takeWhile q = run (fun _ c _ => q c) p cs := by
  induction cs generalizing p with
  | nil => rfl
  | cons c cs ih => rw [List.takeWhile_cons, run, ih c]

theorem numberTail_eq_run (p : Char) (cs : List Char) :
    numberTail p cs = run (fun p c rest => isNumberPart c || isExponentSign p c rest) p cs := by
  induction cs generalizing p with
  | nil => rfl
  | cons c cs ih => rw [numberTail, run, ih c]

theorem operatorTail_eq_run (p : Char) (cs : List Char) :
    operatorTail cs = run (fun _ c rest => isOperator c && !opensComment (c :: rest)) p cs := by
  induction cs generalizing p with
  | nil => rfl
  | cons c cs ih => rw [operatorTail, run, ih c]

theorem isRun_singleton (h : ∀ c right, more = c :: right → goesOn p c right = false) :
    IsRun goesOn [p] more := by
  refine ⟨?_, ?_⟩
  · rintro (_ | ⟨_, _ | _⟩) p' c right heq <;> cases heq
  · rintro (_ | ⟨_, _ | _⟩) p' c right heq hmore <;> cases heq
    exact h c right hmore

theorem IsRun.cons (h : IsRun goesOn (c :: t) more) (hgo : goesOn p c (t ++ more) = true) :
    IsRun goesOn (p :: c :: t) more := by
  refine ⟨?_, ?_⟩
  · rintro (_ | ⟨_, left⟩) p' c' right heq
    · cases heq
      exact hgo
    · exact h.goesOn_of_eq left p' c' right (List.cons.inj heq).2
  · rintro (_ | ⟨_, left⟩) p' c' right heq hmore
    · cases heq
    · exact h.stops left p' c' right (List.cons.inj heq).2 hmore

/-- To go on as long as it may gives a stretch that does so. -/
theorem exists_isRun (goesOn : Char → Char → List Char → Bool) (p : Char) (cs : List Char) :
    ∃ more, cs = run goesOn p cs ++ more ∧ IsRun goesOn (p :: run goesOn p cs) more := by
  fun_induction run goesOn p cs with
  | case1 p => exact ⟨[], rfl, isRun_singleton nofun⟩
  | case2 p c cs hgo ih =>
    obtain ⟨more, hcs, hrun⟩ := ih
    rw [hcs] at hgo
    exact ⟨more, congrArg (c :: ·) hcs, hrun.cons hgo⟩
  | case3 p c cs hstop =>
    refine ⟨c :: cs, rfl, isRun_singleton ?_⟩
    intro d right heq
    cases heq
    exact Bool.not_eq_true _ ▸ hstop

end Run

/-! ## Line comments -/

/-- A stretch without a character ends before that character or with the text. -/
theorem exists_takeWhile_ne (stop : Char) (cs : List Char) :
    ∃ more, cs = cs.takeWhile (· ≠ stop) ++ more ∧ stop ∉ cs.takeWhile (· ≠ stop) ∧
      (more = [] ∨ more.head? = some stop) := by
  induction cs with
  | nil => exact ⟨[], rfl, List.not_mem_nil, .inl rfl⟩
  | cons c cs ih =>
    rw [List.takeWhile_cons]
    split
    · next hc =>
      obtain ⟨more, hcs, hstop, hmore⟩ := ih
      have hne : stop ≠ c := (of_decide_eq_true hc).symm
      exact ⟨more, congrArg (c :: ·) hcs, List.not_mem_cons_of_ne_of_not_mem hne hstop, hmore⟩
    · next hc =>
      rw [decide_eq_true_eq, Classical.not_not] at hc
      exact ⟨c :: cs, rfl, List.not_mem_nil, .inr (congrArg some hc)⟩

/-! ## Strings and delimited names -/

section Quote
variable {close c : Char} {t more : List Char}

/-- The characters `t` behind a quote end with a closing character that is not the first of two, all
others before it being in pairs, or there is no such up to the end of the text. -/
def EndsQuote (close : Char) (t more : List Char) : Prop :=
  ∃ inner, (t = double close inner ++ [close] ∧ more.head? ≠ some close) ∨
    (t = double close inner ∧ more = [])

theorem EndsQuote.cons (h : EndsQuote close t more) (hc : c ≠ close) :
    EndsQuote close (c :: t) more := by
  obtain ⟨inner, h⟩ := h
  refine ⟨c :: inner, ?_⟩
  rw [double, if_neg hc]
  exact h.imp (.imp_left (congrArg (c :: ·))) (.imp_left (congrArg (c :: ·)))

theorem EndsQuote.doubled (h : EndsQuote close t more) :
    EndsQuote close (close :: close :: t) more := by
  obtain ⟨inner, h⟩ := h
  refine ⟨close :: inner, ?_⟩
  rw [double, if_pos rfl]
  exact h.imp (.imp_left (congrArg (close :: close :: ·)))
    (.imp_left (congrArg (close :: close :: ·)))

/-- A string or a delimited name ends with its closing character or with the text. -/
theorem exists_endsQuote (close : Char) (cs : List Char) :
    ∃ more, cs = quotedTail close cs ++ more ∧ EndsQuote close (quotedTail close cs) more := by
  fun_induction quotedTail close cs with
  | case1 => exact ⟨[], rfl, [], .inr ⟨rfl, rfl⟩⟩
  | case2 => exact ⟨[], rfl, [], .inl ⟨rfl, (Option.some_ne_none close).symm⟩⟩
  | case3 ds ih =>
    obtain ⟨more, hds, hends⟩ := ih
    exact ⟨more, congrArg (close :: close :: ·) hds, hends.doubled⟩
  | case4 d ds hd =>
    have hmore : (d :: ds).head? ≠ some close := fun h => hd (Option.some.inj h)
    exact ⟨d :: ds, rfl, [], .inl ⟨rfl, hmore⟩⟩
  | case5 c cs hc ih =>
    obtain ⟨more, hcs, hends⟩ := ih
    exact ⟨more, congrArg (c :: ·) hcs, hends.cons hc⟩

end Quote

/-! ## Block comments -/

/-- The characters `t` behind the opening of a comment end with the first terminator among them, or
there is none up to the end of the text. -/
def EndsComment (t more : List Char) : Prop :=
  (∃ inner, t = inner ++ ['*', '/'] ∧ ¬ ['*', '/'] <:+: inner ++ ['*']) ∨
    (¬ ['*', '/'] <:+: t ∧ more = [])

/-- A character in front of the end of a comment is part of it, unless a terminator begins there. -/
theorem EndsComment.cons {c : Char} {t more : List Char} (h : EndsComment t more)
    (hnot : ∀ ds, c = '*' → t ++ more = '/' :: ds → False) : EndsComment (c :: t) more := by
  rcases h with ⟨inner, rfl, hnone⟩ | ⟨hnone, rfl⟩
  · refine .inl ⟨c :: inner, rfl, ?_⟩
    rw [List.cons_append, List.infix_cons_iff, List.cons_prefix_cons]
    rintro (⟨hc, ds, hinner⟩ | hinfix)
    · cases inner with
      | nil => cases hinner
      | cons d inner =>
        cases hinner
        exact hnot _ hc.symm rfl
    · exact hnone hinfix
  · refine .inr ⟨?_, rfl⟩
    rw [List.infix_cons_iff, List.cons_prefix_cons]
    rintro (⟨hc, ds, ht⟩ | hinfix)
    · exact hnot ds hc.symm (by rw [List.append_nil, ← ht]; rfl)
    · exact hnone hinfix

/-- A comment ends with its terminator or with the text. -/
theorem exists_endsComment (cs : List Char) :
    ∃ more, cs = commentTail cs ++ more ∧ EndsComment (commentTail cs) more := by
  fun_induction commentTail cs with
  | case1 ds => exact ⟨ds, rfl, .inl ⟨[], rfl, by decide⟩⟩
  | case2 c cs hnot ih =>
    obtain ⟨more, hcs, hends⟩ := ih
    exact ⟨more, congrArg (c :: ·) hcs, hends.cons fun ds hc heq => hnot ds hc (hcs.trans heq)⟩
  | case3 => exact ⟨[], rfl, .inr ⟨by decide, rfl⟩⟩

end QueryPad.Lexeme
