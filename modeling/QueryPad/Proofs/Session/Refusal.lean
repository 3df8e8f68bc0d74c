import QueryPad.Proofs.Session.Dispatch

/-!
# When operations fail

An operation fails if the number that it is to set is out of range, whatever the session, and else
if it asks a disabled session for a submission. Nothing comes of an operation that fails: although
`setLimit` and `setPage` change the session before they submit it, and `press` feeds the editor
before it knows of an action, the session is left as it was and nothing is logged. `Refusal` says
this of an operation and what it came to. Main statement: `refusal_perform`, it is so for every
operation on every session.
-/

namespace QueryPad

namespace Session

variable {s : Session} {o : Operation} {e : Error}

/-! ## Numbers out of range -/

/-- The operation is to set a number that is out of range. -/
def Operation.OutOfRange : Operation → Prop
  | .setLimit n => n < 1 ∨ Text.Numeral.unsigned32.greatest < n
  | .setPage n => n < 0 ∨ Text.Numeral.unsigned32.greatest < n
  | .submit _ | .press _ | .enable | .disable | .setSheets _ | .showMessage _ | .edit _ => False

/-- The operations that are refused whatever the session, and why. -/
inductive Refused : Operation → Error → Prop
  | limitNotPositive {n : Int} : n ≤ 0 → Refused (.setLimit n) (.limitNotPositive n)
  | limitTooLarge {n : Int} : Text.Numeral.unsigned32.greatest < n →
      Refused (.setLimit n) (.tooLarge .limit n)
  | pageNegative {n : Int} : n < 0 → Refused (.setPage n) (.pageNegative n)
  | pageTooLarge {n : Int} : Text.Numeral.unsigned32.greatest < n →
      Refused (.setPage n) (.tooLarge .page n)

/-- Whatever keeps an operation from having a draft is one of those. -/
theorem refused_of_draft? (h : o.draft? s = some (.error e)) : Refused o e := by
  cases o with
  | setLimit n =>
    have hcheck := eq_error_of_map_eq_error (Option.some.inj h)
    unfold checkLimit fit at hcheck
    split at hcheck
    · next hle =>
      cases hcheck
      exact .limitNotPositive hle
    · split at hcheck
      · cases hcheck
      · next hgt =>
        cases hcheck
        exact .limitTooLarge (Int.not_le.1 hgt)
  | setPage n =>
    have hcheck := eq_error_of_map_eq_error (Option.some.inj h)
    unfold checkPage fit at hcheck
    split at hcheck
    · next hneg =>
      cases hcheck
      exact .pageNegative hneg
    · split at hcheck
      · cases hcheck
      · next hgt =>
        cases hcheck
        exact .pageTooLarge (Int.not_le.1 hgt)
  | press chord =>
    obtain ⟨_, -, h⟩ := Option.map_eq_some_iff.1 h
    cases h
  | submit | enable | disable | setSheets | showMessage | edit => cases h

/-- What is refused is a number out of range. -/
theorem Refused.outOfRange (h : Refused o e) : o.OutOfRange := by
  cases h with
  | limitNotPositive h => exact .inl (Int.lt_add_one_of_le h)
  | pageNegative h => exact .inl h
  | limitTooLarge h | pageTooLarge h => exact .inr h

/-- What is refused is a value. -/
theorem Refused.category_eq (h : Refused o e) : e.category = .validation := by
  cases h <;> rfl

/-- An operation that has a draft sets no number that is out of range. -/
theorem Drafted.not_outOfRange {draft : Session} (h : Drafted s o draft) : ¬ o.OutOfRange := by
  cases h with
  | @setLimit n limit hlimit =>
    obtain ⟨hpos, heq⟩ := checkLimit_eq_ok_iff.1 hlimit
    have := limit.toNat_lt
    simp only [Operation.OutOfRange, Text.Numeral.unsigned32]
    omega
  | @setPage n page hpage =>
    have heq := checkPage_eq_ok_iff.1 hpage
    have := page.toNat_lt
    simp only [Operation.OutOfRange, Text.Numeral.unsigned32]
    omega
  | submit | submitFirst | press => exact id

/-! ## What comes of a failure -/

/-- Nothing comes of an operation that fails. -/
theorem Step.eq_of_error {out : Outcome Unit} (h : Step s o out) (he : out.result = .error e) :
    out = ⟨.error e, s, []⟩ := by
  cases h with
  | bar | refuse =>
    cases he
    rfl
  | enable | disable | setSheets | showMessage | edit | type | submit => cases he

/-- Nothing comes of an operation that fails, whatever the session. -/
theorem perform_eq_of_error (h : ((perform o).run s).result = .error e) :
    (perform o).run s = ⟨.error e, s, []⟩ :=
  (step_perform o s).eq_of_error h

/-! ## When an operation fails -/

/-- The operation failed, for a reason of this category. -/
def Outcome.FailsWith {α : Type} (category : Error.Category) (out : Outcome α) : Prop :=
  ∃ e, out.result = .error e ∧ e.category = category

/-- An operation that succeeds does not fail. -/
theorem Outcome.not_failsWith_of_ok {α : Type} {out : Outcome α} {a : α}
    {category : Error.Category} (h : out.result = .ok a) : ¬ out.FailsWith category := by
  rintro ⟨e, he, -⟩
  rw [h] at he
  cases he

/-- A failure is of the category of its error. -/
theorem Outcome.failsWith_iff_of_error {α : Type} {out : Outcome α} {category : Error.Category}
    (h : out.result = .error e) : out.FailsWith category ↔ e.category = category := by
  simp only [FailsWith, h, Except.error.injEq, exists_eq_left']

/-- How an operation on a session, with what it came to, fails: when, and for which reason. -/
structure Refusal (s : Session) (o : Operation) (out : Outcome Unit) : Prop where
  failsWith_validation_iff : out.FailsWith .validation ↔ o.OutOfRange
  failsWith_invalidState_iff : out.FailsWith .invalidState ↔
    ¬ o.OutOfRange ∧ o.Asks s ∧ s.phase = .disabled
  ok_iff : out.result = .ok () ↔ ¬ o.OutOfRange ∧ (o.Asks s → s.phase = .enabled)

/-- An operation that nothing speaks against succeeds. -/
theorem Refusal.of_ok {out : Outcome Unit} (hresult : out.result = .ok ())
    (hrange : ¬ o.OutOfRange) (hphase : o.Asks s → s.phase = .enabled) : Refusal s o out where
  failsWith_validation_iff := iff_of_false (Outcome.not_failsWith_of_ok hresult) hrange
  failsWith_invalidState_iff := by
    refine iff_of_false (Outcome.not_failsWith_of_ok hresult) ?_
    rintro ⟨-, hasks, hdisabled⟩
    rw [hphase hasks] at hdisabled
    cases hdisabled
  ok_iff := iff_of_true hresult ⟨hrange, hphase⟩

/-- A submission is barred by a disabled session. -/
theorem Refusal.of_disabled {out : Outcome Unit} (hresult : out.result = .error .disabled)
    (hrange : ¬ o.OutOfRange) (hasks : o.Asks s) (hdisabled : s.phase = .disabled) :
    Refusal s o out where
  failsWith_validation_iff := by
    rw [Outcome.failsWith_iff_of_error hresult]
    exact iff_of_false nofun hrange
  failsWith_invalidState_iff := by
    rw [Outcome.failsWith_iff_of_error hresult]
    exact iff_of_true rfl ⟨hrange, hasks, hdisabled⟩
  ok_iff := by
    rw [hresult]
    refine iff_of_false nofun ?_
    rintro ⟨-, hphase⟩
    rw [hphase hasks] at hdisabled
    cases hdisabled

/-- A number out of range is refused, be the session disabled or not. -/
theorem Refusal.of_refused {out : Outcome Unit} (hresult : out.result = .error e)
    (h : Refused o e) : Refusal s o out where
  failsWith_validation_iff := by
    rw [Outcome.failsWith_iff_of_error hresult]
    exact iff_of_true h.category_eq h.outOfRange
  failsWith_invalidState_iff := by
    rw [Outcome.failsWith_iff_of_error hresult, h.category_eq]
    exact iff_of_false nofun fun hbarred => hbarred.1 h.outOfRange
  ok_iff := by
    rw [hresult]
    exact iff_of_false nofun fun hok => hok.1 h.outOfRange

/-- Every operation fails as it should, whatever the session. -/
theorem refusal_of_step {out : Outcome Unit} (h : Step s o out) : Refusal s o out := by
  cases h with
  | enable | disable | setSheets | showMessage | edit => exact .of_ok rfl id False.elim
  | type hbound =>
    exact .of_ok rfl id fun hbinds => (Buffer.actionOf?_eq_none_iff.1 hbound hbinds).elim
  | submit hdraft hphase =>
    exact .of_ok rfl (drafted_of_draft? hdraft).not_outOfRange fun _ => hphase
  | bar hdraft hphase =>
    exact .of_disabled rfl (drafted_of_draft? hdraft).not_outOfRange
      (Operation.asks_iff.2 ⟨_, hdraft⟩) hphase
  | refuse hdraft => exact .of_refused rfl (refused_of_draft? hdraft)

/-- Every operation fails exactly when it should, whatever the session; where it fails, nothing is
changed and nothing logged. -/
theorem refusal_perform (s : Session) (o : Operation) :
    Refusal s o ((perform o).run s) ∧
      ∀ e, ((perform o).run s).result = .error e → (perform o).run s = ⟨.error e, s, []⟩ :=
  ⟨refusal_of_step (step_perform o s), fun _ => perform_eq_of_error⟩

/-- The number is looked at before the session. -/
example (s : Session) :
    (setLimit 0).run { s with phase := .disabled } =
      ⟨.error (.limitNotPositive 0), { s with phase := .disabled }, []⟩ := rfl

end Session

end QueryPad
