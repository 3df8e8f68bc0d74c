import QueryPad.Proofs.Session.Step

/-!
# The discipline of handing over requests

A session hands over a request exactly when an operation asks for one and succeeds, and the request
is what the session is left with. `Handover` says what a single operation does and `exists_handover`
that every operation does so; `Accounted` holds between operations. Main statement:
`dispatch_discipline`, both hold all along every run of every session that can be built.
-/

namespace QueryPad

namespace Session

/-! ## What operations ask for -/

/-- The operation asks for a submission. -/
def Operation.Asks (s : Session) : Operation → Prop
  | .setLimit _ | .setPage _ | .submit _ => True
  | .press chord => s.editor.buffer.Binds chord
  | .enable | .disable | .setSheets _ | .showMessage _ | .edit _ => False

/-- The operation asks for a submission from the first page. -/
def Operation.AsksForFirstPage (s : Session) : Operation → Prop
  | .setLimit _ => True
  | .submit fromFirstPage => fromFirstPage = true
  | .press chord => s.editor.buffer.Binds chord
  | .setPage _ | .enable | .disable | .setSheets _ | .showMessage _ | .edit _ => False

variable {s : Session} {o : Operation}

/-- An operation asks for a submission exactly if it has a draft. -/
theorem Operation.asks_iff : o.Asks s ↔ ∃ draft, o.draft? s = some draft := by
  cases o with
  | setLimit | setPage | submit => exact ⟨fun _ => ⟨_, rfl⟩, fun _ => trivial⟩
  | press chord =>
    rw [Asks, draft?, ← Buffer.exists_actionOf?_iff]
    simp only [Option.map_eq_some_iff, exists_comm, exists_and_left, exists_eq', and_true]
  | enable | disable | setSheets | showMessage | edit =>
    refine ⟨False.elim, ?_⟩
    rintro ⟨_, h⟩
    cases h

/-- A draft of an operation that asks for the first page is on it. -/
theorem Drafted.page_eq_zero {draft : Session} (hdraft : Drafted s o draft)
    (h : o.AsksForFirstPage s) : draft.page = 0 := by
  cases hdraft with
  | setLimit | submitFirst | press => rfl
  | setPage => exact h.elim
  | submit => cases h

/-! ## What a single operation hands over -/

/-- How an operation on a session, with what it came to, deals with requests: those that it hands
over. -/
structure Handover (s : Session) (o : Operation) (out : Outcome Unit)
    (requests : List Request) : Prop where
  /-- The executor has been handed these beyond those of before. -/
  handed_eq : out.session.executor.handed = s.executor.handed ++ requests
  length_le_one : requests.length ≤ 1
  length_eq_one_iff : requests.length = 1 ↔ o.Asks s ∧ out.result = .ok ()
  eq_nil_of_disabled : s.phase = .disabled → requests = []
  /-- A request is what the session is left with. -/
  eq_of_mem : ∀ r ∈ requests,
    r = ⟨out.session.editor.text, out.session.limit, out.session.page⟩
  page_eq_zero : o.AsksForFirstPage s → out.result = .ok () → out.session.page = 0

/-- An operation that asks for nothing and leaves the executor alone hands over nothing. -/
theorem Handover.of_not_asks {out : Outcome Unit} (hasks : ¬ o.Asks s)
    (hfirst : ¬ o.AsksForFirstPage s)
    (hexecutor : out.session.executor = s.executor) : Handover s o out [] where
  handed_eq := by rw [hexecutor, List.append_nil]
  length_le_one := Nat.zero_le 1
  length_eq_one_iff := by
    refine ⟨?_, ?_⟩
    · intro h
      cases h
    · rintro ⟨hdoes, -⟩
      exact (hasks hdoes).elim
  eq_nil_of_disabled _ := rfl
  eq_of_mem _ h := nomatch h
  page_eq_zero h := (hfirst h).elim

/-- An operation that failed and left the session alone hands over nothing. -/
theorem Handover.of_error {out : Outcome Unit} {e : Error} (hresult : out.result = .error e)
    (hsession : out.session = s) : Handover s o out [] where
  handed_eq := by rw [hsession, List.append_nil]
  length_le_one := Nat.zero_le 1
  length_eq_one_iff := by
    refine ⟨?_, ?_⟩
    · intro h
      cases h
    · rintro ⟨-, hok⟩
      rw [hresult] at hok
      cases hok
  eq_nil_of_disabled _ := rfl
  eq_of_mem _ h := nomatch h
  page_eq_zero _ h := by
    rw [hresult] at h
    cases h

/-- Where the session is enabled, a draft is handed over as it stands. -/
theorem Handover.of_draft {draft : Session} (hdraft : o.draft? s = some (.ok draft))
    (hphase : s.phase = .enabled) : Handover s o draft.dispatch [draft.request] where
  handed_eq := by
    rw [(drafted_of_draft? hdraft).eq]
    rfl
  length_le_one := Nat.le_refl 1
  length_eq_one_iff := ⟨fun _ => ⟨Operation.asks_iff.2 ⟨_, hdraft⟩, rfl⟩, fun _ => rfl⟩
  eq_nil_of_disabled h := by
    rw [hphase] at h
    cases h
  eq_of_mem r hr := List.mem_singleton.1 hr
  page_eq_zero hfirst _ := (drafted_of_draft? hdraft).page_eq_zero hfirst

/-- Every operation deals with requests as it should, whatever the session. -/
theorem exists_handover (s : Session) (o : Operation) :
    ∃ requests, Handover s o ((perform o).run s) requests := by
  have hstep := step_perform o s
  generalize (perform o).run s = out at hstep ⊢
  cases hstep with
  | enable | disable | setSheets | showMessage | edit =>
    exact ⟨[], .of_not_asks id id rfl⟩
  | type hbound =>
    have hnot := Buffer.actionOf?_eq_none_iff.1 hbound
    exact ⟨[], .of_not_asks hnot hnot rfl⟩
  | submit hdraft hphase => exact ⟨_, .of_draft hdraft hphase⟩
  | bar | refuse => exact ⟨[], .of_error rfl rfl⟩

/-! ## What holds between operations -/

/-- A session is in order: its limit is a positive number of 32 bits, and its message line was
cleared once for each request that it handed over. -/
structure Accounted (s : Session) : Prop where
  one_le_limit : 1 ≤ s.limit.toNat
  limit_le : s.limit.toNat ≤ Text.Numeral.unsigned32.greatest
  clears_eq : s.messages.clears = s.executor.handed.length

/-- A limit that is positive is in range. -/
theorem Accounted.of_one_le (hlimit : 1 ≤ s.limit.toNat)
    (hclears : s.messages.clears = s.executor.handed.length) : s.Accounted :=
  ⟨hlimit, Nat.le_of_lt_succ s.limit.toNat_lt, hclears⟩

/-- Every operation keeps a session in order. -/
theorem Accounted.perform (h : s.Accounted) (o : Operation) :
    ((perform o).run s).session.Accounted := by
  have hstep := step_perform o s
  generalize (Session.perform o).run s = out at hstep ⊢
  cases hstep with
  | enable | disable | setSheets | showMessage | edit | type =>
    exact .of_one_le h.one_le_limit h.clears_eq
  | @submit o draft hdraft =>
    have hdrafted := drafted_of_draft? hdraft
    refine .of_one_le (hdrafted.one_le_limit h.one_le_limit) ?_
    show draft.messages.clears + 1 = (draft.executor.handed ++ [_]).length
    rw [hdrafted.eq, List.length_append, List.length_singleton]
    exact congrArg (· + 1) h.clears_eq
  | bar | refuse => exact h

/-- A session is in order when it is built. -/
theorem accounted_of_build {setup : Setup} {opened : Logged Session}
    (h : setup.build = .ok opened) : opened.value.Accounted := by
  obtain ⟨_, _, _, _, _, ⟨_, _, _, _, hlimit⟩, -, rfl⟩ := Setup.exists_of_build h
  refine .of_one_le ?_ rfl
  show 1 ≤ setup.limit.toNat
  have : setup.limit.toNat ≠ 0 := fun hzero => hlimit (UInt32.toNat_inj.1 hzero)
  omega

/-! ## Whole runs -/

/-- All along every run of a session that can be built, its limit is in range and its message line
was cleared once for each request handed over; and whatever operation comes next hands over one
request if it asks for one and succeeds, otherwise none. -/
theorem dispatch_discipline {setup : Setup} {opened : Logged Session}
    (h : setup.build = .ok opened) (os : List Operation) :
    (after os opened.value).Accounted ∧
      ∀ o, ∃ requests, Handover (after os opened.value) o
        ((perform o).run (after os opened.value)) requests :=
  ⟨after_induction (accounted_of_build h) (fun _ o hs => hs.perform o) os,
    fun o => exists_handover _ o⟩

theorem dispatch_discipline_sales :
    ∃ opened, Setup.sales.build = .ok opened ∧
      (after [.enable, .setPage 3] opened.value).Accounted ∧
      ∀ o, ∃ requests, Handover (after [.enable, .setPage 3] opened.value) o
        ((perform o).run (after [.enable, .setPage 3] opened.value)) requests := by
  obtain ⟨opened, h⟩ : ∃ opened, Setup.sales.build = .ok opened := ⟨_, rfl⟩
  exact ⟨opened, h, dispatch_discipline h [.enable, .setPage 3]⟩

end Session

end QueryPad
