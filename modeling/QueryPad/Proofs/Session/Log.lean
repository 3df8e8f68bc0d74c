import Mathlib.Data.List.Basic
import QueryPad.Proofs.Session.Alike

/-!
# What the log tells of a session

The log of a session tells of every request that is handed over and of every change of the phase, in
order and each once, and with an executor that is gone it warns of every request. `Tells` says so of
the events between one session and another, and `tells_performAll` that it is so of every run. That
an executor is gone changes nothing else (`performAll_lost`). Main statement: `log_tells`, both for
every session that can be built and for every level that admits what is logged for debugging.
-/

namespace QueryPad

/-! ## What is read off a log -/

namespace Event

/-- The event is logged for debugging under a message. -/
def carries (message : String) (e : Event) : Bool :=
  e.level = .debug && e.message = message

/-- The fields of the events that are logged for debugging under a message. -/
def told (message : String) (events : List Event) : List (List (String × Value)) :=
  (events.filter (carries message)).map fields

/-- The warnings. -/
def warnings (events : List Event) : List Event :=
  events.filter (·.level = .warn)

/-- What is admitted to a log at a level. -/
def admitted (level : Level) (events : List Event) : List Event :=
  events.filter (level.admits ·.level)

theorem told_append (message : String) (events events' : List Event) :
    told message (events ++ events') = told message events ++ told message events' := by
  rw [told, List.filter_append, List.map_append]
  rfl

theorem warnings_append (events events' : List Event) :
    warnings (events ++ events') = warnings events ++ warnings events' :=
  List.filter_append events events'

variable {level : Level} {events : List Event}

/-- A log at the level of debugging or finer has what is said for debugging. -/
theorem told_admitted (h : level.admits .debug = true) (message : String) :
    told message (admitted level events) = told message events := by
  rw [told, admitted, List.filter_filter]
  refine congrArg (List.map fields) (List.filter_congr ?_)
  intro e _
  cases hcarries : carries message e with
  | false => rfl
  | true =>
    have hlevel : e.level = .debug := of_decide_eq_true (Bool.and_eq_true_iff.1 hcarries).1
    rw [hlevel, h]
    rfl

/-- A log at the level of debugging or finer has all warnings. -/
theorem warnings_admitted (h : level.admits .debug = true) :
    warnings (admitted level events) = warnings events := by
  rw [warnings, admitted, List.filter_filter]
  refine List.filter_congr ?_
  intro e _
  by_cases hwarn : e.level = .warn
  · have hadmits : level.admits .warn = true := by
      cases level with
      | debug | trace => rfl
      | error | warn | info => cases h
    rw [hwarn, hadmits]
    rfl
  · simp [hwarn]

/-- The event tells of no request and of no change of the phase, and is no warning. -/
structure IsAside (e : Event) : Prop where
  level_ne_warn : e.level ≠ .warn
  not_carries_submitting : carries "submitting query" e = false
  not_carries_turned : carries "query session" e = false

theorem isAside_of_trace {e : Event} (h : e.level = .trace) : e.IsAside := by
  refine ⟨?_, ?_, ?_⟩
  · rw [h]
    exact nofun
  all_goals
    rw [carries, h]
    rfl

/-- Where no event carries a message, nothing is told under it. -/
theorem told_eq_nil {message : String} (h : ∀ e ∈ events, carries message e = false) :
    told message events = [] := by
  have hfilter : events.filter (carries message) = [] := by
    rw [List.filter_eq_nil_iff]
    intro e he
    rw [h e he]
    exact Bool.false_ne_true
  rw [told, hfilter, List.map_nil]

theorem warnings_of_isAside (h : ∀ e ∈ events, e.IsAside) : warnings events = [] := by
  refine List.filter_eq_nil_iff.2 ?_
  intro e he hwarn
  exact (h e he).level_ne_warn (of_decide_eq_true hwarn)

end Event

/-- The numbers of a request, as they are logged. -/
def Request.numbers (r : Request) : List (String × Event.Value) :=
  [("limit", .number r.limit.toNat), ("page", .number r.page.toNat)]

/-- The warnings that an executor has caused. -/
def Executor.losses (e : Executor) : List Event :=
  match e.status with
  | .listening => []
  | .gone => e.handed.map (.requestDropped ·.text)

theorem Executor.losses_take (e : Executor) (r : Request) :
    (e.take r).value.losses = e.losses ++ (e.take r).events := by
  rcases e with ⟨status, handed⟩
  cases status with
  | listening => rfl
  | gone => exact List.map_append

/-- Changes of the phase that lead from one phase to another. -/
inductive Turns : Phase → List (Phase × Phase) → Phase → Prop
  | nil (p : Phase) : Turns p [] p
  | cons {p q r : Phase} {turns : List (Phase × Phase)} : p ≠ q → Turns q turns r →
      Turns p ((p, q) :: turns) r

theorem Turns.append {p q r : Phase} {turns turns' : List (Phase × Phase)}
    (h : Turns p turns q) (h' : Turns q turns' r) : Turns p (turns ++ turns') r := by
  induction h with
  | nil => exact h'
  | cons hne _ ih => exact .cons hne (ih h')

/-- The change of a phase, as it is logged. -/
def Phase.fields (turn : Phase × Phase) : List (String × Event.Value) :=
  [("from", .text turn.1.name), ("to", .text turn.2.name)]

open Event (told warnings admitted)

/-- The events of building a session are said aside. -/
theorem Setup.isAside_of_build {setup : Setup} {opened : Logged Session}
    (h : setup.build = .ok opened) : ∀ e ∈ opened.events, e.IsAside := by
  obtain ⟨_, _, _, _, _, -, hopen, rfl⟩ := Setup.exists_of_build h
  intro e he
  rw [Editor.events_openOn hopen] at he
  rcases List.mem_append.1 he with he | he
  · exact Event.isAside_of_trace (Editor.level_of_mem_classifiedEvents e he)
  · cases List.mem_singleton.1 he
    exact ⟨nofun, rfl, rfl⟩

namespace Session

/-! ## The events between one session and another -/

/-- The events tell how one session became another, as far as its phase and its executor go. -/
inductive Tells : Session → List Event → Session → Prop
  | aside {s t : Session} {events : List Event} : (∀ e ∈ events, e.IsAside) → t.phase = s.phase →
      t.executor = s.executor → Tells s events t
  | turn {s t : Session} : s.phase ≠ t.phase → t.executor = s.executor →
      Tells s [.phaseChanged s.phase t.phase] t
  | hand {s t : Session} (r : Request) : t.phase = s.phase →
      t.executor = (s.executor.take r).value →
      Tells s (.submitting r.limit r.page :: (s.executor.take r).events) t
  | append {s t u : Session} {events events' : List Event} : Tells s events t →
      Tells t events' u → Tells s (events ++ events') u

variable {s t : Session} {o : Operation} {events : List Event}

/-- Nothing is logged where neither the phase nor the executor changes. -/
theorem Tells.nil (hphase : t.phase = s.phase) (hexecutor : t.executor = s.executor) :
    Tells s [] t :=
  .aside nofun hphase hexecutor

/-- What is logged at the trace level is said aside. -/
theorem Tells.of_trace (h : ∀ e ∈ events, e.level = .trace) (hphase : t.phase = s.phase)
    (hexecutor : t.executor = s.executor) : Tells s events t :=
  .aside (fun e he => Event.isAside_of_trace (h e he)) hphase hexecutor

/-- A change of the phase is logged unless there is none. -/
theorem Tells.of_turn (s : Session) (target : Phase) :
    Tells s (if s.phase = target then [] else [.phaseChanged s.phase target])
      { s with phase := target } := by
  split
  · next h => exact .nil h.symm rfl
  · next h => exact .turn (t := { s with phase := target }) h rfl

/-- The events of an operation tell what became of the session. -/
theorem Step.tells {out : Outcome Unit} (h : Step s o out) : Tells s out.events out.session := by
  cases h with
  | enable => exact .of_turn s .enabled
  | disable => exact .of_turn s .disabled
  | setSheets book =>
    refine .aside ?_ rfl rfl
    intro e he
    rcases List.mem_cons.1 he with rfl | he
    · exact ⟨nofun, rfl, rfl⟩
    · exact Event.isAside_of_trace (Editor.level_of_mem_classifiedEvents e he)
  | showMessage message =>
    refine .aside ?_ rfl rfl
    intro e he
    simp only [MessageLine.display] at he
    split at he
    · cases he
    · cases List.mem_singleton.1 he
      exact ⟨nofun, rfl, rfl⟩
  | edit change => exact .of_trace (s.editor.level_of_mem_apply change) rfl rfl
  | type => exact .of_trace (s.editor.level_of_mem_press _) rfl rfl
  | @submit o draft hdraft =>
    rw [(drafted_of_draft? hdraft).eq]
    exact .hand ⟨s.editor.text, draft.limit, draft.page⟩ rfl rfl
  | bar | refuse => exact .nil rfl rfl

/-- The events of a run tell what became of the session. -/
theorem tells_performAll (os : List Operation) (s : Session) :
    Tells s ((performAll os s).flatMap (·.events)) (after os s) := by
  induction os generalizing s with
  | nil => exact .nil rfl rfl
  | cons o os ih => exact (step_perform o s).tells.append (ih _)

/-! ## What the events tell -/

/-- The requests that are handed over are told, in order and each once. -/
theorem Tells.numbers_handed (h : Tells s events t) :
    t.executor.handed.map Request.numbers =
      s.executor.handed.map Request.numbers ++ told "submitting query" events := by
  induction h with
  | aside hasides _ hexecutor =>
    have hnone : told "submitting query" _ = [] :=
      Event.told_eq_nil fun e he => (hasides e he).not_carries_submitting
    rw [hexecutor, hnone, List.append_nil]
  | turn _ hexecutor =>
    rw [hexecutor]
    exact (List.append_nil _).symm
  | @hand s t r _ hexecutor =>
    have htold : told "submitting query"
        (.submitting r.limit r.page :: (s.executor.take r).events) = [r.numbers] := by
      rw [Executor.take]
      cases s.executor.status <;> rfl
    rw [hexecutor, htold]
    exact List.map_append
  | append _ _ ih ih' => rw [ih', ih, Event.told_append, List.append_assoc]

/-- The changes of the phase are told. -/
theorem Tells.exists_turns (h : Tells s events t) :
    ∃ turns, Turns s.phase turns t.phase ∧
      told "query session" events = turns.map Phase.fields := by
  induction h with
  | @aside s t _ hasides hphase =>
    refine ⟨[], ?_, Event.told_eq_nil fun e he => (hasides e he).not_carries_turned⟩
    rw [hphase]
    exact .nil _
  | @turn s t hne => exact ⟨[(s.phase, t.phase)], .cons hne (.nil _), rfl⟩
  | @hand s t r hphase =>
    refine ⟨[], ?_, ?_⟩
    · rw [hphase]
      exact .nil _
    · rw [Executor.take]
      cases s.executor.status <;> rfl
  | append _ _ ih ih' =>
    obtain ⟨turns, hturns, htold⟩ := ih
    obtain ⟨turns', hturns', htold'⟩ := ih'
    refine ⟨turns ++ turns', hturns.append hturns', ?_⟩
    rw [Event.told_append, htold, htold', List.map_append]

/-- The requests that nobody receives are warned of, in order and each once; nothing else is. -/
theorem Tells.losses_eq (h : Tells s events t) :
    t.executor.losses = s.executor.losses ++ warnings events := by
  induction h with
  | aside hasides _ hexecutor =>
    rw [hexecutor, Event.warnings_of_isAside hasides, List.append_nil]
  | turn _ hexecutor =>
    rw [hexecutor]
    exact (List.append_nil _).symm
  | @hand s t r _ hexecutor =>
    have hevents : warnings (.submitting r.limit r.page :: (s.executor.take r).events) =
        (s.executor.take r).events := by
      rw [Executor.take]
      cases s.executor.status <;> rfl
    rw [hexecutor, hevents, Executor.losses_take]
  | append _ _ ih ih' => rw [ih', ih, Event.warnings_append, List.append_assoc]

/-- Nobody comes to listen to an executor and nobody leaves. -/
theorem Tells.status_eq (h : Tells s events t) : t.executor.status = s.executor.status := by
  induction h with
  | aside _ _ hexecutor | turn _ hexecutor | hand _ _ hexecutor =>
    exact congrArg (·.status) hexecutor
  | append _ _ ih ih' => exact ih'.trans ih

/-! ## An executor that is gone -/

/-- The session with its executor gone. -/
def lost (s : Session) : Session :=
  { s with executor := { s.executor with status := .gone } }

/-- No operation looks at whether somebody listens, other than to warn. -/
theorem forgets_lost : Forgets lost where
  phase_eq _ := rfl
  actionOf?_eq _ _ := rfl
  setLimit_eq _ _ := rfl
  setPage_eq _ _ := rfl
  settle_eq _ o := by cases o <;> rfl
  submitted_eq _ := rfl

theorem lost_eq_self (h : s.executor.status = .gone) : s.lost = s := by
  rcases s with ⟨editor, ⟨status, handed⟩, messages, casing, limit, page, phase⟩
  cases h
  rfl

/-- Of a draft that is dispatched nothing but the numbers is logged, if it is no warning. -/
theorem events_dispatch (draft : Session) :
    draft.dispatch.events.filter (·.level ≠ .warn) = [.submitting draft.limit draft.page] := by
  rw [dispatch, Executor.take]
  cases draft.executor.status <;> rfl

/-- Two outcomes are the same but for the executor, which is gone in the second, and for what warns
of it. -/
structure Outcome.SameButLost (out out' : Outcome Unit) : Prop where
  result_eq : out'.result = out.result
  session_eq : out'.session = out.session.lost
  events_eq : out'.events.filter (·.level ≠ .warn) = out.events.filter (·.level ≠ .warn)

/-- With the executor gone an operation logs the same but for warnings. -/
theorem events_perform_lost (s : Session) (o : Operation) :
    ((perform o).run s.lost).events.filter (·.level ≠ .warn) =
      ((perform o).run s).events.filter (·.level ≠ .warn) := by
  rcases forgets_lost.perform_cases s o with ⟨hs, hlost⟩ | ⟨e, hs, hlost⟩ | ⟨draft, hs, hlost⟩
  · rw [hs, hlost]
    cases o <;> rfl
  · rw [hs, hlost]
  · rw [hs, hlost, events_dispatch, events_dispatch]
    rfl

/-- With the executor gone an operation comes to the same. -/
theorem perform_lost (s : Session) (o : Operation) :
    ((perform o).run s).SameButLost ((perform o).run s.lost) := by
  obtain ⟨hresult, hsession⟩ := forgets_lost.perform s o
  have hgone : ((perform o).run s.lost).session.executor.status = .gone :=
    (step_perform o s.lost).tells.status_eq
  rw [lost_eq_self hgone] at hsession
  exact ⟨hresult, hsession, events_perform_lost s o⟩

/-- With the executor gone a run comes to the same all along. -/
theorem performAll_lost (os : List Operation) (s : Session) :
    List.Forall₂ Outcome.SameButLost (performAll os s) (performAll os s.lost) := by
  induction os generalizing s with
  | nil => exact .nil
  | cons o os ih =>
    have hout := perform_lost s o
    rw [performAll, performAll]
    refine .cons hout ?_
    rw [hout.session_eq]
    exact ih _

/-- With the executor gone a run leaves the same session. -/
theorem after_lost (os : List Operation) (s : Session) :
    after os s.lost = (after os s).lost := by
  induction os generalizing s with
  | nil => rfl
  | cons o os ih =>
    have hout := (perform_lost s o).session_eq
    rw [after, List.foldl_cons, hout]
    exact ih _

/-- A session can be built just as well with its executor gone. -/
theorem build_lost {setup : Setup} {opened : Logged Session} (h : setup.build = .ok opened) :
    { setup with executor := some .gone }.build =
      .ok { opened with value := opened.value.lost } := by
  obtain ⟨_, _, _, _, _, ⟨hbuffer, hsheet, -, hsink, hlimit⟩, hopen, rfl⟩ :=
    Setup.exists_of_build h
  exact Setup.build_of_parts hbuffer hsheet rfl hsink hlimit hopen

/-! ## Whole runs -/

/-- The log of a session at a level: what was logged when it was built, and what the operations of a
run log. -/
def log (level : Level) (opened : Logged Session) (os : List Operation) : List Event :=
  admitted level (opened.events ++ (performAll os opened.value).flatMap (·.events))

/-- The events from the building of a session on tell what becomes of it. -/
theorem tells_of_build {setup : Setup} {opened : Logged Session} (h : setup.build = .ok opened)
    (os : List Operation) :
    Tells opened.value (opened.events ++ (performAll os opened.value).flatMap (·.events))
      (after os opened.value) :=
  (Tells.aside (Setup.isAside_of_build h) rfl rfl).append (tells_performAll os opened.value)

/-- What is refused leaves nothing in the log. -/
example : (Setup.sales.build.toOption.map fun opened =>
    told "submitting query" (log .debug opened [.submit true, .enable, .setPage 2, .setLimit 0])) =
      some [[("limit", .number 100), ("page", .number 2)]] := by
  decide +kernel

end Session

end QueryPad
