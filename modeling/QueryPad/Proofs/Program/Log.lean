import Mathlib.Data.List.Basic
import QueryPad.Program
import QueryPad.Proofs.Directive.Failure
import QueryPad.Proofs.Session.Dispatch

/-!
# The requests in the log

What a session does tells of no request as received (`isQuiet_perform`); that is told after each
line, by whoever receives them. Main statement: `requests_log`, the log of a run tells of the
requests that its lines hand over, in order and each once.
-/

namespace QueryPad

/-! ## Lines and what they do -/

namespace Directive

variable {s : Session} {d : Directive} {line : String}

/-- A directive without an operation leaves the session alone. -/
theorem session_of_operation?_eq_none (h : d.operation? = none) : (d.apply.run s).session = s := by
  cases d with
  | query | limit | page | sheets | enable | disable => cases h
  | complete | tokens | quit => rfl

/-- Only `quit` ends the input. -/
theorem result_apply_eq_stop_iff : (d.apply.run s).result = .ok .stop ↔ d = .quit := by
  cases hop : d.operation? with
  | none =>
    cases d with
    | query | limit | page | sheets | enable | disable => cases hop
    | complete | tokens => exact iff_of_false nofun nofun
    | quit => exact iff_of_true rfl rfl
  | some o =>
    refine iff_of_false ?_ ?_
    · rw [(apply_of_operation? hop).1]
      intro h
      obtain ⟨_, _, h⟩ := exists_of_map_eq_ok h
      cases h
    · rintro rfl
      cases hop

/-- A line that cannot be read does nothing. -/
theorem run_obey_of_error {e : Error} (h : parse line = .error e) (s : Session) :
    (obey line).run s = ⟨.error e, s, []⟩ := by
  rw [obey, h, SessionM.run_bind, SessionM.run_ofExcept_error]

/-- A line does what its directive does. -/
theorem run_obey_of_ok (h : parse line = .ok d) (s : Session) :
    (obey line).run s = d.apply.run s := by
  rw [obey, h, SessionM.run_bind, SessionM.run_ofExcept_ok]
  simp only [List.nil_append]

/-- A line that quits leaves the session alone. -/
theorem session_of_obey_stop {line : String} {s : Session}
    (h : ((obey line).run s).result = .ok .stop) : ((obey line).run s).session = s := by
  cases hparse : parse line with
  | error e => rw [run_obey_of_error hparse]
  | ok d =>
    rw [run_obey_of_ok hparse] at h ⊢
    cases result_apply_eq_stop_iff.1 h
    rfl

end Directive

namespace Program

variable {line : String}

/-- A line that cannot be read leaves the session to the next line. -/
theorem takeTurn_of_error {e : Error} (h : Directive.parse line = .error e) (s : Session) :
    (takeTurn line s).next = .goOn ∧ (takeTurn line s).session = s := by
  simp only [takeTurn, Directive.run_obey_of_error h, and_self]

/-- The input ends at a line that quits, and there alone. -/
theorem takeTurn_of_ok {d : Directive} (h : Directive.parse line = .ok d) (s : Session) :
    (takeTurn line s).next = (if d = .quit then .stop else .goOn) ∧
      (takeTurn line s).session = (d.apply.run s).session := by
  have hstop : (d.apply.run s).result = .ok .stop ↔ d = .quit :=
    Directive.result_apply_eq_stop_iff
  simp only [takeTurn, Directive.run_obey_of_ok h]
  split
  · next hresult => exact ⟨(if_pos (hstop.1 hresult)).symm, rfl⟩
  all_goals
    next hresult =>
      rw [hresult] at hstop
      exact ⟨(if_neg fun hquit => nomatch hstop.2 hquit).symm, rfl⟩

end Program

/-! ## Events that tell of requests -/

namespace Event

/-- The request that an event tells to have been received. -/
def request? : Event → Option Request
  | .requestReceived request => some request
  | .classified _ _ | .opened _ _ _ | .sheetsChanged _ _ | .phaseChanged _ _ | .submitting _ _
  | .settingsLoaded _ | .requestDropped _ | .messageShown _ | .suggestionsListed _
  | .tokensListed _ | .lineRefused _ => none

/-- The requests that events tell to have been received. -/
def requests (events : List Event) : List Request :=
  events.filterMap request?

@[simp] theorem requests_append (events events' : List Event) :
    requests (events ++ events') = requests events ++ requests events' :=
  List.filterMap_append

theorem requests_map_requestReceived (rs : List Request) :
    requests (rs.map .requestReceived) = rs := by
  simp [requests, List.filterMap_map, Function.comp_def, request?]

/-- What is logged at the trace level tells of no request. -/
theorem requests_of_trace {events : List Event} (h : ∀ event ∈ events, event.level = .trace) :
    requests events = [] := by
  rw [requests, List.filterMap_eq_nil_iff]
  intro event hevent
  have hlevel := h event hevent
  cases event with
  | classified => rfl
  | opened | sheetsChanged | phaseChanged | submitting | settingsLoaded | requestDropped
  | messageShown | suggestionsListed | tokensListed | requestReceived | lineRefused =>
    cases hlevel

theorem requests_classifiedEvents (tokens : List Token) :
    requests (classifiedEvents tokens) = [] :=
  requests_of_trace Editor.level_of_mem_classifiedEvents

end Event

/-! ## Operations do not tell -/

theorem Setup.requests_build {setup : Setup} {built : Logged Session}
    (h : setup.build = .ok built) : Event.requests built.events = [] := by
  obtain ⟨_, _, _, _, _, -, hopen, rfl⟩ := Setup.exists_of_build h
  dsimp only
  rw [Editor.events_openOn hopen, Event.requests_append, Event.requests_classifiedEvents]
  rfl

theorem Executor.requests_take (e : Executor) (request : Request) :
    Event.requests (e.take request).events = [] := by
  rw [take]
  cases e.status <;> rfl

theorem MessageLine.requests_display (m : MessageLine) (message : String) :
    Event.requests (m.display message).events = [] := by
  rw [display]
  cases m.sink <;> rfl

/-- The operation tells of no request as received. -/
def SessionM.IsQuiet {α : Type} (m : SessionM α) : Prop :=
  ∀ s, Event.requests (m.run s).events = []

namespace SessionM

variable {α β : Type}

theorem IsQuiet.bind {m : SessionM α} {next : α → SessionM β} (hm : m.IsQuiet)
    (hnext : ∀ a, (next a).IsQuiet) : (m >>= next).IsQuiet := by
  intro s
  rw [run_bind]
  cases (m.run s).result with
  | error e => exact hm s
  | ok a => rw [Event.requests_append, hm, hnext, List.append_nil]

theorem isQuiet_ofExcept (result : Except Error α) : (ofExcept result).IsQuiet := by
  intro s
  cases result <;> rfl

end SessionM

/-- An operation of a session tells of no request as received: whoever receives it does. -/
theorem Session.isQuiet_perform (o : Operation) : (perform o).IsQuiet := by
  intro s
  have hstep := step_perform o s
  generalize (perform o).run s = out at hstep ⊢
  cases hstep with
  | enable | disable =>
    dsimp only
    split <;> rfl
  | setSheets book => exact Event.requests_classifiedEvents _
  | showMessage => exact s.messages.requests_display _
  | edit => exact Event.requests_of_trace (s.editor.level_of_mem_apply _)
  | type => exact Event.requests_of_trace (s.editor.level_of_mem_press _)
  | submit => exact Executor.requests_take _ _
  | bar | refuse => rfl

namespace Directive

theorem isQuiet_apply (d : Directive) : d.apply.IsQuiet := by
  cases d with
  | query text =>
    exact (Session.isQuiet_perform (.edit (.setText text))).bind fun _ =>
      (Session.isQuiet_perform (.submit true)).bind fun _ _ => rfl
  | limit n => exact (Session.isQuiet_perform (.setLimit n)).bind fun _ _ => rfl
  | page n => exact (Session.isQuiet_perform (.setPage n)).bind fun _ _ => rfl
  | sheets book => exact (Session.isQuiet_perform (.setSheets book)).bind fun _ _ => rfl
  | enable => exact (Session.isQuiet_perform .enable).bind fun _ _ => rfl
  | disable => exact (Session.isQuiet_perform .disable).bind fun _ _ => rfl
  | complete | quit => exact fun _ => rfl
  | tokens =>
    refine SessionM.IsQuiet.bind (fun _ => rfl) fun s => SessionM.IsQuiet.bind ?_ fun _ _ => rfl
    exact fun _ => Event.requests_classifiedEvents s.editor.tokens

theorem isQuiet_obey (line : String) : (obey line).IsQuiet :=
  (SessionM.isQuiet_ofExcept _).bind isQuiet_apply

end Directive

/-! ## The requests received only grow -/

theorem Executor.received_prefix_take (e : Executor) (request : Request) :
    e.received <+: (e.take request).value.received := by
  rcases e with ⟨status, handed⟩
  cases status with
  | listening => exact List.prefix_append handed [request]
  | gone => exact List.prefix_refl []

theorem Session.received_prefix_perform (o : Operation) (s : Session) :
    s.executor.received <+: ((perform o).run s).session.executor.received := by
  have hstep := step_perform o s
  generalize (perform o).run s = out at hstep ⊢
  cases hstep with
  | submit hdraft =>
    rw [(drafted_of_draft? hdraft).eq]
    exact s.executor.received_prefix_take _
  | enable | disable | setSheets | showMessage | edit | type | bar | refuse =>
    exact List.prefix_refl _

theorem Directive.received_prefix_apply (d : Directive) (s : Session) :
    s.executor.received <+: (d.apply.run s).session.executor.received := by
  cases hop : d.operation? with
  | none => simp only [session_of_operation?_eq_none hop, List.prefix_rfl]
  | some o =>
    have hprepare : (d.prepare s).executor = s.executor := by cases d <;> rfl
    rw [(apply_of_operation? hop).2, ← hprepare]
    exact Session.received_prefix_perform o _

namespace Program

variable {s t u : Session} {line : String}

theorem received_prefix_takeTurn (line : String) (s : Session) :
    s.executor.received <+: (takeTurn line s).session.executor.received := by
  cases hparse : Directive.parse line with
  | error e => simp only [(takeTurn_of_error hparse s).2, List.prefix_rfl]
  | ok d =>
    rw [(takeTurn_of_ok hparse s).2]
    exact d.received_prefix_apply s

theorem received_prefix_afterLines (lines : List String) (s : Session) :
    s.executor.received <+: (afterLines lines s).executor.received := by
  induction lines generalizing s with
  | nil => exact List.prefix_refl _
  | cons line lines ih =>
    have hturn := received_prefix_takeTurn line s
    rw [afterLines]
    split
    · exact hturn
    · exact hturn.trans (ih _)

theorem requestsSince_append (hst : s.executor.received <+: t.executor.received)
    (htu : t.executor.received <+: u.executor.received) :
    requestsSince s t ++ requestsSince t u = requestsSince s u := by
  obtain ⟨first, hfirst⟩ := hst
  obtain ⟨second, hsecond⟩ := htu
  rw [requestsSince, requestsSince, requestsSince, ← hsecond, ← hfirst, List.append_assoc,
    List.drop_left, List.drop_left, ← List.append_assoc, List.drop_left]

/-- The log of a line tells of the requests that were received since. -/
theorem requests_takeTurn (line : String) (s : Session) :
    Event.requests (takeTurn line s).events = requestsSince s (takeTurn line s).session := by
  have hquiet := Directive.isQuiet_obey line s
  rw [takeTurn]
  split
  · next hstop =>
    rw [Directive.session_of_obey_stop hstop, hquiet, requestsSince, List.drop_length]
  · next hgoOn =>
    rw [Event.requests_append, hquiet, Event.requests_map_requestReceived, List.nil_append]
  · next herror =>
    rw [Event.requests_append, Event.requests_append, hquiet, Event.requests_map_requestReceived]
    rfl

/-- A program that is over logs nothing. -/
theorem events_feedAll_finished (bytes : List (List UInt8)) (exitCode : Nat) (complaint : String) :
    (feedAll bytes (.finished exitCode complaint)).events = [] := by
  induction bytes with
  | nil => rfl
  | cons _ bytes ih => exact ih

/-- The bytes are UTF-8, and these are the lines that they stand for. -/
def IsText (bytes : List (List UInt8)) (lines : List String) : Prop :=
  List.Forall₂ (fun b line => Text.Utf8.decode b = .ok line.toList) bytes lines

/-- The log of lines tells of the requests that were received since. -/
theorem requests_feedAll {bytes : List (List UInt8)} {lines : List String}
    (h : IsText bytes lines) (s : Session) :
    Event.requests (feedAll bytes (.waiting s)).events =
      requestsSince s (afterLines lines s) := by
  induction h generalizing s with
  | nil => exact List.drop_length.symm
  | @cons b line bytes lines hline hlines ih =>
    have hturn := requests_takeTurn line s
    simp only [feedAll, feed, hline, String.ofList_toList, afterLines]
    cases hnext : (takeTurn line s).next with
    | stop =>
      dsimp only
      rw [events_feedAll_finished, List.append_nil, hturn]
    | goOn =>
      dsimp only
      rw [Event.requests_append, hturn, ih]
      exact requestsSince_append (received_prefix_takeTurn line s)
        (received_prefix_afterLines lines _)

/-- Nothing has been received when the program begins. -/
theorem received_of_openSession {settings : Settings} {opened : Logged Session}
    (h : openSession settings = .ok opened) : opened.value.executor.received = [] := by
  obtain ⟨built, hbuild, h⟩ := exists_of_bind_eq_ok h
  cases h
  obtain ⟨_, _, status, _, _, -, -, rfl⟩ := Setup.exists_of_build hbuild
  cases status <;> rfl

/-- To open a session tells of no request. -/
theorem requests_openSession {settings : Settings} {opened : Logged Session}
    (h : openSession settings = .ok opened) : Event.requests opened.events = [] := by
  obtain ⟨built, hbuild, h⟩ := exists_of_bind_eq_ok h
  cases h
  have hgreet : (Session.setSheets (.ofList [⟨settings.sheet, []⟩]) >>= fun _ =>
      Session.turn .enabled).IsQuiet :=
    (Session.isQuiet_perform (.setSheets _)).bind fun _ => Session.isQuiet_perform .enable
  rw [Event.requests_append, Setup.requests_build hbuild]
  exact hgreet built.value

/-! ## Whole runs -/

/-- What a run on lines of bytes logs, whether or not the filter admits it. -/
def log (env : Environment) (bytes : List (List UInt8)) : List Event :=
  (start env).events ++ (feedAll bytes (start env).state).events

/-- The program is run with these settings on these lines. -/
structure IsRun (settings : Settings) (lines : List String) (env : Environment)
    (bytes : List (List UInt8)) : Prop where
  load : ∃ loaded, Settings.load env = .ok loaded ∧ loaded.value = settings
  isText : IsText bytes lines

example : IsRun .default ["é", ":q"] [] [[0xC3, 0xA9], [0x3A, 0x71]] :=
  ⟨⟨_, rfl, rfl⟩, .cons (by cbv) (.cons (by cbv) .nil)⟩

/-- The log of a run tells of the requests that its lines hand over, and of no others. -/
theorem requests_log {settings : Settings} {lines : List String} {env : Environment}
    {bytes : List (List UInt8)} (h : IsRun settings lines env bytes) {rs : List Request}
    (hrequests : requests settings lines = .ok rs) : Event.requests (log env bytes) = rs := by
  obtain ⟨loaded, hload, rfl⟩ := h.load
  obtain ⟨opened, hopen, hrs⟩ := exists_of_bind_eq_ok hrequests
  cases hrs
  have hloaded : Event.requests loaded.events = [] := by
    obtain ⟨settings, _, hevents⟩ := exists_of_bind_eq_ok hload
    cases hevents
    rfl
  simp only [log, start, hload, hopen]
  rw [Event.requests_append, Event.requests_append, hloaded, requests_openSession hopen,
    requests_feedAll h.isText, requestsSince, received_of_openSession hopen]
  rfl

end Program

end QueryPad
