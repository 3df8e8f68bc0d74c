import QueryPad.Directive.Basic
import QueryPad.Session.Basic

/-!
# Carrying out directives

What a directive does to a session. A limit and a page are checked before anything changes, as is
whether the session is enabled, so one that is refused leaves the session as it was. A query fails to
do so: its text replaces that of the editor before it is submitted, and is not taken back if the
session turns out to be disabled.
-/

namespace QueryPad

/-- Whether to go on reading lines. -/
inductive Continuation
  | goOn
  | stop
  deriving DecidableEq, Repr

namespace Directive

/-- Carries out a directive. -/
def apply : Directive → SessionM Continuation
  | .query text => do
    Session.edit (.setText text)
    Session.submit true
    return .goOn
  | .limit n => do
    Session.setLimit n
    return .goOn
  | .page n => do
    Session.setPage n
    return .goOn
  | .sheets book => do
    Session.setSheets book
    return .goOn
  | .complete typed => do
    let s ← SessionM.current
    SessionM.log (.suggestionsListed (Suggestion.narrow typed s.editor.suggestions))
    return .goOn
  | .tokens => do
    let s ← SessionM.current
    let tokens ← SessionM.absorb s.editor.listTokens
    SessionM.log (.tokensListed tokens)
    return .goOn
  | .enable => do
    Session.turn .enabled
    return .goOn
  | .disable => do
    Session.turn .disabled
    return .goOn
  | .quit => return .stop

/-- Reads a line and carries it out. -/
def obey (line : String) : SessionM Continuation := do
  let directive ← SessionM.ofExcept (parse line)
  directive.apply

/-- Carries out lines one after the other, whether or not they fail, up to one that quits: what each
came to. -/
def obeyAll : List String → Session → List (Session.Outcome Continuation)
  | [], _ => []
  | line :: lines, s =>
    let outcome := (obey line).run s
    match outcome.result with
    | .ok .stop => [outcome]
    | .ok .goOn | .error _ => outcome :: obeyAll lines outcome.session

end Directive

end QueryPad
