import QueryPad.Log.Event

/-!
# The collaborators of a session

A session hands its requests to an executor and shows its messages on a message line. Neither
answers. An executor that is gone loses every request handed to it, which is logged.
-/

namespace QueryPad

/-- Whether somebody receives the requests handed to an executor. -/
inductive Executor.Status
  | listening
  | gone
  deriving DecidableEq, Repr

/-- Whoever executes queries. -/
structure Executor where
  status : Executor.Status
  /-- The requests handed over so far, in order. -/
  handed : List Request
  deriving DecidableEq, Repr

namespace Executor

/-- An executor that has been handed nothing. -/
def new (status : Status) : Executor :=
  ⟨status, []⟩

/-- Takes a request. -/
def take (request : Request) (e : Executor) : Logged Executor :=
  ⟨{ e with handed := e.handed ++ [request] },
    match e.status with
    | .listening => []
    | .gone => [.requestDropped request.text]⟩

/-- The requests that were received. -/
def received (e : Executor) : List Request :=
  match e.status with
  | .listening => e.handed
  | .gone => []

end Executor

/-- Where the messages of a session go. -/
inductive MessageLine.Sink
  /-- They are kept for whoever displays them. -/
  | record
  /-- They are logged. -/
  | log
  deriving DecidableEq, Repr

/-- The message line of a session. -/
structure MessageLine where
  sink : MessageLine.Sink
  /-- The messages shown so far, in order. -/
  shown : List String
  /-- How often the line was cleared. -/
  clears : Nat
  deriving DecidableEq, Repr

namespace MessageLine

/-- A line on which nothing has been shown. -/
def new (sink : Sink) : MessageLine :=
  ⟨sink, [], 0⟩

/-- Shows a message. -/
def display (message : String) (m : MessageLine) : Logged MessageLine :=
  ⟨{ m with shown := m.shown ++ [message] },
    match m.sink with
    | .record => []
    | .log => [.messageShown message]⟩

/-- Clears the line. -/
def clear (m : MessageLine) : MessageLine :=
  { m with clears := m.clears + 1 }

/-- What a recording line has kept: the messages and the number of clears. -/
def kept (m : MessageLine) : List String × Nat :=
  match m.sink with
  | .record => (m.shown, m.clears)
  | .log => ([], 0)

end MessageLine

end QueryPad
