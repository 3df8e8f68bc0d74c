import QueryPad.Program

/-!
# The command line

Reads standard input as it comes and prints the log.
-/

namespace QueryPad

/-- The variables that the program looks at. -/
def environmentKeys : List String :=
  Program.filterKey :: Settings.sheetKey ::
    [Setting.caseSensitive, .limit, .darkMode].map Setting.key

/-- The environment of the process. -/
def readEnvironment : IO Environment :=
  environmentKeys.filterMapM fun key => do
    return (← IO.getEnv key).map fun value => (key, value)

/-- Prints what a step logged and says whether the program goes on. -/
def report (filter : Filter) (step : Program.Step) : IO Bool := do
  let out ← IO.getStdout
  for line in Program.logLines filter step.events do
    out.putStrLn line
  out.flush
  match step.state with
  | .waiting _ => return true
  | .finished _ _ => return false

/-- Feeds the input to the program, `pending` being the bytes of a line that is not complete. -/
partial def loop (filter : Filter) (input : IO.FS.Stream) (pending : ByteArray)
    (state : Program.State) : IO Program.State := do
  let chunk ← input.read 4096
  let mut state := state
  if chunk.isEmpty then
    for line in Program.lines pending.toList do
      let step := Program.feed line state
      let _ ← report filter step
      state := step.state
    return state
  let bytes := (pending ++ chunk).toList
  let complete := (bytes.reverse.dropWhile (· ≠ 10)).reverse
  for line in Program.lines complete do
    let step := Program.feed line state
    let goesOn ← report filter step
    state := step.state
    if !goesOn then
      return state
  loop filter input ⟨(bytes.drop complete.length).toArray⟩ state

end QueryPad

open QueryPad in
/-- Runs the program and exits with its code. -/
def main : IO UInt32 := do
  let env ← readEnvironment
  let filter := Program.filterOf env
  IO.eprint (Program.filterComplaint env)
  let started := Program.start env
  let mut state := started.state
  if ← report filter started then
    state ← loop filter (← IO.getStdin) .empty state
  let (exitCode, complaint) := Program.ending state
  IO.eprint complaint
  return exitCode.toUInt32
