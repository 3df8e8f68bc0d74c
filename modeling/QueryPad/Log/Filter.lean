import QueryPad.Log.Event
import QueryPad.Pattern.Reading
import QueryPad.Text.Offset

/-!
# Log filters

Which events are logged. A filter is a list of rules, separated by commas in a text, of which the
closest decides on an event. What is no rule is left out.

A rule gives the level up to which events are logged, for those that come from some part of the
program or have some field. It is written as

    debug                       any event
    target=debug                events from targets that start so
    target                      the same, at every level
    target[{field}]=debug       those of them that have the field
    target[{field=5}]=debug     events inside a span whose field has the value
    target[{field=a*}]=debug    events inside a span whose field matches the pattern
    target[span]=debug          events inside a span of this name

Events are never inside a span here, so a rule about spans admits nothing. It is read all the same,
and refused if it asks for a value that is neither a number nor a pattern.
-/

/-! ## Rules -/

namespace QueryPad.Filter

/-- Up to which level to log some events. -/
structure Rule where
  /-- What the target of an event has to start with. -/
  target : String
  /-- The field that an event has to have. -/
  field : Option String
  /-- No level admits nothing. -/
  level : Option Level
  deriving DecidableEq, Repr

/-- Why a text is no rule. -/
inductive Fault
  | malformed
  | badLevel
  /-- A field is to match what is no pattern. -/
  | badValue (fault : Pattern.Fault)
  deriving DecidableEq, Repr

/-- What is said about a fault. -/
def Fault.message : Fault → String
  | .malformed => "invalid filter directive"
  | .badLevel =>
    "error parsing level filter: expected one of \"off\", \"error\", \"warn\", \"info\", " ++
      "\"debug\", \"trace\", or a number 0-5"
  | .badValue fault => "invalid field filter: " ++ fault.message

/-! ## Which rule decides -/

/-- The rule is about the event. -/
def Rule.concerns (event : Event) (rule : Rule) : Bool :=
  Text.startsWith event.target rule.target && rule.field.all event.fieldNames.contains

/-- No field comes before any, and fields go by their names. -/
def fieldLess : Option String → Option String → Bool
  | none, some _ => true
  | some a, some b => a < b
  | _, none => false

/-- The rule says more than another about an event that concerns both: it has the longer target, or
the same target and the later field. -/
def Rule.isCloser (rule other : Rule) : Bool :=
  other.target.length < rule.target.length ||
    (other.target.length = rule.target.length && fieldLess other.field rule.field)

/-- Of two rules that concern an event the closer; of rules that say the same the later. -/
def closest (best : Option Rule) (later : Rule) : Option Rule :=
  match best with
  | some earlier => if earlier.isCloser later then some earlier else some later
  | none => some later

/-- The rule that decides on an event. -/
def decisive? (rules : List Rule) (event : Event) : Option Rule :=
  (rules.filter (·.concerns event)).foldl closest none

/-! ## Levels -/

/-- The words for levels, in the order of their numbers; `off` admits nothing. -/
def levelWords : List (String × Option Level) :=
  [("off", none), ("error", some .error), ("warn", some .warn), ("info", some .info),
    ("debug", some .debug), ("trace", some .trace)]

/-- Reads a level, given by its name in either case or by its number. -/
def readLevel (text : String) : Option (Option Level) :=
  match Text.Numeral.read Text.Numeral.unsigned32 text.toList with
  | .ok n => (levelWords[n.toNat]?).map (·.2)
  | .error _ => levelWords.lookup (Text.fold text)

/-! ## Reading

A rule is scanned without the blank characters around it. What the scan finds is then cut out of the
whole text at the byte offsets that the scan counted, so blank characters at the beginning move the
cuts, and those at the end belong to the last of them. -/

/-- A character that a rule may begin with. -/
def isRuleStart (c : Char) : Bool :=
  c = '-' || c = ':' || c = '_' || Text.isAlphanumeric c

/-- The text from a byte offset on. -/
def cutFrom (whole : List Char) (start : Nat) : Except Fault (List Char) :=
  match Text.part? whole start with
  | some (_, rest) => .ok rest
  | none => .error .malformed

/-- The text between two byte offsets. -/
def cut (whole : List Char) (start stop : Nat) : Except Fault String := do
  match Text.part? (← cutFrom whole start) (stop - start) with
  | some (text, _) => return String.ofList text
  | none => .error .malformed

/-- Reads the level that begins at an offset; every level is admitted if nothing stands there. -/
def readLevelFrom (whole : List Char) (start : Nat) : Except Fault (Option Level) := do
  let text ← cutFrom whole start
  if text.isEmpty then return some .trace
  match readLevel (String.ofList text) with
  | some level => return level
  | none => .error .badLevel

/-- Reads what follows a closing bracket at an offset. -/
def readBehindBracket (whole : List Char) (offset : Nat) (rest : List Char) :
    Except Fault (Option Level) :=
  match rest with
  | [] => .ok (some .trace)
  | '=' :: _ => readLevelFrom whole (offset + 1)
  | _ => .error .malformed

/-- What a rule says about a field. -/
inductive Condition
  /-- The event has the field. -/
  | present (name : String)
  /-- A span around the event has the field, with some value. -/
  | valued
  deriving DecidableEq, Repr

/-- Reads a condition: the name of a field, or a name and a value. -/
def readCondition (text : String) : Except Fault Condition :=
  match Text.fields (· = '=') text.toList with
  | _ :: value :: _ =>
    if Text.Decimal.isDecimal value then .ok .valued
    else match Pattern.fault? value with
      | some fault => .error (.badValue fault)
      | none => .ok .valued
  | _ => .ok (.present text)

/-- Reads what follows an opening bracket at an offset; there is no rule if it is about spans. -/
def readBracket (whole : List Char) (target : String) (offset : Nat) (rest : List Char) :
    Except Fault (Option Rule) := do
  let span := rest.takeWhile fun c => c ≠ ']' && c ≠ '\x7b'
  let offset := offset + Text.width span
  match rest.drop span.length with
  | ']' :: rest =>
    let _ ← readBehindBracket whole (offset + 1) rest
    return none
  | '\x7b' :: rest =>
    let inside := rest.takeWhile (· ≠ '\x7d')
    let stop := offset + 1 + Text.width inside
    match rest.drop inside.length with
    | '\x7d' :: rest =>
      if inside.isEmpty then .error .malformed
      else
        let condition ← readCondition (← cut whole (offset + 1) stop)
        match rest with
        | ']' :: rest =>
          let level ← readBehindBracket whole (stop + 2) rest
          match condition with
          | .present field =>
            return if span.isEmpty then some ⟨target, some field, level⟩ else none
          | .valued => return none
        | _ => .error .malformed
    | _ => .error .malformed
  | _ => .error .malformed

/-- Reads a rule; there is none if the text is about spans. -/
def readRule (whole : List Char) : Except Fault (Option Rule) := do
  match Text.trim whole with
  | [] => .error .malformed
  | '[' :: rest => readBracket whole "" 1 rest
  | first :: more =>
    if !isRuleStart first then .error .malformed
    else
      let rest := first :: more
      let head := rest.takeWhile fun c => c ≠ '=' && c ≠ '['
      let offset := Text.width head
      match rest.drop head.length with
      | '=' :: _ =>
        let target ← cut whole 0 offset
        let level ← readLevelFrom whole (offset + 1)
        return some ⟨target, none, level⟩
      | '[' :: rest => readBracket whole (← cut whole 0 offset) (offset + 1) rest
      | _ =>
        let text := String.ofList whole
        match readLevel text with
        | some level => return some ⟨"", none, level⟩
        | none => return some ⟨text, none, some .trace⟩

end QueryPad.Filter

/-! ## Filters -/

namespace QueryPad

/-- Which events are logged. -/
structure Filter where
  rules : List Filter.Rule
  deriving DecidableEq, Repr

namespace Filter

/-- Admits events of a level, whatever they are. -/
def upTo (level : Level) : Filter :=
  ⟨[⟨"", none, some level⟩]⟩

/-- Whether an event is logged. -/
def admits (filter : Filter) (event : Event) : Bool :=
  match decisive? filter.rules event with
  | some rule => rule.level.any (·.admits event.level)
  | none => false

/-- The parts of a text that are to be read as rules. -/
def parts (text : String) : List (List Char) :=
  Text.runs (· = ',') text.toList

/-- The parts of a text that are no rules, and why. -/
def refused (text : String) : List (String × Fault) :=
  (parts text).filterMap fun part =>
    match readRule part with
    | .ok _ => none
    | .error fault => some (String.ofList part, fault)

/-- The rules of a text. -/
def rulesOf (text : String) : List Rule :=
  (parts text).filterMap fun part =>
    match readRule part with
    | .ok rule? => rule?
    | .error _ => none

/-- Reads a filter; without a rule it admits errors alone. -/
def parse (text : String) : Filter :=
  match rulesOf text with
  | [] => upTo .error
  | rules => ⟨rules⟩

end Filter

end QueryPad
