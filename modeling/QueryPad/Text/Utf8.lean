/-!
# Reading UTF-8

Bytes are read one character at a time. Where they are no UTF-8, the fault says how many bytes were
good and how long the bad sequence is; it has no length if the bytes end inside a character.
-/

namespace QueryPad.Text.Utf8

/-- What follows the bytes that could be read. -/
structure Fault where
  /-- The number of bytes that are good. -/
  valid : Nat
  /-- The length of the sequence that no character has; `none` if a character is cut off. -/
  length? : Option Nat
  deriving DecidableEq, Repr

/-- A byte within bounds. -/
def isWithin (low high b : UInt8) : Bool :=
  low ≤ b && b ≤ high

/-- A byte that continues a character. -/
def isTail (b : UInt8) : Bool :=
  isWithin 0x80 0xBF b

/-- The bytes that may come second in a character of at least three bytes, which leaves out the
encodings that are too long, the surrogates and what is above the last code point. -/
def isSecond (first b : UInt8) : Bool :=
  if first = 0xE0 then isWithin 0xA0 0xBF b
  else if first = 0xED then isWithin 0x80 0x9F b
  else if first = 0xF0 then isWithin 0x90 0xBF b
  else if first = 0xF4 then isWithin 0x80 0x8F b
  else isTail b

/-- How many bytes the character has that starts with this byte; `none` if none starts so. -/
def length? (first : UInt8) : Option Nat :=
  if first ≤ 0x7F then some 1
  else if isWithin 0xC2 0xDF first then some 2
  else if isWithin 0xE0 0xEF first then some 3
  else if isWithin 0xF0 0xF4 first then some 4
  else none

/-- Takes up to `n` bytes that meet a condition, the first of them a condition of its own: the
bytes, or how many of them were good before one was bad or, in the right component, missing. -/
def tails? (n : Nat) (bytes : List UInt8) (second : UInt8 → Bool) (taken : Nat) :
    Except (Nat ⊕ Unit) (List UInt8) :=
  match n, bytes with
  | 0, _ => .ok []
  | _ + 1, [] => .error (.inr ())
  | n + 1, b :: more =>
    if second b then (tails? n more isTail (taken + 1)).map (b :: ·)
    else .error (.inl taken)

/-- The payload of the first byte of a character, by how many bytes follow it. -/
def payload (first : UInt8) : Nat → Nat
  | 0 => first.toNat
  | 1 => first.toNat % 32
  | 2 => first.toNat % 16
  | _ => first.toNat % 8

/-- The character that the payloads of its bytes spell. -/
def assemble (first : UInt8) (tails : List UInt8) : Char :=
  Char.ofNat (tails.foldl (fun n b => n * 64 + b.toNat % 64) (payload first tails.length))

/-- The first character, if there is one, and how many bytes follow its first; otherwise the length
of the bad sequence. -/
def head (first : UInt8) (more : List UInt8) : Except (Option Nat) (Char × Nat) :=
  match length? first with
  | none => .error (some 1)
  | some n =>
    match tails? (n - 1) more (isSecond first) 1 with
    | .ok tails => .ok (assemble first tails, n - 1)
    | .error (.inl taken) => .error (some taken)
    | .error (.inr ()) => .error none

/-- Reads bytes behind a number of bytes already read. -/
def decodeFrom (done : Nat) (bytes : List UInt8) : Except Fault (List Char) :=
  match bytes with
  | [] => .ok []
  | first :: more =>
    match head first more with
    | .error length => .error ⟨done, length⟩
    | .ok (c, n) => (decodeFrom (done + 1 + n) (more.drop n)).map (c :: ·)
termination_by bytes.length
decreasing_by simp only [List.length_drop, List.length_cons]; omega

/-- Reads bytes as UTF-8. -/
def decode (bytes : List UInt8) : Except Fault (List Char) :=
  decodeFrom 0 bytes

end QueryPad.Text.Utf8
