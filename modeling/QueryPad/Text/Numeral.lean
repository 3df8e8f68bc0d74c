import QueryPad.Text.Words

/-!
# Numbers in texts

A numeral is an optional sign and at least one ASCII digit. It is read from the left, so the first
digit with which the number leaves its range is reported before a later character that is no digit.

A decimal number is only recognised: an optional sign and then digits, with at most one point before,
among or behind them and perhaps an exponent, or the word for infinity or for what is not a number.
-/

/-! ## Numerals -/

namespace QueryPad.Text.Numeral

/-- Why a text is not a numeral of the expected range. -/
inductive Fault
  | empty
  | invalidDigit
  | tooLarge
  | tooSmall
  deriving DecidableEq, Repr

/-- The value of an ASCII digit. -/
def digit? (c : Char) : Option Nat :=
  if c.isDigit then some (c.toNat - '0'.toNat) else none

/-- Reads digits behind a number already read, which stays at or below the greatest magnitude. -/
def readDigits (greatest : Nat) (beyond : Fault) : Nat → List Char → Except Fault Nat
  | n, [] => .ok n
  | n, c :: cs =>
    match digit? c with
    | none => .error .invalidDigit
    | some d => if 10 * n + d ≤ greatest then readDigits greatest beyond (10 * n + d) cs
      else .error beyond

/-- The range of numbers that a numeral may denote; a minus sign is read if there is a negative
number among them. -/
structure Range where
  /-- The greatest number. -/
  greatest : Nat
  /-- The magnitude of the least number. -/
  least : Nat

/-- The numbers that fit into 64 bits, signed. -/
def signed64 : Range := ⟨9223372036854775807, 9223372036854775808⟩

/-- The numbers that fit into 32 bits, unsigned. -/
def unsigned32 : Range := ⟨4294967295, 0⟩

/-- Reads a numeral of a range. -/
def read (range : Range) : List Char → Except Fault Int
  | [] => .error .empty
  | '+' :: c :: cs => (readDigits range.greatest .tooLarge 0 (c :: cs)).map Int.ofNat
  | '-' :: c :: cs =>
    if range.least = 0 then .error .invalidDigit
    else (readDigits range.least .tooSmall 0 (c :: cs)).map fun n => -(n : Int)
  | cs => (readDigits range.greatest .tooLarge 0 cs).map Int.ofNat

/-- The digits of a whole number, a minus sign before those of a negative one. -/
def write (n : Int) : List Char :=
  if n < 0 then '-' :: Nat.toDigits 10 n.natAbs else Nat.toDigits 10 n.natAbs

end QueryPad.Text.Numeral

/-! ## Decimal numbers -/

namespace QueryPad.Text.Decimal

/-- The text behind a sign, if there is one. -/
def unsigned : List Char → List Char
  | '+' :: cs => cs
  | '-' :: cs => cs
  | cs => cs

/-- Nothing, or an exponent: its letter, an optional sign and digits. -/
def isExponent : List Char → Bool
  | [] => true
  | c :: cs =>
    let digits := unsigned cs
    (c = 'e' || c = 'E') && !digits.isEmpty && digits.all Char.isDigit

/-- Digits, with a point or without, and perhaps an exponent. -/
def isDigital (cs : List Char) : Bool :=
  let whole := cs.takeWhile Char.isDigit
  match cs.drop whole.length with
  | '.' :: rest =>
    let fraction := rest.takeWhile Char.isDigit
    !(whole.isEmpty && fraction.isEmpty) && isExponent (rest.drop fraction.length)
  | rest => !whole.isEmpty && isExponent rest

/-- The words for numbers that have no digits; their case does not count. -/
def words : List String :=
  ["inf", "infinity", "nan"]

/-- Whether a text is a decimal number. -/
def isDecimal (cs : List Char) : Bool :=
  let cs := unsigned cs
  isDigital cs || words.contains (fold (String.ofList cs))

end QueryPad.Text.Decimal
