/-! # Decimal integers

The grammar of an integer argument: an optional sign, then one or more ASCII digits, with any number
of leading zeros. Digits are read from the left, and the first digit that is no digit or that takes
the value out of range decides the error. `-` is a sign only where negative numbers are in range.
-/

namespace DisplayServer.Text

/-- Why a text is not an integer in range. -/
inductive NumberError where
  | empty
  /-- Something that is no digit, or a sign alone. -/
  | invalidDigit
  | tooLarge
  | tooSmall
deriving DecidableEq, Repr

def NumberError.message : NumberError → String
  | empty => "cannot parse integer from empty string"
  | invalidDigit => "invalid digit found in string"
  | tooLarge => "number too large to fit in target type"
  | tooSmall => "number too small to fit in target type"

/-- The value of an ASCII digit. -/
def digit? (c : Char) : Option Nat :=
  if '0' ≤ c ∧ c ≤ '9' then some (c.toNat - '0'.toNat) else none

/-- Continues a number that is `value` so far. -/
def readUp (high : Nat) (value : Nat) : List Char → Except NumberError Nat
  | [] => .ok value
  | c :: rest =>
    match digit? c with
    | none => .error .invalidDigit
    | some digit =>
      if high < 10 * value + digit then .error .tooLarge else readUp high (10 * value + digit) rest

/-- A natural number of at most `high`, with an optional plus sign. -/
def readNatural (high : Nat) : List Char → Except NumberError Nat
  | [] => .error .empty
  | ['+'] => .error .invalidDigit
  | ['-'] => .error .invalidDigit
  | '+' :: digits => readUp high 0 digits
  | digits => readUp high 0 digits

/-- An integer from `-low` to `high`, with an optional sign. -/
def readInteger (low high : Nat) : List Char → Except NumberError Int
  | [] => .error .empty
  | ['+'] => .error .invalidDigit
  | ['-'] => .error .invalidDigit
  | '+' :: digits => (readUp high 0 digits).map Int.ofNat
  | '-' :: digits =>
    match readUp low 0 digits with
    | .ok value => .ok (-Int.ofNat value)
    | .error .tooLarge => .error .tooSmall
    | .error cause => .error cause
  | digits => (readUp high 0 digits).map Int.ofNat

def readInt32 (text : List Char) : Except NumberError Int32 :=
  (readInteger 2147483648 2147483647 text).map Int32.ofInt

def readUInt64 (text : List Char) : Except NumberError UInt64 :=
  (readNatural 18446744073709551615 text).map UInt64.ofNat

end DisplayServer.Text
