/-! # Hexadecimal words

Words in messages are written with the digits `0` to `f` after `0x`, with or without leading zeros.
-/

namespace DisplayServer.Text

/-- The hexadecimal digits of a number, without leading zeros. -/
def hexDigits (value : Nat) : String :=
  String.ofList (Nat.toDigits 16 value)

/-- A word with as many digits as it needs. -/
def hex (word : UInt32) : String :=
  "0x" ++ hexDigits word.toNat

/-- A word with all of its eight digits. -/
def hexPadded (word : UInt32) : String :=
  let digits := Nat.toDigits 16 word.toNat
  "0x" ++ String.ofList (List.replicate (8 - digits.length) '0' ++ digits)

end DisplayServer.Text
