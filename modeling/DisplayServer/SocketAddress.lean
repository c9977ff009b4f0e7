import DisplayServer.Text.Hexadecimal

/-! # Socket addresses

A socket address is an IPv4 address and a port, or an IPv6 address in brackets, with an optional
scope, and a port. An address has many spellings; `SocketAddress.text` writes the shortest one, in
which the first longest run of at least two zero groups of an IPv6 address becomes `::`.
-/

namespace DisplayServer

/-- The four octets of an IPv4 address, the most significant first. -/
structure IPv4Address where
  a : Nat
  b : Nat
  c : Nat
  d : Nat
deriving DecidableEq, Repr

/-- An address that a server listens on. -/
inductive SocketAddress where
  /-- An IPv4 address and a port. -/
  | v4 (address : IPv4Address) (port : Nat)
  /-- The eight groups of an IPv6 address, a scope (0 for none) and a port. -/
  | v6 (groups : List Nat) (scope port : Nat)
deriving DecidableEq, Repr

namespace SocketAddress

/-- A reader takes what it needs from the front of a text and leaves the rest. -/
abbrev Reader (α : Type) := List Char → Option (α × List Char)

/-- Takes one given character. -/
def readChar (expected : Char) : Reader Unit
  | c :: rest => if c = expected then some ((), rest) else none
  | [] => none

/-- The value of a digit in a base of at most 16; letters may be of either case. -/
def digitValue? (base : Nat) (c : Char) : Option Nat :=
  let value :=
    if '0' ≤ c ∧ c ≤ '9' then some (c.toNat - '0'.toNat)
    else if 'a' ≤ c ∧ c ≤ 'f' then some (c.toNat - 'a'.toNat + 10)
    else if 'A' ≤ c ∧ c ≤ 'F' then some (c.toNat - 'A'.toNat + 10)
    else none
  value.filter fun digit => decide (digit < base)

/-- The digits at the front of a text, as values, and what follows them. -/
def takeDigits (base : Nat) : List Char → List Nat × List Char
  | [] => ([], [])
  | c :: rest =>
    match digitValue? base c with
    | none => ([], c :: rest)
    | some digit =>
      let (digits, after) := takeDigits base rest
      (digit :: digits, after)

/-- The number that digits spell in a base. -/
def valueOf (base : Nat) (digits : List Nat) : Nat :=
  digits.foldl (fun value digit => base * value + digit) 0

/-- A number of at least one digit: all digits that follow belong to it. -/
def readNumber (base high : Nat) : Reader Nat := fun text =>
  let (digits, rest) := takeDigits base text
  if digits = [] ∨ high < valueOf base digits then none else some (valueOf base digits, rest)

/-- An octet: up to three decimal digits without a leading zero. -/
def readOctet : Reader Nat := fun text =>
  let (digits, rest) := takeDigits 10 text
  if digits = [] ∨ 3 < digits.length ∨ (digits.head? = some 0 ∧ 1 < digits.length) ∨
      255 < valueOf 10 digits then none
  else some (valueOf 10 digits, rest)

/-- A group of an IPv6 address: up to four hexadecimal digits. -/
def readGroup : Reader Nat := fun text =>
  let (digits, rest) := takeDigits 16 text
  if digits = [] ∨ 4 < digits.length then none else some (valueOf 16 digits, rest)

/-- Four octets with dots between them. -/
def readIPv4 : Reader IPv4Address := fun text => do
  let (a, text) ← readOctet text
  let ((), text) ← readChar '.' text
  let (b, text) ← readOctet text
  let ((), text) ← readChar '.' text
  let (c, text) ← readOctet text
  let ((), text) ← readChar '.' text
  let (d, text) ← readOctet text
  return (⟨a, b, c, d⟩, text)

/-- A reader after a colon, or at the very front of the groups. -/
def afterColon {α : Type} (front : Bool) (reader : Reader α) : Reader α := fun text =>
  if front then reader text
  else do
    let ((), text) ← readChar ':' text
    reader text

/-- Up to `limit` groups with colons between them, and whether the last two came from an embedded
IPv4 address. An IPv4 address is tried first wherever two more groups have room, and ends the
groups. -/
def readGroups (front : Bool) : (limit : Nat) → List Char → (List Nat × Bool) × List Char
  | 0, text => (([], false), text)
  | limit + 1, text =>
    match (if limit = 0 then none else afterColon front readIPv4 text) with
    | some (address, rest) =>
      (([256 * address.a + address.b, 256 * address.c + address.d], true), rest)
    | none =>
      match afterColon front readGroup text with
      | none => (([], false), text)
      | some (group, rest) =>
        let ((groups, embedded), rest) := readGroups false limit rest
        ((group :: groups, embedded), rest)

/-- The eight groups of an IPv6 address. A `::` stands for the zero groups that are missing, of
which there is at least one. -/
def readIPv6 : Reader (List Nat) := fun text =>
  let ((head, embedded), text) := readGroups true 8 text
  if head.length = 8 then some (head, text)
  else if embedded then none
  else do
    let ((), text) ← readChar ':' text
    let ((), text) ← readChar ':' text
    let ((tail, _), text) := readGroups true (7 - head.length) text
    return (head ++ List.replicate (8 - head.length - tail.length) 0 ++ tail, text)

/-- A port, after its colon. -/
def readPort : Reader Nat := fun text => do
  let ((), text) ← readChar ':' text
  readNumber 10 65535 text

def readV4 : Reader SocketAddress := fun text => do
  let (address, text) ← readIPv4 text
  let (port, text) ← readPort text
  return (v4 address port, text)

/-- The scope of an IPv6 address, after its percent sign. -/
def readScope : Reader Nat := fun text => do
  let ((), text) ← readChar '%' text
  readNumber 10 4294967295 text

/-- An IPv6 address in brackets, its scope and a port. -/
def readV6 : Reader SocketAddress := fun text => do
  let ((), text) ← readChar '[' text
  let (groups, text) ← readIPv6 text
  let (scope, text) := (readScope text).getD (0, text)
  let ((), text) ← readChar ']' text
  let (port, text) ← readPort text
  return (v6 groups scope port, text)

/-- The address that a whole text spells. -/
def parse? (text : String) : Option SocketAddress :=
  match (readV4 text.toList).orElse fun _ => readV6 text.toList with
  | some (address, []) => some address
  | _ => none

/-- An IPv4 address in dotted decimals. -/
def textOfV4 (address : IPv4Address) : String :=
  ".".intercalate ([address.a, address.b, address.c, address.d].map toString)

/-- The length of the run of zero groups at the front. -/
def zeroRun : List Nat → Nat
  | 0 :: rest => zeroRun rest + 1
  | _ => 0

/-- The start and the length of the first longest run of zero groups. -/
def longestZeroRun : (start : Nat) → List Nat → Nat × Nat
  | _, [] => (0, 0)
  | start, group :: rest =>
    let here := zeroRun (group :: rest)
    let later := longestZeroRun (start + 1) rest
    if later.2 ≤ here then (start, here) else later

/-- Groups in hexadecimal with colons between them. -/
def textOfGroups (groups : List Nat) : String :=
  ":".intercalate (groups.map Text.hexDigits)

/-- The shortest text of an IPv6 address; an IPv4 address mapped into IPv6 shows its octets. -/
def textOfV6 (groups : List Nat) : String :=
  match groups with
  | [0, 0, 0, 0, 0, 0xffff, high, low] =>
    "::ffff:" ++ textOfV4 ⟨high / 256, high % 256, low / 256, low % 256⟩
  | _ =>
    let (start, length) := longestZeroRun 0 groups
    if 1 < length then
      textOfGroups (groups.take start) ++ "::" ++ textOfGroups (groups.drop (start + length))
    else textOfGroups groups

/-- The text of a socket address. -/
def text : SocketAddress → String
  | v4 address port => textOfV4 address ++ ":" ++ toString port
  | v6 groups scope port =>
    let zone := if scope = 0 then "" else "%" ++ toString scope
    "[" ++ textOfV6 groups ++ zone ++ "]:" ++ toString port

end SocketAddress

end DisplayServer
