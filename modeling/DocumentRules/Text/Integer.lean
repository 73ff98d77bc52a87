/-!
# Integer literals

A value may stand for a whole number: an optional sign and at least one ASCII digit, within the
range of a signed 64-bit word. `readInteger?` reads such a literal and refuses everything else,
the lone sign and the number out of range included. `readMagnitude?` reads the digits alone, in any
base up to sixteen and up to any limit.
-/

set_option autoImplicit false
set_option relaxedAutoImplicit false

namespace DocumentRules.Text

/-- The largest magnitude of an integer literal, which only a negative one reaches. -/
def integerLimit : Nat := 0x8000000000000000

/-- The value of an ASCII letter or digit as a digit of a base up to sixteen. -/
def digitValue? (base : Nat) (character : Char) : Option Nat :=
  let value? :=
    if '0' ≤ character ∧ character ≤ '9' then some (character.toNat - '0'.toNat)
    else if 'a' ≤ character ∧ character ≤ 'f' then some (character.toNat - 'a'.toNat + 10)
    else if 'A' ≤ character ∧ character ≤ 'F' then some (character.toNat - 'A'.toNat + 10)
    else none
  value?.filter (· < base)

/-- The number that digits denote after some that denote `value`, if it does not exceed the
limit. -/
def readMagnitude? (base limit value : Nat) : List Char → Option Nat
  | [] => some value
  | character :: rest =>
    match digitValue? base character with
    | none => none
    | some digit =>
      let next := value * base + digit
      if next ≤ limit then readMagnitude? base limit next rest else none

/-- The number that a non-empty sequence of decimal digits denotes, if it does not exceed the
limit. -/
def readDecimal? (limit : Nat) (digits : List Char) : Option Nat :=
  if digits.isEmpty then none else readMagnitude? 10 limit 0 digits

/-- The integer that a literal stands for. -/
def readInteger? : List Char → Option Int
  | '-' :: digits => (readDecimal? integerLimit digits).map fun magnitude ↦ -(magnitude : Int)
  | '+' :: digits => (readDecimal? (integerLimit - 1) digits).map Int.ofNat
  | digits => (readDecimal? (integerLimit - 1) digits).map Int.ofNat

end DocumentRules.Text
