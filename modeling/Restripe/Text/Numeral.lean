import Restripe.Text.Utf8

/-!
# Numerals

Numbers are written in plain decimal digits.  They are read more loosely: one leading plus sign and
leading zeros are allowed, while a minus sign, a blank, a digit group mark or a digit outside ASCII
is not.  A reader is given the bound of its type and refuses every value at or above it.
-/

namespace Restripe.Decimal

/-- The digits of a number, without sign or leading zeros. -/
def digits (value : Nat) : Text :=
  Nat.toDigits 10 value

def digit? (char : Char) : Option Nat :=
  if '0' ≤ char ∧ char ≤ '9' then some (char.toNat - '0'.toNat) else none

/-- The value of a run of digits read after the digits of `value`. -/
def extend? (value : Nat) : Text → Option Nat
  | [] => some value
  | char :: rest =>
      match digit? char with
      | some digit => extend? (value * 10 + digit) rest
      | none => none

/-- The value of a non-empty run of digits. -/
def unsigned? : Text → Option Nat
  | [] => none
  | text => extend? 0 text

/-- The value below `bound` that a numeral denotes. -/
def read? (bound : Nat) (text : Text) : Option Nat :=
  let body := match text with
    | '+' :: rest => rest
    | _ => text
  (unsigned? body).filter (· < bound)

def uint8? (text : Text) : Option UInt8 := (read? UInt8.size text).map UInt8.ofNat

def uint16? (text : Text) : Option UInt16 := (read? UInt16.size text).map UInt16.ofNat

def uint32? (text : Text) : Option UInt32 := (read? UInt32.size text).map UInt32.ofNat

def uint64? (text : Text) : Option UInt64 := (read? UInt64.size text).map UInt64.ofNat

end Restripe.Decimal

/-! ## Hexadecimal digits -/

namespace Restripe.Hexadecimal

/-- The value of a hexadecimal digit in either case. -/
def digit? (char : Char) : Option Nat :=
  if '0' ≤ char ∧ char ≤ '9' then some (char.toNat - '0'.toNat)
  else if 'a' ≤ char ∧ char ≤ 'f' then some (char.toNat - 'a'.toNat + 10)
  else if 'A' ≤ char ∧ char ≤ 'F' then some (char.toNat - 'A'.toNat + 10)
  else none

/-- The upper-case digit of a value below sixteen. -/
def upperDigit (value : Nat) : Char :=
  (Nat.digitChar value).toUpper

theorem digit?_digitChar {value : Nat} (bound : value < 16) :
    digit? (Nat.digitChar value) = some value := by
  have each : ∀ value < 16, digit? (Nat.digitChar value) = some value := by decide
  exact each value bound

theorem digit?_upperDigit {value : Nat} (bound : value < 16) :
    digit? (upperDigit value) = some value := by
  have each : ∀ value < 16, digit? (upperDigit value) = some value := by decide
  exact each value bound

end Restripe.Hexadecimal
