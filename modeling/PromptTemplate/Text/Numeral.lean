/-
# PromptTemplate.Text.Numeral -- numbers in texts

Digits are the ten ASCII digits; a decimal digit of another script is no digit.
A size is a natural number below 2^64: a numeral of that many or more is not read.
-/
import PromptTemplate.Text.Space

set_option autoImplicit false

namespace PromptTemplate.Text

def isDigit (c : Char) : Bool :=
  '0' ≤ c && c ≤ '9'

def digitValue (c : Char) : Nat :=
  c.toNat - '0'.toNat

/-- The number that a text of digits writes, most significant digit first. -/
def digitsValue (digits : Text) : Nat :=
  digits.foldl (fun n c => 10 * n + digitValue c) 0

/-- The decimal digits of a number, without leading zeros. -/
def ofNat (n : Nat) : Text :=
  Nat.toDigits 10 n

/-- The lower-case hexadecimal digits of a number, without leading zeros. -/
def hexOfNat (n : Nat) : Text :=
  Nat.toDigits 16 n

/-- Sizes are below this, 2 to the power 64. -/
def sizeLimit : Nat := 0x10000000000000000

/-- The size that the text writes: one or more digits, leading zeros allowed. -/
def size? (t : Text) : Option Nat :=
  if t ≠ [] ∧ t.all isDigit ∧ digitsValue t < sizeLimit then some (digitsValue t) else none

example : size? ['0', '7'] = some 7 ∧ size? [] = none ∧ size? ['-', '1'] = none := by decide

end PromptTemplate.Text
