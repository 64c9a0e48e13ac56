/-
# PromptTemplate.Binary64 -- weights as binary floating-point words

A weight is a 64-bit IEEE 754 word, kept as its bits.  The low 63 bits are its
magnitude.  Every finite magnitude stands for a whole number of units of 2^-1074
(`units`): below 2^52 the magnitude itself, above it the significand times a power
of two.  Magnitudes are ordered as the numbers they stand for, with infinity after
the last finite one and the words that are no number after infinity.

There is one rounding, `nearest`: from an exact ratio of units to the nearest
magnitude, a tie to the even one, and to infinity from halfway past the last finite
magnitude.  Reading a decimal, adding and scaling are an exact ratio and then this
rounding.
-/
import PromptTemplate.Text.Numeral

set_option autoImplicit false

namespace PromptTemplate

/-- A binary floating-point number, as its 64-bit word. -/
structure Binary64 where
  bits : UInt64
deriving DecidableEq, Repr

namespace Binary64

/-! ## Words -/

/-- The sign bit of a word, 2 to the power 63. -/
def signBit : Nat := 0x8000000000000000

/-- The bit, 2 to the power 52, that the significand of every number from the least
normal one on has and its word leaves out. -/
def hiddenBit : Nat := 0x10000000000000

/-- The low 63 bits of the word. -/
def magnitude (x : Binary64) : Nat :=
  x.bits.toNat % signBit

def isNegative (x : Binary64) : Bool :=
  signBit ≤ x.bits.toNat

def infinity : Nat := 0x7ff0000000000000

def ofMagnitude (m : Nat) : Binary64 :=
  ⟨UInt64.ofNat m⟩

def isNaN (x : Binary64) : Bool :=
  infinity < x.magnitude

def isFinite (x : Binary64) : Bool :=
  x.magnitude < infinity

def one : Binary64 := ofMagnitude 0x3ff0000000000000

/-- Equal as numbers: a word for no number differs from itself, and the two zeros
are equal. -/
def equals (x y : Binary64) : Bool :=
  !x.isNaN && !y.isNaN && (x.bits == y.bits || (x.magnitude == 0 && y.magnitude == 0))

/-- A number that is zero or more; negative zero is zero. -/
def isWeight (x : Binary64) : Bool :=
  !x.isNaN && (!x.isNegative || x.magnitude == 0)

/-! ## Values -/

/-- The units of 2^-1074 that a finite magnitude stands for. -/
def units (m : Nat) : Nat :=
  if m < hiddenBit then m else (hiddenBit + m % hiddenBit) <<< (m / hiddenBit - 1)

/-- The units that make one, 2 to the power 1074. -/
def unitsPerOne : Nat := 1 <<< 1074

def powerOfTen (n : Nat) : Nat :=
  Nat.pow 10 n

/-- A ratio rounded to the nearest whole number, a tie to the even one. -/
def roundRatio (num den : Nat) : Nat :=
  let q := num / den
  let r := num % den
  if den < 2 * r ∨ (2 * r = den ∧ q % 2 = 1) then q + 1 else q

/-- The magnitude nearest to a ratio of units, a tie to the even magnitude. -/
def nearest (num den : Nat) : Nat :=
  let shift := Nat.log2 (num / den) - 52
  min infinity (shift * hiddenBit + roundRatio num (den <<< shift))

/-- The magnitude of the sum of two magnitudes. -/
def addMagnitudes (m n : Nat) : Nat :=
  if m < infinity ∧ n < infinity then nearest (units m + units n) 1 else infinity

/-- The number that decimal digits before and after a point write. -/
def ofDecimal (whole fraction : Text) : Binary64 :=
  ofMagnitude
    (nearest (Text.digitsValue (whole ++ fraction) * unitsPerOne) (powerOfTen fraction.length))

/-! ## Poles -/

/-- One, a tenth, the least number, halfway below it, and past the last one. -/
example :
    (ofDecimal ['1'] []).bits = 0x3ff0000000000000 ∧
    (ofDecimal [] ['1']).bits = 0x3fb999999999999a ∧
    nearest 1 1 = 1 ∧ nearest 1 2 = 0 ∧ nearest 3 2 = 2 ∧
    nearest (2 ^ 2098) 1 = infinity := by
  decide +kernel

/-- A word for no number is not equal to itself. -/
example : equals ⟨0x7ff8000000000000⟩ ⟨0x7ff8000000000000⟩ = false ∧
    equals ⟨0⟩ ⟨0x8000000000000000⟩ = true := by
  decide +kernel

end Binary64

end PromptTemplate
