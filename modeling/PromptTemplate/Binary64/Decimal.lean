/-
# PromptTemplate.Binary64.Decimal -- the decimal text of a weight

A finite number is written with the fewest digits that read back as it: the first
of the grids of one, two, ... seventeen digits on which a neighbour of the number
reads back, the nearer neighbour if both do, and the even one on a tie.

The layout is positional, with at least one digit after the point, when the leading
digit stands for 10^-5 to 10^15, and otherwise one digit, the others after a point,
and a signed exponent.  Zero is positional.
-/
import PromptTemplate.Binary64.Basic

set_option autoImplicit false

namespace PromptTemplate

/-- Decimal digits, the first and the last not zero, and the power of ten that the
first digit stands for. -/
structure Decimal where
  digits : Text
  exponent : Int
deriving DecidableEq, Repr

namespace Decimal

/-- The decimal of `d` times 10 to the power `place`. -/
def ofScaled (d : Nat) (place : Int) : Decimal where
  digits := ((Text.ofNat d).reverse.dropWhile (· == '0')).reverse
  exponent := (Text.ofNat d).length - 1 + place

def positional (x : Decimal) : Text :=
  if x.exponent < 0 then
    ['0', '.'] ++ List.replicate ((-x.exponent).toNat - 1) '0' ++ x.digits
  else
    let whole := x.exponent.toNat + 1
    let rest := x.digits.drop whole
    x.digits.take whole ++ List.replicate (whole - x.digits.length) '0' ++ ['.'] ++
      (if rest.isEmpty then ['0'] else rest)

/-- One digit before the point, and the power of ten behind an `e` and a sign. -/
def scientific (x : Decimal) : Text :=
  let rest := x.digits.drop 1
  x.digits.take 1 ++ (if rest.isEmpty then [] else '.' :: rest) ++ ['e'] ++
    (if x.exponent < 0 then ['-'] else ['+']) ++ Text.ofNat x.exponent.natAbs

/-- Positional from 10^-5 to below 10^16. -/
def text (x : Decimal) : Text :=
  if -5 ≤ x.exponent ∧ x.exponent ≤ 15 then x.positional else x.scientific

end Decimal

namespace Binary64

/-! ## The shortest decimal -/

/-- Decimal places are counted from 10 to the power of minus this, which lies below the
least number. -/
def decimalScale : Nat := 400

/-- The digits before the point of the number times 10^400. -/
def scaledDigits (m : Nat) : Nat :=
  (Text.ofNat (units m * powerOfTen decimalScale / unitsPerOne)).length

/-- `d` times 10 to the power `place` less 400 reads back as the magnitude. -/
def readsBack (m d place : Nat) : Bool :=
  nearest (d * powerOfTen place * unitsPerOne) (powerOfTen decimalScale) == m

/-- The neighbour of the number on the grid of multiples of 10 to the power `place`
less 400 that reads back, the nearer one first and the even one on a tie. -/
def neighbour? (m place : Nat) : Option Nat :=
  let scaled := units m * powerOfTen decimalScale
  let step := powerOfTen place * unitsPerOne
  let low := scaled / step
  let rest := scaled % step
  let below := 2 * rest < step ∨ (2 * rest = step ∧ low % 2 = 0)
  [if below then low else low + 1, if below then low + 1 else low].find? (readsBack m · place)

/-- The shortest decimal of a finite magnitude other than zero. -/
def shortest (m : Nat) : Decimal :=
  let found := (List.range' 1 17).findSome? fun count =>
    let place := scaledDigits m - count
    (neighbour? m place).map fun d => Decimal.ofScaled d (place - decimalScale)
  found.getD (Decimal.ofScaled (units m * powerOfTen decimalScale / unitsPerOne) (-decimalScale))

def decimalText? (x : Binary64) : Option Text :=
  if x.isFinite then
    some ((if x.isNegative then ['-'] else []) ++
      (if x.magnitude = 0 then ['0', '.', '0'] else (shortest x.magnitude).text))
  else none

/-! ## Poles -/

/-- The least number, both ends of the positional layout, and seventeen digits. -/
example :
    decimalText? ⟨1⟩ = some "5e-324".toList ∧
    decimalText? (ofDecimal [] "00001".toList) = some "0.00001".toList ∧
    decimalText? (ofDecimal [] "000001".toList) = some "1e-6".toList ∧
    decimalText? (ofDecimal "1000000000000000".toList []) = some "1000000000000000.0".toList ∧
    decimalText? (ofDecimal "10000000000000000".toList []) = some "1e+16".toList ∧
    decimalText? (ofDecimal "123456789012345678".toList []) =
      some "1.2345678901234568e+17".toList := by
  decide +kernel

end Binary64

end PromptTemplate
