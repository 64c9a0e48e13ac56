/-
# PromptTemplate.Template.Range -- how many options a variant picks

A bound is what a template writes in front of `$$`: `N`, `N-`, `-M` or `N-M`.  A pick
range is what a variant keeps: at least one, and never empty.  A bound whose numbers
are written in the wrong order, or are zero, still gives a range.
-/
import PromptTemplate.Text.Numeral

set_option autoImplicit false

namespace PromptTemplate

/-- A bound on the number of picks, as it is written. -/
inductive Bound where
  | exactly (n : Nat)
  | atLeast (n : Nat)
  | atMost (n : Nat)
  | between (a b : Nat)
deriving DecidableEq, Repr

/-- The numbers of picks that a variant may make. -/
structure PickRange where
  least : Nat
  most : Nat
  one_le_least : 1 ≤ least
  least_le_most : least ≤ most
deriving DecidableEq, Repr

namespace PickRange

/-- The range between two limits in either order, clamped to one from below. -/
def between (a b : Nat) : PickRange where
  least := max 1 (min a b)
  most := max (max 1 (min a b)) (max a b)
  one_le_least := Nat.le_max_left ..
  least_le_most := Nat.le_max_left ..

def single : PickRange := between 1 1

/-- The range of a bound, for a variant of so many options. -/
def ofBound (optionCount : Nat) : Bound → PickRange
  | .exactly n => between n n
  | .atLeast n => between n optionCount
  | .atMost n => between 1 n
  | .between a b => between a b

theorem between_comm (a b : Nat) : between a b = between b a := by
  simp [between, Nat.min_comm, Nat.max_comm]

/-- The two limits of a range give it back, so a text that shows them says all. -/
theorem between_least_most (range : PickRange) : between range.least range.most = range := by
  have one := range.one_le_least
  have ordered := range.least_le_most
  cases range with
  | mk least most _ _ =>
    simp only [between, mk.injEq]
    constructor
    · omega
    · omega

example : (between 3 1).least = 1 ∧ (between 3 1).most = 3 ∧ between 0 0 = single := by decide

end PickRange

/-! ## Reading a bound -/

namespace Bound

/-- The text in front of the first dash and the text behind it. -/
def atDash? : Text → Option (Text × Text)
  | [] => none
  | c :: rest =>
    if c = '-' then some ([], rest)
    else (atDash? rest).map fun (front, back) => (c :: front, back)

/-- The bound that a text writes, with white space allowed at its ends and around
the dash.  A number that is no size makes it no bound. -/
def read? (t : Text) : Option Bound :=
  match atDash? t with
  | none => (Text.size? (Text.trim t)).map .exactly
  | some (front, back) =>
    match Text.trim front, Text.trim back with
    | [], [] => none
    | [], most => (Text.size? most).map .atMost
    | least, [] => (Text.size? least).map .atLeast
    | a, b => do return .between (← Text.size? a) (← Text.size? b)

example : read? " 2 - ".toList = some (.atLeast 2) ∧ read? "-".toList = none ∧
    read? "4-2".toList = some (.between 4 2) ∧ read? "1-2-3".toList = none := by
  decide +kernel

end Bound

end PromptTemplate
