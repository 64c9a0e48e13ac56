/-
# PromptTemplate.Random.Weights -- choosing by weight

Weights are added from left to right, each sum rounded.  An index is drawn by scaling
a fraction in [0, 1) of 52 bits to the total and counting the sums of all but the last
weight that do not lie above it.  The scale is the greatest number such that the
greatest fraction of it lies below the total (`scaleBelow`), so the last index has its
share and no index lies past it.

There is no choice between no weights, when some weight is less than zero or no
number, or when the total is zero.  A total that is infinite cannot be scaled.
-/
import PromptTemplate.Binary64.Basic
import PromptTemplate.Random.Draw

set_option autoImplicit false

namespace PromptTemplate

/-- A choice by weight: the running sums before each weight but the first, and the
scale, as magnitudes. -/
structure WeightedChoice where
  sums : List Nat
  scale : Nat
deriving DecidableEq, Repr

namespace WeightedChoice

open Binary64

/-- The magnitude of a fraction, in parts of 2^52, of a magnitude. -/
def scaled (parts magnitude : Nat) : Nat :=
  nearest (parts * units magnitude) hiddenBit

/-- The greatest magnitude up to the given one whose greatest fraction lies below the
total. -/
def scaleBelow (total : Nat) : Nat → Nat
  | 0 => 0
  | m + 1 => if total ≤ scaled (hiddenBit - 1) (m + 1) then scaleBelow total m else m + 1

/-- The running sums: each weight added to those in front of it. -/
def runningSums (sum : Nat) : List Nat → List Nat
  | [] => [sum]
  | m :: rest => sum :: runningSums (addMagnitudes sum m) rest

def ofWeights? (weights : List Binary64) : Except DrawError (Option WeightedChoice) :=
  match weights.map magnitude with
  | [] => .ok none
  | m :: rest =>
    if weights.all isWeight then
      let sums := runningSums m rest
      let total := sums.getLast?.getD 0
      if total = 0 then .ok none
      else if infinity ≤ total then .error .infiniteTotal
      else .ok (some ⟨sums.dropLast, scaleBelow total total⟩)
    else .ok none

def index (choice : WeightedChoice) (word : UInt64) : Nat :=
  let chosen := scaled (word >>> 12).toNat choice.scale
  choice.sums.countP (· ≤ chosen)

def draw {σ : Type} [WordSource σ] (choice : WeightedChoice) : Draw σ Nat := do
  return choice.index (← Draw.word64)

example :
    let choice := WeightedChoice.mk [one.magnitude] (scaleBelow (2 ^ 62) (2 ^ 62))
    choice.index 0 = 0 ∧ choice.index (2 ^ 63 - 1) = 0 ∧ choice.index (2 ^ 63) = 1 := by
  decide +kernel

end WeightedChoice

end PromptTemplate
