/-
# PromptTemplate.Sampling.Collector -- collecting distinct values

Collecting draws how many values are wanted, then picks items and renders each as it
is picked.  A value that has already been collected is a repetition.  A new value is
looked for a limited number of times; when all those picks are repetitions, or there
is nothing to pick, what has been collected is the result.
-/
import PromptTemplate.Random.Draw

set_option autoImplicit false

namespace PromptTemplate.Collector

/-- A new value is looked for this many times. -/
def maxAttempts : Nat := 100

variable {σ ι α : Type} [BEq α]

/-- The first new value of so many picks, if there is one. -/
def newValue? (pick? : Draw σ (Option ι)) (render : ι → Draw σ α) (collected : List α) :
    Nat → Draw σ (Option α)
  | 0 => return none
  | attempts + 1 => do
    match ← pick? with
    | none => return none
    | some item =>
      let value ← render item
      if collected.contains value then newValue? pick? render collected attempts
      else return some value

/-- The collected values and so many new ones, as far as they are found. -/
def extend (pick? : Draw σ (Option ι)) (render : ι → Draw σ α) (collected : List α) :
    Nat → Draw σ (List α)
  | 0 => return collected
  | missing + 1 => do
    match ← newValue? pick? render collected maxAttempts with
    | none => return collected
    | some value => extend pick? render (collected ++ [value]) missing

/-- From the least to the most distinct values, how many being drawn first. -/
def collect [WordSource σ] (pick? : Draw σ (Option ι)) (render : ι → Draw σ α)
    (least most : Nat) : Draw σ (List α) := do
  let wanted ← Draw.between least (max least most)
  extend pick? render [] wanted

end PromptTemplate.Collector
