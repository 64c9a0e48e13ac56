/-
# PromptTemplate.Random.Draw -- draws from a word source

A draw takes words from a source and ends with a value or an error; either way the
words it took are gone.

A number below a size is drawn without bias: the product of a word and the size has
the number as its high half, and the word is refused when the low half is not below the
size shifted as far as the width allows (`zone`).  Refusals are counted
against the words that remain, so the fuel runs out no sooner than the source.
-/
import PromptTemplate.GenerationError
import PromptTemplate.Random.Source

set_option autoImplicit false

namespace PromptTemplate

inductive DrawError where
  | exhausted
  /-- The weights to choose between sum to infinity. -/
  | infiniteTotal
  /-- What was drawn cannot be rendered. -/
  | generation (error : GenerationError)
deriving DecidableEq

/-- A computation that takes words from a source. -/
abbrev Draw (σ : Type) := ExceptT DrawError (StateM σ)

namespace Draw

variable {σ : Type}

/-- A draw from a state: its result and the source behind it. -/
def outcome {α : Type} (draw : Draw σ α) (source : σ) : Except DrawError α × σ :=
  draw.run source

def ofResult {α : Type} (result : Except DrawError α) : Draw σ α := fun source =>
  (result, source)

/-- The draw of a word, which fails when there is none. -/
def ofNext {α : Type} (next : σ → Option (α × σ)) : Draw σ α := fun source =>
  match next source with
  | none => (.error .exhausted, source)
  | some (word, rest) => (.ok word, rest)

variable [WordSource σ]

def word32 : Draw σ UInt32 :=
  ofNext WordSource.next32

def word64 : Draw σ UInt64 :=
  ofNext WordSource.next64

/-! ## Numbers in a range -/

/-- The greatest low half that is accepted for a size at a width. -/
def zone (width size : Nat) : Nat :=
  size <<< (width - 1 - Nat.log2 size) - 1

/-- A number below the size from the first word that is accepted, trying so many. -/
def acceptFrom (word : Draw σ Nat) (width size : Nat) : Nat → Draw σ Nat
  | 0 => throw .exhausted
  | fuel + 1 => do
    let v ← word
    if v * size % (1 <<< width) ≤ zone width size then return (v * size) >>> width
    else acceptFrom word width size fuel

/-- A number below the size, from words of the width. -/
def accept (word : Draw σ Nat) (width size : Nat) : Draw σ Nat := fun source =>
  acceptFrom word width size (WordSource.remaining source + 1) source

/-- A number below a size that is not zero, from 32-bit words. -/
def below32 (size : Nat) : Draw σ Nat :=
  accept (do return (← word32).toNat) 32 size

/-- A number below a size that is not zero, from 64-bit words. -/
def below64 (size : Nat) : Draw σ Nat :=
  if size < Text.sizeLimit then accept (do return (← word64).toNat) 64 size
  else do return (← word64).toNat

/-- A number from the least to the most, both included. -/
def between (least most : Nat) : Draw σ Nat := do
  return least + (← below64 (most - least + 1))

/-- Even a size of one refuses half of the words: the product is the word itself, and
the accepted half is the lower one. -/
example : (outcome (between 1 1) (Script.ofWords [2 ^ 63, 5])).2.used = 2 ∧
    ((outcome (between 1 3) (Script.ofWords [2 ^ 63 - 1])).1.toOption) = some 2 := by
  decide +kernel

end Draw

end PromptTemplate
