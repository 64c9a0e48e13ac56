/-
# PromptTemplate.Generator -- generators of prompts

A generator answers a template and a count with prompts.  How it reads the count is
its own matter: a number of prompts, a cap on their number (where zero stands for the
cap it was made with), or the number of copies of one prompt.

All that a generator changes is the word source behind it, so answering is a draw,
and generators on one source continue each other's words.
-/
import PromptTemplate.Enumeration
import PromptTemplate.Generator.Configuration
import PromptTemplate.Random.ChaCha
import PromptTemplate.Sampling

set_option autoImplicit false

namespace PromptTemplate

inductive Generator where
  /-- As many copies of the template as are asked for. -/
  | dummy
  /-- As many random prompts as are asked for. -/
  | random
  /-- The first distinct prompts, at most as many as are asked for. -/
  | combinatorial (maxPrompts : Nat)
  /-- As many copies as are asked for of the first prompt of the inner generator. -/
  | frozen (inner : Generator)
  /-- The prompts of the inner generator, asked so many times. -/
  | batched (inner : Generator) (batches : Nat)
deriving DecidableEq, Repr

namespace Generator

variable {σ : Type} [WordSource σ]

/-- The results of a draw made so many times, one behind the other; the first error ends
it. -/
def repeated (prompts : Draw σ (List Text)) : Nat → Draw σ (List Text)
  | 0 => return []
  | n + 1 => do
    let here ← prompts
    return here ++ (← repeated prompts n)

def prompts (provider : Provider) (text : Text) (count : Nat) : Generator → Draw σ (List Text)
  | .dummy => return List.replicate count text
  | .random => Sampling.prompts provider text count
  | .combinatorial maxPrompts =>
    let most := if count = 0 then maxPrompts else count
    Draw.ofResult ((Enumeration.prompts provider text most).mapError .generation)
  | .frozen inner =>
    if count = 0 then return []
    else do
      match ← inner.prompts provider text 1 with
      | [] => return []
      | prompt :: _ => return List.replicate count prompt
  | .batched inner batches => repeated (inner.prompts provider text count) batches

end Generator

namespace Configuration

/-- The generator of a configuration.  The template itself is never frozen. -/
def generator (c : Configuration) : Generator :=
  let frozen := fun (inner : Generator) => if c.freeze then .frozen inner else inner
  match c.mode with
  | .dummy => .dummy
  | .combinatorial => frozen (.batched (.combinatorial c.maxPrompts.toNat) c.batches.toNat)
  | .random => frozen .random

/-- The word source of a configuration: that of its seed, or the given one. -/
def source (c : Configuration) (entropy : ChaCha) : ChaCha :=
  match c.effectiveSeed with
  | some seed => ChaCha.ofSeed seed
  | none => entropy

end Configuration

end PromptTemplate
