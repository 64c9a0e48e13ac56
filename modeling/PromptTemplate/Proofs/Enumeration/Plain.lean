/-
# PromptTemplate.Proofs.Enumeration.Plain -- the plain list of renderings

What a template stands for, without any of the economies of `Enumeration`: every list
is computed in full, every tuple of options is walked, nothing is dropped because it
has come before, and a selection is looked at only when it is complete.

An error anywhere is an error of the whole.
-/
import PromptTemplate.Enumeration
import Mathlib.Data.Finset.Card
import Mathlib.Data.List.FinRange

set_option autoImplicit false

namespace PromptTemplate.Plain

/-! ## Choices -/

/-- One value of every row, the first row varying slowest. -/
def choices {α : Type} : List (List α) → List (List α)
  | [] => [[]]
  | row :: rest => row.flatMap fun value => (choices rest).map (value :: ·)

/-- The tuples of the length, with repetition, the first position varying slowest. -/
def tuples {α : Type} (values : List α) (length : Nat) : List (List α) :=
  choices (List.replicate length values)

example : tuples [0, 1] 2 = [[0, 0], [0, 1], [1, 0], [1, 1]] := by decide

/-- For every tuple of options, every choice of one of the renderings of each that holds
no text twice. -/
def selections {α : Type} [DecidableEq α] (rows : List (List α)) (length : Nat) :
    List (List α) :=
  (tuples (List.finRange rows.length) length).flatMap fun options =>
    (choices (options.map rows.get)).filter fun picked => picked.Nodup

/-- The selections of every length that the range allows, shorter ones first.  A length
above the number of different renderings gives nothing. -/
def selectionsWithin {α : Type} [DecidableEq α] (rows : List (List α)) (range : PickRange) :
    List (List α) :=
  (List.range' range.least (range.most + 1 - range.least)).flatMap fun length =>
    if rows.flatten.toFinset.card < length then [] else selections rows length

/-! ## Templates -/

abbrev Listing := Except GenerationError (List Text)

mutual

/-- The renderings of a template, given those of a wildcard value. -/
def renderings (provider : Provider) (nested : Text → Listing) : Template → Listing
  | .literal text => return [text]
  | .wildcard name => do
    let rows ← (provider.resolve name).mapM nested
    return rows.flatten
  | .sequence parts separator => do
    let rows ← partRenderings provider nested parts
    return (choices rows).map fun texts => Text.trim (Text.joinNonEmpty separator texts)
  | .variant options range joiner => do
    let rows ← optionRenderings provider nested options
    if options.isEmpty then return [[]]
    else return (selectionsWithin rows range).map (Text.joinAll joiner)

def partRenderings (provider : Provider) (nested : Text → Listing) :
    List Template → Except GenerationError (List (List Text))
  | [] => return []
  | part :: rest => do
    let row ← renderings provider nested part
    return row :: (← partRenderings provider nested rest)

def optionRenderings (provider : Provider) (nested : Text → Listing) :
    List (Weighted Template) → Except GenerationError (List (List Text))
  | [] => return []
  | ⟨_, value⟩ :: rest => do
    let row ← renderings provider nested value
    return row :: (← optionRenderings provider nested rest)

end

def valueRenderings (provider : Provider) : Nat → Text → Listing
  | 0, value => throw (.recursionLimit maxDepth value)
  | levels + 1, value =>
    match Template.parse value with
    | .error e => throw (.parse e)
    | .ok template => renderings provider (valueRenderings provider levels) template

/-- The renderings of a template that stands so many wildcard values deep. -/
def renderingsAt (provider : Provider) (depth : Nat) (template : Template) : Listing :=
  renderings provider (valueRenderings provider (maxDepth - depth)) template

end PromptTemplate.Plain
