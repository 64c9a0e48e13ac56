/-
# PromptTemplate.Matching -- distinct values for every position

Every position of a selection has a row of values that it may hold.  The rows have
distinct values (`haveDistinctValues`) when every position can hold a value of its
row that no other position holds.

Positions are given a value one after the other.  A position takes the first value of
its row that is free, or that its present owner can give up for another one
(`augment`); in one search a value is tried once.  The search therefore never goes
deeper than there are values in the rows, which is the fuel it is run with.
-/
set_option autoImplicit false

namespace PromptTemplate.Matching

variable {ι : Type} [DecidableEq ι]

/-- Which position holds a value. -/
abbrev Owners (ι : Type) := ι → Option Nat

def Owners.give (owners : Owners ι) (value : ι) (position : Nat) : Owners ι :=
  fun other => if other = value then some position else owners other

/-- The result of a search: the new table, or the values that were tried in vain. -/
inductive Search (ι : Type) where
  | found (owners : Owners ι)
  | failed (tried : List ι)

/-- Give the position a value of the row that has not been tried.  A value with an owner
is taken when `move` finds another value for the owner. -/
def takeFrom (move : Nat → List ι → Search ι) (owners : Owners ι) (position : Nat) :
    List ι → List ι → Search ι
  | [], tried => .failed tried
  | value :: rest, tried =>
    if value ∈ tried then takeFrom move owners position rest tried
    else
      match owners value with
      | none => .found (owners.give value position)
      | some owner =>
        match move owner (value :: tried) with
        | .found owners => .found (owners.give value position)
        | .failed tried => takeFrom move owners position rest tried

/-- Give the position a value of its row, moving owners to other values of theirs. -/
def augment (rows : List (List ι)) (owners : Owners ι) : Nat → Nat → List ι → Search ι
  | 0, _, tried => .failed tried
  | fuel + 1, position, tried =>
    takeFrom (augment rows owners fuel) owners position (rows[position]?.getD []) tried

/-- The table with a value for each of the positions, if there is one. -/
def assign (rows : List (List ι)) (owners : Owners ι) : List Nat → Option (Owners ι)
  | [] => some owners
  | position :: rest =>
    match augment rows owners (rows.flatten.length + 1) position [] with
    | .found owners => assign rows owners rest
    | .failed _ => none

/-- Every position can hold a value of its row that no other position holds. -/
def haveDistinctValues (rows : List (List ι)) : Bool :=
  (assign rows (fun _ => none) (List.range rows.length)).isSome

example : haveDistinctValues [[0], [0, 1], [1, 2]] = true ∧
    haveDistinctValues [[0], [0, 1], [1]] = false ∧
    haveDistinctValues [[0, 1], [0]] = true := by
  decide

end PromptTemplate.Matching
