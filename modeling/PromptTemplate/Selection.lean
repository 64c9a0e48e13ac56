/-
# PromptTemplate.Selection -- ordered selections of distinct values

A variant that picks several options gives every one of them a value that no other
pick has.  The selections of a length are listed by the tuple of options, the first
option varying slowest, and within a tuple by the values in the same order.

A tuple of options is extended only while its options can still be given distinct
values (`Matching.haveDistinctValues`), so the walk never enters a part of the tuple
space that holds no selection, and lengths above the number of distinct values are
not walked at all.
-/
import PromptTemplate.LazyList
import PromptTemplate.Matching
import PromptTemplate.Text.Joining

set_option autoImplicit false

namespace PromptTemplate.Selection

variable {ι : Type} [DecidableEq ι]

def rowsOf (rows : List (List ι)) (tuple : List (Fin rows.length)) : List (List ι) :=
  tuple.map fun option => rows[option]

/-- The tuples that extend the given one by so many options and whose options can be
given distinct values. -/
def optionTuples (rows : List (List ι)) :
    Nat → List (Fin rows.length) → LazyList (List (Fin rows.length))
  | 0, tuple => .singleton tuple
  | n + 1, tuple =>
    (LazyList.ofList (List.finRange rows.length)).flatMap fun option =>
      if Matching.haveDistinctValues (rowsOf rows (tuple ++ [option])) then
        optionTuples rows n (tuple ++ [option])
      else .nil

/-- The selections that extend the given one by a value of each row, no value being held
twice. -/
def valueTuples : List (List ι) → List ι → LazyList (List ι)
  | [], held => .singleton held
  | row :: rest, held =>
    (LazyList.ofList row).flatMap fun value =>
      if value ∈ held then .nil else valueTuples rest (held ++ [value])

def ofLength (rows : List (List ι)) (length : Nat) : LazyList (List ι) :=
  (optionTuples rows length []).flatMap fun tuple => valueTuples (rowsOf rows tuple) []

/-- The number of distinct values in the rows. -/
def valueCount (rows : List (List ι)) : Nat :=
  (PromptTemplate.distinct rows.flatten).length

/-- The selections of every length from the least to the most, shorter ones first. -/
def ofLengths (rows : List (List ι)) (least most : Nat) : LazyList (List ι) :=
  (LazyList.ofList (List.range' least (min most (valueCount rows) + 1 - least))).flatMap
    (ofLength rows)

example : (ofLength [["a", "b"], ["c"]] 2).toList =
    [["a", "b"], ["b", "a"], ["a", "c"], ["b", "c"], ["c", "a"], ["c", "b"]] := by
  decide +kernel

end PromptTemplate.Selection
