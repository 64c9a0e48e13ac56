/-
# PromptTemplate.Proofs.Selection.Assignment -- what the test of a tuple decides

The walk over tuples asks of a tuple of options whether they can be given distinct values.
The answer is exact (`haveDistinctValues_rowsOf_iff`): it is yes just when the positions of
the tuple can be sent to values of their options' rows, no two of them to one value, and no
just when some positions have fewer values between them than they are.  An option may stand
at several positions.

The searches behind the answer are run with fuel.  A search tries a value once and tries
one before it moves an owner, so fuel for all the values is never used up, and more of it
changes nothing (`augment_eq_of_untried_lt`).
-/
import PromptTemplate.Proofs.Selection
import Mathlib.Combinatorics.Hall.Basic

set_option autoImplicit false
set_option linter.unusedSectionVars false

namespace PromptTemplate

namespace Matching

variable {ι : Type} [DecidableEq ι] {rows : List (List ι)} {owners : Owners ι}

/-! ## Fuel -/

/-- A failed search forgets no value that has been tried. -/
theorem subset_of_takeFrom_eq_failed {move : Nat → List ι → Search ι}
    (grows : ∀ owner tried after, move owner tried = .failed after → tried ⊆ after)
    {position : Nat} {row tried after : List ι}
    (failed : takeFrom move owners position row tried = .failed after) : tried ⊆ after := by
  induction row generalizing tried with
  | nil => exact Search.failed.inj failed ▸ List.Subset.refl tried
  | cons value rest ih =>
    rw [takeFrom] at failed
    split at failed
    · exact ih failed
    · split at failed
      · cases failed
      · split at failed
        · cases failed
        · rename_i middle moved
          exact fun v member =>
            ih failed (grows _ _ _ moved (List.mem_cons_of_mem value member))

theorem subset_of_augment_eq_failed (fuel position : Nat) (tried after : List ι)
    (failed : augment rows owners fuel position tried = .failed after) : tried ⊆ after := by
  induction fuel generalizing position tried after with
  | zero => exact Search.failed.inj failed ▸ List.Subset.refl tried
  | succ fuel ih => exact subset_of_takeFrom_eq_failed ih failed

/-- Owners are only moved once a value of the row has been tried, so two ways to move them
that agree behind one more value give one result. -/
theorem takeFrom_congr {move move' : Nat → List ι → Search ι} {bound : Nat}
    (grows : ∀ owner tried after, move owner tried = .failed after → tried ⊆ after)
    (same : ∀ owner tried, untried rows tried < bound → move owner tried = move' owner tried)
    {position : Nat} {row tried : List ι} (inside : row ⊆ rows.flatten)
    (enough : untried rows tried < bound + 1) :
    takeFrom move owners position row tried = takeFrom move' owners position row tried := by
  induction row generalizing tried with
  | nil => rfl
  | cons value rest ih =>
    obtain ⟨inRows, inside⟩ := List.cons_subset.1 inside
    rw [takeFrom, takeFrom]
    by_cases seen : value ∈ tried
    · rw [if_pos seen, if_pos seen]
      exact ih inside enough
    · rw [if_neg seen, if_neg seen]
      cases owners value with
      | none => rfl
      | some owner =>
        have less := untried_cons_lt inRows seen
        dsimp only
        rw [← same owner (value :: tried) (by omega)]
        cases moved : move owner (value :: tried) with
        | found owners => rfl
        | failed middle =>
          have fewer := untried_le rows (grows _ _ _ moved)
          exact ih inside (by omega)

/-- Fuel for every value that has not been tried is enough for a search. -/
theorem augment_eq_of_untried_lt {fuel fuel' : Nat} (position : Nat) {tried : List ι}
    (enough : untried rows tried < fuel) (enough' : untried rows tried < fuel') :
    augment rows owners fuel position tried = augment rows owners fuel' position tried := by
  induction fuel generalizing fuel' position tried with
  | zero => exact absurd enough (Nat.not_lt_zero _)
  | succ fuel ih =>
    obtain ⟨less, rfl⟩ : ∃ less, fuel' = less + 1 := Nat.exists_eq_succ_of_ne_zero (by omega)
    have smaller : untried rows tried < min fuel less + 1 := by omega
    refine takeFrom_congr (subset_of_augment_eq_failed fuel) ?_
      (fun _ member => mem_flatten_of_mem_rowAt member) smaller
    intro owner tried enough
    exact ih owner (by omega) (by omega)

/-- Fuel for all values of the rows is enough for a search from the start. -/
theorem augment_eq_of_length_lt {fuel : Nat} (enough : rows.flatten.length < fuel)
    (position : Nat) :
    augment rows owners fuel position [] =
      augment rows owners (rows.flatten.length + 1) position [] := by
  have all : untried rows [] ≤ rows.flatten.length := List.length_filter_le _ _
  exact augment_eq_of_untried_lt position (by omega) (by omega)

end Matching

namespace Selection

open Matching (Representable haveDistinctValues haveDistinctValues_iff augment
  augment_eq_of_length_lt)

variable {ι : Type} [DecidableEq ι]

/-! ## Assignments -/

/-- Every position of the tuple has a value of its option, and no two have the same. -/
structure Assigns (rows : List (List ι)) (tuple : List (Fin rows.length))
    (value : Fin tuple.length → ι) : Prop where
  injective : Function.Injective value
  mem_row : ∀ position, value position ∈ rows[tuple[position]]

theorem representable_rowsOf_iff {rows : List (List ι)} {tuple : List (Fin rows.length)} :
    Representable (rowsOf rows tuple) ↔ ∃ value, Assigns rows tuple value := by
  constructor
  · rintro ⟨values, nodup, each⟩
    have length_eq : values.length = tuple.length := by simpa [rowsOf] using each.length_eq
    refine ⟨fun position => values[position], ?_, fun position => ?_⟩
    · intro p q same
      exact Fin.ext ((nodup.getElem_inj_iff).1 same)
    · have bound : position < values.length := by omega
      simpa [rowsOf] using each.get bound (by simp [rowsOf])
  · rintro ⟨value, injective, inRow⟩
    refine ⟨List.ofFn value, List.nodup_ofFn.2 injective, ?_⟩
    refine List.forall₂_iff_get.2 ⟨by simp [rowsOf], fun p bound _ => ?_⟩
    simpa [rowsOf] using inRow ⟨p, by simpa using bound⟩

/-- Positions that have fewer values between them than they are leave no assignment, and
there are such positions whenever there is none. -/
theorem not_exists_assigns_iff {rows : List (List ι)} {tuple : List (Fin rows.length)} :
    (¬ ∃ value, Assigns rows tuple value) ↔
      ∃ positions : Finset (Fin tuple.length),
        (positions.biUnion fun p => rows[tuple[p]].toFinset).card < positions.card := by
  have hall := Finset.all_card_le_biUnion_card_iff_exists_injective
    fun p : Fin tuple.length => rows[tuple[p]].toFinset
  have assigns : (∃ value, Assigns rows tuple value) ↔
      ∃ value : Fin tuple.length → ι,
        Function.Injective value ∧ ∀ p, value p ∈ rows[tuple[p]].toFinset := by
    simp only [List.mem_toFinset]
    exact exists_congr fun value => ⟨fun held => ⟨held.1, held.2⟩, fun held => ⟨held.1, held.2⟩⟩
  rw [assigns, ← hall, not_forall]
  exact exists_congr fun positions => Nat.not_le

/-- The test of a tuple is exact.  It succeeds just when every position can be given a value
of its option that no other position is given, and fails just when some positions have fewer
values between them than they are; and it would answer the same with more fuel. -/
theorem haveDistinctValues_rowsOf_iff (rows : List (List ι)) (tuple : List (Fin rows.length)) :
    (haveDistinctValues (rowsOf rows tuple) = true ↔ ∃ value, Assigns rows tuple value) ∧
    (haveDistinctValues (rowsOf rows tuple) = false ↔
      ∃ positions : Finset (Fin tuple.length),
        (positions.biUnion fun p => rows[tuple[p]].toFinset).card < positions.card) ∧
    ∀ owners fuel position, (rowsOf rows tuple).flatten.length < fuel →
      augment (rowsOf rows tuple) owners fuel position [] =
        augment (rowsOf rows tuple) owners ((rowsOf rows tuple).flatten.length + 1)
          position [] := by
  have exact_true : haveDistinctValues (rowsOf rows tuple) = true ↔
      ∃ value, Assigns rows tuple value :=
    (haveDistinctValues_iff _).trans representable_rowsOf_iff
  refine ⟨exact_true, ?_, fun _ _ position enough => augment_eq_of_length_lt enough position⟩
  rw [← not_exists_assigns_iff, ← exact_true, Bool.not_eq_true]

/-- An option with two values can stand at two positions; three positions cannot share two
values. -/
example : let rows := [["a"], ["a", "b"], ["b"]]
    haveDistinctValues (rowsOf rows [1, 1]) = true ∧
      haveDistinctValues (rowsOf rows [0, 1, 2]) = false := by
  decide

end Selection

end PromptTemplate
