/-
# PromptTemplate.Proofs.Selection.Walk -- the walk over tuples has no dead ends

A tuple of options that can be given distinct values, with fewer options than there are
distinct values, can be extended: some value is not among those given to its options, and
an option whose row has that value may follow (`exists_extension`).  So the walk gets from
every tuple that it extends to a complete one (`optionTuples_ne_nil`), and a walk over
tuples of some length is one over shorter tuples, each of them walked on from
(`toList_optionTuples_add`).

The tuples come in lexicographic order, as the plain tuples do of which they are those
that can be given distinct values.
-/
import PromptTemplate.Proofs.Selection

set_option autoImplicit false

namespace PromptTemplate

open Plain

/-! ## The order of choices -/

section Order

variable {α : Type} [LT α]

/-- Choices from increasing rows increase. -/
theorem pairwise_lt_choices {rows : List (List α)}
    (increasing : ∀ row ∈ rows, row.Pairwise (· < ·)) : (choices rows).Pairwise (· < ·) := by
  induction rows with
  | nil => exact List.pairwise_singleton _ _
  | cons row rest ih =>
    obtain ⟨first, others⟩ := List.forall_mem_cons.1 increasing
    rw [choices, List.pairwise_flatMap]
    constructor
    · intro value _
      rw [List.pairwise_map]
      exact (ih others).imp fun less => List.cons_lt_cons_iff.2 (.inr ⟨rfl, less⟩)
    · refine first.imp fun less s sMember t tMember => ?_
      obtain ⟨_, -, rfl⟩ := List.mem_map.1 sMember
      obtain ⟨_, -, rfl⟩ := List.mem_map.1 tMember
      exact List.cons_lt_cons_iff.2 (.inl less)

theorem pairwise_lt_tuples {values : List α} (increasing : values.Pairwise (· < ·))
    (length : Nat) : (tuples values length).Pairwise (· < ·) :=
  pairwise_lt_choices fun _ member => List.eq_of_mem_replicate member ▸ increasing

end Order

theorem mem_tuples_finRange_iff {count length : Nat} {tuple : List (Fin count)} :
    tuple ∈ tuples (List.finRange count) length ↔ tuple.length = length := by
  rw [tuples, mem_choices_iff]
  constructor
  · intro each
    simpa using each.length_eq
  · rintro rfl
    refine List.forall₂_iff_get.2 ⟨by simp, fun i _ _ => ?_⟩
    simp

namespace Selection

open Matching (Representable haveDistinctValues_iff)

variable {ι : Type} [DecidableEq ι] {rows : List (List ι)} {tuple : List (Fin rows.length)}

/-- The tuples of the length that the walk gives from a tuple on. -/
def walkTo (rows : List (List ι)) (length : Nat) (tuple : List (Fin rows.length)) :
    List (List (Fin rows.length)) :=
  (optionTuples rows (length - tuple.length) tuple).toList

/-! ## Extending a tuple -/

/-- A value that no option of the tuple is given is free for one more option. -/
theorem exists_extension (representable : Representable (rowsOf rows tuple))
    (fewer : tuple.length < valueCount rows) :
    ∃ option, Representable (rowsOf rows (tuple ++ [option])) := by
  obtain ⟨values, nodup, each⟩ := representable
  have given : values.toFinset.card = tuple.length := by
    rw [List.toFinset_card_of_nodup nodup, each.length_eq, rowsOf, List.length_map]
  rw [valueCount_eq_card, ← given] at fewer
  obtain ⟨v, inside, free⟩ := Finset.exists_mem_notMem_of_card_lt_card fewer
  obtain ⟨row, isRow, inRow⟩ := List.mem_flatten.1 (List.mem_toFinset.1 inside)
  obtain ⟨option, rfl⟩ := List.mem_iff_get.1 isRow
  refine ⟨option, values ++ [v], ?_, ?_⟩
  · rw [← List.concat_eq_append]
    exact nodup.concat fun taken => free (List.mem_toFinset.2 taken)
  · rw [rowsOf_append]
    exact List.rel_append each (.cons inRow .nil)

/-- The walk ends in complete tuples wherever it has got to. -/
theorem optionTuples_ne_nil (representable : Representable (rowsOf rows tuple)) {more : Nat}
    (within : tuple.length + more ≤ valueCount rows) :
    (optionTuples rows more tuple).toList ≠ [] := by
  induction more generalizing tuple with
  | zero => exact List.cons_ne_nil _ _
  | succ more ih =>
    obtain ⟨option, further⟩ := exists_extension representable (by omega)
    have later := ih further (by rw [List.length_append, List.length_singleton]; omega)
    obtain ⟨whole, member⟩ := List.exists_mem_of_ne_nil _ later
    apply List.ne_nil_of_mem (a := whole)
    rw [optionTuples, LazyList.toList_flatMap, LazyList.toList_ofList, List.mem_flatMap]
    refine ⟨option, List.mem_finRange option, ?_⟩
    rwa [if_pos ((haveDistinctValues_iff _).2 further)]

/-! ## What the walk gives -/

/-- Walking on is walking to shorter tuples and from each of them to the end. -/
theorem toList_optionTuples_add (rows : List (List ι)) (some more : Nat)
    (tuple : List (Fin rows.length)) :
    (optionTuples rows (some + more) tuple).toList =
      (optionTuples rows some tuple).toList.flatMap fun middle =>
        (optionTuples rows more middle).toList := by
  induction some generalizing tuple with
  | zero => rw [Nat.zero_add, optionTuples, LazyList.toList_singleton, List.flatMap_singleton]
  | succ some ih =>
    rw [Nat.succ_add, optionTuples, optionTuples, LazyList.toList_flatMap, LazyList.toList_flatMap,
      List.flatMap_assoc]
    apply List.flatMap_congr
    intro option _
    split
    · exact ih _
    · rfl

/-- The walk comes to just the extensions that can be given distinct values. -/
theorem mem_optionTuples_iff (representable : Representable (rowsOf rows tuple)) (more : Nat)
    (whole : List (Fin rows.length)) :
    whole ∈ (optionTuples rows more tuple).toList ↔
      tuple <+: whole ∧ whole.length = tuple.length + more ∧ Representable (rowsOf rows whole) := by
  rw [toList_optionTuples rows more tuple ((haveDistinctValues_iff _).2 representable),
    List.mem_filter, haveDistinctValues_iff, ← and_assoc]
  refine and_congr_left fun _ => ?_
  simp only [List.mem_map, mem_tuples_finRange_iff]
  constructor
  · rintro ⟨back, rfl, rfl⟩
    exact ⟨List.prefix_append tuple back, List.length_append⟩
  · rintro ⟨⟨back, rfl⟩, size⟩
    rw [List.length_append] at size
    exact ⟨back, Nat.add_left_cancel size, rfl⟩

/-- The walk goes in lexicographic order and comes to no tuple twice. -/
theorem pairwise_lt_optionTuples (representable : Representable (rowsOf rows tuple))
    (more : Nat) : (optionTuples rows more tuple).toList.Pairwise (· < ·) := by
  rw [toList_optionTuples rows more tuple ((haveDistinctValues_iff _).2 representable)]
  apply List.Pairwise.filter
  rw [List.pairwise_map]
  exact (pairwise_lt_tuples (List.pairwise_lt_finRange _) more).imp List.append_left_lt

/-- Distinct values for the options of a tuple are a selection. -/
theorem valueTuples_ne_nil {rows : List (List ι)} (representable : Representable rows) :
    (valueTuples rows []).toList ≠ [] := by
  obtain ⟨values, nodup, each⟩ := representable
  apply List.ne_nil_of_mem (a := values)
  rw [toList_valueTuples rows [] List.nodup_nil, List.mem_filter]
  exact ⟨List.mem_map.2 ⟨values, mem_choices_iff.2 each, rfl⟩, decide_eq_true nodup⟩

/-- From a tuple with distinct values on, the walk gives exactly the longer tuples that have
distinct values, in lexicographic order and each once.  There is one as long as the length
is not above the number of distinct values, every one of them has a selection, and the walk
gets to one from every tuple that it extends on its way. -/
theorem walkTo_exact_and_live (rows : List (List ι)) (front : List (Fin rows.length))
    (length : Nat) (feasible : Representable (rowsOf rows front))
    (longer : front.length ≤ length) (within : length ≤ valueCount rows) :
    walkTo rows length front ≠ [] ∧
    (walkTo rows length front).Nodup ∧
    (walkTo rows length front).Pairwise (· < ·) ∧
    (∀ tuple, tuple ∈ walkTo rows length front ↔
      front <+: tuple ∧ tuple.length = length ∧ Representable (rowsOf rows tuple)) ∧
    (∀ tuple ∈ walkTo rows length front, (valueTuples (rowsOf rows tuple) []).toList ≠ []) ∧
    ∀ middle, front.length ≤ middle → middle ≤ length →
      walkTo rows length front = (walkTo rows middle front).flatMap (walkTo rows length) ∧
      ∀ tuple ∈ walkTo rows middle front, walkTo rows length tuple ≠ [] := by
  have members : ∀ {middle}, front.length ≤ middle → ∀ tuple, tuple ∈ walkTo rows middle front ↔
      front <+: tuple ∧ tuple.length = middle ∧ Representable (rowsOf rows tuple) := by
    intro middle inFront tuple
    rw [walkTo, mem_optionTuples_iff feasible, Nat.add_sub_cancel' inFront]
  have live : ∀ tuple, Representable (rowsOf rows tuple) → tuple.length ≤ length →
      walkTo rows length tuple ≠ [] := by
    intro tuple representable shorter
    exact optionTuples_ne_nil representable (by omega)
  have increasing := pairwise_lt_optionTuples feasible (length - front.length)
  refine ⟨live front feasible longer, ?_, increasing, members longer, ?_, ?_⟩
  · apply increasing.imp
    rintro tuple _ less rfl
    exact List.lt_irrefl tuple less
  · intro tuple member
    exact valueTuples_ne_nil ((members longer tuple).1 member).2.2
  · intro middle inFront inside
    have reached := fun tuple => (members inFront tuple).1
    constructor
    · have split : length - front.length = (middle - front.length) + (length - middle) := by omega
      rw [walkTo, split, toList_optionTuples_add]
      apply List.flatMap_congr
      intro tuple member
      rw [walkTo, (reached tuple member).2.1]
    · intro tuple member
      obtain ⟨-, size, representable⟩ := reached tuple member
      exact live tuple representable (by omega)

/-- The only value of the second option is not left to the others. -/
theorem walkTo_exact_and_live_shared :
    let rows := [["a", "b"], ["b"], ["b", "c"]]
    let front : List (Fin rows.length) := [1]
    (Representable (rowsOf rows front) ∧ front.length ≤ 3 ∧ 3 ≤ valueCount rows) ∧
      walkTo rows 3 front ≠ [] ∧ [1, 2, 0] ∈ walkTo rows 3 front ∧
        [1, 2, 2] ∉ walkTo rows 3 front := by
  intro rows front
  have feasible : Representable (rowsOf rows front) := (haveDistinctValues_iff _).1 (by decide)
  have within : 3 ≤ valueCount rows := by decide
  obtain ⟨live, -, -, exact, -⟩ := walkTo_exact_and_live rows front 3 feasible (by decide) within
  refine ⟨⟨feasible, by decide, within⟩, live, ?_, ?_⟩
  · exact (exact _).2 ⟨by decide, rfl, (haveDistinctValues_iff _).1 (by decide)⟩
  · intro member
    have impossible := (haveDistinctValues_iff _).2 ((exact _).1 member).2.2
    exact absurd impossible (by decide)

end Selection

end PromptTemplate
