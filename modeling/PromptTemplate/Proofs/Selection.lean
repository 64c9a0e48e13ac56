/-
# PromptTemplate.Proofs.Selection -- the walk over tuples is the plain one

`Selection.ofLength` walks the tuples of options under a test of their prefixes, and
the values of a tuple under a test of what is held.  Neither test loses anything: the
tuples that are walked are those that have distinct values (`toList_optionTuples`), a
tuple that has none gives no selection, and a value that is held can be part of no
selection (`toList_valueTuples`).  So the walk is the plain one, in content and in
order (`toList_ofLength`).

What the plain walk lists is then read off it: the choices without repetition among
all the values (`mem_selections_iff`).
-/
import PromptTemplate.Proofs.Enumeration.Plain
import PromptTemplate.Proofs.FirstOccurrences
import PromptTemplate.Proofs.Matching

set_option autoImplicit false
set_option linter.unusedSectionVars false

namespace PromptTemplate

open Plain

/-! ## Choices -/

section Choices

variable {α β : Type}

theorem mem_choices_iff {rows : List (List α)} {picked : List α} :
    picked ∈ choices rows ↔ List.Forall₂ (· ∈ ·) picked rows := by
  induction rows generalizing picked with
  | nil => simp [choices]
  | cons row rest ih =>
    simp only [choices, List.mem_flatMap, List.mem_map, List.forall₂_cons_right_iff]
    constructor
    · rintro ⟨value, inRow, later, member, rfl⟩
      exact ⟨value, later, inRow, ih.1 member, rfl⟩
    · rintro ⟨value, later, inRow, each, rfl⟩
      exact ⟨value, inRow, later, ih.2 each, rfl⟩

/-- The images of the choices are the choices of the images. -/
theorem choices_map (f : α → β) (rows : List (List α)) :
    choices (rows.map (List.map f)) = (choices rows).map (List.map f) := by
  induction rows with
  | nil => rfl
  | cons row rest ih =>
    simp only [List.map_cons, choices, ih, List.flatMap_map, List.map_flatMap, List.map_map]
    rfl

theorem tuples_map (f : α → β) (values : List α) (length : Nat) :
    tuples (values.map f) length = (tuples values length).map (List.map f) := by
  rw [tuples, tuples, ← choices_map, List.map_replicate]

theorem tuples_succ (values : List α) (length : Nat) :
    tuples values (length + 1) =
      values.flatMap fun value => (tuples values length).map (value :: ·) := by
  rw [tuples, List.replicate_succ, choices, tuples]

end Choices

namespace Selection

variable {ι : Type} [DecidableEq ι]

/-! ## Tuples of options -/

theorem rowsOf_append (rows : List (List ι)) (front back : List (Fin rows.length)) :
    rowsOf rows (front ++ back) = rowsOf rows front ++ rowsOf rows back :=
  List.map_append

/-- The first of some rows that have distinct values have distinct values. -/
theorem representable_of_append {front back : List (List ι)}
    (whole : Matching.Representable (front ++ back)) : Matching.Representable front := by
  obtain ⟨values, nodup, each⟩ := whole
  refine ⟨values.take front.length, nodup.sublist (List.take_sublist _ _), ?_⟩
  simpa using List.forall₂_take front.length each

/-- The tuples that are walked are the extensions of the tuple that have distinct
values. -/
theorem toList_optionTuples (rows : List (List ι)) (length : Nat)
    (tuple : List (Fin rows.length))
    (feasible : Matching.haveDistinctValues (rowsOf rows tuple) = true) :
    (optionTuples rows length tuple).toList =
      ((tuples (List.finRange rows.length) length).map (tuple ++ ·)).filter fun whole =>
        Matching.haveDistinctValues (rowsOf rows whole) := by
  induction length generalizing tuple with
  | zero => simp [optionTuples, tuples, choices, feasible]
  | succ length ih =>
    rw [optionTuples, tuples_succ, LazyList.toList_flatMap, LazyList.toList_ofList,
      List.map_flatMap, List.filter_flatMap]
    apply List.flatMap_congr
    intro option _
    have extend : ((tuples (List.finRange rows.length) length).map (option :: ·)).map (tuple ++ ·) =
        (tuples (List.finRange rows.length) length).map (tuple ++ [option] ++ ·) := by
      simp
    rw [extend]
    by_cases further : Matching.haveDistinctValues (rowsOf rows (tuple ++ [option])) = true
    · rw [if_pos further, ih _ further]
    · -- no extension of a tuple without distinct values has any
      rw [if_neg further, LazyList.toList_nil, eq_comm, List.filter_eq_nil_iff]
      intro whole member extended
      obtain ⟨back, -, rfl⟩ := List.mem_map.1 member
      rw [Matching.haveDistinctValues_iff, rowsOf_append] at extended
      exact further ((Matching.haveDistinctValues_iff _).2 (representable_of_append extended))

/-! ## Values of a tuple -/

/-- The walk over values gives just the choices that hold none twice, in order. -/
theorem toList_valueTuples (rows : List (List ι)) (held : List ι) (nodup : held.Nodup) :
    (valueTuples rows held).toList =
      ((choices rows).map (held ++ ·)).filter fun picked => picked.Nodup := by
  induction rows generalizing held with
  | nil => simp [valueTuples, choices, nodup]
  | cons row rest ih =>
    rw [valueTuples, choices, LazyList.toList_flatMap, LazyList.toList_ofList, List.map_flatMap,
      List.filter_flatMap]
    apply List.flatMap_congr
    intro value _
    have extend : ((choices rest).map (value :: ·)).map (held ++ ·) =
        (choices rest).map (held ++ [value] ++ ·) := by
      simp
    rw [extend]
    by_cases taken : value ∈ held
    · rw [if_pos taken, LazyList.toList_nil, eq_comm, List.filter_eq_nil_iff]
      intro picked member distinct
      obtain ⟨later, -, rfl⟩ := List.mem_map.1 member
      rw [List.append_assoc, decide_eq_true_eq] at distinct
      exact (List.disjoint_of_nodup_append distinct) taken (by simp)
    · rw [if_neg taken, ih]
      exact List.nodup_append.2 ⟨nodup, List.nodup_singleton value, fun u inHeld v inLast same =>
        taken (List.mem_singleton.1 inLast ▸ same ▸ inHeld)⟩

/-! ## Selections of a length -/

/-- What gives nothing may be left out. -/
theorem flatMap_filter_of_nil {α β : Type} {p : α → Bool} {f : α → List β} {xs : List α}
    (nothing : ∀ a ∈ xs, p a = false → f a = []) : (xs.filter p).flatMap f = xs.flatMap f := by
  induction xs with
  | nil => rfl
  | cons a rest ih =>
    have later := ih fun b member => nothing b (List.mem_cons_of_mem a member)
    cases kept : p a with
    | true => rw [List.filter_cons_of_pos kept, List.flatMap_cons, List.flatMap_cons, later]
    | false =>
      rw [List.filter_cons_of_neg (by simp [kept]), List.flatMap_cons,
        nothing a List.mem_cons_self kept, List.nil_append, later]

/-- The walk is the plain one. -/
theorem toList_ofLength (rows : List (List ι)) (length : Nat) :
    (ofLength rows length).toList = selections rows length := by
  have empty : Matching.haveDistinctValues (rowsOf rows []) = true := rfl
  have values : ∀ tuple, (valueTuples (rowsOf rows tuple) []).toList =
      (choices (rowsOf rows tuple)).filter fun picked => picked.Nodup := by
    intro tuple
    simpa using toList_valueTuples (rowsOf rows tuple) [] List.nodup_nil
  rw [ofLength, LazyList.toList_flatMap, toList_optionTuples rows length [] empty]
  simp only [List.nil_append, List.map_id', values]
  refine flatMap_filter_of_nil fun tuple _ infeasible => List.filter_eq_nil_iff.2 ?_
  intro picked member distinct
  have representable : Matching.Representable (rowsOf rows tuple) :=
    ⟨picked, of_decide_eq_true distinct, mem_choices_iff.1 member⟩
  rw [(Matching.haveDistinctValues_iff _).2 representable] at infeasible
  cases infeasible

/-- The number of different values is that of the walk. -/
theorem valueCount_eq_card (rows : List (List ι)) :
    valueCount rows = rows.flatten.toFinset.card := by
  have members : (distinct rows.flatten).toFinset = rows.flatten.toFinset := by
    ext v
    simp [distinct_eq_eraseDups]
  rw [valueCount, ← members, List.toFinset_card_of_nodup]
  rw [distinct_eq_eraseDups]
  exact nodup_eraseDups _

/-- Lengths above the number of different values are not walked, and would give nothing. -/
theorem toList_ofLengths (rows : List (List ι)) (least most : Nat) :
    (ofLengths rows least most).toList =
      (List.range' least (most + 1 - least)).flatMap fun length =>
        if rows.flatten.toFinset.card < length then [] else selections rows length := by
  rw [ofLengths, LazyList.toList_flatMap, LazyList.toList_ofList, valueCount_eq_card]
  generalize rows.flatten.toFinset.card = count
  have walked : ∀ length ∈ List.range' least (min most count + 1 - least),
      (ofLength rows length).toList =
        if count < length then [] else selections rows length := by
    intro length member
    rw [if_neg (by rw [List.mem_range'_1] at member; omega), toList_ofLength]
  have skipped : ((List.range' (least + (min most count + 1 - least))
      (most + 1 - least - (min most count + 1 - least))).flatMap fun length =>
        if count < length then [] else selections rows length) = [] := by
    refine List.flatMap_eq_nil_iff.2 fun length member => if_pos ?_
    rw [List.mem_range'_1] at member
    omega
  have split : List.range' least (most + 1 - least) =
      List.range' least (min most count + 1 - least) ++
        List.range' (least + (min most count + 1 - least))
          (most + 1 - least - (min most count + 1 - least)) := by
    rw [List.range'_append_1]
    congr 1
    omega
  rw [split, List.flatMap_append, skipped, List.append_nil]
  exact List.flatMap_congr walked

end Selection

/-! ## Selections, by rows -/

section Rows

variable {α : Type} [DecidableEq α]

/-- A tuple of options is a tuple of their rows. -/
theorem selections_eq (rows : List (List α)) (length : Nat) :
    selections rows length =
      (tuples rows length).flatMap fun tuple =>
        (choices tuple).filter fun picked => picked.Nodup := by
  have indexed : (List.finRange rows.length).map rows.get = rows :=
    List.map_get_finRange rows
  conv_rhs => rw [← indexed, tuples_map, List.flatMap_map]
  rfl

/-- A single value of any row. -/
theorem selections_one (rows : List (List α)) :
    selections rows 1 = rows.flatten.map fun value => [value] := by
  have ones : ∀ {β : Type} (values : List β),
      choices [values] = values.map fun value => [value] := by
    intro β values
    simp [choices, List.map_eq_flatMap]
  have each : ∀ row : List α, ((choices [row]).filter fun picked => picked.Nodup) =
      row.map fun value => [value] := by
    intro row
    rw [ones]
    exact List.filter_eq_self.2 fun picked member => by
      obtain ⟨value, -, rfl⟩ := List.mem_map.1 member
      simp
  rw [selections_eq, tuples, List.replicate_one, ones, List.flatMap_map, List.map_flatten,
    ← List.flatMap_def]
  exact List.flatMap_congr fun row _ => each row

/-- Values from anywhere in the rows are values of some tuple of rows. -/
theorem exists_tuple_iff {rows : List (List α)} {length : Nat} {picked : List α} :
    (∃ tuple ∈ tuples rows length, List.Forall₂ (· ∈ ·) picked tuple) ↔
      picked.length = length ∧ ∀ v ∈ picked, v ∈ rows.flatten := by
  induction length generalizing picked with
  | zero => cases picked <;> simp [tuples, choices]
  | succ length ih =>
    simp only [tuples_succ, List.mem_flatMap, List.mem_map]
    constructor
    · rintro ⟨_, ⟨row, isRow, tuple, member, rfl⟩, each⟩
      obtain ⟨v, later, inRow, others, rfl⟩ := List.forall₂_cons_right_iff.1 each
      obtain ⟨rfl, inside⟩ := ih.1 ⟨tuple, member, others⟩
      refine ⟨rfl, fun u held => ?_⟩
      rcases List.mem_cons.1 held with rfl | held
      · exact List.mem_flatten.2 ⟨row, isRow, inRow⟩
      · exact inside u held
    · rintro ⟨size, inside⟩
      cases picked with
      | nil => cases size
      | cons v picked =>
        obtain ⟨row, isRow, inRow⟩ := List.mem_flatten.1 (inside v List.mem_cons_self)
        obtain ⟨tuple, member, each⟩ := ih.2
          ⟨Nat.succ.inj size, fun u held => inside u (List.mem_cons_of_mem v held)⟩
        exact ⟨row :: tuple, ⟨row, isRow, tuple, member, rfl⟩, .cons inRow each⟩

/-- The selections of a length are the choices without repetition among all values. -/
theorem mem_selections_iff {rows : List (List α)} {length : Nat} {picked : List α} :
    picked ∈ selections rows length ↔
      picked.length = length ∧ picked.Nodup ∧ ∀ v ∈ picked, v ∈ rows.flatten := by
  rw [selections_eq, and_left_comm, ← exists_tuple_iff]
  simp only [List.mem_flatMap, List.mem_filter, decide_eq_true_eq, mem_choices_iff]
  constructor
  · rintro ⟨tuple, member, each, nodup⟩
    exact ⟨nodup, tuple, member, each⟩
  · rintro ⟨nodup, tuple, member, each⟩
    exact ⟨tuple, member, each, nodup⟩

/-! ## Selections up to repetition -/

variable [BEq α] [LawfulBEq α]

theorem SameFirsts.choices {rows rows' : List (List α)}
    (each : List.Forall₂ SameFirsts rows rows') :
    SameFirsts (choices rows) (choices rows') := by
  induction each with
  | nil => exact .refl _
  | cons head _ ih => exact head.flatMap fun value _ => ih.map (value :: ·)

/-- Dropping repetitions among the values of each row drops only repeated selections. -/
theorem SameFirsts.selections_eraseDups (rows : List (List α)) (length : Nat) :
    SameFirsts (selections (rows.map List.eraseDups) length) (selections rows length) := by
  rw [selections_eq, selections_eq, tuples_map, List.flatMap_map]
  refine .flatMap_left fun tuple _ => (SameFirsts.choices ?_).filter _
  exact List.forall₂_map_left_iff.2 (List.forall₂_same.2 fun row _ => .eraseDups row)

theorem map_eraseDups_eq {rows rows' : List (List α)}
    (each : List.Forall₂ SameFirsts rows rows') :
    rows.map List.eraseDups = rows'.map List.eraseDups := by
  induction each with
  | nil => rfl
  | cons head _ ih => rw [List.map_cons, List.map_cons, head, ih]

theorem toFinset_flatten_eq {rows rows' : List (List α)}
    (each : List.Forall₂ SameFirsts rows rows') :
    rows.flatten.toFinset = rows'.flatten.toFinset := by
  induction each with
  | nil => rfl
  | cons head _ ih =>
    simp only [List.flatten_cons, List.toFinset_append, ih]
    congr 1
    ext v
    simpa using head.mem_iff v

theorem SameFirsts.selectionsWithin {rows rows' : List (List α)}
    (each : List.Forall₂ SameFirsts rows rows') (range : PickRange) :
    SameFirsts (selectionsWithin rows range) (selectionsWithin rows' range) := by
  refine .flatMap_left ?_
  intro length _
  rw [toFinset_flatten_eq each]
  split
  · exact .refl _
  · have merged := SameFirsts.selections_eraseDups rows length
    rw [map_eraseDups_eq each] at merged
    exact merged.symm.trans (.selections_eraseDups rows' length)

end Rows

end PromptTemplate
