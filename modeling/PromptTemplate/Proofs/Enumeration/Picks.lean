/-
# PromptTemplate.Proofs.Enumeration.Picks -- the selections of a variant

The selections that `Enumeration.picks` lets through are the plain ones, each where it
comes first (`toList_picks`): taking single picks straight from the options, dropping
repetitions in every option, the walk over tuples and the cut at the number of different
values all leave the list as it is.

Its members are then known (`mem_selectionsWithin_iff`), and so is their number: the
selections are the arrangements of the texts of the options.
-/
import PromptTemplate.Proofs.Arrangements
import PromptTemplate.Proofs.Results
import PromptTemplate.Proofs.Selection

set_option autoImplicit false

namespace PromptTemplate.Enumeration

open Plain

/-- The options have the renderings of the rows, without an error. -/
abbrev Listed (options : List (Unit → Renderings)) (rows : List (List Text)) : Prop :=
  List.Forall₂ (fun option row => (option ()).toList = row.map .ok) options rows

variable {options : List (Unit → Renderings)} {rows : List (List Text)}

theorem optionValues_of_listed (listed : Listed options rows) :
    optionValues options = .ok (rows.map List.eraseDups) := by
  unfold optionValues
  induction listed with
  | nil => rfl
  | cons head _ ih =>
    rw [List.mapM_cons, LazyList.collect_of_toList head, ih]
    simp only [Except.map, List.map_cons, ← distinct_eq_eraseDups]
    rfl

theorem toList_singlePicks (listed : Listed options rows) :
    (singlePicks options).toList = (rows.flatten.map fun value => [value]).map .ok := by
  unfold singlePicks
  rw [LazyList.toList_flatMap, LazyList.toList_ofList]
  induction listed with
  | nil => rfl
  | cons head _ ih =>
    rw [List.flatMap_cons, ih, LazyList.toList_map, head, List.flatten_cons, List.map_append,
      List.map_append]
    simp only [List.map_map]
    rfl

theorem toList_multiplePicks (listed : Listed options rows) (least most : Nat) :
    (multiplePicks options least most).toList =
      ((List.range' least (most + 1 - least)).flatMap fun length =>
        if (rows.map List.eraseDups).flatten.toFinset.card < length then []
        else selections (rows.map List.eraseDups) length).map .ok := by
  unfold multiplePicks
  split
  · rename_i none
    have empty : most + 1 - least = 0 := by omega
    rw [empty]
    rfl
  · rw [optionValues_of_listed listed, LazyList.toList_map, Selection.toList_ofLengths]

/-- Single picks and longer ones make up the selections of every length. -/
theorem selectionsWithin_split (rows : List (List Text)) (range : PickRange) :
    selectionsWithin rows range =
      (if range.least = 1 then rows.flatten.map fun value => [value] else []) ++
        (List.range' (max 2 range.least) (range.most + 1 - max 2 range.least)).flatMap
          fun length => if rows.flatten.toFinset.card < length then []
            else selections rows length := by
  have positive := range.one_le_least
  have ordered := range.least_le_most
  unfold selectionsWithin
  split
  · rename_i single
    have first : range.most + 1 - range.least = range.most + 1 - max 2 range.least + 1 := by omega
    have rest : max 2 range.least = 1 + 1 := by omega
    rw [first, single, List.range'_succ, List.flatMap_cons, ← rest, ← single]
    congr 1
    rw [single, selections_one]
    split
    · rename_i none
      have empty : rows.flatten = [] := by
        simpa [Finset.card_eq_zero] using Nat.lt_one_iff.1 none
      rw [empty, List.map_nil]
    · rfl
  · have longer : max 2 range.least = range.least := by omega
    rw [longer, List.nil_append]

/-- The selections that a variant lets through are the plain ones without repetition. -/
theorem toList_picks (listed : Listed options rows) (range : PickRange) :
    (picks options range).toList = (selectionsWithin rows range).eraseDups.map .ok := by
  have firsts : List.Forall₂ SameFirsts (rows.map List.eraseDups) rows :=
    List.forall₂_map_left_iff.2 (List.forall₂_same.2 fun row _ => .eraseDups row)
  have singles : ((if range.least = 1 then singlePicks options else .nil)).toList =
      (if range.least = 1 then rows.flatten.map fun value => [value] else []).map .ok := by
    split
    · exact toList_singlePicks listed
    · rfl
  have all := LazyList.toList_append
    (if range.least = 1 then singlePicks options else .nil)
    fun _ => multiplePicks options (max 2 range.least) range.most
  rw [singles, toList_multiplePicks listed, ← List.map_append] at all
  rw [picks, LazyList.toList_distinct all, selectionsWithin_split]
  congr 1
  refine SameFirsts.append (.refl _) (.flatMap_left fun length _ => ?_)
  rw [toFinset_flatten_eq firsts]
  split
  · exact .refl _
  · exact .selections_eraseDups rows length

/-- A variant joins the selections, in their order. -/
theorem toList_variant (nonempty : options ≠ []) (listed : Listed options rows)
    (range : PickRange) (joiner : Text) :
    (variant options range joiner).toList =
      (selectionsWithin rows range).eraseDups.map
        fun picked => .ok (Text.joinAll joiner picked) := by
  have some : ¬ options.isEmpty = true := by simpa using nonempty
  rw [variant, if_neg some, LazyList.toList_map, toList_picks listed, List.map_map]
  rfl

/-! ## Nothing lost and nothing repeated -/

/-- There are at most as many different texts in a selection as there are to select. -/
theorem length_le_card {values picked : List Text} (nodup : picked.Nodup)
    (inside : ∀ text ∈ picked, text ∈ values) : picked.length ≤ values.toFinset.card := by
  rw [← List.toFinset_card_of_nodup nodup]
  apply Finset.card_le_card
  intro text member
  simpa using inside text (by simpa using member)

/-- The selections are the lists of different texts of the options whose lengths the range
allows. -/
theorem mem_selectionsWithin_iff {range : PickRange} {picked : List Text} :
    picked ∈ selectionsWithin rows range ↔
      (range.least ≤ picked.length ∧ picked.length ≤ range.most) ∧
        picked.Nodup ∧ ∀ text ∈ picked, text ∈ rows.flatten := by
  have ordered := range.least_le_most
  simp only [selectionsWithin, List.mem_flatMap, List.mem_range'_1]
  constructor
  · rintro ⟨length, ⟨lower, upper⟩, member⟩
    split at member
    · exact absurd member List.not_mem_nil
    · obtain ⟨rfl, nodup, inside⟩ := mem_selections_iff.1 member
      exact ⟨⟨lower, by omega⟩, nodup, inside⟩
  · rintro ⟨⟨lower, upper⟩, nodup, inside⟩
    have fits := length_le_card nodup inside
    refine ⟨picked.length, ⟨lower, by omega⟩, ?_⟩
    rw [if_neg (Nat.not_lt.2 fits)]
    exact mem_selections_iff.2 ⟨rfl, nodup, inside⟩

theorem expandOptions_eq_map (provider : Provider) (nested : Text → Renderings)
    (options : List (Weighted Template)) :
    expandOptions provider nested options =
      options.map fun option _ => expand provider nested option.value := by
  induction options with
  | nil => rfl
  | cons option rest ih => rw [expandOptions, ih, List.map_cons]

theorem listed_expandOptions {provider : Provider} {depth : Nat}
    {options : List (Weighted Template)}
    (free : ∀ option ∈ options, (expandAt provider depth option.value).ErrorFree) :
    Listed (expandOptions provider (expandValue provider (maxDepth - depth)) options)
      (options.map fun option => (expandAt provider depth option.value).values) := by
  rw [expandOptions_eq_map]
  refine List.forall₂_map_left_iff.2 (List.forall₂_map_right_iff.2 ?_)
  rw [List.forall₂_same]
  intro option member
  exact (free option member).toList_eq

def optionTexts (provider : Provider) (depth : Nat) (options : List (Weighted Template)) :
    Finset Text :=
  (options.flatMap fun option => (expandAt provider depth option.value).values).toFinset

/-- The selections of a variant are the arrangements of the texts of its options, of
every length that its range allows, each once; and it has one rendering for each. -/
theorem picks_are_arrangements (provider : Provider) (depth : Nat)
    (options : List (Weighted Template)) (range : PickRange) (joiner : Text)
    (nonempty : options ≠ [])
    (free : ∀ option ∈ options, (expandAt provider depth option.value).ErrorFree) :
    ∃ selections : List (List Text),
      (picks (expandOptions provider (expandValue provider (maxDepth - depth)) options)
        range).toList = selections.map .ok ∧
      selections.Nodup ∧
      (∀ picked, picked ∈ selections ↔
        (range.least ≤ picked.length ∧ picked.length ≤ range.most) ∧
          picked.Nodup ∧ ∀ text ∈ picked, text ∈ optionTexts provider depth options) ∧
      (expandAt provider depth (.variant options range joiner)).toList =
        selections.map (fun picked => .ok (Text.joinAll joiner picked)) ∧
      (expandAt provider depth (.variant options range joiner)).toList.length =
        ∑ length ∈ Finset.Icc range.least
            (min range.most (optionTexts provider depth options).card),
          (optionTexts provider depth options).card.factorial /
            ((optionTexts provider depth options).card - length).factorial := by
  have listed := listed_expandOptions free
  generalize same : (options.map fun option => (expandAt provider depth option.value).values) = rows
    at listed
  have texts : ∀ text, text ∈ rows.flatten ↔ text ∈ optionTexts provider depth options := by
    intro text
    rw [optionTexts, List.mem_toFinset, List.flatMap_def, same]
  have members : ∀ picked, picked ∈ (selectionsWithin rows range).eraseDups ↔
      (range.least ≤ picked.length ∧ picked.length ≤ range.most) ∧
        picked.Nodup ∧ ∀ text ∈ picked, text ∈ optionTexts provider depth options := by
    intro picked
    simp only [List.mem_eraseDups, mem_selectionsWithin_iff, texts]
  have some : expandOptions provider (expandValue provider (maxDepth - depth)) options ≠ [] := by
    rw [expandOptions_eq_map]
    simpa using nonempty
  have rendered : (expandAt provider depth (.variant options range joiner)).toList =
      (selectionsWithin rows range).eraseDups.map
        (fun picked => .ok (Text.joinAll joiner picked)) := by
    rw [expandAt, expand]
    exact toList_variant some listed range joiner
  refine ⟨_, toList_picks listed range, nodup_eraseDups _, members, rendered, ?_⟩
  rw [rendered, List.length_map]
  exact length_eq_sum (nodup_eraseDups _) members

/-- A value that both options have is selected once, alone and beside the other. -/
theorem picks_are_arrangements_shared :
    let provider : Provider := fun _ => [['b'], "{a|b}".toList]
    let options : List (Weighted Template) := [⟨.one, .wildcard ['c']⟩, ⟨.one, .literal ['a']⟩]
    let range : PickRange := ⟨1, 2 ^ 64 - 1, by decide, by decide⟩
    options ≠ [] ∧
      (∀ option ∈ options, (expandAt provider 19 option.value).ErrorFree) ∧
      (expandAt provider 19 (.variant options range ['+'])).toList.length =
        ∑ length ∈ Finset.Icc range.least
            (min range.most (optionTexts provider 19 options).card),
          (optionTexts provider 19 options).card.factorial /
            ((optionTexts provider 19 options).card - length).factorial := by
  intro provider options range
  have nonempty : options ≠ [] := List.cons_ne_nil _ _
  have free : ∀ option ∈ options, (expandAt provider 19 option.value).ErrorFree := by
    have wildcard : (expandAt provider 19 (.wildcard ['c'])).toList =
        [['b'], ['a'], ['b']].map .ok := by decide +kernel
    have literal : (expandAt provider 19 (.literal ['a'])).toList = [['a']].map .ok := rfl
    intro option member
    rcases List.mem_pair.1 member with rfl | rfl
    · exact LazyList.errorFree_of_toList wildcard
    · exact LazyList.errorFree_of_toList literal
  obtain ⟨-, -, -, -, -, count⟩ :=
    picks_are_arrangements provider 19 options range ['+'] nonempty free
  exact ⟨nonempty, free, count⟩

end PromptTemplate.Enumeration
