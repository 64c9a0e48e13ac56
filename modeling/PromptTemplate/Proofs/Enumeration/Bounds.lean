/-
# PromptTemplate.Proofs.Enumeration.Bounds -- picks and the bound as it is written

A bound is written for a number of picks (`Bound.Admits`) and kept as a range.  The range
of a bound whose numbers are at least one holds what the bound admits and no more, with
one exception: a least number alone is completed by the number of options, and when it
lies above that number the two change places, so that the least number becomes the
greatest (`not_fits_range`).

A variant then lets through selections of fewer texts than its bound admits, as soon as
its options have as many different texts as there are options (`picks_admitted_iff`).
-/
import PromptTemplate.Proofs.Enumeration.Picks

set_option autoImplicit false

namespace PromptTemplate

namespace Bound

/-- The bound, as it is written, allows so many picks. -/
def Admits : Bound → Nat → Prop
  | .exactly n, picks => picks = n
  | .atLeast n, picks => n ≤ picks
  | .atMost n, picks => picks ≤ n
  | .between a b, picks => min a b ≤ picks ∧ picks ≤ max a b

instance decidableAdmits : (bound : Bound) → (picks : Nat) → Decidable (bound.Admits picks)
  | .exactly n, picks => inferInstanceAs (Decidable (picks = n))
  | .atLeast n, picks => inferInstanceAs (Decidable (n ≤ picks))
  | .atMost n, picks => inferInstanceAs (Decidable (picks ≤ n))
  | .between a b, picks => inferInstanceAs (Decidable (min a b ≤ picks ∧ picks ≤ max a b))

def Positive : Bound → Prop
  | .exactly n => 1 ≤ n
  | .atLeast n => 1 ≤ n
  | .atMost n => 1 ≤ n
  | .between a b => 1 ≤ a ∧ 1 ≤ b

instance decidablePositive : (bound : Bound) → Decidable bound.Positive
  | .exactly n => inferInstanceAs (Decidable (1 ≤ n))
  | .atLeast n => inferInstanceAs (Decidable (1 ≤ n))
  | .atMost n => inferInstanceAs (Decidable (1 ≤ n))
  | .between a b => inferInstanceAs (Decidable (1 ≤ a ∧ 1 ≤ b))

/-- A least number alone is not above the number of options. -/
def Fits (optionCount : Nat) : Bound → Prop
  | .atLeast n => n ≤ optionCount
  | _ => True

variable {bound : Bound} {optionCount : Nat}

/-- What the range of a bound lets through the bound allows, if it is positive and fits.
-/
theorem admits_of_fits (positive : bound.Positive) (fits : bound.Fits optionCount) {picks : Nat}
    (lower : (PickRange.ofBound optionCount bound).least ≤ picks)
    (upper : picks ≤ (PickRange.ofBound optionCount bound).most) : bound.Admits picks := by
  cases bound <;> simp only [Positive, Fits, Admits, PickRange.ofBound, PickRange.between] at * <;>
    omega

/-- A least number above the number of options becomes the greatest number of picks. -/
theorem not_fits_range (some : 1 ≤ optionCount) (overshoots : ¬ bound.Fits optionCount) :
    (PickRange.ofBound optionCount bound).least = optionCount ∧
      optionCount ≤ (PickRange.ofBound optionCount bound).most ∧ ¬ bound.Admits optionCount := by
  cases bound with
  | atLeast n =>
    simp only [Fits, Admits, PickRange.ofBound, PickRange.between] at *
    omega
  | exactly n => exact absurd trivial overshoots
  | atMost n => exact absurd trivial overshoots
  | between a b => exact absurd trivial overshoots

end Bound

namespace Enumeration

open Plain

/-- Among texts there are selections of every number up to theirs. -/
theorem exists_selection {rows : List (List Text)} {length : Nat}
    (enough : length ≤ rows.flatten.toFinset.card) :
    ∃ picked : List Text, picked.length = length ∧ picked.Nodup ∧
      ∀ text ∈ picked, text ∈ rows.flatten := by
  refine ⟨rows.flatten.eraseDups.take length, ?_, ?_, ?_⟩
  · have same : rows.flatten.toFinset = rows.flatten.eraseDups.toFinset := by
      ext text
      simp
    rw [same, List.toFinset_card_of_nodup (nodup_eraseDups _)] at enough
    rw [List.length_take, Nat.min_eq_left enough]
  · exact (nodup_eraseDups _).sublist (List.take_sublist _ _)
  · exact fun text member => List.mem_eraseDups.1 (List.mem_of_mem_take member)

/-- Every selection of the range of a bound has a number of texts that the bound admits,
unless the bound is a least number above the number of options and there are as many
texts as options. -/
theorem admits_selections_iff {rows : List (List Text)} {bound : Bound} {optionCount : Nat}
    (some : 1 ≤ optionCount) (positive : bound.Positive) :
    (∀ picked ∈ selectionsWithin rows (PickRange.ofBound optionCount bound),
        bound.Admits picked.length) ↔
      bound.Fits optionCount ∨ rows.flatten.toFinset.card < optionCount := by
  simp only [mem_selectionsWithin_iff]
  constructor
  · intro admitted
    by_contra neither
    obtain ⟨overshoots, enough⟩ := not_or.1 neither
    obtain ⟨least, most, excluded⟩ := Bound.not_fits_range some overshoots
    obtain ⟨picked, length, nodup, inside⟩ := exists_selection (Nat.not_lt.1 enough)
    rw [← length] at excluded
    refine excluded (admitted picked ⟨⟨?_, ?_⟩, nodup, inside⟩)
    · rw [least, length]
    · rwa [length]
  · rintro (fits | few) picked ⟨⟨lower, upper⟩, nodup, inside⟩
    · exact Bound.admits_of_fits positive fits lower upper
    · by_cases fits : bound.Fits optionCount
      · exact Bound.admits_of_fits positive fits lower upper
      · -- so many different texts as the range asks for there are not
        obtain ⟨least, -, -⟩ := Bound.not_fits_range some fits
        have fewer := length_le_card nodup inside
        omega

/-- What a variant with a written bound lets through, and renders by joining, has a
number of picks that the bound admits, unless the bound is a least number above the
number of options and the options have at least as many different texts as there are
options; then a selection of fewer picks is let through. -/
theorem picks_admitted_iff (provider : Provider) (depth : Nat)
    (options : List (Weighted Template)) (bound : Bound) (joiner : Text)
    (nonempty : options ≠ []) (positive : bound.Positive)
    (free : ∀ option ∈ options, (expandAt provider depth option.value).ErrorFree) :
    ∃ selections : List (List Text),
      (picks (expandOptions provider (expandValue provider (maxDepth - depth)) options)
        (PickRange.ofBound options.length bound)).toList = selections.map .ok ∧
      (expandAt provider depth (.ofOptions options (some bound) joiner)).toList =
        selections.map (fun picked => .ok (Text.joinAll joiner picked)) ∧
      ((∀ picked ∈ selections, bound.Admits picked.length) ↔
        bound.Fits options.length ∨
          (optionTexts provider depth options).card < options.length) := by
  have listed := listed_expandOptions free
  have some : expandOptions provider (expandValue provider (maxDepth - depth)) options ≠ [] := by
    rw [expandOptions_eq_map]
    simpa using nonempty
  refine ⟨_, toList_picks listed _, ?_, ?_⟩
  · rw [Template.ofOptions, expandAt, expand]
    exact toList_variant some listed _ joiner
  · simp only [List.mem_eraseDups]
    rw [optionTexts, List.flatMap_def]
    exact admits_selections_iff (List.length_pos_iff.2 nonempty) positive

/-- Two options with four texts; the numbers of the bound are in the wrong order and
lie above the number of options. -/
theorem picks_admitted_iff_reversed :
    let provider : Provider := fun _ => [['r'], "{g|b}".toList]
    let options : List (Weighted Template) := [⟨.one, .wildcard ['c']⟩, ⟨.one, .literal ['x']⟩]
    let bound : Bound := .between 5 3
    options ≠ [] ∧ bound.Positive ∧
      (∀ option ∈ options, (expandAt provider 19 option.value).ErrorFree) ∧
      ∃ selections : List (List Text),
        (expandAt provider 19 (.ofOptions options (some bound) ['+'])).toList =
          selections.map (fun picked => .ok (Text.joinAll ['+'] picked)) ∧
        selections.length = 48 ∧
        ∀ picked ∈ selections, 3 ≤ picked.length ∧ picked.length ≤ 5 := by
  intro provider options bound
  have nonempty : options ≠ [] := List.cons_ne_nil _ _
  have positive : bound.Positive := by decide
  have free : ∀ option ∈ options, (expandAt provider 19 option.value).ErrorFree := by
    have wildcard : (expandAt provider 19 (.wildcard ['c'])).toList =
        [['r'], ['g'], ['b']].map .ok := by decide +kernel
    have literal : (expandAt provider 19 (.literal ['x'])).toList = [['x']].map .ok := rfl
    intro option member
    rcases List.mem_pair.1 member with rfl | rfl
    · exact LazyList.errorFree_of_toList wildcard
    · exact LazyList.errorFree_of_toList literal
  obtain ⟨selections, -, rendered, admitted⟩ :=
    picks_admitted_iff provider 19 options bound ['+'] nonempty positive free
  refine ⟨nonempty, positive, free, selections, rendered, ?_, admitted.2 (.inl trivial)⟩
  have count := congrArg List.length rendered
  rw [List.length_map] at count
  rw [← count]
  decide +kernel

/-- One option and a bound of at least two picks: the option alone is let through. -/
theorem picks_below_bound :
    let options : List (Weighted Template) := [⟨.one, .ofParts [.literal ['a']]⟩]
    let bound : Bound := .atLeast 2
    bound.Positive ∧ (expandAt (fun _ => []) 0 (.ofParts [.literal ['a']])).ErrorFree ∧
      Template.parse "{2-$$a}".toList = .ok (.ofParts [.ofOptions options (some bound) [',']]) ∧
      (picks (expandOptions (fun _ => []) (expandValue (fun _ => []) maxDepth) options)
        (PickRange.ofBound options.length bound)).toList = [.ok [['a']]] ∧
      ¬ bound.Admits [['a']].length := by
  intro options bound
  have literal : (expandAt (fun _ => []) 0 (.ofParts [.literal ['a']])).toList =
      [['a']].map .ok := by decide +kernel
  have read : Template.parse "{2-$$a}".toList =
      .ok (.ofParts [.ofOptions options (some bound) [',']]) := by
    with_unfolding_all rfl
  exact ⟨by decide, LazyList.errorFree_of_toList literal, read, by decide +kernel, by decide⟩

end Enumeration

end PromptTemplate
