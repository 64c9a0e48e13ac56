/-
# PromptTemplate.Proofs.Arrangements -- lists without repetition, counted

The arrangements of a length of a set are the lists of that length of its members that
hold none twice.  There are `n! / (n - k)!` of length `k` of a set of `n`, and a list
that holds exactly the arrangements of some range of lengths, each once, has as many
elements as they are together (`length_eq_sum`).
-/
import Mathlib.Data.Fintype.CardEmbedding
import Mathlib.Data.List.OfFn
import Mathlib.Algebra.BigOperators.Group.Finset.Basic
import Mathlib.Order.Interval.Finset.Nat

set_option autoImplicit false

namespace PromptTemplate

variable {α : Type} [DecidableEq α]

/-- The lists of the length of members of the set that hold none twice. -/
noncomputable def arrangements (values : Finset α) (length : Nat) : Finset (List α) :=
  Finset.univ.image fun f : Fin length ↪ values => List.ofFn fun i => (f i).val

/-- The arrangements are the lists of that many different members. -/
theorem mem_arrangements_iff {values : Finset α} {length : Nat} {picked : List α} :
    picked ∈ arrangements values length ↔
      picked.length = length ∧ picked.Nodup ∧ ∀ v ∈ picked, v ∈ values := by
  simp only [arrangements, Finset.mem_image, Finset.mem_univ, true_and]
  constructor
  · rintro ⟨f, rfl⟩
    refine ⟨List.length_ofFn, ?_, fun v member => ?_⟩
    · exact List.nodup_ofFn.2 (Subtype.val_injective.comp f.injective)
    · obtain ⟨i, rfl⟩ := List.mem_ofFn.1 member
      exact (f i).property
  · rintro ⟨rfl, nodup, inside⟩
    let f : Fin picked.length → values := fun i => ⟨picked[i], inside _ (List.getElem_mem i.isLt)⟩
    have injective : Function.Injective f := by
      intro i j same
      exact Fin.ext ((List.Nodup.getElem_inj_iff nodup).1 (congrArg Subtype.val same))
    exact ⟨⟨f, injective⟩, List.ofFn_getElem⟩

/-- The falling factorial counts the arrangements. -/
theorem card_arrangements {values : Finset α} {length : Nat} (fits : length ≤ values.card) :
    (arrangements values length).card =
      values.card.factorial / (values.card - length).factorial := by
  have injective : Function.Injective fun f : Fin length ↪ values =>
      List.ofFn fun i => (f i).val := by
    intro f g same
    ext i
    exact congrFun (List.ofFn_injective same) i
  rw [arrangements, Finset.card_image_of_injective _ injective, Finset.card_univ,
    Fintype.card_embedding_eq, Fintype.card_fin, Fintype.card_coe,
    Nat.descFactorial_eq_div fits]

/-- The elements of a list of all arrangements of some lengths, each once, counted by
length.  A length above the size of the set has no arrangement. -/
theorem length_eq_sum {values : Finset α} {least most : Nat} {lists : List (List α)}
    (nodup : lists.Nodup)
    (mem_iff : ∀ picked, picked ∈ lists ↔ (least ≤ picked.length ∧ picked.length ≤ most) ∧
      picked.Nodup ∧ ∀ v ∈ picked, v ∈ values) :
    lists.length = ∑ length ∈ Finset.Icc least (min most values.card),
      values.card.factorial / (values.card - length).factorial := by
  have by_length : lists.toFinset =
      (Finset.Icc least (min most values.card)).biUnion (arrangements values) := by
    ext picked
    simp only [List.mem_toFinset, Finset.mem_biUnion, Finset.mem_Icc, mem_arrangements_iff, mem_iff]
    constructor
    · rintro ⟨⟨lower, upper⟩, distinct, inside⟩
      have fits : picked.length ≤ values.card := by
        rw [← List.toFinset_card_of_nodup distinct]
        exact Finset.card_le_card fun v member => inside v (List.mem_toFinset.1 member)
      exact ⟨picked.length, ⟨lower, Nat.le_min.2 ⟨upper, fits⟩⟩, rfl, distinct, inside⟩
    · rintro ⟨_, ⟨lower, upper⟩, rfl, distinct, inside⟩
      exact ⟨⟨lower, (Nat.le_min.1 upper).1⟩, distinct, inside⟩
  have apart : (Finset.Icc least (min most values.card) : Set Nat).PairwiseDisjoint
      (arrangements values) := by
    intro i _ j _ different
    refine Finset.disjoint_left.2 fun picked first second => different ?_
    exact (mem_arrangements_iff.1 first).1.symm.trans (mem_arrangements_iff.1 second).1
  rw [← List.toFinset_card_of_nodup nodup, by_length, Finset.card_biUnion apart]
  refine Finset.sum_congr rfl fun length member => card_arrangements ?_
  exact (Nat.le_min.1 (Finset.mem_Icc.1 member).2).2

end PromptTemplate
