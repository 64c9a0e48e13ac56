/-
# PromptTemplate.Proofs.Random.Weights -- only what has weight is chosen

A word is scaled to a number below the total (`scaled_lt`), the running sums do not
decrease, and the index chosen is the number of sums that do not lie above the scaled
number.  The weight at that index takes the sum past the scaled number, so it is not
zero (`magnitude_ne_zero_of_index`); in particular the index is that of a weight.
-/
import PromptTemplate.Proofs.Binary64.Rounding
import PromptTemplate.Random.Weights

set_option autoImplicit false

namespace PromptTemplate.WeightedChoice

open Binary64

/-! ## The scaled number lies below the total -/

theorem scaled_mono {parts parts' : Nat} (le : parts ≤ parts') (m : Nat) :
    scaled parts m ≤ scaled parts' m :=
  nearest_mono hiddenBit (Nat.mul_le_mul_right _ le)

theorem scaled_scaleBelow_lt {total : Nat} (positive : 0 < total) (m : Nat) :
    scaled (hiddenBit - 1) (scaleBelow total m) < total := by
  induction m with
  | zero =>
    have nothing : scaled (hiddenBit - 1) 0 = 0 := by decide +kernel
    rw [scaleBelow, nothing]
    exact positive
  | succ m ih =>
    rw [scaleBelow]
    split
    · exact ih
    · omega

/-- Every word is scaled to below the total. -/
theorem scaled_lt {total : Nat} (positive : 0 < total) (word : UInt64) :
    scaled (word >>> 12).toNat (scaleBelow total total) < total := by
  have parts : (word >>> 12).toNat ≤ hiddenBit - 1 := by
    have bound := word.toNat_lt
    have bits : hiddenBit = 2 ^ 52 := by decide
    rw [UInt64.toNat_shiftRight, Nat.shiftRight_eq_div_pow]
    simp only [UInt64.reduceToNat, Nat.reduceMod]
    omega
  exact Nat.lt_of_le_of_lt (scaled_mono parts _) (scaled_scaleBelow_lt positive total)

/-! ## Running sums -/

theorem runningSums_ne_nil (sum : Nat) (rest : List Nat) : runningSums sum rest ≠ [] := by
  cases rest <;> exact List.cons_ne_nil _ _

theorem le_of_mem_runningSums {sum s : Nat} {rest : List Nat} (le : sum ≤ infinity)
    (member : s ∈ runningSums sum rest) : sum ≤ s := by
  induction rest generalizing sum with
  | nil => exact Nat.le_of_eq (List.mem_singleton.1 member).symm
  | cons m rest ih =>
    rcases List.mem_cons.1 member with rfl | later
    · exact Nat.le_refl s
    · exact Nat.le_trans (le_addMagnitudes le m) (ih (addMagnitudes_le_infinity sum m) later)

/-- The number of sums up to a number below the last of them is the index of the weight
that takes the sum past it. -/
theorem weight_at_count {sum chosen : Nat} {rest : List Nat} (le : sum ≤ infinity)
    (below : chosen < (runningSums sum rest).getLast (runningSums_ne_nil sum rest)) :
    ∃ m, (sum :: rest)[(runningSums sum rest).dropLast.countP (· ≤ chosen)]? = some m ∧
      m ≠ 0 ∧ ((runningSums sum rest).dropLast.countP (· ≤ chosen) = 0 → chosen < sum) := by
  induction rest generalizing sum with
  | nil =>
    have positive : chosen < sum := below
    exact ⟨sum, rfl, by omega, fun _ => positive⟩
  | cons m rest ih =>
    have last : (runningSums sum (m :: rest)).getLast (runningSums_ne_nil _ _) =
        (runningSums (addMagnitudes sum m) rest).getLast (runningSums_ne_nil _ _) :=
      List.getLast_cons (runningSums_ne_nil _ _)
    rw [last] at below
    obtain ⟨found, here, nonzero, first⟩ := ih (addMagnitudes_le_infinity sum m) below
    have counted : (runningSums sum (m :: rest)).dropLast =
        sum :: (runningSums (addMagnitudes sum m) rest).dropLast :=
      List.dropLast_cons_of_ne_nil (runningSums_ne_nil _ _)
    rw [counted, List.countP_cons]
    generalize count : (runningSums (addMagnitudes sum m) rest).dropLast.countP (· ≤ chosen) = n
      at here first
    by_cases passed : sum ≤ chosen
    · simp only [passed, decide_true, if_true, Nat.add_eq_zero_iff, Nat.one_ne_zero, and_false,
        false_implies, and_true]
      cases n with
      | zero =>
        -- the sum behind this weight is past the number, and the one in front of it is not
        refine ⟨m, rfl, ?_⟩
        rintro rfl
        have later := first rfl
        rw [addMagnitudes_zero le] at later
        omega
      | succ n => exact ⟨found, here, nonzero⟩
    · -- the first sum is past the number, and sums only grow
      have none : n = 0 := by
        rw [← count, List.countP_eq_zero]
        intro s member
        have before := le_of_mem_runningSums (addMagnitudes_le_infinity sum m)
          ((List.dropLast_sublist _).subset member)
        have grows := le_addMagnitudes le m
        simp only [decide_eq_true_eq]
        omega
      subst none
      refine ⟨sum, ?_, by omega, fun _ => by omega⟩
      simp [passed]

/-! ## Choices -/

theorem magnitude_le_infinity {x : Binary64} (weight : isWeight x = true) :
    x.magnitude ≤ infinity := by
  unfold isWeight isNaN at weight
  simp only [Bool.and_eq_true, Bool.not_eq_true', decide_eq_false_iff_not, Nat.not_lt] at weight
  exact weight.1

/-- The sum of the weights, as a magnitude: from left to right, each sum rounded. -/
def total (weights : List Binary64) : Nat :=
  (weights.map magnitude).foldl addMagnitudes 0

theorem getLast_runningSums (sum : Nat) (rest : List Nat) :
    (runningSums sum rest).getLast (runningSums_ne_nil sum rest) =
      rest.foldl addMagnitudes sum := by
  induction rest generalizing sum with
  | nil => rfl
  | cons m rest ih =>
    rw [List.foldl_cons, ← ih]
    exact List.getLast_cons (runningSums_ne_nil _ _)

/-- The total that the choice is built from. -/
theorem getLast?_runningSums {weight : Binary64} (rest : List Binary64)
    (valid : isWeight weight = true) :
    ((runningSums weight.magnitude (rest.map magnitude)).getLast?).getD 0 =
      total (weight :: rest) := by
  rw [List.getLast?_eq_some_getLast (runningSums_ne_nil _ _), Option.getD_some,
    getLast_runningSums, total, List.map_cons, List.foldl_cons, addMagnitudes_comm,
    addMagnitudes_zero (magnitude_le_infinity valid)]

/-- Weights have no choice between them that may be drawn from only when their sum is
infinite. -/
theorem ofWeights?_eq_error_iff {weights : List Binary64} {e : DrawError} :
    ofWeights? weights = .error e ↔
      e = .infiniteTotal ∧ weights.all isWeight = true ∧ infinity ≤ total weights := by
  have positive : 0 < infinity := by decide
  cases weights with
  | nil => simp [ofWeights?, total, Nat.ne_of_gt positive]
  | cons weight rest =>
    by_cases valid : (weight :: rest).all isWeight = true
    · have own := List.all_eq_true.1 valid weight List.mem_cons_self
      simp only [ofWeights?, List.map_cons, valid, if_true, getLast?_runningSums rest own]
      by_cases infinite : infinity ≤ total (weight :: rest)
      · have nonzero : total (weight :: rest) ≠ 0 := by omega
        simp [infinite, nonzero, eq_comm]
      · rw [if_neg infinite]
        split <;> simp [infinite]
    · simp [ofWeights?, valid]

theorem foldl_addMagnitudes_eq_zero_iff {sum : Nat} {rest : List Nat} (le : sum ≤ infinity)
    (each : ∀ m ∈ rest, m ≤ infinity) :
    rest.foldl addMagnitudes sum = 0 ↔ sum = 0 ∧ ∀ m ∈ rest, m = 0 := by
  induction rest generalizing sum with
  | nil => simp
  | cons m rest ih =>
    obtain ⟨first, others⟩ := List.forall_mem_cons.1 each
    rw [List.foldl_cons, ih (addMagnitudes_le_infinity sum m) others,
      addMagnitudes_eq_zero_iff le first, List.forall_mem_cons, and_assoc]

/-- The total is zero only when all weights are. -/
theorem total_eq_zero_iff {weights : List Binary64} (valid : weights.all isWeight = true) :
    total weights = 0 ↔ ∀ weight ∈ weights, weight.magnitude = 0 := by
  rw [total, foldl_addMagnitudes_eq_zero_iff (Nat.zero_le _)]
  · rw [List.forall_mem_map, and_iff_right rfl]
  · rw [List.forall_mem_map]
    exact fun weight member => magnitude_le_infinity (List.all_eq_true.1 valid weight member)

/-- There is no choice between weights when some of them are none, or all are zero. -/
theorem ofWeights?_eq_none_iff {weights : List Binary64} :
    ofWeights? weights = .ok none ↔
      (∃ weight ∈ weights, isWeight weight = false) ∨
        ∀ weight ∈ weights, weight.magnitude = 0 := by
  cases weights with
  | nil => simp [ofWeights?]
  | cons weight rest =>
    by_cases valid : (weight :: rest).all isWeight = true
    · have each := List.all_eq_true.1 valid
      have none : ¬ ∃ weight' ∈ weight :: rest, isWeight weight' = false := by
        rintro ⟨weight', member, invalid⟩
        rw [each weight' member] at invalid
        cases invalid
      rw [or_iff_right none, ← total_eq_zero_iff valid]
      simp only [ofWeights?, List.map_cons, valid, if_true,
        getLast?_runningSums rest (each weight List.mem_cons_self)]
      split
      · simp [*]
      · split <;> simp [*]
    · obtain ⟨weight', member, invalid⟩ := List.all_eq_false.1 (Bool.eq_false_iff.2 valid)
      refine iff_of_true ?_ (.inl ⟨weight', member, Bool.eq_false_iff.2 invalid⟩)
      rw [ofWeights?, List.map_cons]
      exact if_neg valid

/-- The index that a word chooses is that of a weight that is not zero. -/
theorem magnitude_ne_zero_of_index {weights : List Binary64} {choice : WeightedChoice}
    (built : ofWeights? weights = .ok (some choice)) (word : UInt64) :
    ∃ weight, weights[choice.index word]? = some weight ∧ weight.magnitude ≠ 0 := by
  unfold ofWeights? at built
  cases magnitudes : weights.map magnitude with
  | nil => simp [magnitudes] at built
  | cons m rest =>
    rw [magnitudes] at built
    dsimp only at built
    split at built
    · rename_i valid
      split at built
      · cases built
      · rename_i positive
        split at built
        · cases built
        · obtain rfl := Option.some.inj (Except.ok.inj built)
          have le : m ≤ infinity := by
            have member : m ∈ weights.map magnitude := magnitudes ▸ List.mem_cons_self
            obtain ⟨weight, inside, rfl⟩ := List.mem_map.1 member
            exact magnitude_le_infinity (List.all_eq_true.1 valid weight inside)
          rw [List.getLast?_eq_some_getLast (runningSums_ne_nil m rest), Option.getD_some] at *
          have below := scaled_lt (Nat.pos_of_ne_zero positive) word
          obtain ⟨found, here, nonzero, -⟩ := weight_at_count le below
          rw [← magnitudes, List.getElem?_map] at here
          obtain ⟨weight, inside, rfl⟩ := Option.map_eq_some_iff.1 here
          exact ⟨weight, inside, nonzero⟩
    · cases built

end PromptTemplate.WeightedChoice
