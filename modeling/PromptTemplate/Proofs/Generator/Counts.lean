/-
# PromptTemplate.Proofs.Generator.Counts -- what a combinatorial generator makes of zero

Asked for no prompts, a combinatorial generator takes the maximum that it was made with,
and so does one that is asked several times.  A frozen generator makes no copies when none
are asked for, and never passes the zero on.  What a configuration builds answers zero as
it answers its maximum exactly when it is not frozen or has nothing to list
(`outcome_zero_eq_outcome_maximum_iff`).
-/
import PromptTemplate.Generator
import PromptTemplate.Proofs.Enumeration.Caps
import PromptTemplate.Proofs.Sampling.Follows

set_option autoImplicit false

namespace PromptTemplate

namespace Generator

variable {σ : Type}

/-! ## Repeated results -/

theorem repeated_ok (found : List Text) (batches : Nat) :
    repeated (Draw.ofResult (.ok found)) batches =
      (Draw.ofResult (.ok (List.replicate batches found).flatten) : Draw σ (List Text)) := by
  induction batches with
  | zero => rfl
  | succ batches ih =>
    rw [repeated, ih]
    rfl

theorem repeated_error (e : DrawError) (batches : Nat) :
    repeated (Draw.ofResult (.error e)) (batches + 1) =
      (Draw.ofResult (.error e) : Draw σ (List Text)) := rfl

/-! ## Zero -/

variable [WordSource σ] (provider : Provider) (text : Text)

/-- A count is passed on to every batch, so zero means the maximum there too. -/
theorem prompts_batched_zero (maxPrompts batches : Nat) :
    (batched (combinatorial maxPrompts) batches).prompts provider text 0 =
      ((batched (combinatorial maxPrompts) batches).prompts provider text maxPrompts :
        Draw σ (List Text)) := by
  have same : (if maxPrompts = 0 then maxPrompts else maxPrompts) = maxPrompts := ite_self _
  simp only [prompts, if_true, same]

/-- Copies of no prompt are made without asking the inner generator, whatever zero means
to it. -/
theorem outcome_frozen_zero (inner : Generator) (source : σ) :
    Draw.outcome ((frozen inner).prompts provider text 0) source = (.ok [], source) := rfl

/-- Without batches there is no prompt to be frozen. -/
theorem outcome_frozen_of_no_batches (inner : Generator) (count : Nat) (source : σ) :
    Draw.outcome ((frozen (batched inner 0)).prompts provider text count) source =
      (.ok [], source) := by
  rw [prompts]
  split
  · rfl
  · rfl

/-- One batch always has a first prompt, or an error. -/
theorem outcome_frozen_ne_nil (maxPrompts batches : Nat) {count : Nat} (some : count ≠ 0)
    (source : σ) :
    Draw.outcome
        ((frozen (batched (combinatorial maxPrompts) (batches + 1))).prompts provider text count)
        source ≠ (.ok [], source) := by
  rw [prompts, if_neg some, prompts, prompts, if_neg Nat.one_ne_zero, Sampling.outcome_bind]
  cases listed : Enumeration.prompts provider text 1 with
  | error e =>
    rw [Except.mapError, repeated_error]
    exact nofun
  | ok found =>
    obtain ⟨prompt, others, rfl⟩ :=
      List.exists_cons_of_ne_nil (Enumeration.prompts_ne_nil Nat.one_pos listed)
    obtain ⟨copies, rfl⟩ := Nat.exists_eq_succ_of_ne_zero some
    rw [Except.mapError, repeated_ok]
    exact nofun

/-- Copies of nothing: none were asked for, or there is no batch to take a prompt from. -/
theorem outcome_frozen_eq_nil_iff (maxPrompts batches count : Nat) (source : σ) :
    Draw.outcome ((frozen (batched (combinatorial maxPrompts) batches)).prompts provider text count)
        source = (.ok [], source) ↔ count = 0 ∨ batches = 0 := by
  constructor
  · intro nothing
    by_contra some
    obtain ⟨asked, listed⟩ := not_or.1 some
    obtain ⟨more, rfl⟩ := Nat.exists_eq_succ_of_ne_zero listed
    exact outcome_frozen_ne_nil provider text maxPrompts more asked source nothing
  · rintro (rfl | rfl)
    · exact outcome_frozen_zero provider text _ source
    · exact outcome_frozen_of_no_batches provider text _ count source

end Generator

namespace Configuration

variable {σ : Type} [WordSource σ]

/-- What a combinatorial configuration builds answers zero as it answers its maximum,
unless it is frozen and has something to list; frozen, it answers zero with nothing. -/
theorem outcome_zero_eq_outcome_maximum_iff {c : Configuration} (mode : c.mode = .combinatorial)
    (provider : Provider) (text : Text) (source : σ) :
    (Draw.outcome (c.generator.prompts provider text 0) source =
        Draw.outcome (c.generator.prompts provider text c.maxPrompts.toNat) source ↔
      c.freeze = false ∨ c.maxPrompts = 0 ∨ c.batches = 0) ∧
    (c.freeze = true →
      Draw.outcome (c.generator.prompts provider text 0) source = (.ok [], source)) := by
  have noMaximum : c.maxPrompts = 0 ↔ c.maxPrompts.toNat = 0 := UInt64.toNat_inj.symm
  have noBatches : c.batches = 0 ↔ c.batches.toNat = 0 := UInt64.toNat_inj.symm
  rw [noMaximum, noBatches]
  have built : c.generator =
      let listing := Generator.batched (.combinatorial c.maxPrompts.toNat) c.batches.toNat
      if c.freeze then .frozen listing else listing := by
    rw [generator, mode]
  rw [built]
  cases c.freeze with
  | false =>
    simp only [Bool.false_eq_true, if_false, Generator.prompts_batched_zero, true_or, false_implies,
      and_self]
  | true =>
    -- zero gives nothing, so the question is when the maximum does
    simp only [if_true, Generator.outcome_frozen_zero, forall_const, and_true, Bool.true_eq_false,
      false_or]
    rw [eq_comm, Generator.outcome_frozen_eq_nil_iff]

/-- Asked twice, two options are listed alike for zero and for the maximum; frozen, not. -/
theorem outcome_zero_eq_outcome_maximum_batched :
    let c (freeze : Bool) :=
      { standard with mode := .combinatorial, freeze, batches := 2, maxPrompts := 2 }
    let prompts (freeze : Bool) (count : Nat) := Draw.outcome
      ((c freeze).generator.prompts (fun _ => []) "{a|b}".toList count) (Script.ofWords [])
    (prompts false 2).1 = .ok [['a'], ['b'], ['a'], ['b']] ∧ prompts false 0 = prompts false 2 ∧
      prompts true 0 ≠ prompts true 2 := by
  intro c prompts
  have applied (freeze : Bool) := outcome_zero_eq_outcome_maximum_iff (c := c freeze) rfl
    (fun _ => []) "{a|b}".toList (Script.ofWords [])
  exact ⟨by decide +kernel, (applied false).1.2 (.inl rfl),
    (not_congr (applied true).1).2 (by decide)⟩

/-- Frozen, two options make no prompt for zero and two copies of one for the maximum. -/
theorem outcome_zero_ne_outcome_maximum_frozen :
    let c := { standard with mode := .combinatorial, freeze := true, maxPrompts := 2 }
    let prompts (count : Nat) := (Draw.outcome
      (c.generator.prompts (fun _ => []) "{a|b}".toList count) (Script.ofWords [])).1
    prompts 0 = .ok [] ∧ prompts c.maxPrompts.toNat = .ok [['a'], ['a']] := by
  decide +kernel

end Configuration

end PromptTemplate
