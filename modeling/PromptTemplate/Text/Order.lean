/-
# PromptTemplate.Text.Order -- texts in order

Texts are ordered by their first different character, and a text comes before every
longer text that starts with it.  Characters are ordered by code point, so this is
the order of the UTF-8 bytes.
-/
import PromptTemplate.Text.Space

set_option autoImplicit false

namespace PromptTemplate.Text

/-- The first text comes strictly before the second. -/
def isBefore : Text → Text → Bool
  | _, [] => false
  | [], _ :: _ => true
  | a :: s, b :: t => a.toNat < b.toNat || (a == b && isBefore s t)

theorem isBefore_irrefl (s : Text) : isBefore s s = false := by
  induction s with
  | nil => rfl
  | cons a s ih => simp [isBefore, ih]

theorem isBefore_trans {s t u : Text} (first : isBefore s t = true) (second : isBefore t u = true) :
    isBefore s u = true := by
  induction s generalizing t u with
  | nil =>
    cases u with
    | nil => cases t <;> simp [isBefore] at second
    | cons => rfl
  | cons a s ih =>
    cases t with
    | nil => simp [isBefore] at first
    | cons b t =>
      cases u with
      | nil => simp [isBefore] at second
      | cons c u =>
        simp only [isBefore, Bool.or_eq_true, decide_eq_true_eq, Bool.and_eq_true,
          beq_iff_eq] at first second ⊢
        rcases first with first | ⟨rfl, first⟩
        · rcases second with second | ⟨rfl, second⟩
          · exact .inl (Nat.lt_trans first second)
          · exact .inl first
        · rcases second with second | ⟨rfl, second⟩
          · exact .inl second
          · exact .inr ⟨rfl, ih first second⟩

/-- Of two different texts one comes before the other. -/
theorem isBefore_of_not_isBefore {s t : Text} (different : s ≠ t)
    (notBefore : isBefore s t = false) : isBefore t s = true := by
  induction s generalizing t with
  | nil =>
    cases t with
    | nil => exact absurd rfl different
    | cons => simp [isBefore] at notBefore
  | cons a s ih =>
    cases t with
    | nil => rfl
    | cons b t =>
      simp only [isBefore, Bool.or_eq_false_iff, decide_eq_false_iff_not, Bool.and_eq_false_imp,
        beq_iff_eq] at notBefore
      simp only [isBefore, Bool.or_eq_true, decide_eq_true_eq, Bool.and_eq_true, beq_iff_eq]
      obtain ⟨notLess, behind⟩ := notBefore
      by_cases same : a = b
      · subst same
        exact .inr ⟨rfl, ih (fun equal => different (by rw [equal])) (behind rfl)⟩
      · refine .inl ?_
        have unequal : a.toNat ≠ b.toNat := fun equal => same (Char.toNat_inj.1 equal)
        omega

end PromptTemplate.Text
