/-
# PromptTemplate.Proofs.Text.Numerals -- numerals are read as they are written

The numeral of a number is made of digits, has a leading zero only for zero, and is read as
the number (`size?_ofNat`).
Digits are no white space and take no part in a comment.
-/
import PromptTemplate.Proofs.Text.Trimming
import PromptTemplate.Text.Numeral

set_option autoImplicit false

namespace PromptTemplate.Text

theorem isDigit_iff {c : Char} : isDigit c = true ↔ 48 ≤ c.toNat ∧ c.toNat ≤ 57 := by
  rw [isDigit, Bool.and_eq_true, decide_eq_true_eq, decide_eq_true_eq]
  exact Iff.rfl

theorem isSpace_of_isDigit {c : Char} (digit : isDigit c = true) : isSpace c = false := by
  rw [isDigit_iff] at digit
  simp only [isSpace, Bool.or_eq_false_iff, Bool.and_eq_false_iff, decide_eq_false_iff_not,
    beq_eq_false_iff_ne]
  omega

theorem isDigit_of_mem_ofNat {n : Nat} {c : Char} (member : c ∈ ofNat n) : isDigit c = true :=
  Nat.isDigit_of_mem_toDigits (by decide) (by decide) member

theorem ofNat_ne_nil (n : Nat) : ofNat n ≠ [] :=
  Nat.toDigits_ne_nil

/-- The numeral of a number other than zero has no leading zero. -/
theorem head?_ofNat_ne_zero {n : Nat} (positive : n ≠ 0) : (ofNat n).head? ≠ some '0' := by
  induction n using Nat.strongRecOn with
  | ind n ih =>
    by_cases small : n < 10
    · have digit : ∀ n < 10, n ≠ 0 → n.digitChar ≠ '0' := by decide
      rw [ofNat, Nat.toDigits_of_lt_base small]
      exact fun same => digit n small positive (Option.some.inj same)
    · have shorter := ih (n / 10) (by omega) (by omega)
      rw [ofNat, Nat.toDigits_of_base_le (by decide) (by omega),
        List.head?_append_of_ne_nil _ Nat.toDigits_ne_nil]
      exact shorter

theorem digitsValue_ofNat (n : Nat) : digitsValue (ofNat n) = n :=
  Nat.ofDigitChars_ten_toDigits

/-- The numeral of a size is read as the size. -/
theorem size?_ofNat {n : Nat} (below : n < sizeLimit) : size? (ofNat n) = some n := by
  have digits : (ofNat n).all isDigit = true := by
    rw [List.all_eq_true]
    intro c member
    exact isDigit_of_mem_ofNat member
  unfold size?
  rw [digitsValue_ofNat, if_pos ⟨ofNat_ne_nil n, digits, below⟩]

end PromptTemplate.Text
