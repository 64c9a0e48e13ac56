/-
# PromptTemplate.Proofs.Json.Numerals -- what is written as a number is read as one

The parts of a number are read one after another: digits that start with zero only when
they are nothing else (`IsNumeral`), a point with digits behind it or nothing, and an
exponent or nothing.  So a text that is put together from such parts is a number as a
whole, with a minus in front of it or not (`number_isUnsigned`), and so is the numeral of
every natural number (`wellFormed_ofNat`).
-/
import PromptTemplate.Proofs.Json.Tokens
import PromptTemplate.Proofs.Text.Numerals

set_option autoImplicit false

namespace PromptTemplate.Json

open Reader

def IsDigits (t : Text) : Prop :=
  t ≠ [] ∧ ∀ c ∈ t, Text.isDigit c = true

/-- Digits without a leading zero. -/
def IsNumeral (t : Text) : Prop :=
  IsDigits t ∧ (t.head? = some '0' → t = ['0'])

/-- A point with digits behind it, or nothing. -/
def IsFraction (t : Text) : Prop :=
  t = [] ∨ ∃ digits, IsDigits digits ∧ t = '.' :: digits

def IsExponent (t : Text) : Prop :=
  t = [] ∨ ∃ sign digits, (sign = '+' ∨ sign = '-') ∧ IsDigits digits ∧ t = 'e' :: sign :: digits

def NoDigitFirst (t : Text) : Prop :=
  ∀ c, t.head? = some c → Text.isDigit c = false

theorem isDigits_zero : IsDigits ['0'] :=
  ⟨List.cons_ne_nil _ _, List.forall_mem_singleton.2 rfl⟩

theorem digits_isDigits {t rest : Text} (own : IsDigits t) (ends : NoDigitFirst rest) :
    digits (t ++ rest) = some (t, rest) := by
  have behind : rest.takeWhile Text.isDigit = [] ∧ rest.dropWhile Text.isDigit = rest := by
    cases rest with
    | nil => exact ⟨rfl, rfl⟩
    | cons c rest => simp [ends c rfl]
  rw [digits, List.span_eq_takeWhile_dropWhile, List.takeWhile_append_of_pos own.2,
    List.dropWhile_append_of_pos own.2, behind.1, behind.2, List.append_nil]
  simp only [List.isEmpty_iff, own.1, if_false]

theorem whole_isNumeral {t rest : Text} (own : IsNumeral t) (ends : NoDigitFirst rest) :
    whole (t ++ rest) = some (t, rest) := by
  obtain ⟨c, t, rfl⟩ := List.exists_cons_of_ne_nil own.1.1
  by_cases zero : c = '0'
  · subst zero
    obtain rfl : t = [] := (List.cons.inj (own.2 rfl)).2
    rfl
  · rw [List.cons_append, whole.eq_2 _ fun _ same => zero (List.cons.inj same).1,
      ← List.cons_append]
    exact digits_isDigits own.1 ends

theorem fraction_isFraction {t rest : Text} (own : IsFraction t) (ends : NoDigitFirst rest)
    (noPoint : rest.head? ≠ some '.') : fraction (t ++ rest) = some (t, rest) := by
  rcases own with rfl | ⟨digits, own, rfl⟩
  · exact fraction.eq_2 rest fun more same => noPoint (by rw [same]; rfl)
  · rw [List.cons_append, fraction, digits_isDigits own ends]
    rfl

theorem exponent_isExponent {t : Text} (own : IsExponent t) : exponent t = some (t, []) := by
  rcases own with rfl | ⟨sign, digits, signs, own, rfl⟩
  · rfl
  · have noMore : NoDigitFirst [] := nofun
    have read := digits_isDigits own noMore
    rw [List.append_nil] at read
    rcases signs with rfl | rfl <;> simp [exponent, exponentSign, read]

theorem noDigitFirst_exponent {t : Text} (own : IsExponent t) :
    NoDigitFirst t ∧ t.head? ≠ some '.' := by
  rcases own with rfl | ⟨sign, digits, -, -, rfl⟩
  · exact ⟨nofun, nofun⟩
  · refine ⟨fun c first => ?_, ?_⟩
    · obtain rfl := Option.some.inj first
      decide
    · exact fun first => absurd (Option.some.inj first) (by decide)

theorem noDigitFirst_fraction {t rest : Text} (own : IsFraction t) (ends : NoDigitFirst rest) :
    NoDigitFirst (t ++ rest) := by
  rcases own with rfl | ⟨digits, -, rfl⟩
  · exact ends
  · intro c first
    obtain rfl := Option.some.inj first
    decide

def IsUnsigned (t : Text) : Prop :=
  ∃ numeral fraction exponent, IsNumeral numeral ∧ IsFraction fraction ∧ IsExponent exponent ∧
    t = numeral ++ (fraction ++ exponent)

theorem IsNumeral.isUnsigned {t : Text} (numeral : IsNumeral t) : IsUnsigned t :=
  ⟨t, [], [], numeral, .inl rfl, .inl rfl, (List.append_nil t).symm⟩

/-- What the grammar makes a number is read to its end. -/
theorem unsigned_isUnsigned {t : Text} (own : IsUnsigned t) : unsigned t = some (t, []) := by
  obtain ⟨numeral, fraction, exponent, isNumeral, isFraction, isExponent, rfl⟩ := own
  obtain ⟨ends, noPoint⟩ := noDigitFirst_exponent isExponent
  rw [unsigned, whole_isNumeral isNumeral (noDigitFirst_fraction isFraction ends)]
  simp only [Option.bind_eq_bind, Option.bind_some, fraction_isFraction isFraction ends noPoint,
    exponent_isExponent isExponent, List.append_assoc]

/-- A number is an unsigned one, or a minus with one behind it. -/
theorem number_isUnsigned {t : Text} (own : IsUnsigned t) :
    Reader.number t = some (t, []) ∧ Reader.number ('-' :: t) = some ('-' :: t, []) := by
  have read := unsigned_isUnsigned own
  obtain ⟨numeral, fraction, exponent, isNumeral, -, -, rfl⟩ := own
  obtain ⟨c, more, rfl⟩ := List.exists_cons_of_ne_nil isNumeral.1.1
  refine ⟨?_, by rw [Reader.number, read]; rfl⟩
  rw [List.cons_append] at read ⊢
  rw [Reader.number.eq_2 _ fun _ same => ?_, read]
  have digit := isNumeral.1.2 '-' (by rw [(List.cons.inj same).1]; exact List.mem_cons_self)
  exact absurd digit (by decide)

theorem isDigits_ofNat (n : Nat) : IsDigits (Text.ofNat n) :=
  ⟨Text.ofNat_ne_nil n, fun _ => Text.isDigit_of_mem_ofNat⟩

theorem isNumeral_ofNat (n : Nat) : IsNumeral (Text.ofNat n) := by
  refine ⟨isDigits_ofNat n, fun first => ?_⟩
  by_cases zero : n = 0
  · subst zero
    rfl
  · exact absurd first (Text.head?_ofNat_ne_zero zero)

theorem wellFormed_ofNat (n : Nat) : (Json.ofNat n).WellFormed :=
  .number (number_isUnsigned (isNumeral_ofNat n).isUnsigned).1

end PromptTemplate.Json
