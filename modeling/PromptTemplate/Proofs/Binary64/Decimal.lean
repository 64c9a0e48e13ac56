/-
# PromptTemplate.Proofs.Binary64.Decimal -- weights are written as numbers

The shortest decimal of a number other than zero starts with a digit other than zero: a
decimal of zero would not read back as it (`leads_shortest`).  So both layouts of a decimal
have a numeral in front of the point or the exponent, and the text of a finite weight is a
number (`number_of_decimalText?`).
-/
import Mathlib.Data.List.DropRight
import PromptTemplate.Binary64.Decimal
import PromptTemplate.Proofs.Binary64.Rounding
import PromptTemplate.Proofs.Json.Numerals

set_option autoImplicit false

namespace PromptTemplate

open Json

namespace Decimal

/-- The decimal has digits, the first of them other than zero. -/
def Leads (x : Decimal) : Prop :=
  IsDigits x.digits ∧ x.digits.head? ≠ some '0'

theorem leads_ofScaled {d : Nat} (positive : d ≠ 0) (place : Int) : (ofScaled d place).Leads := by
  have kept : (ofScaled d place).digits = (Text.ofNat d).rdropWhile (· == '0') := rfl
  have leading := Text.head?_ofNat_ne_zero positive
  have some : (ofScaled d place).digits ≠ [] := by
    obtain ⟨c, more, digits⟩ := List.exists_cons_of_ne_nil (Text.ofNat_ne_nil d)
    rw [kept, Ne, List.rdropWhile_eq_nil_iff]
    intro zeros
    have zero : c = '0' := beq_iff_eq.1 (zeros c (by rw [digits]; exact List.mem_cons_self))
    rw [digits, zero] at leading
    exact leading rfl
  obtain ⟨behind, front⟩ : (ofScaled d place).digits <+: Text.ofNat d := by
    rw [kept]
    exact List.rdropWhile_prefix _ _
  rw [← front, List.head?_append_of_ne_nil _ some] at leading
  exact ⟨⟨some, fun c inside => Text.isDigit_of_mem_ofNat (n := d)
    (front ▸ List.mem_append_left behind inside)⟩, leading⟩

theorem isDigit_of_mem_zeros {n : Nat} {c : Char} (inside : c ∈ List.replicate n '0') :
    Text.isDigit c = true := by
  rw [List.eq_of_mem_replicate inside]
  decide

section Leads

variable {x : Decimal} (leads : x.Leads)

include leads

/-- Some of the digits from the first on, and any zeros behind them, are a numeral. -/
theorem Leads.isNumeral_take {count : Nat} (positive : 0 < count) (zeros : Nat) :
    IsNumeral (x.digits.take count ++ List.replicate zeros '0') := by
  have some : x.digits.take count ≠ [] := by
    rw [Ne, List.take_eq_nil_iff, not_or]
    exact ⟨by omega, leads.1.1⟩
  refine ⟨⟨List.append_ne_nil_of_left_ne_nil some _, fun c inside => ?_⟩, fun first => ?_⟩
  · rcases List.mem_append.1 inside with own | zero
    · exact leads.1.2 c (List.mem_of_mem_take own)
    · exact isDigit_of_mem_zeros zero
  · rw [List.head?_append_of_ne_nil _ some, List.head?_take, if_neg (by omega)] at first
    exact absurd first leads.2

/-- The digits behind some of them, if there are any. -/
theorem Leads.isDigits_drop {count : Nat} (some : (x.digits.drop count).isEmpty = false) :
    IsDigits (x.digits.drop count) :=
  ⟨fun none => by simp [none] at some, fun c inside => leads.1.2 c (List.mem_of_mem_drop inside)⟩

theorem Leads.isUnsigned_positional : IsUnsigned x.positional := by
  unfold positional
  split
  · have digits : IsDigits (List.replicate ((-x.exponent).toNat - 1) '0' ++ x.digits) :=
      ⟨List.append_ne_nil_of_right_ne_nil _ leads.1.1, fun c inside =>
        (List.mem_append.1 inside).elim isDigit_of_mem_zeros (leads.1.2 c)⟩
    refine ⟨['0'], _, [], ⟨isDigits_zero, fun _ => rfl⟩, .inr ⟨_, digits, rfl⟩, .inl rfl, ?_⟩
    simp only [List.cons_append, List.nil_append, List.append_nil]
  · have digits : IsDigits (if (x.digits.drop (x.exponent.toNat + 1)).isEmpty then ['0']
        else x.digits.drop (x.exponent.toNat + 1)) := by
      split
      · exact isDigits_zero
      · rename_i some
        exact leads.isDigits_drop (Bool.eq_false_iff.2 some)
    have numeral := leads.isNumeral_take (Nat.succ_pos x.exponent.toNat)
      (x.exponent.toNat + 1 - x.digits.length)
    refine ⟨_, _, [], numeral, .inr ⟨_, digits, rfl⟩, .inl rfl, ?_⟩
    simp only [List.append_assoc, List.cons_append, List.nil_append, List.append_nil]

theorem Leads.isUnsigned_scientific : IsUnsigned x.scientific := by
  have numeral := leads.isNumeral_take Nat.one_pos 0
  rw [List.replicate_zero, List.append_nil] at numeral
  have fraction : IsFraction
      (if (x.digits.drop 1).isEmpty then [] else '.' :: x.digits.drop 1) := by
    split
    · exact .inl rfl
    · rename_i some
      exact .inr ⟨_, leads.isDigits_drop (Bool.eq_false_iff.2 some), rfl⟩
  have exponent : IsExponent
      ('e' :: ((if x.exponent < 0 then ['-'] else ['+']) ++ Text.ofNat x.exponent.natAbs)) := by
    split
    · exact .inr ⟨'-', _, .inr rfl, isDigits_ofNat _, rfl⟩
    · exact .inr ⟨'+', _, .inl rfl, isDigits_ofNat _, rfl⟩
  refine ⟨_, _, _, numeral, fraction, exponent, ?_⟩
  unfold scientific
  simp only [List.append_assoc, List.cons_append, List.nil_append]

/-- In either form the text is that of a JSON number. -/
theorem Leads.isUnsigned_text : IsUnsigned x.text := by
  unfold text
  split
  · exact leads.isUnsigned_positional
  · exact leads.isUnsigned_scientific

end Leads

end Decimal

namespace Binary64

theorem nearest_zero (den : Nat) : nearest 0 den = 0 := by
  simp [nearest, roundRatio]

theorem units_pos {m : Nat} (positive : m ≠ 0) : 0 < units m := by
  have hidden : 0 < hiddenBit := by decide +kernel
  rw [units_eq]
  split
  · exact Nat.pos_of_ne_zero positive
  · exact Nat.mul_pos (Nat.add_pos_left hidden _) (Nat.two_pow_pos _)

theorem ne_zero_of_neighbour? {m place d : Nat} (positive : m ≠ 0)
    (found : neighbour? m place = some d) : d ≠ 0 := by
  rintro rfl
  unfold neighbour? at found
  have reads := List.find?_some found
  rw [readsBack, Nat.zero_mul, Nat.zero_mul, nearest_zero, beq_iff_eq] at reads
  exact positive reads.symm

/-- The shortest decimal starts with a digit other than zero, as a JSON numeral has to. -/
theorem leads_shortest {m : Nat} (positive : m ≠ 0) : (shortest m).Leads := by
  unfold shortest
  dsimp only
  cases found : (List.range' 1 17).findSome? fun count =>
      (neighbour? m (scaledDigits m - count)).map fun d =>
        Decimal.ofScaled d ((scaledDigits m - count : Nat) - decimalScale : Int) with
  | some own =>
    obtain ⟨count, -, made⟩ := List.exists_of_findSome?_eq_some found
    obtain ⟨d, near, rfl⟩ := Option.map_eq_some_iff.1 made
    exact Decimal.leads_ofScaled (ne_zero_of_neighbour? positive near) _
  | none =>
    refine Decimal.leads_ofScaled (Nat.ne_of_gt (Nat.div_pos ?_ ?_)) _
    · have fine : unitsPerOne ≤ powerOfTen decimalScale := by decide +kernel
      exact Nat.le_trans fine (Nat.le_mul_of_pos_left _ (units_pos positive))
    · decide +kernel

/-- The text of a finite weight is a number. -/
theorem number_of_decimalText? {x : Binary64} {t : Text} (written : x.decimalText? = some t) :
    Reader.number t = some (t, []) := by
  unfold decimalText? at written
  split at written
  · have own : IsUnsigned
        (if x.magnitude = 0 then ['0', '.', '0'] else (shortest x.magnitude).text) := by
      split
      · exact ⟨['0'], ['.', '0'], [], ⟨isDigits_zero, fun _ => rfl⟩,
          .inr ⟨['0'], isDigits_zero, rfl⟩, .inl rfl, rfl⟩
      · rename_i positive
        exact (leads_shortest positive).isUnsigned_text
    rw [← Option.some.inj written]
    cases x.isNegative with
    | true => exact (number_isUnsigned own).2
    | false => exact (number_isUnsigned own).1
  · cases written

end Binary64

end PromptTemplate
