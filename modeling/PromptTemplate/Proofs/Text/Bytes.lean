/-
# PromptTemplate.Proofs.Text.Bytes -- the order of texts is that of their bytes

Texts are ordered by the code points of their characters.  A character with a greater code
point has a greater UTF-8 form, whatever follows either of them
(`utf8EncodeChar_append_lt`): a longer form has a greater first byte, and in two forms of
one length the bytes hold the code points in base 64.  So the order of texts is the
lexicographic order of their bytes (`isBefore_iff_utf8_lt`).
-/
import Mathlib.Tactic.SplitIfs
import PromptTemplate.Text.Order

set_option autoImplicit false

namespace PromptTemplate.Text

def utf8 (t : Text) : List UInt8 :=
  t.flatMap String.utf8EncodeChar

theorem ofNat_cons_lt_iff {m n : Nat} (small : m < 256) (small' : n < 256) {s t : List UInt8} :
    UInt8.ofNat m :: s < UInt8.ofNat n :: t ↔ m < n ∨ m = n ∧ s < t := by
  rw [List.cons_lt_cons_iff, UInt8.lt_iff_toNat_lt, ← UInt8.toNat_inj,
    UInt8.toNat_ofNat_of_lt' small, UInt8.toNat_ofNat_of_lt' small']

/-- The form of a character comes before that of every character with a greater code point. -/
theorem utf8EncodeChar_append_lt {a b : Char} (less : a.toNat < b.toNat) (s t : List UInt8) :
    String.utf8EncodeChar a ++ s < String.utf8EncodeChar b ++ t := by
  have bound : b.val.toNat < 0x110000 := by
    have valid := b.valid
    simp only [UInt32.isValidChar, Nat.isValidChar] at valid
    omega
  have third (n : Nat) : n / 4096 = n / 64 / 64 := by omega
  have fourth (n : Nat) : n / 262144 = n / 64 / 64 / 64 := by omega
  change a.val.toNat < b.val.toNat at less
  simp only [String.utf8EncodeChar, third, fourth]
  generalize a.val.toNat = m at *
  generalize b.val.toNat = n at *
  -- by the lengths of both forms
  split_ifs <;>
    simp (disch := omega) only [List.cons_append, List.nil_append, ofNat_cons_lt_iff] <;> omega

/-- Texts in order have their bytes in the same order. -/
theorem utf8_lt_of_isBefore {s t : Text} (before : isBefore s t = true) : utf8 s < utf8 t := by
  induction s generalizing t with
  | nil =>
    cases t with
    | nil => cases before
    | cons b t =>
      obtain ⟨byte, bytes, form⟩ :=
        List.exists_cons_of_ne_nil (String.utf8EncodeChar_ne_nil (c := b))
      rw [utf8, utf8, List.flatMap_nil, List.flatMap_cons, form]
      exact List.nil_lt_cons byte _
  | cons a s ih =>
    cases t with
    | nil => cases before
    | cons b t =>
      simp only [isBefore, Bool.or_eq_true, decide_eq_true_eq, Bool.and_eq_true,
        beq_iff_eq] at before
      rw [utf8, utf8, List.flatMap_cons, List.flatMap_cons]
      rcases before with less | ⟨rfl, before⟩
      · exact utf8EncodeChar_append_lt less _ _
      · exact List.append_left_lt (ih before)

/-- The order of texts is the order of their bytes. -/
theorem isBefore_iff_utf8_lt (s t : Text) : isBefore s t = true ↔ utf8 s < utf8 t := by
  refine ⟨utf8_lt_of_isBefore, fun less => Bool.of_not_eq_false fun notBefore => ?_⟩
  by_cases same : s = t
  · subst same
    exact List.lt_irrefl _ less
  · exact List.lt_asymm less (utf8_lt_of_isBefore (isBefore_of_not_isBefore same notBefore))

end PromptTemplate.Text
