/-
# PromptTemplate.Proofs.Json.Scalars -- strings and numbers are read up to their end

A string is read character by character, each from its own escape (`ReadsChar`), so any
text is read back from its quoted form (`string_quote`).  A number has no closing sign:
it is read alike in front of any text in which no number goes on (`number_append`).
-/
import PromptTemplate.Json.Printer
import PromptTemplate.Json.Reader
import Mathlib.Data.List.TakeDrop
import Mathlib.Tactic.SplitIfs

set_option autoImplicit false

namespace PromptTemplate.Json

open Reader

/-! ## Strings -/

/-- The text is read as one part of a string, and the part makes the character. -/
def ReadsChar (t : Text) (c : Char) : Prop :=
  ∃ part : Part,
    (∀ rest, parts (t ++ rest) = (parts rest).map (Prod.map (part :: ·) id)) ∧
      ∀ more, assemble (part :: more) = (assemble more).map (c :: ·)

theorem readsChar_escape {letter c : Char} (notUnit : letter ≠ 'u')
    (escapes : escaped? letter = some c) : ReadsChar ['\\', letter] c := by
  refine ⟨.char c, fun rest => ?_, fun _ => rfl⟩
  rw [List.cons_append, List.cons_append, List.nil_append,
    parts.eq_4 _ _ fun _ _ _ _ _ same _ => notUnit same, escapes]
  cases parts rest <;> rfl

/-- The four digits of a control character are read as its code point. -/
theorem unit?_digits : ∀ n < 32,
    unitEscape (Char.ofNat n) =
        ['\\', 'u', '0', '0', Nat.digitChar (n / 16), Nat.digitChar (n % 16)] ∧
      unit? '0' '0' (Nat.digitChar (n / 16)) (Nat.digitChar (n % 16)) = some n := by
  decide

theorem readsChar_unit {c : Char} (control : c < ' ') : ReadsChar (unitEscape c) c := by
  have below : c.toNat < 32 := control
  obtain ⟨written, read⟩ := unit?_digits c.toNat below
  rw [Char.ofNat_toNat] at written
  refine ⟨.unit c.toNat, fun rest => ?_, fun more => ?_⟩
  · rw [written]
    simp only [List.cons_append, List.nil_append, parts, read]
    cases parts rest <;> rfl
  · have whole : ¬ (isHighHalf c.toNat = true ∨ isLowHalf c.toNat = true) := by
      simp only [isHighHalf, isLowHalf, Bool.and_eq_true, decide_eq_true_eq]
      omega
    rcases more with _ | ⟨d | low, more⟩
    · rw [assemble.eq_4 c.toNat [] nofun, if_neg whole, Char.ofNat_toNat]
    · rw [assemble.eq_4 c.toNat (.char d :: more) nofun, if_neg whole, Char.ofNat_toNat]
    · rw [assemble.eq_3, if_neg fun both => whole (.inl both.1), if_neg whole, Char.ofNat_toNat]

theorem readsChar_self {c : Char} (noQuote : c ≠ '"') (noSlash : c ≠ '\\')
    (printable : ¬ c < ' ') : ReadsChar [c] c := by
  refine ⟨.char c, fun rest => ?_, fun _ => rfl⟩
  rw [List.singleton_append, parts.eq_5 _ _ noQuote (fun _ _ _ _ _ same _ => noSlash same)
    fun _ _ same _ => noSlash same, if_neg printable]
  cases parts rest <;> rfl

/-- Every character is read back from its escaped form. -/
theorem readsChar_escapeChar (c : Char) : ReadsChar (escapeChar c) c := by
  unfold escapeChar
  split_ifs with quote slash backspace feed line back tab control
  · subst quote
    exact readsChar_escape (by decide) rfl
  · subst slash
    exact readsChar_escape (by decide) rfl
  · subst backspace
    exact readsChar_escape (by decide) rfl
  · subst feed
    exact readsChar_escape (by decide) rfl
  · subst line
    exact readsChar_escape (by decide) rfl
  · subst back
    exact readsChar_escape (by decide) rfl
  · subst tab
    exact readsChar_escape (by decide) rfl
  · exact readsChar_unit control
  · exact readsChar_self quote slash control

/-- A quoted text is read back, and reading stops at its closing quote. -/
theorem exists_parts_quoted (t rest : Text) :
    ∃ read, parts (t.flatMap escapeChar ++ '"' :: rest) = some (read, rest) ∧
      assemble read = some t := by
  induction t with
  | nil => exact ⟨[], rfl, rfl⟩
  | cons c t ih =>
    obtain ⟨read, found, makes⟩ := ih
    obtain ⟨part, reads, makesChar⟩ := readsChar_escapeChar c
    refine ⟨part :: read, ?_, ?_⟩
    · rw [List.flatMap_cons, List.append_assoc, reads, found]
      rfl
    · rw [makesChar, makes]
      rfl

/-- Half of a surrogate pair has no text. -/
theorem string_half (rest : Text) :
    Reader.string ('\\' :: 'u' :: 'd' :: '8' :: '0' :: '0' :: '"' :: rest) = some (none, rest) := by
  have half : unit? 'd' '8' '0' '0' = some 0xD800 := by decide
  simp only [Reader.string, parts, half]
  rfl

/-- A string is read up to its closing quote, also one without a text. -/
theorem string_quote (text : Option Text) (rest : Text) :
    ∃ body, quote text ++ rest = '"' :: body ∧ Reader.string body = some (text, rest) := by
  cases text with
  | none =>
    have written : quote none = ['"', '\\', 'u', 'd', '8', '0', '0', '"'] := by decide
    refine ⟨'\\' :: 'u' :: 'd' :: '8' :: '0' :: '0' :: '"' :: rest, ?_, string_half rest⟩
    rw [written]
    rfl
  | some t =>
    obtain ⟨read, found, makes⟩ := exists_parts_quoted t rest
    refine ⟨t.flatMap escapeChar ++ '"' :: rest, ?_, ?_⟩
    · show ['"'] ++ t.flatMap escapeChar ++ ['"'] ++ rest = _
      simp only [List.append_assoc, List.cons_append, List.nil_append]
    · rw [Reader.string, found, ← makes]
      rfl

/-! ## Numbers -/

/-- No number goes on in the text. -/
def Stops (t : Text) : Prop :=
  ∀ c, t.head? = some c → Text.isDigit c = false ∧ c ≠ '.' ∧ c ≠ 'e' ∧ c ≠ 'E'

theorem stops_nil : Stops [] :=
  nofun

theorem stops_cons {c : Char} (stops : Text.isDigit c = false ∧ c ≠ '.' ∧ c ≠ 'e' ∧ c ≠ 'E')
    (t : Text) : Stops (c :: t) := by
  intro d first
  obtain rfl := Option.some.inj first
  exact stops

section Numbers

variable {t read rest behind : Text}

/-- Text in which no number goes on does not change the digits in front of it. -/
theorem digits_append (stops : Stops behind) (found : digits t = some (read, rest)) :
    digits (t ++ behind) = some (read, rest ++ behind) := by
  have front : behind.takeWhile Text.isDigit = [] ∧ behind.dropWhile Text.isDigit = behind := by
    cases behind with
    | nil => exact ⟨rfl, rfl⟩
    | cons c behind => simp [(stops c rfl).1]
  have split : (t ++ behind).takeWhile Text.isDigit = t.takeWhile Text.isDigit ∧
      (t ++ behind).dropWhile Text.isDigit = t.dropWhile Text.isDigit ++ behind := by
    rw [List.takeWhile_append, List.dropWhile_append, front.1, front.2, List.append_nil]
    constructor
    · split
      · rename_i all
        exact ((List.takeWhile_prefix _).eq_of_length all).symm
      · rfl
    · split
      · rename_i none
        rw [List.isEmpty_iff.1 none, List.nil_append]
      · rfl
  simp only [digits, List.span_eq_takeWhile_dropWhile] at found ⊢
  rw [split.1, split.2]
  split at found
  · cases found
  · obtain ⟨rfl, rfl⟩ := Prod.mk.inj (Option.some.inj found)
    rename_i some
    rw [if_neg some]

theorem whole_append (stops : Stops behind) (found : whole t = some (read, rest)) :
    whole (t ++ behind) = some (read, rest ++ behind) := by
  cases t with
  | nil => cases found
  | cons c t =>
    by_cases zero : c = '0'
    · subst zero
      obtain ⟨rfl, rfl⟩ := Prod.mk.inj (Option.some.inj found)
      rfl
    · rw [whole.eq_2 _ fun _ same => zero (List.cons.inj same).1] at found
      rw [List.cons_append, whole.eq_2 _ fun _ same => zero (List.cons.inj same).1]
      exact digits_append stops found

theorem fraction_append (stops : Stops behind) (found : fraction t = some (read, rest)) :
    fraction (t ++ behind) = some (read, rest ++ behind) := by
  cases t with
  | nil =>
    obtain ⟨rfl, rfl⟩ := Prod.mk.inj (Option.some.inj found)
    exact fraction.eq_2 behind fun _ same => (stops '.' (by rw [same]; rfl)).2.1 rfl
  | cons c t =>
    by_cases point : c = '.'
    · subst point
      obtain ⟨⟨own, later⟩, inner, same⟩ := Option.map_eq_some_iff.1 found
      obtain ⟨rfl, rfl⟩ := Prod.mk.inj same
      rw [List.cons_append, fraction, digits_append stops inner]
      rfl
    · rw [fraction.eq_2 _ fun _ same => point (List.cons.inj same).1] at found
      obtain ⟨rfl, rfl⟩ := Prod.mk.inj (Option.some.inj found)
      exact fraction.eq_2 _ fun _ same => point (List.cons.inj same).1

theorem exponentSign_append (some : t ≠ []) :
    exponentSign (t ++ behind) = ((exponentSign t).1, (exponentSign t).2 ++ behind) := by
  obtain ⟨c, t, rfl⟩ := List.exists_cons_of_ne_nil some
  by_cases plus : c = '+'
  · subst plus
    rfl
  · by_cases minus : c = '-'
    · subst minus
      rfl
    · have other : ∀ t, exponentSign (c :: t) = ([], c :: t) := fun t =>
        exponentSign.eq_3 _ (fun _ same => plus (List.cons.inj same).1)
          fun _ same => minus (List.cons.inj same).1
      rw [List.cons_append, other, other]
      rfl

theorem exponent_append (stops : Stops behind) (found : exponent t = some (read, rest)) :
    exponent (t ++ behind) = some (read, rest ++ behind) := by
  cases t with
  | nil =>
    obtain ⟨rfl, rfl⟩ := Prod.mk.inj (Option.some.inj found)
    cases behind with
    | nil => rfl
    | cons c behind =>
      rw [List.nil_append, exponent, if_neg (not_or.2 (stops c rfl).2.2)]
  | cons c t =>
    rw [List.cons_append]
    by_cases mark : c = 'e' ∨ c = 'E'
    · rw [exponent, if_pos mark] at found ⊢
      have some : t ≠ [] := by
        rintro rfl
        cases found
      rw [exponentSign_append some]
      rcases signed : exponentSign t with ⟨sign, behindSign⟩
      simp only [signed] at found
      obtain ⟨⟨own, later⟩, inner, same⟩ := Option.map_eq_some_iff.1 found
      obtain ⟨rfl, rfl⟩ := Prod.mk.inj same
      simp only [digits_append stops inner, Option.map_some]
    · rw [exponent, if_neg mark] at found ⊢
      obtain ⟨rfl, rfl⟩ := Prod.mk.inj (Option.some.inj found)
      rfl

theorem unsigned_append (stops : Stops behind) (found : unsigned t = some (read, rest)) :
    unsigned (t ++ behind) = some (read, rest ++ behind) := by
  simp only [unsigned, Option.bind_eq_bind, Option.bind_eq_some_iff, Prod.exists,
    Option.some.injEq, Prod.mk.injEq] at found ⊢
  obtain ⟨a, first, foundA, b, second, foundB, c, third, foundC, rfl, rfl⟩ := found
  exact ⟨a, _, whole_append stops foundA, b, _, fraction_append stops foundB, c, _,
    exponent_append stops foundC, rfl, rfl⟩

/-- A number is read up to its end whatever follows in which no number goes on. -/
theorem number_append (stops : Stops behind) (found : Reader.number t = some (read, rest)) :
    Reader.number (t ++ behind) = some (read, rest ++ behind) := by
  cases t with
  | nil => cases found
  | cons c t =>
    by_cases minus : c = '-'
    · subst minus
      obtain ⟨⟨own, later⟩, inner, same⟩ := Option.map_eq_some_iff.1 found
      obtain ⟨rfl, rfl⟩ := Prod.mk.inj same
      rw [List.cons_append, Reader.number, unsigned_append stops inner]
      rfl
    · rw [Reader.number.eq_2 _ fun _ same => minus (List.cons.inj same).1] at found
      rw [List.cons_append, Reader.number.eq_2 _ fun _ same => minus (List.cons.inj same).1]
      exact unsigned_append stops found

/-- A number starts with its sign or a digit. -/
theorem exists_cons_of_number (found : Reader.number t = some (read, rest)) :
    ∃ c behind, t = c :: behind ∧ (c = '-' ∨ Text.isDigit c = true) := by
  cases t with
  | nil => cases found
  | cons c t =>
    refine ⟨c, t, rfl, ?_⟩
    by_cases minus : c = '-'
    · exact .inl minus
    · refine .inr (Bool.of_not_eq_false fun other => ?_)
      have noZero : c ≠ '0' := by
        rintro rfl
        exact absurd other (by decide)
      rw [Reader.number.eq_2 _ fun _ same => minus (List.cons.inj same).1, unsigned,
        whole.eq_2 _ fun _ same => noZero (List.cons.inj same).1, digits] at found
      simp [List.span_eq_takeWhile_dropWhile, other] at found

end Numbers

end PromptTemplate.Json
