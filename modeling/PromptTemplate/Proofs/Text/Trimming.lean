/-
# PromptTemplate.Proofs.Text.Trimming -- a trimmed text has no white space at its ends

Trimming drops white space at the front and then at the back.  What is dropped at the
back never brings white space to the front, so trimming twice is trimming once.
-/
import PromptTemplate.Text.Space
import Mathlib.Data.List.DropRight

set_option autoImplicit false

namespace PromptTemplate.Text

theorem trimStart_eq_self_iff {t : Text} :
    trimStart t = t ↔ ∀ positive : 0 < t.length, isSpace t[0] = false := by
  rw [trimStart, List.dropWhile_eq_self_iff]
  simp only [Bool.not_eq_true]

theorem trimStart_append {space : Text} (spaces : ∀ c ∈ space, isSpace c = true) (t : Text) :
    trimStart (space ++ t) = trimStart t :=
  List.dropWhile_append_of_pos spaces

theorem trimStart_trimStart (t : Text) : trimStart (trimStart t) = trimStart t :=
  List.dropWhile_idempotent isSpace t

theorem trimStart_cons_of_space {c : Char} (space : isSpace c = true) (t : Text) :
    trimStart (c :: t) = trimStart t :=
  List.dropWhile_cons_of_pos space

theorem length_trimStart_le (t : Text) : (trimStart t).length ≤ t.length :=
  (List.dropWhile_suffix isSpace).length_le

/-- Without its leading white space a text is empty or starts with a visible character. -/
theorem trimStart_cases (t : Text) :
    trimStart t = [] ∨ ∃ c rest, trimStart t = c :: rest ∧ isSpace c = false := by
  cases shape : trimStart t with
  | nil => exact .inl rfl
  | cons c rest =>
    refine .inr ⟨c, rest, rfl, ?_⟩
    have trimmed := trimStart_eq_self_iff.1 (trimStart_trimStart t)
    simp only [shape] at trimmed
    exact trimmed (Nat.succ_pos _)

theorem trimEnd_trimEnd (t : Text) : trimEnd (trimEnd t) = trimEnd t :=
  List.rdropWhile_idempotent isSpace t

theorem trimEnd_append {space : Text} (spaces : ∀ c ∈ space, isSpace c = true) (t : Text) :
    trimEnd (t ++ space) = trimEnd t := by
  rw [trimEnd, List.reverse_append, List.dropWhile_append_of_pos, trimEnd]
  exact fun c member => spaces c (List.mem_reverse.1 member)

theorem trimEnd_eq_self {t : Text} (visible : ∀ c ∈ t, isSpace c = false) : trimEnd t = t := by
  have last : List.rdropWhile isSpace t = t := by
    rw [List.rdropWhile_eq_self_iff]
    intro some
    rw [visible _ (List.getLast_mem some)]
    exact Bool.false_ne_true
  exact last

theorem prefix_trimEnd (t : Text) : trimEnd t <+: t :=
  List.rdropWhile_prefix isSpace t

/-- What starts with a visible character still does so without the white space at its
end. -/
theorem trimStart_trimEnd {t : Text} (visible : trimStart t = t) :
    trimStart (trimEnd t) = trimEnd t := by
  rw [trimStart_eq_self_iff] at visible ⊢
  intro positive
  have shorter := (prefix_trimEnd t).length_le
  rw [(prefix_trimEnd t).getElem positive]
  exact visible (by omega)

/-- Trimming takes white space away at the two ends. -/
theorem exists_spaces_trim (t : Text) :
    ∃ front back, (∀ c ∈ front, isSpace c = true) ∧ (∀ c ∈ back, isSpace c = true) ∧
      t = front ++ trim t ++ back := by
  refine ⟨t.takeWhile isSpace, (trimStart t).rtakeWhile isSpace, fun c => List.mem_takeWhile_imp,
    fun c => List.mem_rtakeWhile_imp, ?_⟩
  have back : trim t ++ (trimStart t).rtakeWhile isSpace = trimStart t :=
    List.rdropWhile_append_rtakeWhile
  rw [List.append_assoc, back]
  exact List.takeWhile_append_dropWhile.symm

/-- Trimming takes white space away and nothing else. -/
theorem isSpace_or_mem_trim {t : Text} {c : Char} (member : c ∈ t) :
    isSpace c = true ∨ c ∈ trim t := by
  obtain ⟨front, back, spaceFront, spaceBack, shape⟩ := exists_spaces_trim t
  rw [shape, List.mem_append, List.mem_append] at member
  rcases member with (space | inside) | space
  · exact .inl (spaceFront c space)
  · exact .inr inside
  · exact .inl (spaceBack c space)

theorem trim_eq_nil_iff {t : Text} : trim t = [] ↔ ∀ c ∈ t, isSpace c = true := by
  constructor
  · intro nothing c member
    rcases isSpace_or_mem_trim member with space | inside
    · exact space
    · simp [nothing] at inside
  · intro spaces
    have nothing : trimStart t = [] := List.dropWhile_eq_nil_iff.2 spaces
    rw [trim, nothing]
    rfl

theorem trim_trim (t : Text) : trim (trim t) = trim t := by
  have front : trimStart (trim t) = trim t := trimStart_trimEnd (trimStart_trimStart t)
  calc trim (trim t) = trimEnd (trimStart (trim t)) := rfl
    _ = trimEnd (trim t) := by rw [front]
    _ = trim t := trimEnd_trimEnd (trimStart t)

end PromptTemplate.Text
