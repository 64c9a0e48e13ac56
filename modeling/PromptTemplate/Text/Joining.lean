/-
# PromptTemplate.Text.Joining -- joining rendered pieces

Rendered pieces are joined with a separator that never stands beside an empty
piece: an empty piece takes its separator with it.  `joinPair` joins two halves
and `joinNonEmpty` a whole list; `joinNonEmpty_eq_foldr` says that joining by
halves from the right is joining the list.

`distinct` keeps the first occurrence of each value.
-/
import PromptTemplate.Text.Space

set_option autoImplicit false

namespace PromptTemplate.Text

/-- The two halves with the separator between them, or the half that is not empty. -/
def joinPair (separator head tail : Text) : Text :=
  if head.isEmpty then tail
  else if tail.isEmpty then head
  else head ++ separator ++ tail

/-- The pieces that are not empty, with the separator between each two of them. -/
def joinNonEmpty (separator : Text) (pieces : List Text) : Text :=
  separator.intercalate (pieces.filter fun piece => !piece.isEmpty)

/-- The pieces with the separator between each two of them, empty ones included. -/
def joinAll (separator : Text) (pieces : List Text) : Text :=
  separator.intercalate pieces

/-! ## Joining by halves -/

theorem joinPair_nil_left (separator tail : Text) : joinPair separator [] tail = tail := rfl

theorem joinPair_nil_right (separator head : Text) : joinPair separator head [] = head := by
  cases head <;> rfl

theorem intercalate_ne_nil (separator : Text) {a : Text} (rest : List Text) (visible : a ≠ []) :
    separator.intercalate (a :: rest) ≠ [] := by
  cases rest with
  | nil => simpa [List.intercalate] using visible
  | cons b rest => simp [visible]

/-- Joining a list is joining its halves from the right. -/
theorem joinNonEmpty_eq_foldr (separator : Text) (pieces : List Text) :
    joinNonEmpty separator pieces = pieces.foldr (joinPair separator) [] := by
  induction pieces with
  | nil => rfl
  | cons piece pieces ih =>
    rw [List.foldr_cons, ← ih]
    cases piece with
    | nil => rfl
    | cons c piece =>
      simp only [joinNonEmpty, List.filter_cons, List.isEmpty_cons, Bool.not_false, if_true]
      cases filtered : pieces.filter (fun piece => !piece.isEmpty) with
      | nil => simp [List.intercalate, joinPair_nil_right]
      | cons next rest =>
        have visible : next ≠ [] := by
          have member : next ∈ pieces.filter (fun piece => !piece.isEmpty) := by simp [filtered]
          simpa using (List.mem_filter.1 member).2
        rw [List.intercalate_cons_cons]
        simp [joinPair, intercalate_ne_nil separator rest visible]

end PromptTemplate.Text

namespace PromptTemplate

/-- The values in order of first appearance, each once. -/
def distinct {α : Type} [BEq α] (values : List α) : List α :=
  values.foldl (fun kept value => if kept.contains value then kept else kept ++ [value]) []

end PromptTemplate
