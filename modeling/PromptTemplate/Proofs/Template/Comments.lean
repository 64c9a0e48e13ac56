/-
# PromptTemplate.Proofs.Template.Comments -- texts in which no comment starts

A text is free of comments when it holds neither `#` nor `//` nor `/*`.  What is left of
any text without its comments is free of comments, and a text that is free of comments is
left as it is.

Being free of comments is a matter of neighbouring characters, so it is kept when texts
are put one behind the other unless the two characters that meet start a comment
(`commentFree_append_iff`).
-/
import PromptTemplate.Template.Comment
import Mathlib.Data.List.Infix

set_option autoImplicit false

namespace PromptTemplate

/-- Two characters stand side by side in a text made of two, or where its halves meet. -/
theorem pair_infix_append_iff {α : Type} {a b : α} {s t : List α} :
    [a, b] <:+: s ++ t ↔
      [a, b] <:+: s ∨ [a, b] <:+: t ∨ (s.getLast? = some a ∧ t.head? = some b) := by
  rw [List.infix_append_iff_ne_nil]
  refine or_congr_right (or_congr_right ?_)
  constructor
  · rintro ⟨front, back, some, some', same, ends, starts⟩
    obtain ⟨x, front, rfl⟩ := List.exists_cons_of_ne_nil some
    obtain ⟨y, back, rfl⟩ := List.exists_cons_of_ne_nil some'
    obtain ⟨rfl, rfl, rfl, rfl⟩ : x = a ∧ front = [] ∧ y = b ∧ back = [] := by
      cases front <;> simp_all
    obtain ⟨before, rfl⟩ := ends
    obtain ⟨behind, rfl⟩ := starts
    exact ⟨List.getLast?_concat, rfl⟩
  · rintro ⟨last, first⟩
    refine ⟨[a], [b], List.cons_ne_nil _ _, List.cons_ne_nil _ _, rfl, ?_, ?_⟩
    · obtain ⟨before, rfl⟩ := List.getLast?_eq_some_iff.1 last
      exact List.suffix_append before [a]
    · obtain ⟨behind, rfl⟩ := List.head?_eq_some_iff.1 first
      exact List.prefix_append [b] behind

theorem pair_infix_cons_iff {α : Type} {a b c : α} {t : List α} :
    [a, b] <:+: c :: t ↔ [a, b] <:+: t ∨ (c = a ∧ t.head? = some b) := by
  have single : ¬ [a, b] <:+: [c] := fun inside => absurd inside.length_le (by simp)
  have split := pair_infix_append_iff (a := a) (b := b) (s := [c]) (t := t)
  rw [List.singleton_append] at split
  rw [split]
  simp only [single, false_or, List.getLast?_singleton, Option.some.injEq]

namespace Template

/-- No comment starts in the text. -/
def CommentFree (t : Text) : Prop :=
  '#' ∉ t ∧ ¬ ['/', '/'] <:+: t ∧ ¬ ['/', '*'] <:+: t

def opensComment (a b : Char) : Prop :=
  a = '/' ∧ (b = '/' ∨ b = '*')

theorem commentFree_nil : CommentFree [] := by
  simp [CommentFree]

/-- Two texts without comments make one, unless a comment starts where they meet. -/
theorem commentFree_append_iff {s t : Text} :
    CommentFree (s ++ t) ↔ CommentFree s ∧ CommentFree t ∧
      ∀ a b, s.getLast? = some a → t.head? = some b → ¬ opensComment a b := by
  simp only [CommentFree, pair_infix_append_iff, List.mem_append, not_or]
  constructor
  · rintro ⟨noHash, noLine, noBlock⟩
    refine ⟨⟨noHash.1, noLine.1, noBlock.1⟩, ⟨noHash.2, noLine.2.1, noBlock.2.1⟩, ?_⟩
    rintro a b last first ⟨rfl, rfl | rfl⟩
    · exact noLine.2.2 ⟨last, first⟩
    · exact noBlock.2.2 ⟨last, first⟩
  · rintro ⟨front, back, meet⟩
    refine ⟨⟨front.1, back.1⟩, ⟨front.2.1, back.2.1, fun pair => ?_⟩,
      ⟨front.2.2, back.2.2, fun pair => ?_⟩⟩
    · exact meet _ _ pair.1 pair.2 ⟨rfl, .inl rfl⟩
    · exact meet _ _ pair.1 pair.2 ⟨rfl, .inr rfl⟩

theorem commentFree_singleton_iff {c : Char} : CommentFree [c] ↔ c ≠ '#' := by
  have shorter : ∀ b : Char, ¬ ['/', b] <:+: [c] := fun b inside =>
    absurd inside.length_le (by simp)
  simp only [CommentFree, shorter, List.mem_singleton, not_false_iff, and_true, ne_eq, eq_comm]

theorem commentFree_cons_iff {c : Char} {t : Text} :
    CommentFree (c :: t) ↔
      c ≠ '#' ∧ CommentFree t ∧ ∀ b, t.head? = some b → ¬ opensComment c b := by
  rw [← List.singleton_append, commentFree_append_iff, commentFree_singleton_iff]
  refine and_congr_right fun _ => and_congr_right fun _ => ?_
  constructor
  · intro meet b first
    exact meet c b rfl first
  · intro meet a b last first
    exact Option.some.inj last ▸ meet b first

theorem CommentFree.of_infix {s t : Text} (free : CommentFree t) (part : s <:+: t) :
    CommentFree s :=
  ⟨fun hash => free.1 (part.subset hash), fun line => free.2.1 (line.trans part),
    fun block => free.2.2 (block.trans part)⟩

/-! ## Taking comments out -/

/-- What is left behind a line comment starts with the line end. -/
theorem head?_afterLine {t : Text} {b : Char} (first : (afterLine t).head? = some b) :
    b = '\n' := by
  induction t with
  | nil => cases first
  | cons c t ih =>
    rw [afterLine.eq_def] at first
    split at first
    · cases first
    · exact (Option.some.inj first).symm
    · rename_i same
      rw [← (List.cons.inj same).2] at first
      exact ih first

/-- What is left starts with white space that ended a comment, or as the text does. -/
theorem head?_stripComments {t : Text} {b : Char} (first : (stripComments t).head? = some b) :
    b = ' ' ∨ b = '\n' ∨ t.head? = some b := by
  unfold stripComments at first
  split at first
  · cases first
  · exact .inr (.inl (head?_afterLine first))
  · exact .inr (.inl (head?_afterLine first))
  · exact .inl (Option.some.inj first).symm
  · exact .inr (.inr first)

/-- No comment starts in what is left of a text without its comments. -/
theorem commentFree_stripComments (t : Text) : CommentFree (stripComments t) := by
  have all : (∀ t, CommentFree (stripComments t)) ∧ (∀ t, CommentFree (afterBlock t)) ∧
      ∀ t, CommentFree (afterLine t) := by
    refine stripComments.mutual_induct _ _ _ ?_ ?_ ?_ ?_ ?_ ?_ ?_ ?_ ?_ ?_ ?_
    · exact commentFree_nil
    · exact fun rest line => by rwa [stripComments]
    · exact fun rest line => by rwa [stripComments]
    · intro rest block
      rw [stripComments, commentFree_cons_iff]
      exact ⟨by decide, block, fun b _ opens => absurd opens.1 (by decide)⟩
    · intro c rest noHash noLine noBlock left
      rw [stripComments.eq_5 c rest noHash noLine noBlock, commentFree_cons_iff]
      refine ⟨noHash, left, ?_⟩
      -- what comes behind `c` is white space that a comment leaves, or what came behind it before
      rintro b first ⟨slash, second⟩
      rcases head?_stripComments first with rfl | rfl | first
      · exact absurd second (by decide)
      · exact absurd second (by decide)
      · obtain ⟨behind, rfl⟩ := List.head?_eq_some_iff.1 first
        rcases second with rfl | rfl
        · exact noLine behind slash rfl
        · exact noBlock behind slash rfl
    · exact commentFree_nil
    · exact fun rest left => by rwa [afterBlock]
    · intro c rest noEnd block
      rwa [afterBlock.eq_3 c rest noEnd]
    · exact commentFree_nil
    · intro rest left
      rw [afterLine, commentFree_cons_iff]
      exact ⟨by decide, left, fun b _ opens => absurd opens.1 (by decide)⟩
    · intro c rest noEnd line
      rwa [afterLine.eq_3 c rest noEnd]
  exact all.1 t

/-- A comment is no shorter than what it leaves. -/
theorem length_stripComments_le (t : Text) : (stripComments t).length ≤ t.length := by
  have all : (∀ t, (stripComments t).length ≤ t.length) ∧
      (∀ t, (afterBlock t).length ≤ t.length) ∧ ∀ t, (afterLine t).length ≤ t.length := by
    refine stripComments.mutual_induct _ _ _ ?_ ?_ ?_ ?_ ?_ ?_ ?_ ?_ ?_ ?_ ?_
    · exact Nat.le_refl 0
    · intro rest line
      rw [stripComments, List.length_cons]
      omega
    · intro rest line
      rw [stripComments, List.length_cons, List.length_cons]
      omega
    · intro rest block
      rw [stripComments, List.length_cons, List.length_cons, List.length_cons]
      omega
    · intro c rest noHash noLine noBlock left
      rw [stripComments.eq_5 c rest noHash noLine noBlock]
      exact Nat.succ_le_succ left
    · exact Nat.le_refl 0
    · intro rest left
      rw [afterBlock, List.length_cons, List.length_cons]
      omega
    · intro c rest noEnd block
      rw [afterBlock.eq_3 c rest noEnd, List.length_cons]
      omega
    · exact Nat.le_refl 0
    · intro rest left
      rw [afterLine]
      exact Nat.succ_le_succ left
    · intro c rest noEnd line
      rw [afterLine.eq_3 c rest noEnd, List.length_cons]
      omega
  exact all.1 t

/-- A front part in which no comment starts, and behind which none starts at the seam, is left
as it is. -/
theorem stripComments_append {s t : Text} (free : CommentFree s)
    (meet : ∀ a b, s.getLast? = some a → t.head? = some b → ¬ opensComment a b) :
    stripComments (s ++ t) = s ++ stripComments t := by
  induction s with
  | nil => rfl
  | cons c rest ih =>
    obtain ⟨noHash, free, inside⟩ := commentFree_cons_iff.1 free
    have follows : ∀ b, (rest ++ t).head? = some b → ¬ opensComment c b := by
      intro b first
      cases rest with
      | nil => exact meet c b rfl first
      | cons d rest => exact inside b first
    rw [List.cons_append, stripComments.eq_5 c (rest ++ t) noHash, ih free, List.cons_append]
    · intro a b last first
      refine meet a b ?_ first
      rw [List.getLast?_cons, last]
      rfl
    · rintro behind rfl same
      exact follows '/' (same ▸ rfl) ⟨rfl, .inl rfl⟩
    · rintro behind rfl same
      exact follows '*' (same ▸ rfl) ⟨rfl, .inr rfl⟩

/-- A text in which no comment starts is left as it is. -/
theorem stripComments_eq_self {t : Text} (free : CommentFree t) : stripComments t = t := by
  have kept := stripComments_append (t := []) free fun a b _ first => nomatch first
  simpa [stripComments] using kept

end Template

end PromptTemplate
