/-
# PromptTemplate.Proofs.Template.Removal -- what taking comments out comes to

Taking comments out of a text is described from outside by what it does in front of an
arbitrary rest (`RemovesComments`): a part in which no comment starts stays, a line comment
goes, a block comment becomes a space, and nothing that is left starts a comment.  One
comment may hold the signs that start another: up to its own end they mean nothing.

Every text is put together from the pieces that the laws speak of (`piece_induction`), so
the laws leave only one function (`removesComments_iff`).
-/
import PromptTemplate.Proofs.Template.Comments

set_option autoImplicit false

namespace PromptTemplate.Template

def lineMarkers : List Text :=
  [['#'], ['/', '/']]

/-- The function takes the comments out of a text, and nothing else. -/
structure RemovesComments (remove : Text → Text) : Prop where
  commentFree : ∀ t, CommentFree (remove t)
  kept : ∀ t, CommentFree t → remove t = t
  idempotent : ∀ t, remove (remove t) = remove t
  front : ∀ a b, CommentFree a → a.getLast? ≠ some '/' → remove (a ++ b) = a ++ remove b
  /-- A slash by itself is a character as others are. -/
  slash : ∀ b, b.head? ≠ some '/' → b.head? ≠ some '*' → remove ('/' :: b) = '/' :: remove b
  line : ∀ marker ∈ lineMarkers, ∀ c b, '\n' ∉ c →
    remove (marker ++ c ++ '\n' :: b) = '\n' :: remove b
  openLine : ∀ marker ∈ lineMarkers, ∀ c, '\n' ∉ c → remove (marker ++ c) = []
  block : ∀ c b, ¬ ['*', '/'] <:+: c →
    remove (['/', '*'] ++ c ++ ['*', '/'] ++ b) = ' ' :: remove b
  openBlock : ∀ c, ¬ ['*', '/'] <:+: c → remove (['/', '*'] ++ c) = [' ']

/-! ## One comment -/

theorem stripComments_marker {marker : Text} (starts : marker ∈ lineMarkers) (t : Text) :
    stripComments (marker ++ t) = afterLine t := by
  simp only [lineMarkers, List.mem_cons, List.not_mem_nil, or_false] at starts
  obtain rfl | rfl := starts
  · rw [List.singleton_append, stripComments]
  · rw [List.cons_append, List.singleton_append, stripComments]

theorem afterLine_cons {c : Char} (inside : c ≠ '\n') (t : Text) :
    afterLine (c :: t) = afterLine t :=
  afterLine.eq_3 c t inside

theorem afterLine_append {c : Text} (oneLine : '\n' ∉ c) (t : Text) :
    afterLine (c ++ t) = afterLine t := by
  induction c with
  | nil => rfl
  | cons d rest ih =>
    obtain ⟨inside, oneLine⟩ := not_or.1 (mt List.mem_cons.2 oneLine)
    rw [List.cons_append, afterLine_cons (Ne.symm inside), ih oneLine]

/-- In a block comment only a star in front of a slash counts. -/
theorem afterBlock_cons {c : Char} {t : Text} (inside : ¬ (c = '*' ∧ t.head? = some '/')) :
    afterBlock (c :: t) = afterBlock t := by
  refine afterBlock.eq_3 c t ?_
  rintro rest rfl rfl
  exact inside ⟨rfl, rfl⟩

/-- A block comment runs up to its end, also if its last character is a star. -/
theorem afterBlock_append {c t : Text} (noEnd : ¬ ['*', '/'] <:+: c) (next : t.head? ≠ some '/') :
    afterBlock (c ++ t) = afterBlock t := by
  induction c with
  | nil => rfl
  | cons d rest ih =>
    obtain ⟨noEnd, here⟩ := not_or.1 (mt pair_infix_cons_iff.2 noEnd)
    rw [List.cons_append, afterBlock_cons, ih noEnd]
    rintro ⟨star, first⟩
    cases rest with
    | nil => exact next first
    | cons e rest => exact here ⟨star, first⟩

/-- Stripping comments obeys the laws. -/
theorem removesComments_stripComments : RemovesComments stripComments where
  commentFree := commentFree_stripComments
  kept t free := stripComments_eq_self free
  idempotent t := stripComments_eq_self (commentFree_stripComments t)
  front a b free last := by
    refine stripComments_append free ?_
    rintro x y ends - ⟨rfl, -⟩
    exact last ends
  slash b noLine noBlock := by
    refine stripComments_append (s := ['/']) (commentFree_singleton_iff.2 (by decide)) ?_
    rintro x y - first ⟨-, rfl | rfl⟩
    · exact noLine first
    · exact noBlock first
  line marker starts c b oneLine := by
    rw [List.append_assoc, stripComments_marker starts, afterLine_append oneLine, afterLine]
  openLine marker starts c oneLine := by
    rw [stripComments_marker starts, ← List.append_nil c, afterLine_append oneLine, afterLine]
  block c b noEnd := by
    have closed : afterBlock (c ++ '*' :: '/' :: b) = stripComments b := by
      rw [afterBlock_append noEnd (by simp), afterBlock]
    simpa [stripComments] using closed
  openBlock c noEnd := by
    have unclosed : afterBlock (c ++ []) = [] := by
      rw [afterBlock_append noEnd (by simp), afterBlock]
    simpa [stripComments] using unclosed

/-! ## Texts made of pieces -/

/-- A text in which a pair stands is cut at the first such pair. -/
theorem exists_first_pair {α : Type} {a b : α} {t : List α} (inside : [a, b] <:+: t) :
    ∃ front back, t = front ++ [a, b] ++ back ∧ ¬ [a, b] <:+: front := by
  induction t with
  | nil => exact absurd inside.length_le (by simp)
  | cons c rest ih =>
    by_cases here : c = a ∧ rest.head? = some b
    · obtain ⟨rfl, first⟩ := here
      obtain ⟨back, rfl⟩ := List.head?_eq_some_iff.1 first
      exact ⟨[], back, rfl, fun pair => absurd pair.length_le (by simp)⟩
    · obtain ⟨front, back, rfl, none⟩ := ih ((pair_infix_cons_iff.1 inside).resolve_right here)
      refine ⟨c :: front, back, rfl, fun pair => ?_⟩
      obtain ⟨same, first⟩ := (pair_infix_cons_iff.1 pair).resolve_left none
      refine here ⟨same, ?_⟩
      cases front with
      | nil => cases first
      | cons d front => exact first

/-- Every text is empty, or a character or a comment stands in front of another text, or it
is a comment that nothing ends. -/
theorem piece_induction {motive : Text → Prop}
    (nil : motive [])
    (plain : ∀ c b, c ≠ '#' → c ≠ '/' → motive b → motive (c :: b))
    (slash : ∀ b, b.head? ≠ some '/' → b.head? ≠ some '*' → motive b → motive ('/' :: b))
    (line : ∀ marker ∈ lineMarkers, ∀ c b, '\n' ∉ c → motive b → motive (marker ++ c ++ '\n' :: b))
    (openLine : ∀ marker ∈ lineMarkers, ∀ c, '\n' ∉ c → motive (marker ++ c))
    (block : ∀ c b, ¬ ['*', '/'] <:+: c → motive b →
      motive (['/', '*'] ++ c ++ ['*', '/'] ++ b))
    (openBlock : ∀ c, ¬ ['*', '/'] <:+: c → motive (['/', '*'] ++ c)) (t : Text) : motive t := by
  induction length : t.length using Nat.strong_induction_on generalizing t with
  | _ size shorter => ?_
  have lines : ∀ marker ∈ lineMarkers, ∀ rest : Text, rest.length < size →
      motive (marker ++ rest) := by
    intro marker starts rest less
    by_cases ends : '\n' ∈ rest
    · obtain ⟨c, b, rfl, oneLine⟩ := List.eq_append_cons_of_mem ends
      rw [List.length_append, List.length_cons] at less
      rw [← List.append_assoc]
      exact line marker starts c b oneLine (shorter b.length (by omega) b rfl)
    · exact openLine marker starts rest ends
  have blocks : ∀ rest : Text, rest.length < size → motive (['/', '*'] ++ rest) := by
    intro rest less
    by_cases ends : ['*', '/'] <:+: rest
    · obtain ⟨c, b, rfl, noEnd⟩ := exists_first_pair ends
      rw [List.length_append] at less
      rw [← List.append_assoc, ← List.append_assoc]
      exact block c b noEnd (shorter b.length (by omega) b rfl)
    · exact openBlock rest ends
  cases t with
  | nil => exact nil
  | cons c rest =>
    have less : rest.length < size := by rw [← length, List.length_cons]; exact Nat.lt_succ_self _
    have left : motive rest := shorter rest.length less rest rfl
    by_cases hash : c = '#'
    · exact hash ▸ lines ['#'] (by simp [lineMarkers]) rest less
    by_cases bar : c = '/'
    swap
    · exact plain c rest hash bar left
    subst bar
    -- what a slash starts depends on the character behind it
    by_cases second : rest.head? = some '/'
    · obtain ⟨behind, rfl⟩ := List.head?_eq_some_iff.1 second
      exact lines ['/', '/'] (by simp [lineMarkers]) behind (Nat.lt_of_succ_lt less)
    by_cases star : rest.head? = some '*'
    · obtain ⟨behind, rfl⟩ := List.head?_eq_some_iff.1 star
      exact blocks behind (Nat.lt_of_succ_lt less)
    · exact slash rest second star left

/-- Taking the comments out is the one function that removes comments and nothing else. -/
theorem removesComments_iff (remove : Text → Text) :
    RemovesComments remove ↔ remove = stripComments := by
  constructor
  · intro laws
    have own := removesComments_stripComments
    funext t
    induction t using piece_induction with
    | nil => rw [laws.kept [] commentFree_nil, own.kept [] commentFree_nil]
    | plain c b noHash noSlash same =>
      have free : CommentFree [c] := commentFree_singleton_iff.2 noHash
      have last : [c].getLast? ≠ some '/' := fun ends => noSlash (Option.some.inj ends)
      rw [← List.singleton_append, laws.front [c] b free last, own.front [c] b free last, same]
    | slash b noLine noBlock same =>
      rw [laws.slash b noLine noBlock, own.slash b noLine noBlock, same]
    | line marker starts c b oneLine same =>
      rw [laws.line marker starts c b oneLine, own.line marker starts c b oneLine, same]
    | openLine marker starts c oneLine =>
      rw [laws.openLine marker starts c oneLine, own.openLine marker starts c oneLine]
    | block c b noEnd same => rw [laws.block c b noEnd, own.block c b noEnd, same]
    | openBlock c noEnd => rw [laws.openBlock c noEnd, own.openBlock c noEnd]
  · rintro rfl
    exact removesComments_stripComments

/-- Inside a comment the signs of the others mean nothing. -/
example : stripComments "a# /*\n/* // */b//*\n/*/c".toList = "a\n b\n ".toList := by decide

end PromptTemplate.Template
