/-
# PromptTemplate.Proofs.Template.Groups -- tidy groups

The search for the end of a group looks at one character after the other and at nothing
behind the bracket that ends it, so a group that is closed stays closed whatever follows
(`splitGroup_append`).  Tidying keeps its brackets, brings no comment into it and has no
effect on a group that is tidy; what a template text makes of a group is therefore a
group that is read as itself (`isGroup_normalizeGroup`).
-/
import PromptTemplate.Proofs.Template.Comments
import PromptTemplate.Template.Group

set_option autoImplicit false

namespace PromptTemplate.Template

/-! ## Where a group ends -/

/-- What a character does to the search does not depend on the text behind it. -/
theorem splitGroup_step (awaited : List Char) (c : Char) :
    ((c = ')' ∨ c = ']') ∧ ∀ t, splitGroup awaited (c :: t) = ([c], .closed t)) ∨
      (∀ t, splitGroup awaited (c :: t) = ([], .mismatched (c :: t))) ∨
      ∃ inner, ∀ t, splitGroup awaited (c :: t) = (splitGroup inner t).map (c :: ·) id := by
  cases opens : closerOf? c with
  | some closer => exact .inr (.inr ⟨closer :: awaited, fun t => by simp only [splitGroup, opens]⟩)
  | none =>
    by_cases closes : c = ')' ∨ c = ']'
    · cases awaited with
      | nil => exact .inr (.inl fun t => by simp only [splitGroup, opens, if_pos closes])
      | cons closer outer =>
        by_cases same : c = closer
        · subst same
          cases outer with
          | nil =>
            refine .inl ⟨closes, fun t => ?_⟩
            simp only [splitGroup, opens, if_pos closes, ne_eq, not_true_eq_false, if_false,
              List.isEmpty_nil, if_true]
          | cons next outer =>
            refine .inr (.inr ⟨next :: outer, fun t => ?_⟩)
            simp only [splitGroup, opens, if_pos closes, ne_eq, not_true_eq_false, if_false,
              List.isEmpty_cons, Bool.false_eq_true]
        · exact .inr (.inl fun t => by simp only [splitGroup, opens, if_pos closes, if_pos same])
    · exact .inr (.inr ⟨awaited, fun t => by simp only [splitGroup, opens, if_neg closes]⟩)

/-- White space is no bracket. -/
theorem no_bracket_of_space {c : Char} (space : Text.isSpace c = true) :
    closerOf? c = none ∧ ¬ (c = ')' ∨ c = ']') := by
  constructor
  · unfold closerOf?
    rw [if_neg (by rintro rfl; exact absurd space (by decide)),
      if_neg (by rintro rfl; exact absurd space (by decide))]
  · rintro (rfl | rfl)
    · exact absurd space (by decide)
    · exact absurd space (by decide)

theorem splitGroup_of_space {awaited : List Char} {c : Char} (space : Text.isSpace c = true)
    (t : Text) : splitGroup awaited (c :: t) = (splitGroup awaited t).map (c :: ·) id := by
  obtain ⟨opens, closes⟩ := no_bracket_of_space space
  simp only [splitGroup, opens, if_neg closes]

theorem map_eq_closed_iff {found : Text × GroupEnd} {c : Char} {body rest : Text} :
    found.map (c :: ·) id = (body, .closed rest) ↔
      ∃ inner, found = (inner, .closed rest) ∧ body = c :: inner := by
  constructor
  · intro same
    obtain ⟨rfl, closed⟩ := Prod.mk.inj same
    exact ⟨found.1, Prod.ext rfl closed, rfl⟩
  · rintro ⟨inner, rfl, rfl⟩
    rfl

/-- A group is in front of what follows it, and is closed whatever follows. -/
theorem splitGroup_append {awaited : List Char} {t body rest : Text}
    (closed : splitGroup awaited t = (body, .closed rest)) :
    t = body ++ rest ∧ ∀ behind, splitGroup awaited (body ++ behind) = (body, .closed behind) := by
  induction t generalizing awaited body with
  | nil => cases closed
  | cons c t ih =>
    rcases splitGroup_step awaited c with ⟨-, ends⟩ | fails | ⟨inner, passes⟩
    · rw [ends] at closed
      obtain ⟨rfl, same⟩ := Prod.mk.inj closed
      obtain rfl := GroupEnd.closed.inj same
      exact ⟨rfl, ends⟩
    · rw [fails] at closed
      cases closed
    · rw [passes, map_eq_closed_iff] at closed
      obtain ⟨body, found, rfl⟩ := closed
      obtain ⟨rfl, whatever⟩ := ih found
      refine ⟨rfl, fun behind => ?_⟩
      rw [List.cons_append, passes, whatever]
      rfl

/-- A group that is closed at its end ends with its first character, or goes on behind it
with a group that is closed at its end. -/
theorem closed_cons_cases {awaited : List Char} {c : Char} {t : Text}
    (closed : splitGroup awaited (c :: t) = (c :: t, .closed [])) :
    ((c = ')' ∨ c = ']') ∧ t = [] ∧ ∀ rest, splitGroup awaited (c :: rest) = ([c], .closed rest)) ∨
      ∃ inner, splitGroup inner t = (t, .closed []) ∧
        ∀ rest, splitGroup awaited (c :: rest) = (splitGroup inner rest).map (c :: ·) id := by
  rcases splitGroup_step awaited c with ⟨closes, ends⟩ | fails | ⟨inner, passes⟩
  · rw [ends] at closed
    obtain ⟨same, -⟩ := Prod.mk.inj closed
    exact .inl ⟨closes, (List.cons.inj same).2.symm, ends⟩
  · rw [fails] at closed
    cases closed
  · rw [passes, map_eq_closed_iff] at closed
    obtain ⟨_, found, same⟩ := closed
    obtain rfl := (List.cons.inj same).2
    exact .inr ⟨inner, found, passes⟩

/-- A closed group ends with a closing bracket. -/
theorem getLast?_of_closed {awaited : List Char} {body : Text}
    (closed : splitGroup awaited body = (body, .closed [])) :
    ∃ c, body.getLast? = some c ∧ (c = ')' ∨ c = ']') := by
  induction body generalizing awaited with
  | nil => cases closed
  | cons c t ih =>
    rcases closed_cons_cases closed with ⟨closes, rfl, -⟩ | ⟨inner, found, -⟩
    · exact ⟨c, rfl, closes⟩
    · obtain ⟨d, last, closes⟩ := ih found
      refine ⟨d, ?_, closes⟩
      rw [List.getLast?_cons, last]
      rfl

/-! ## Tidying -/

/-- Tidying keeps the brackets of a group. -/
theorem splitGroup_tidyFrom {awaited : List Char} {body : Text} (absorbed passed : Bool)
    (closed : splitGroup awaited body = (body, .closed [])) :
    splitGroup awaited (tidyFrom absorbed passed body) =
      (tidyFrom absorbed passed body, .closed []) := by
  induction body generalizing awaited absorbed passed with
  | nil => cases closed
  | cons c t ih =>
    by_cases space : Text.isSpace c = true
    · rw [splitGroup_of_space space, map_eq_closed_iff] at closed
      obtain ⟨_, found, same⟩ := closed
      obtain rfl := (List.cons.inj same).2
      rw [tidyFrom, if_pos space]
      exact ih absorbed true found
    · have kept : ∀ absorbed, splitGroup awaited (c :: tidyFrom absorbed false t) =
          (c :: tidyFrom absorbed false t, .closed []) := by
        intro absorbed
        rcases closed_cons_cases closed with ⟨-, rfl, ends⟩ | ⟨inner, found, passes⟩
        · rw [ends]
          rfl
        · rw [passes, ih absorbed false found]
          rfl
      rw [tidyFrom, if_neg space]
      split
      · exact kept true
      · split
        · rw [splitGroup_of_space (by decide), kept false]
          rfl
        · exact kept false

/-- A tidy text is left as it is. -/
theorem tidyFrom_tidyFrom (absorbed passed : Bool) (t : Text) :
    tidyFrom absorbed false (tidyFrom absorbed passed t) = tidyFrom absorbed passed t := by
  induction t generalizing absorbed passed with
  | nil => cases absorbed <;> cases passed <;> rfl
  | cons c t ih =>
    rw [tidyFrom]
    by_cases space : Text.isSpace c = true
    · rw [if_pos space, ih absorbed true]
    · rw [if_neg space]
      by_cases absorbs : absorbsSpace c = true
      · rw [if_pos absorbs, tidyFrom, if_neg space, if_pos absorbs, ih true false]
      · rw [if_neg absorbs]
        split
        · rename_i gap
          obtain ⟨rfl, open'⟩ := Bool.and_eq_true_iff.1 gap
          rw [tidyFrom, if_pos (by decide), tidyFrom, if_neg space, if_neg absorbs,
            if_pos (by simpa using open'), ih false false]
        · rw [tidyFrom, if_neg space, if_neg absorbs, if_neg (by simp), ih false false]

/-- Behind a character that absorbs nothing, the tidied text starts with a space, with a
character that absorbs, or as the text does. -/
theorem head?_tidyFrom {passed : Bool} {t : Text} {b : Char}
    (first : (tidyFrom false passed t).head? = some b) :
    b = ' ' ∨ absorbsSpace b = true ∨ (passed = false ∧ t.head? = some b) := by
  induction t generalizing passed with
  | nil =>
    cases passed with
    | false => cases first
    | true => exact .inl (Option.some.inj first).symm
  | cons c t ih =>
    rw [tidyFrom] at first
    split at first
    · rcases ih first with space | absorbs | ⟨impossible, -⟩
      · exact .inl space
      · exact .inr (.inl absorbs)
      · cases impossible
    · split at first
      · rename_i absorbs
        exact .inr (.inl (Option.some.inj first ▸ absorbs))
      · split at first
        · exact .inl (Option.some.inj first).symm
        · rename_i noGap
          exact .inr (.inr ⟨by simpa using noGap, first⟩)

/-- Tidying brings no comment into a text. -/
theorem commentFree_tidyFrom (absorbed passed : Bool) {t : Text} (free : CommentFree t) :
    CommentFree (tidyFrom absorbed passed t) := by
  induction t generalizing absorbed passed with
  | nil =>
    cases absorbed <;> cases passed <;> simp [tidyFrom, commentFree_nil, commentFree_singleton_iff]
  | cons c t ih =>
    obtain ⟨noHash, free, meet⟩ := commentFree_cons_iff.1 free
    have kept : CommentFree (c :: tidyFrom false false t) := by
      refine commentFree_cons_iff.2 ⟨noHash, ih false false free, fun b first opens => ?_⟩
      rcases head?_tidyFrom first with rfl | absorbs | ⟨-, first⟩
      · exact absurd opens.2 (by decide)
      · rcases opens.2 with rfl | rfl
        · exact absurd absorbs (by decide)
        · exact absurd absorbs (by decide)
      · exact meet b first opens
    rw [tidyFrom]
    split
    · exact ih absorbed true free
    · split
      · rename_i absorbs
        refine commentFree_cons_iff.2 ⟨noHash, ih true false free, fun b _ opens => ?_⟩
        rw [opens.1] at absorbs
        exact absurd absorbs (by decide)
      · split
        · refine commentFree_cons_iff.2 ⟨by decide, kept, ?_⟩
          intro b _ opens
          exact absurd opens.1 (by decide)
        · exact kept

/-! ## Groups -/

/-- A bracket group that is tidy and in which no comment starts. -/
def IsGroup (t : Text) : Prop :=
  ∃ opener closer body, closerOf? opener = some closer ∧ t = opener :: body ∧
    splitGroup [closer] body = (body, .closed []) ∧ normalizeGroup t = t ∧ CommentFree t

theorem bracket_of_closerOf? {opener closer : Char} (brackets : closerOf? opener = some closer) :
    opener = '(' ∨ opener = '[' := by
  unfold closerOf? at brackets
  split at brackets
  · exact .inl ‹_›
  · split at brackets
    · exact .inr ‹_›
    · cases brackets

/-- A group stands between its brackets. -/
theorem ends_of_isGroup {t : Text} (group : IsGroup t) :
    (∃ opener, t.head? = some opener ∧ (opener = '(' ∨ opener = '[')) ∧
      ∃ c, t.getLast? = some c ∧ (c = ')' ∨ c = ']') := by
  obtain ⟨opener, closer, body, brackets, rfl, closed, -, -⟩ := group
  obtain ⟨c, last, closes⟩ := getLast?_of_closed closed
  refine ⟨⟨opener, rfl, bracket_of_closerOf? brackets⟩, c, ?_, closes⟩
  rw [List.getLast?_cons, last]
  rfl

theorem normalizeGroup_cons {opener closer : Char} (brackets : closerOf? opener = some closer)
    (body : Text) :
    normalizeGroup (opener :: body) = opener :: tidyFrom (absorbsSpace opener) false body := by
  rcases bracket_of_closerOf? brackets with rfl | rfl
  · rfl
  · rfl

/-- A group of a text without comments becomes one that is read as itself. -/
theorem isGroup_normalizeGroup {opener closer : Char} {t body rest : Text}
    (brackets : closerOf? opener = some closer)
    (closed : splitGroup [closer] t = (body, .closed rest)) (free : CommentFree (opener :: t)) :
    IsGroup (normalizeGroup (opener :: body)) := by
  obtain ⟨rfl, whatever⟩ := splitGroup_append closed
  have whole : splitGroup [closer] body = (body, .closed []) := by
    have alone := whatever []
    rwa [List.append_nil] at alone
  have front : CommentFree (opener :: body) :=
    free.of_infix (List.prefix_append (opener :: body) rest).isInfix
  have tidied : CommentFree (normalizeGroup (opener :: body)) :=
    commentFree_tidyFrom false false front
  refine ⟨opener, closer, _, brackets, normalizeGroup_cons brackets body,
    splitGroup_tidyFrom _ false whole, tidyFrom_tidyFrom false false _, tidied⟩

end PromptTemplate.Template
