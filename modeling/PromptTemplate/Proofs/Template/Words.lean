/-
# PromptTemplate.Proofs.Template.Words -- the white space and the words of literals

A literal is well spaced: all its white space is single spaces between visible
characters (`WellSpaced`), since its words are, and they are joined by single spaces.  The
white space in a group is tidied for that, which leaves its visible characters as they are
(`visible_tidyFrom`).

The words of a text are what stands between its white space (`words`).
-/
import PromptTemplate.Proofs.Template.Literals
import PromptTemplate.Proofs.Text.Trimming

set_option autoImplicit false

namespace PromptTemplate

namespace Text

/-! ## Visible characters -/

def visible (t : Text) : Text :=
  t.filter fun c => !isSpace c

theorem visible_append (s t : Text) : visible (s ++ t) = visible s ++ visible t :=
  List.filter_append s t

theorem visible_cons_of_space {c : Char} (space : isSpace c = true) (t : Text) :
    visible (c :: t) = visible t := by
  rw [visible, List.filter_cons, space]
  rfl

theorem visible_cons_of_visible {c : Char} (seen : isSpace c = false) (t : Text) :
    visible (c :: t) = c :: visible t := by
  rw [visible, List.filter_cons, seen]
  rfl

/-- Joining words by spaces adds nothing visible. -/
theorem visible_joinAll (words : List Text) :
    visible (joinAll [' '] words) = visible words.flatten := by
  induction words with
  | nil => rfl
  | cons word words ih =>
    cases words with
    | nil => rw [joinAll, List.intercalate_singleton, List.flatten_singleton]
    | cons next words =>
      have gap : visible [' '] = [] := by decide
      rw [joinAll, List.intercalate_cons_cons, visible_append, visible_append, gap,
        List.append_nil, List.flatten_cons, visible_append, ← ih, joinAll]

/-! ## Well-spaced texts -/

/-- All white space of the text is single spaces, and none is at its ends. -/
structure WellSpaced (t : Text) : Prop where
  eq_space : ∀ c ∈ t, isSpace c = true → c = ' '
  single : ¬ [' ', ' '] <:+: t
  head_visible : ∀ c, t.head? = some c → isSpace c = false
  last_visible : ∀ c, t.getLast? = some c → isSpace c = false

namespace WellSpaced

theorem nil : WellSpaced [] :=
  ⟨nofun, fun inside => absurd inside.length_le (by decide), nofun, nofun⟩

theorem singleton {c : Char} (seen : isSpace c = false) : WellSpaced [c] where
  eq_space := by
    intro d member space
    rw [List.mem_singleton.1 member, seen] at space
    cases space
  single inside := absurd inside.length_le (by simp)
  head_visible d first := Option.some.inj first ▸ seen
  last_visible d last := Option.some.inj last ▸ seen

variable {s t : Text}

theorem append (front : WellSpaced s) (back : WellSpaced t) : WellSpaced (s ++ t) where
  eq_space c member := (List.mem_append.1 member).elim (front.eq_space c) (back.eq_space c)
  single := by
    rw [pair_infix_append_iff]
    rintro (inside | inside | ⟨last, -⟩)
    · exact front.single inside
    · exact back.single inside
    · exact absurd (front.last_visible _ last) (by decide)
  head_visible c first := by
    rw [List.head?_append, Option.or_eq_some_iff] at first
    exact first.elim (front.head_visible c) fun later => back.head_visible c later.2
  last_visible c last := by
    rw [List.getLast?_append, Option.or_eq_some_iff] at last
    exact last.elim (back.last_visible c) fun earlier => front.last_visible c earlier.2

theorem flatten {texts : List Text} (each : ∀ t ∈ texts, WellSpaced t) :
    WellSpaced texts.flatten := by
  induction texts with
  | nil => exact nil
  | cons t texts ih =>
    obtain ⟨first, others⟩ := List.forall_mem_cons.1 each
    exact first.append (ih others)

/-- A space may stand between two texts. -/
theorem spaced (front : WellSpaced s) (back : WellSpaced t) (some : s ≠ []) (some' : t ≠ []) :
    WellSpaced (s ++ ' ' :: t) where
  eq_space c member := by
    rcases List.mem_append.1 member with inside | behind
    · exact front.eq_space c inside
    · rcases List.mem_cons.1 behind with rfl | inside
      · exact fun _ => rfl
      · exact back.eq_space c inside
  single := by
    rw [pair_infix_append_iff, pair_infix_cons_iff]
    rintro (inside | (inside | ⟨-, first⟩) | ⟨last, -⟩)
    · exact front.single inside
    · exact back.single inside
    · exact absurd (back.head_visible _ first) (by decide)
    · exact absurd (front.last_visible _ last) (by decide)
  head_visible c first := by
    rw [List.head?_append_of_ne_nil _ some] at first
    exact front.head_visible c first
  last_visible c last := by
    rw [List.getLast?_append_of_ne_nil _ (List.cons_ne_nil _ _), ← List.singleton_append,
      List.getLast?_append_of_ne_nil _ some'] at last
    exact back.last_visible c last

/-- There is nothing to trim. -/
theorem trim_eq (spaced : WellSpaced t) : trim t = t := by
  have front : trimStart t = t := by
    refine trimStart_eq_self_iff.2 fun positive => spaced.head_visible _ ?_
    rw [List.head?_eq_getElem?, List.getElem?_eq_getElem positive]
  have back : trimEnd t = t := by
    rw [trimEnd, ← List.rdropWhile, List.rdropWhile_eq_self_iff]
    intro some
    simpa using spaced.last_visible _ (List.getLast?_eq_some_getLast some)
  rw [trim, front, back]

end WellSpaced

/-! ## Words -/

/-- The words of a text: what stands between its white space. -/
def words (t : Text) : List Text :=
  (t.splitOnP isSpace).filter fun word => !word.isEmpty

theorem ne_nil_of_mem_words {t word : Text} (member : word ∈ words t) : word ≠ [] := by
  simpa using (List.mem_filter.1 member).2

theorem joinAll_words_eq_nil_iff {t : Text} : joinAll [' '] (words t) = [] ↔ words t = [] := by
  cases shape : words t with
  | nil => exact iff_of_true rfl rfl
  | cons word rest =>
    have some : word ≠ [] := ne_nil_of_mem_words (shape ▸ List.mem_cons_self)
    exact iff_of_false (intercalate_ne_nil [' '] rest some) (List.cons_ne_nil _ _)

end Text

namespace Template

open Text (isSpace visible WellSpaced visible_append visible_cons_of_space
  visible_cons_of_visible)

/-! ## Groups -/

/-- Tidying leaves the visible characters as they are. -/
theorem visible_tidyFrom (absorbed passed : Bool) (t : Text) :
    visible (tidyFrom absorbed passed t) = visible t := by
  induction t generalizing absorbed passed with
  | nil => cases absorbed <;> cases passed <;> rfl
  | cons c t ih =>
    rw [tidyFrom]
    by_cases space : isSpace c = true
    · rw [if_pos space, ih, visible_cons_of_space space]
    · rw [if_neg space]
      have seen := Bool.eq_false_iff.2 space
      split
      · rw [visible_cons_of_visible seen, visible_cons_of_visible seen, ih]
      · split
        · rw [visible_cons_of_space (by decide), visible_cons_of_visible seen,
            visible_cons_of_visible seen, ih]
        · rw [visible_cons_of_visible seen, visible_cons_of_visible seen, ih]

/-- The white space of a tidied text is single spaces. -/
theorem spaces_tidyFrom (absorbed passed : Bool) (t : Text) :
    (∀ c ∈ tidyFrom absorbed passed t, isSpace c = true → c = ' ') ∧
      ¬ [' ', ' '] <:+: tidyFrom absorbed passed t := by
  induction t generalizing absorbed passed with
  | nil =>
    rw [tidyFrom]
    split
    · exact ⟨fun c member _ => List.mem_singleton.1 member,
        fun inside => absurd inside.length_le (by simp)⟩
    · exact ⟨List.forall_mem_nil _, fun inside => absurd inside.length_le (by simp)⟩
  | cons c t ih =>
    rw [tidyFrom]
    by_cases space : isSpace c = true
    · rw [if_pos space]
      exact ih absorbed true
    · -- in front of a visible character there may be one space
      have front : ∀ absorbed, (∀ d ∈ c :: tidyFrom absorbed false t, isSpace d = true → d = ' ') ∧
          ¬ [' ', ' '] <:+: c :: tidyFrom absorbed false t := by
        intro absorbed
        obtain ⟨spaces, single⟩ := ih absorbed false
        refine ⟨List.forall_mem_cons.2 ⟨fun impossible => absurd impossible space, spaces⟩, ?_⟩
        rw [pair_infix_cons_iff]
        rintro (inside | ⟨rfl, -⟩)
        · exact single inside
        · exact space (by decide)
      rw [if_neg space]
      split
      · exact front true
      · split
        · obtain ⟨spaces, single⟩ := front false
          refine ⟨List.forall_mem_cons.2 ⟨fun _ => rfl, spaces⟩, ?_⟩
          rw [pair_infix_cons_iff]
          rintro (inside | ⟨-, first⟩)
          · exact single inside
          · obtain rfl := Option.some.inj first
            exact space (by decide)
        · exact front false

/-- A tidy group has single spaces only. -/
theorem wellSpaced_of_isGroup {t : Text} (group : IsGroup t) : WellSpaced t := by
  obtain ⟨⟨opener, first, opens⟩, closer, last, closes⟩ := ends_of_isGroup group
  obtain ⟨-, -, -, -, -, -, tidy, -⟩ := group
  obtain ⟨spaces, single⟩ := spaces_tidyFrom false false t
  rw [← normalizeGroup, tidy] at spaces single
  refine ⟨spaces, single, fun c head => ?_, fun c end' => ?_⟩
  · obtain rfl := Option.some.inj (first.symm.trans head)
    rcases opens with rfl | rfl <;> decide
  · obtain rfl := Option.some.inj (last.symm.trans end')
    rcases closes with rfl | rfl <;> decide

/-! ## Literals -/

theorem wellSpaced_of_isAtom {t : Text} (atom : Token.IsAtom t) : WellSpaced t := by
  rcases atom with ⟨c, rfl, seen, -⟩ | group
  · exact .singleton seen
  · exact wellSpaced_of_isGroup group

theorem wellSpaced_wordsText {words : List (List Text)} (all : ∀ atoms ∈ words, IsWord atoms) :
    WellSpaced (wordsText words) := by
  induction words with
  | nil => exact .nil
  | cons atoms words ih =>
    obtain ⟨word, others⟩ := List.forall_mem_cons.1 all
    have front : WellSpaced atoms.flatten :=
      .flatten fun t member => wellSpaced_of_isAtom (word.all_atoms t member)
    cases words with
    | nil => rwa [wordsText_singleton]
    | cons next words =>
      rw [wordsText_cons_cons]
      exact front.spaced (ih others) (flatten_ne_nil word)
        (wordsText_ne_nil (List.cons_ne_nil _ _) others)

theorem wellSpaced_of_isLiteralText {t : Text} (literal : IsLiteralText t) : WellSpaced t := by
  obtain ⟨words, -, all, rfl⟩ := literal
  exact wellSpaced_wordsText all

end Template

end PromptTemplate
