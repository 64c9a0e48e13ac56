/-
# PromptTemplate.Proofs.Template.Literals -- the texts of literals

A literal is made of words with one space between each two, and a word of atoms that
may stand side by side (`IsLiteralText`).  Such a text is read back as its words
whatever comes behind it, as long as that is no underscore (`assemble_words`), and the
words are gathered into one literal (`gather_words`); so it is a template text that
writes itself (`parse_literal`).
-/
import PromptTemplate.Proofs.Template.Scanning

set_option autoImplicit false

namespace PromptTemplate.Template

open Token

/-! ## Words -/

/-- The atoms of a word. -/
structure IsWord (atoms : List Text) : Prop where
  nonempty : atoms ≠ []
  all_atoms : ∀ t ∈ atoms, IsAtom t
  chain : atoms.IsChain MayMeet

theorem flatten_ne_nil {atoms : List Text} (word : IsWord atoms) : atoms.flatten ≠ [] := by
  obtain ⟨t, rest, rfl⟩ := List.exists_cons_of_ne_nil word.nonempty
  exact List.append_ne_nil_of_left_ne_nil
    (isAtom_ne_nil (word.all_atoms t List.mem_cons_self)) rest.flatten

theorem head?_flatten {t : Text} {atoms : List Text} {b : Char} {rest : Text} (visible : t ≠ [])
    (first : ((t :: atoms).flatten ++ rest).head? = some b) : t.head? = some b := by
  obtain ⟨c, tail, rfl⟩ := List.exists_cons_of_ne_nil visible
  exact first

/-- The atoms of a word are read one by one. -/
theorem tokens_atoms {atoms : List Text} (all : ∀ t ∈ atoms, IsAtom t)
    (chain : atoms.IsChain MayMeet) {rest : Text} (behind : rest.head? ≠ some '_') :
    tokens (atoms.flatten ++ rest) = atoms.map .text ++ tokens rest := by
  induction atoms with
  | nil => rfl
  | cons t atoms ih =>
    obtain ⟨atom, others⟩ := List.forall_mem_cons.1 all
    obtain ⟨meet, later⟩ := List.isChain_cons.1 chain
    rw [List.flatten_cons, List.append_assoc, tokens_atom atom, ih others later]
    · rfl
    · rintro rfl first
      cases atoms with
      | nil => exact behind first
      | cons u atoms =>
        have starts := head?_flatten (isAtom_ne_nil (others u List.mem_cons_self)) first
        exact (meet u rfl '_' '_' rfl starts).1 ⟨rfl, rfl⟩

theorem commentFree_atoms {atoms : List Text} (all : ∀ t ∈ atoms, IsAtom t)
    (chain : atoms.IsChain MayMeet) : CommentFree atoms.flatten := by
  induction atoms with
  | nil => exact commentFree_nil
  | cons t atoms ih =>
    obtain ⟨atom, others⟩ := List.forall_mem_cons.1 all
    obtain ⟨meet, later⟩ := List.isChain_cons.1 chain
    rw [List.flatten_cons]
    refine commentFree_append_iff.2 ⟨commentFree_of_isAtom atom, ih others later, ?_⟩
    intro a b last first
    cases atoms with
    | nil => cases first
    | cons u atoms =>
      rw [← List.append_nil (u :: atoms).flatten] at first
      have starts := head?_flatten (isAtom_ne_nil (others u List.mem_cons_self)) first
      exact (meet u rfl a b last starts).2

/-! ## Texts of words -/

/-- The text of words, given by their atoms. -/
def wordsText (words : List (List Text)) : Text :=
  Text.joinAll [' '] (words.map List.flatten)

def wordsPieces : List (List Text) → List Piece
  | [] => []
  | [atoms] => atoms.map .text
  | atoms :: rest => atoms.map .text ++ .gap :: wordsPieces rest

def IsLiteralText (t : Text) : Prop :=
  ∃ words, words ≠ [] ∧ (∀ atoms ∈ words, IsWord atoms) ∧ t = wordsText words

theorem wordsText_cons_cons (atoms next : List Text) (rest : List (List Text)) :
    wordsText (atoms :: next :: rest) = atoms.flatten ++ ' ' :: wordsText (next :: rest) := by
  simp only [wordsText, Text.joinAll, List.map_cons, List.intercalate_cons_cons,
    List.append_assoc, List.singleton_append]

theorem wordsText_singleton (atoms : List Text) : wordsText [atoms] = atoms.flatten := by
  simp only [wordsText, Text.joinAll, List.map_cons, List.map_nil, List.intercalate_singleton]

theorem wordsPieces_cons_cons (atoms next : List Text) (rest : List (List Text)) :
    wordsPieces (atoms :: next :: rest) =
      atoms.map .text ++ .gap :: wordsPieces (next :: rest) := rfl

theorem commentFree_wordsText {words : List (List Text)} (all : ∀ atoms ∈ words, IsWord atoms) :
    CommentFree (wordsText words) := by
  induction words with
  | nil => exact commentFree_nil
  | cons atoms words ih =>
    obtain ⟨word, others⟩ := List.forall_mem_cons.1 all
    have front := commentFree_atoms word.all_atoms word.chain
    cases words with
    | nil => rwa [wordsText_singleton]
    | cons next words =>
      rw [wordsText_cons_cons]
      refine commentFree_append_iff.2 ⟨front, commentFree_cons_iff.2 ⟨by decide, ih others, ?_⟩, ?_⟩
      · exact fun b _ opens => absurd opens.1 (by decide)
      · rintro a b - first opens
        obtain rfl := Option.some.inj first
        exact absurd opens.2 (by decide)

theorem wordsText_ne_nil {words : List (List Text)} (nonempty : words ≠ [])
    (all : ∀ atoms ∈ words, IsWord atoms) : wordsText words ≠ [] := by
  obtain ⟨atoms, words, rfl⟩ := List.exists_cons_of_ne_nil nonempty
  have front := flatten_ne_nil (all atoms List.mem_cons_self)
  cases words with
  | nil => rwa [wordsText_singleton]
  | cons next words =>
    rw [wordsText_cons_cons]
    exact List.append_ne_nil_of_left_ne_nil front _

/-! ## Reading words -/

theorem assemble_atoms (outer : List OpenVariant) (pieces : List Piece) (atoms : List Text)
    (rest : List Token) :
    assemble outer pieces (atoms.map .text ++ rest) =
      assemble outer ((atoms.map .text).reverse ++ pieces) rest := by
  induction atoms generalizing pieces with
  | nil => rfl
  | cons t atoms ih =>
    rw [List.map_cons, List.cons_append, assemble, ih, List.map_cons, List.reverse_cons,
      List.append_assoc]
    rfl

/-- Words are read as their pieces. -/
theorem assemble_words (outer : List OpenVariant) (pieces : List Piece)
    {words : List (List Text)} (all : ∀ atoms ∈ words, IsWord atoms) {rest : Text}
    (behind : rest.head? ≠ some '_') :
    assemble outer pieces (tokens (wordsText words ++ rest)) =
      assemble outer ((wordsPieces words).reverse ++ pieces) (tokens rest) := by
  induction words generalizing pieces with
  | nil => rfl
  | cons atoms words ih =>
    obtain ⟨word, others⟩ := List.forall_mem_cons.1 all
    cases words with
    | nil =>
      rw [wordsText_singleton, tokens_atoms word.all_atoms word.chain behind, assemble_atoms,
        wordsPieces]
    | cons next words =>
      have space : (' ' :: (wordsText (next :: words) ++ rest)).head? ≠ some '_' := by simp
      rw [wordsText_cons_cons, List.append_assoc, List.cons_append,
        tokens_atoms word.all_atoms word.chain space, assemble_atoms, tokens_space, assemble,
        ih _ others, wordsPieces_cons_cons, List.reverse_append, List.reverse_cons,
        List.append_assoc, List.append_assoc]
      rfl

/-! ## Gathering words -/

theorem foldr_atoms (atoms : List Text) (g : Gathered) :
    (atoms.map Piece.text).foldr Gathered.add g = { g with word := atoms.flatten ++ g.word } := by
  induction atoms with
  | nil => rfl
  | cons t atoms ih =>
    rw [List.map_cons, List.foldr_cons, ih, Gathered.add, List.flatten_cons, List.append_assoc]

/-- The pieces of words are gathered into the words, in front of parts that start with no
word. -/
theorem gather_words {words : List (List Text)} (all : ∀ atoms ∈ words, IsWord atoms)
    (parts : List Template) :
    ((wordsPieces words).foldr Gathered.add ⟨[], [], parts⟩).allWords = words.map List.flatten ∧
      ((wordsPieces words).foldr Gathered.add ⟨[], [], parts⟩).parts = parts := by
  induction words with
  | nil => exact ⟨rfl, rfl⟩
  | cons atoms words ih =>
    obtain ⟨word, others⟩ := List.forall_mem_cons.1 all
    have visible := flatten_ne_nil word
    cases words with
    | nil =>
      rw [wordsPieces, foldr_atoms, List.append_nil]
      simp [Gathered.allWords, visible]
    | cons next words =>
      obtain ⟨later, same⟩ := ih others
      rw [wordsPieces_cons_cons, List.foldr_append, List.foldr_cons, foldr_atoms, Gathered.add,
        List.append_nil]
      refine ⟨?_, same⟩
      rw [Gathered.allWords, if_neg (by simpa using visible), later]
      rfl

/-- Words beside each other are gathered into one literal. -/
theorem allParts_words {words : List (List Text)} (nonempty : words ≠ [])
    (all : ∀ atoms ∈ words, IsWord atoms) (parts : List Template) :
    ((wordsPieces words).foldr Gathered.add ⟨[], [], parts⟩).allParts =
      .literal (wordsText words) :: parts := by
  obtain ⟨texts, same⟩ := gather_words all parts
  have visible : (words.map List.flatten).isEmpty = false := by simpa using nonempty
  rw [Gathered.allParts, texts, same, visible, wordsText]
  rfl

/-- The text of a literal is a template text that writes it. -/
theorem parse_literal {t : Text} (literal : IsLiteralText t) :
    parse t = .ok (.ofParts [.literal t]) := by
  obtain ⟨words, nonempty, all, rfl⟩ := literal
  have atEnd : ([] : Text).head? ≠ some '_' := by simp
  have read := assemble_words [] [] all atEnd
  rw [List.append_nil, tokens, List.append_nil, assemble, ofPieces, gather, List.reverse_reverse,
    Gathered.empty, allParts_words nonempty all] at read
  rw [parse, stripComments_eq_self (commentFree_wordsText all), parseStripped, read]

end PromptTemplate.Template
