/-
# PromptTemplate.Proofs.Template.Spacing -- texts with white space between them

A text that parses, white space, and another text are parsed as the two texts are: the
parts of the first, then those of the second, and where text meets text the two make one
literal (`spaced`).  An error of the second text stays the same error, as many bytes
further on (`parse_spaced`).

The pieces of both texts with gaps between them are gathered from the back, so what the
first pieces make is compared with what they make in front of what is already there
(`Seam`).  Up to the first template from the front the words behind the seam are still
open; from then on they are in the last parts.
-/
import PromptTemplate.Proofs.Template.Faults
import PromptTemplate.Proofs.Template.Framing

set_option autoImplicit false

namespace PromptTemplate

theorem Text.joinAll_append (separator : Text) {front back : List Text} (some : front ≠ [])
    (some' : back ≠ []) : joinAll separator (front ++ back) =
      joinAll separator front ++ separator ++ joinAll separator back := by
  unfold joinAll
  induction front with
  | nil => exact absurd rfl some
  | cons t front ih =>
    cases front with
    | nil => rw [List.singleton_append, List.intercalate_cons_of_ne_nil some',
        List.intercalate_singleton]
    | cons u front =>
      rw [List.cons_append, List.cons_append, List.intercalate_cons_cons, ← List.cons_append,
        ih (List.cons_ne_nil _ _), List.intercalate_cons_cons]
      simp only [List.append_assoc]

namespace Template

open Token

/-! ## Parts with white space between them -/

/-- The parts of two texts with white space between them: text at the end of the first and
text at the beginning of the second make one literal. -/
def spaced (front back : List Template) : List Template :=
  match front.getLast?, back with
  | some (.literal s), .literal t :: rest => front.dropLast ++ .literal (s ++ ' ' :: t) :: rest
  | _, _ => front ++ back

theorem spaced_nil_left (back : List Template) : spaced [] back = back := rfl

theorem spaced_literals (s t : Text) (rest : List Template) :
    spaced [.literal s] (.literal t :: rest) = .literal (s ++ ' ' :: t) :: rest := rfl

/-- In front of no text the parts are put one behind the other. -/
theorem spaced_of_node {back : List Template} (front : List Template)
    (isNode : ∀ part, back.head? = some part → part.isLiteral = false) :
    spaced front back = front ++ back := by
  unfold spaced
  split
  · cases isNode _ rfl
  · rfl

/-- A part stays in front, unless it is text and the last one. -/
theorem spaced_cons {part : Template} {front : List Template}
    (inner : part.isLiteral = false ∨ front ≠ []) (back : List Template) :
    spaced (part :: front) back = part :: spaced front back := by
  cases front with
  | nil =>
    have isNode := inner.resolve_right (fun some => some rfl)
    cases part with
    | literal s => cases isNode
    | _ => rfl
  | cons next front =>
    unfold spaced
    rw [List.getLast?_cons_cons, List.dropLast_cons_cons]
    split <;> rfl

/-! ## Gathering in front of white space -/

/-- What pieces make on their own, and what they make in front of white space and of what
is gathered behind it. -/
inductive Seam (back : Gathered) : Gathered → Gathered → Prop where
  | words (word : Text) (words : List Text) :
    Seam back ⟨word, words, []⟩ ⟨word, words ++ back.allWords, back.parts⟩
  | parts (word : Text) (words : List Text) (part : Template) (parts : List Template) :
    Seam back ⟨word, words, part :: parts⟩ ⟨word, words, spaced (part :: parts) back.allParts⟩

section Seam

variable {back own whole : Gathered}

theorem Gathered.allWords_append (word : Text) (words later : List Text)
    (parts parts' : List Template) :
    allWords ⟨word, words ++ later, parts⟩ = allWords ⟨word, words, parts'⟩ ++ later := by
  unfold allWords
  split <;> rfl

theorem Gathered.allParts_of_allWords_eq_nil {g : Gathered} (none : g.allWords = []) :
    g.allParts = g.parts := by
  rw [allParts, none]
  rfl

theorem Gathered.allParts_of_allWords_ne_nil {g : Gathered} (some : g.allWords ≠ []) :
    g.allParts = .literal (Text.joinAll [' '] g.allWords) :: g.parts := by
  rw [allParts, if_neg (by simpa using some)]

/-- Text in front of the seam is put together with text behind it. -/
theorem Seam.allParts_eq (seam : Seam back own whole)
    (isNode : ∀ part, back.parts.head? = some part → part.isLiteral = false) :
    whole.allParts = spaced own.allParts back.allParts := by
  cases seam with
  | words word words =>
    have joined := Gathered.allWords_append word words back.allWords back.parts []
    by_cases front : Gathered.allWords ⟨word, words, []⟩ = []
    · -- only white space in front: what is behind stays as it is
      rw [Gathered.allParts_of_allWords_eq_nil front, spaced_nil_left, Gathered.allParts, joined,
        front]
      rfl
    · have some : Gathered.allWords ⟨word, words ++ back.allWords, back.parts⟩ ≠ [] := by
        rw [joined]
        exact List.append_ne_nil_of_left_ne_nil front _
      rw [Gathered.allParts_of_allWords_ne_nil front, Gathered.allParts_of_allWords_ne_nil some,
        joined]
      by_cases behind : back.allWords = []
      · -- behind the seam a template comes first, or nothing
        rw [Gathered.allParts_of_allWords_eq_nil behind, spaced_of_node _ isNode, behind,
          List.append_nil]
        rfl
      · rw [Gathered.allParts_of_allWords_ne_nil behind, spaced_literals,
          Text.joinAll_append [' '] front behind, List.append_assoc]
        rfl
  | parts word words part parts =>
    have same : Gathered.allWords ⟨word, words, spaced (part :: parts) back.allParts⟩ =
        Gathered.allWords ⟨word, words, part :: parts⟩ := rfl
    by_cases none : Gathered.allWords ⟨word, words, part :: parts⟩ = []
    · rw [Gathered.allParts_of_allWords_eq_nil none,
        Gathered.allParts_of_allWords_eq_nil (same.trans none)]
    · rw [Gathered.allParts_of_allWords_ne_nil none,
        Gathered.allParts_of_allWords_ne_nil (same ▸ none), same,
        spaced_cons (.inr (List.cons_ne_nil _ _))]

/-- One more piece in front. -/
theorem Seam.add {limit : Nat} {p : Piece} (seam : Seam back own whole)
    (isNode : ∀ part, back.parts.head? = some part → part.isLiteral = false)
    (sound : PieceSound limit p) : Seam back (Gathered.add p own) (Gathered.add p whole) := by
  cases p with
  | text t =>
    cases seam with
    | words word words => exact .words (t ++ word) words
    | parts word words part parts => exact .parts (t ++ word) words part parts
  | gap =>
    cases seam with
    | words word words =>
      rw [Gathered.add, Gathered.add, Gathered.allWords_append word words back.allWords _ []]
      exact .words [] _
    | parts word words part parts => exact .parts [] _ part parts
  | node template =>
    rw [Gathered.add, Gathered.add, seam.allParts_eq isNode, ← spaced_cons (.inl sound.1)]
    exact .parts [] [] template own.allParts

theorem seam_foldr {limit : Nat} {front : List Piece}
    (isNode : ∀ part, back.parts.head? = some part → part.isLiteral = false)
    (sound : ∀ p ∈ front, PieceSound limit p) :
    Seam back (front.foldr Gathered.add Gathered.empty)
      (front.foldr Gathered.add (Gathered.add .gap back)) := by
  induction front with
  | nil => exact .words [] []
  | cons p front ih =>
    obtain ⟨first, others⟩ := List.forall_mem_cons.1 sound
    exact (ih others).add isNode first

end Seam

/-- White space is white space, however much of it. -/
theorem foldr_gaps {n : Nat} (some : n ≠ 0) (g : Gathered) :
    (List.replicate n Piece.gap).foldr Gathered.add g = Gathered.add .gap g := by
  induction n with
  | zero => exact absurd rfl some
  | succ n ih =>
    rw [List.replicate_succ, List.foldr_cons]
    by_cases single : n = 0
    · rw [single]
      rfl
    · rw [ih single]
      rfl

/-- With white space between them pieces make what they make on their own, spaced. -/
theorem gather_spaced {limit limit' n : Nat} {front back : List Piece} (some : n ≠ 0)
    (sound : PiecesSound limit front) (sound' : PiecesSound limit' back) :
    gather (front ++ (List.replicate n .gap ++ back)) = spaced (gather front) (gather back) := by
  have isNode := (gatheredSound_foldr sound').first_node
  rw [gather, List.foldr_append, List.foldr_append, foldr_gaps some]
  exact (seam_foldr isNode sound.all_sound).allParts_eq isNode

/-! ## White space in a text -/

section Spaces

variable {w : Text}

/-- Every character of white space makes a gap of its own. -/
theorem assemble_spaces (spaces : ∀ c ∈ w, Text.isSpace c = true) (outer : List OpenVariant)
    (before : List Piece) (rest : Text) :
    assemble outer before (tokens (w ++ rest)) =
      assemble outer (List.replicate w.length .gap ++ before) (tokens rest) := by
  induction w generalizing before with
  | nil => rfl
  | cons c w ih =>
    obtain ⟨space, spaces⟩ := List.forall_mem_cons.1 spaces
    rw [List.cons_append, tokens_of_space space, assemble, ih spaces, List.length_cons,
      List.replicate_succ', List.append_assoc, List.singleton_append]

theorem head?_spaces_append (nonempty : w ≠ []) (spaces : ∀ c ∈ w, Text.isSpace c = true)
    (rest : Text) : ∃ c, (w ++ rest).head? = some c ∧ Text.isSpace c = true := by
  obtain ⟨c, w, rfl⟩ := List.exists_cons_of_ne_nil nonempty
  exact ⟨c, rfl, spaces c List.mem_cons_self⟩

/-- White space keeps the ends of texts apart, so no comment comes about. -/
theorem commentFree_spaced {a b : Text} (free : CommentFree a) (free' : CommentFree b)
    (nonempty : w ≠ []) (spaces : ∀ c ∈ w, Text.isSpace c = true) :
    CommentFree (a ++ (w ++ b)) := by
  have between : CommentFree w := by
    refine commentFree_of_forall fun c member => ⟨?_, ?_⟩
    · rintro rfl
      exact absurd (spaces _ member) (by decide)
    · rintro rfl
      exact absurd (spaces _ member) (by decide)
  have behind : CommentFree (w ++ b) := by
    refine commentFree_append_iff.2 ⟨between, free', fun c d last _ opens => ?_⟩
    have space := spaces c (List.mem_of_getLast? last)
    rw [opens.1] at space
    exact absurd space (by decide)
  refine commentFree_append_of_head free behind fun c first => ?_
  obtain ⟨d, first', space⟩ := head?_spaces_append nonempty spaces b
  obtain rfl := Option.some.inj (first.symm.trans first')
  constructor
  · rintro rfl
    exact absurd space (by decide)
  · rintro rfl
    exact absurd space (by decide)

end Spaces

/-! ## Parsing -/

section Parsing

variable {a b w : Text} (free : CommentFree a) (free' : CommentFree b) (nonempty : w ≠ [])
  (spaces : ∀ c ∈ w, Text.isSpace c = true)

include free free' nonempty spaces

/-- Behind a text that parses and white space the other text is read as it is on its own, on
top of the pieces of the first. -/
theorem exists_assemble_spaced {template : Template} (read : parse a = .ok template) :
    ∃ pieces limit, PiecesSound limit pieces ∧ template = ofPieces pieces ∧
      assemble [] [] (tokens (stripComments (a ++ w ++ b))) =
        assemble [] (List.replicate w.length .gap ++ pieces.reverse) (tokens b) := by
  obtain ⟨pieces, limit, reads, sound, makes⟩ := exists_readsAs_of_parse free read
  have behind : (w ++ b).head? ≠ some '_' := by
    intro first
    obtain ⟨c, first', space⟩ := head?_spaces_append nonempty spaces b
    obtain rfl := Option.some.inj (first.symm.trans first')
    exact absurd space (by decide)
  refine ⟨pieces, limit, sound, makes, ?_⟩
  rw [List.append_assoc, stripComments_eq_self (commentFree_spaced free free' nonempty spaces),
    reads [] [] _ behind, assemble_spaces spaces, List.append_nil]

/-- Two texts with white space between them have their parts side by side, joined where
text meets text. -/
theorem parse_ok_spaced {front back : List Template} (read : parse a = .ok (.ofParts front))
    (read' : parse b = .ok (.ofParts back)) :
    parse (a ++ w ++ b) = .ok (.ofParts (spaced front back)) := by
  obtain ⟨pieces, limit, sound, makes, whole⟩ :=
    exists_assemble_spaced free free' nonempty spaces read
  obtain ⟨pieces', limit', reads', sound', makes'⟩ := exists_readsAs_of_parse free' read'
  have gaps : w.length ≠ 0 := fun none => nonempty (List.length_eq_zero_iff.1 none)
  obtain ⟨rfl, -⟩ := Template.sequence.inj makes
  obtain ⟨rfl, -⟩ := Template.sequence.inj makes'
  rw [parse_eq_ok_iff, whole, reads'.at_end, assemble, ofPieces, ← gather_spaced gaps sound sound']
  simp only [List.reverse_append, List.reverse_reverse, List.reverse_replicate, List.append_assoc]

/-- A fault of the second text stays the same, as far on as what is in front of that text
reaches. -/
theorem parse_error_spaced {template : Template} {e : ParseError} (read : parse a = .ok template)
    (failed : parse b = .error e) :
    parse (a ++ w ++ b) =
      .error ⟨e.fault, e.position + Text.utf8Size a + Text.utf8Size w, e.fragment⟩ := by
  obtain ⟨pieces, -, -, -, whole⟩ := exists_assemble_spaced free free' nonempty spaces read
  rw [parse_eq_error_iff, stripComments_eq_self free'] at failed
  obtain ⟨stop, failed, rfl⟩ := failed
  obtain ⟨before, shape, -⟩ := tellsIn_of_assemble failed
  rw [parse_eq_error_iff, whole]
  refine ⟨stop, assemble_error_congr rfl failed, ?_⟩
  rw [List.append_assoc, stripComments_eq_self (commentFree_spaced free free' nonempty spaces)]
  simp only [Stop.toError, shape, Text.utf8Size_append]
  congr 1
  omega

end Parsing

/-- A text that parses, white space, and another text: the parts are put together, and an
error of the other text is found where it stands now. -/
theorem parse_spaced {a b w : Text} (free : CommentFree a) (free' : CommentFree b)
    (nonempty : w ≠ []) (spaces : ∀ c ∈ w, Text.isSpace c = true) :
    (∀ front back, parse a = .ok (.ofParts front) → parse b = .ok (.ofParts back) →
      parse (a ++ w ++ b) = .ok (.ofParts (spaced front back))) ∧
    (∀ template e, parse a = .ok template → parse b = .error e →
      parse (a ++ w ++ b) =
        .error ⟨e.fault, e.position + Text.utf8Size a + Text.utf8Size w, e.fragment⟩) := by
  constructor
  · intro front back read read'
    exact parse_ok_spaced free free' nonempty spaces read read'
  · intro template e read failed
    exact parse_error_spaced free free' nonempty spaces read failed

/-- Two templates meet in text; the error stands behind characters of two bytes. -/
theorem parse_spaced_wide :
    parse ("é {a|b} c".toList ++ ['\t', ' '] ++ "d __w__".toList) = .ok (.ofParts
      [.literal ['é'], .ofOptions [⟨.one, .ofParts [.literal ['a']]⟩,
        ⟨.one, .ofParts [.literal ['b']]⟩] none [','], .literal "c d".toList,
        .wildcard ['w']]) ∧
    parse ("é {a|b} c".toList ++ ['\t', ' '] ++ "ü )".toList) =
      .error ⟨.unexpectedCharacter ')', 15, [')']⟩ := by
  have free : CommentFree "é {a|b} c".toList := commentFree_of_all (by decide)
  have read : parse "é {a|b} c".toList = .ok (.ofParts
      [.literal ['é'], .ofOptions [⟨.one, .ofParts [.literal ['a']]⟩,
        ⟨.one, .ofParts [.literal ['b']]⟩] none [','], .literal ['c']]) := by
    with_unfolding_all rfl
  have read' : parse "d __w__".toList = .ok (.ofParts [.literal ['d'], .wildcard ['w']]) := by
    with_unfolding_all rfl
  have failed : parse "ü )".toList = .error ⟨.unexpectedCharacter ')', 3, [')']⟩ := by
    with_unfolding_all rfl
  have spaces : ∀ c ∈ ['\t', ' '], Text.isSpace c = true := List.all_eq_true.1 (by decide)
  constructor
  · exact (parse_spaced free (commentFree_of_all (by decide)) (by decide) spaces).1 _ _ read read'
  · exact (parse_spaced free (commentFree_of_all (by decide)) (by decide) spaces).2 _ _ read failed

end Template

end PromptTemplate
