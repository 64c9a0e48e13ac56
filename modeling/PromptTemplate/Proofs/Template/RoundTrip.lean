/-
# PromptTemplate.Proofs.Template.RoundTrip -- canonical trees are written and read back

The printed text of a canonical tree is read as pieces that make the tree, whatever
follows it, as long as that is no underscore (`ReadsAs`): by induction over the tree,
with the variants that are open around it, the pieces in front of it and the text behind
it arbitrary.  A wildcard or a variant is read as one piece, a literal as its words.  Of a
variant any texts can be the options that are read as options in front of a sign
(`ReadsOption`); they are read one by one up to the closing brace (`assemble_variant`).

No comment starts in a printed text, so nothing is taken out of it before it is read.
-/
import PromptTemplate.Proofs.Template.Image

set_option autoImplicit false

namespace PromptTemplate.Template

open Token

variable {written : Binary64 → Text}

/-- The texts of weights convert back to them. -/
def Faithful (written : Binary64 → Text) : Prop :=
  ∀ weight, IsDecimal weight → WritesWeight (written weight) weight

/-! ## The shape of a printed part -/

theorem print_wildcard (name behind : Text) :
    print written (.wildcard name) ++ behind = '_' :: '_' :: (name ++ '_' :: '_' :: behind) := by
  rw [print]
  simp only [List.append_assoc, List.cons_append, List.nil_append]

theorem joinAll_printParts (part next : Template) (rest : List Template) :
    Text.joinAll [' '] (printParts written (part :: next :: rest)) =
      print written part ++ ' ' :: Text.joinAll [' '] (printParts written (next :: rest)) := by
  simp only [printParts, Text.joinAll, List.intercalate_cons_cons, List.append_assoc,
    List.singleton_append]

theorem joinAll_printParts_singleton (part : Template) :
    Text.joinAll [' '] (printParts written [part]) = print written part := by
  simp only [printParts, Text.joinAll, List.intercalate_singleton]

theorem print_variant (options : List (Weighted Template)) (range : PickRange)
    (joiner behind : Text) :
    print written (.variant options range joiner) ++ behind =
      '{' :: (Text.ofNat range.least ++ '-' :: Text.ofNat range.most ++ '$' :: '$' ::
        (joiner ++ '$' :: '$' ::
          (Text.joinAll ['|'] (printOptions written options) ++ '}' :: behind))) := by
  rw [print]
  simp only [List.append_assoc, List.cons_append, List.nil_append]

/-! ## No comment starts in a printed text -/

theorem commentFree_cons_of_ne {c : Char} {t : Text} (noHash : c ≠ '#') (noSlash : c ≠ '/')
    (free : CommentFree t) : CommentFree (c :: t) :=
  commentFree_cons_iff.2 ⟨noHash, free, fun _ _ opens => noSlash opens.1⟩

theorem commentFree_append_of_head {s t : Text} (front : CommentFree s) (back : CommentFree t)
    (meet : ∀ c, t.head? = some c → c ≠ '/' ∧ c ≠ '*') : CommentFree (s ++ t) := by
  refine commentFree_append_iff.2 ⟨front, back, fun a b _ first opens => ?_⟩
  rcases opens.2 with rfl | rfl
  · exact (meet _ first).1 rfl
  · exact (meet _ first).2 rfl

theorem commentFree_append_cons {s t : Text} {c : Char} (front : CommentFree s)
    (back : CommentFree (c :: t)) (meet : c ≠ '/' ∧ c ≠ '*') : CommentFree (s ++ c :: t) :=
  commentFree_append_of_head front back fun _ first => Option.some.inj first ▸ meet

theorem commentFree_of_forall {t : Text} (all : ∀ c ∈ t, c ≠ '#' ∧ c ≠ '/') : CommentFree t := by
  induction t with
  | nil => exact commentFree_nil
  | cons c t ih =>
    obtain ⟨first, others⟩ := List.forall_mem_cons.1 all
    exact commentFree_cons_of_ne first.1 first.2 (ih others)

/-- No comment starts in a text without hashes and slashes. -/
theorem commentFree_of_all {t : Text} (all : t.all (fun c => c != '#' && c != '/') = true) :
    CommentFree t :=
  commentFree_of_forall (by simpa using all)

theorem commentFree_digits {t : Text} (all : ∀ c ∈ t, Text.isDigit c = true) : CommentFree t := by
  refine commentFree_of_forall fun c member => ⟨?_, ?_⟩
  · rintro rfl
    exact absurd (all _ member) (by decide)
  · rintro rfl
    exact absurd (all _ member) (by decide)

theorem commentFree_of_writesWeight {t : Text} {weight : Binary64}
    (writes : WritesWeight t weight) : CommentFree t := by
  cases writes with
  | digits _ all => exact commentFree_digits (List.all_eq_true.1 all)
  | fraction _ all all' =>
    have back := commentFree_digits (List.all_eq_true.1 all')
    exact commentFree_append_cons (commentFree_digits (List.all_eq_true.1 all))
      (commentFree_cons_of_ne (by decide) (by decide) back) (by decide)

/-- Texts joined by a character that is no part of the start of a comment. -/
theorem commentFree_joinAll {c : Char} (noHash : c ≠ '#') (meet : c ≠ '/' ∧ c ≠ '*')
    {texts : List Text} (all : ∀ t ∈ texts, CommentFree t) :
    CommentFree (Text.joinAll [c] texts) := by
  induction texts with
  | nil => exact commentFree_nil
  | cons t texts ih =>
    obtain ⟨first, others⟩ := List.forall_mem_cons.1 all
    cases texts with
    | nil => simpa [Text.joinAll] using first
    | cons u texts =>
      have later := ih others
      rw [Text.joinAll] at later ⊢
      rw [List.intercalate_cons_cons, List.append_assoc]
      exact commentFree_append_cons first (commentFree_cons_of_ne noHash meet.1 later) meet

theorem commentFree_option {weight : Binary64} {text value : Text}
    (writes : WritesWeight text weight) (free : CommentFree value) :
    CommentFree (text ++ [':', ':'] ++ value) := by
  rw [List.append_assoc]
  exact commentFree_append_cons (commentFree_of_writesWeight writes)
    (commentFree_cons_of_ne (by decide) (by decide)
      (commentFree_cons_of_ne (by decide) (by decide) free)) (by decide)

theorem commentFree_between (a b : Nat) :
    CommentFree (Text.ofNat a ++ '-' :: Text.ofNat b) := by
  have number : ∀ n, CommentFree (Text.ofNat n) := fun n =>
    commentFree_digits fun _ => Text.isDigit_of_mem_ofNat
  exact commentFree_append_cons (number a)
    (commentFree_cons_of_ne (by decide) (by decide) (number b)) (by decide)

/-- The opening of a variant, in front of its options. -/
theorem commentFree_opening {bound joiner rest : Text} (boundFree : CommentFree bound)
    (joinerFree : CommentFree joiner) (restFree : CommentFree rest) :
    CommentFree ('{' :: (bound ++ '$' :: '$' :: (joiner ++ '$' :: '$' :: rest))) := by
  have dollars : ∀ {t : Text}, CommentFree t → CommentFree ('$' :: '$' :: t) := fun free =>
    commentFree_cons_of_ne (by decide) (by decide)
      (commentFree_cons_of_ne (by decide) (by decide) free)
  have joined : CommentFree (joiner ++ '$' :: '$' :: rest) :=
    commentFree_append_cons joinerFree (dollars restFree) (by decide)
  exact commentFree_cons_of_ne (by decide) (by decide)
    (commentFree_append_cons boundFree (dollars joined) (by decide))

section CommentFree

variable {limit : Nat}

mutual

/-- Printing a template starts no comment. -/
theorem commentFree_print (faithful : Faithful written) : ∀ template,
    CanonicalBelow limit template → CommentFree (print written template)
  | .sequence parts separator, canonical => by
    rw [print]
    exact commentFree_joinAll (by decide) (by decide)
      (commentFree_printParts faithful parts canonical.2.1)

theorem commentFree_printPart (faithful : Faithful written) : ∀ part,
    CanonicalPart limit part → CommentFree (print written part)
  | .literal t, canonical => by
    obtain ⟨words, -, all, rfl⟩ := isLiteralText_of_parse canonical.2
    rw [print]
    exact commentFree_wordsText all
  | .wildcard name, canonical => by
    have isName : IsName name := canonical
    have delimiter : CommentFree ['_', '_'] := commentFree_of_forall (by simp)
    rw [← List.append_nil (print written _), print_wildcard]
    exact commentFree_cons_of_ne (by decide) (by decide) (commentFree_cons_of_ne (by decide)
      (by decide) (commentFree_append_cons isName.commentFree delimiter (by decide)))
  | .variant options range joiner, canonical => by
    obtain ⟨-, all, -, isJoiner⟩ := canonical
    have body := commentFree_joinAll (c := '|') (by decide) (by decide)
      (commentFree_printOptions faithful options all)
    rw [← List.append_nil (print written _), print_variant]
    exact commentFree_opening (commentFree_between _ _) isJoiner.commentFree
      (commentFree_append_cons body (commentFree_singleton_iff.2 (by decide)) (by decide))

theorem commentFree_printParts (faithful : Faithful written) : ∀ parts,
    CanonicalParts limit parts → ∀ t ∈ printParts written parts, CommentFree t
  | [], _ => nofun
  | part :: rest, canonical => by
    rw [printParts, List.forall_mem_cons]
    exact ⟨commentFree_printPart faithful part canonical.1,
      commentFree_printParts faithful rest canonical.2⟩

theorem commentFree_printOptions (faithful : Faithful written) : ∀ options,
    CanonicalOptions limit options → ∀ t ∈ printOptions written options, CommentFree t
  | [], _ => nofun
  | ⟨weight, value⟩ :: rest, canonical => by
    obtain ⟨decimal, first, others⟩ := canonical
    rw [printOptions, List.forall_mem_cons]
    exact ⟨commentFree_option (faithful weight decimal) (commentFree_print faithful value first),
      commentFree_printOptions faithful rest others⟩

end

end CommentFree

/-! ## What a printed text is read as -/

/-- In front of anything but an underscore the text is read as the pieces. -/
def ReadsAs (t : Text) (pieces : List Piece) : Prop :=
  ∀ (outer : List OpenVariant) (before : List Piece) (rest : Text), rest.head? ≠ some '_' →
    assemble outer before (tokens (t ++ rest)) =
      assemble outer (pieces.reverse ++ before) (tokens rest)

theorem readsAs_nil : ReadsAs [] [] :=
  fun _ _ _ _ => rfl

theorem ReadsAs.at_end {t : Text} {pieces : List Piece} (reads : ReadsAs t pieces)
    (outer : List OpenVariant) (before : List Piece) :
    assemble outer before (tokens t) = assemble outer (pieces.reverse ++ before) [] := by
  have read := reads outer before [] (by simp)
  rwa [List.append_nil, tokens] at read

/-- Two texts with a space between them are read one behind the other. -/
theorem ReadsAs.spaced {s t : Text} {front back : List Piece} (first : ReadsAs s front)
    (second : ReadsAs t back) : ReadsAs (s ++ ' ' :: t) (front ++ .gap :: back) := by
  intro outer before rest behind
  have space : (' ' :: (t ++ rest)).head? ≠ some '_' := by simp
  rw [List.append_assoc, List.cons_append, first outer before _ space, tokens_space, assemble,
    second outer _ rest behind, List.reverse_append, List.reverse_cons]
  simp only [List.append_assoc, List.cons_append, List.nil_append]

theorem readsAs_words {words : List (List Text)} (all : ∀ atoms ∈ words, IsWord atoms) :
    ReadsAs (print written (.literal (wordsText words))) (wordsPieces words) := by
  intro outer before rest behind
  rw [print]
  exact assemble_words outer before all behind

theorem readsAs_wildcard {name : Text} (isName : IsName name) :
    ReadsAs (print written (.wildcard name)) [.node (.wildcard name)] := by
  intro outer before rest _
  rw [print_wildcard, tokens_wildcard isName, assemble]
  rfl

/-! ## Options -/

/-- In front of a sign the text is read as an option. -/
def ReadsOption (t : Text) (option : Weighted Template) : Prop :=
  ∃ body pieces, ReadsAs body pieces ∧ ofPieces pieces = option.value ∧
    ∀ c rest, IsSign c → weight (t ++ c :: rest) = (option.weight, body ++ c :: rest)

def dividedTail (texts : List Text) : Text :=
  texts.flatMap ('|' :: ·)

theorem joinAll_divided (t : Text) (texts : List Text) :
    Text.joinAll ['|'] (t :: texts) = t ++ dividedTail texts := by
  induction texts generalizing t with
  | nil => simp [Text.joinAll, dividedTail]
  | cons u texts ih =>
    have later := ih u
    rw [Text.joinAll] at later ⊢
    rw [List.intercalate_cons_cons, later, dividedTail, dividedTail, List.flatMap_cons]
    simp only [List.append_assoc, List.cons_append, List.nil_append]

theorem exists_sign_of_dividedTail (texts : List Text) (behind : Text) :
    ∃ c rest, IsSign c ∧ dividedTail texts ++ '}' :: behind = c :: rest := by
  cases texts with
  | nil => exact ⟨'}', behind, .inr (.inl rfl), rfl⟩
  | cons t texts => exact ⟨'|', _, .inr (.inr rfl), rfl⟩

theorem head?_sign_ne {c : Char} (sign : IsSign c) (rest : Text) :
    (c :: rest).head? ≠ some '_' := by
  rcases sign with rfl | rfl | rfl <;> simp

section Options

variable {t : Text} {texts : List Text} {option : Weighted Template}
  {options : List (Weighted Template)}

/-- Behind a divider an option is read up to the next sign. -/
theorem ReadsOption.assemble_divider (reads : ReadsOption t option) (outer : List OpenVariant)
    (v : OpenVariant) (pieces : List Piece) {c : Char} (sign : IsSign c) (rest : Text) :
    ∃ own, ofPieces own = option.value ∧
      assemble (v :: outer) pieces (tokens ('|' :: (t ++ c :: rest))) =
        assemble ({ v with options := v.endOption pieces, weight := option.weight } :: outer)
          own.reverse (tokens (c :: rest)) := by
  obtain ⟨body, own, reads, makes, weighs⟩ := reads
  refine ⟨own, makes, ?_⟩
  rw [tokens_cons, scan_bar, weighs c rest sign, assemble, reads _ _ _ (head?_sign_ne sign rest),
    List.append_nil]

/-- The options behind the first are read up to the closing brace. -/
theorem assemble_options (reads : List.Forall₂ ReadsOption texts options)
    (outer : List OpenVariant) (v : OpenVariant) (pieces : List Piece) (behind : Text) :
    assemble (v :: outer) pieces (tokens (dividedTail texts ++ '}' :: behind)) =
      assemble outer
        (.node (.ofOptions ((v.endOption pieces).reverse ++ options) v.bound v.joiner) :: v.before)
        (tokens behind) := by
  induction reads generalizing v pieces with
  | nil =>
    rw [dividedTail, List.flatMap_nil, List.nil_append, tokens_closing, assemble,
      OpenVariant.close, List.append_nil]
  | @cons t option texts options first _ ih =>
    obtain ⟨c, rest, sign, shape⟩ := exists_sign_of_dividedTail texts behind
    obtain ⟨own, makes, divider⟩ := first.assemble_divider outer v pieces sign rest
    have whole : dividedTail (t :: texts) ++ '}' :: behind = '|' :: (t ++ c :: rest) := by
      rw [← shape, dividedTail, List.flatMap_cons, ← dividedTail]
      simp only [List.append_assoc, List.cons_append]
    rw [whole, divider, ← shape, ih]
    simp only [OpenVariant.endOption, List.reverse_reverse, makes, List.reverse_cons,
      List.append_assoc, List.cons_append, List.nil_append]

/-- Behind its header a variant is read option by option. -/
theorem assemble_variant (reads : List.Forall₂ ReadsOption texts options) (nonempty : options ≠ [])
    {text behind joiner : Text} {bound : Option Bound}
    (read : header text = .ok (bound, joiner, Text.joinAll ['|'] texts ++ '}' :: behind))
    (outer : List OpenVariant) (before : List Piece) :
    assemble outer before (tokens ('{' :: text)) =
      assemble outer (.node (.ofOptions options bound joiner) :: before) (tokens behind) := by
  cases reads with
  | nil => exact absurd rfl nonempty
  | @cons t option texts options first others =>
    obtain ⟨body, own, first, makes, weighs⟩ := first
    obtain ⟨c, rest, sign, shape⟩ := exists_sign_of_dividedTail texts behind
    rw [joinAll_divided, List.append_assoc, shape] at read
    rw [tokens_cons, scan_brace, scanOpening, read]
    simp only [weighs c rest sign]
    rw [assemble, first _ _ _ (head?_sign_ne sign rest), ← shape, assemble_options others]
    simp only [OpenVariant.endOption, List.append_nil, List.reverse_reverse, makes,
      List.reverse_singleton, List.singleton_append]

end Options

/-! ## Printed parts -/

/-- The pieces make the parts; in front of a wildcard or a variant no word is left. -/
structure MakesParts (pieces : List Piece) (parts : List Template) : Prop where
  gather_eq : gather pieces = parts
  at_node : ∀ part, parts.head? = some part → part.isLiteral = false →
    pieces.foldr Gathered.add Gathered.empty = ⟨[], [], parts⟩

theorem makesParts_nil : MakesParts [] [] :=
  ⟨rfl, nofun⟩

theorem makesParts_words {words : List (List Text)} (nonempty : words ≠ [])
    (all : ∀ atoms ∈ words, IsWord atoms) :
    MakesParts (wordsPieces words) [.literal (wordsText words)] := by
  refine ⟨allParts_words nonempty all [], fun part first isNode => ?_⟩
  obtain rfl := Option.some.inj first
  cases isNode

theorem makesParts_node (part : Template) : MakesParts [.node part] [part] :=
  ⟨rfl, fun _ _ _ => rfl⟩

/-- Words, a space, and what starts with a wildcard or a variant. -/
theorem MakesParts.words_spaced {words : List (List Text)} {pieces : List Piece}
    {part : Template} {rest : List Template} (nonempty : words ≠ [])
    (all : ∀ atoms ∈ words, IsWord atoms) (isNode : part.isLiteral = false)
    (makes : MakesParts pieces (part :: rest)) :
    MakesParts (wordsPieces words ++ .gap :: pieces)
      (.literal (wordsText words) :: part :: rest) := by
  refine ⟨?_, fun other first isNode' => ?_⟩
  · rw [gather, List.foldr_append, List.foldr_cons, makes.at_node part rfl isNode]
    exact allParts_words nonempty all _
  · obtain rfl := Option.some.inj first
    cases isNode'

/-- A wildcard or a variant, a space, and anything. -/
theorem MakesParts.node_spaced {pieces : List Piece} {parts : List Template}
    (makes : MakesParts pieces parts) (part : Template) :
    MakesParts (.node part :: .gap :: pieces) (part :: parts) := by
  have gathered : (Piece.node part :: .gap :: pieces).foldr Gathered.add Gathered.empty =
      ⟨[], [], part :: parts⟩ := by
    rw [List.foldr_cons, List.foldr_cons]
    show Gathered.mk [] [] (part :: gather pieces) = _
    rw [makes.gather_eq]
  refine ⟨?_, fun _ _ _ => gathered⟩
  rw [gather, gathered]
  rfl

/-! ## Printing and reading back -/

section ReadBack

variable {limit : Nat}

/-- A canonical literal is made of words. -/
theorem exists_words {part : Template} (canonical : CanonicalPart limit part)
    (kind : part.isLiteral = true) :
    ∃ words, words ≠ [] ∧ (∀ atoms ∈ words, IsWord atoms) ∧ part = .literal (wordsText words) := by
  cases part with
  | literal t =>
    obtain ⟨words, nonempty, all, rfl⟩ := isLiteralText_of_parse canonical.2
    exact ⟨words, nonempty, all, rfl⟩
  | wildcard name => cases kind
  | sequence parts separator => cases kind
  | variant options range joiner => cases kind

mutual

/-- A wildcard or a variant is read back as itself. -/
theorem readsAs_node (faithful : Faithful written) (small : limit ≤ Text.sizeLimit) : ∀ part,
    CanonicalPart limit part → part.isLiteral = false →
      ReadsAs (print written part) [.node part]
  | .literal _, _, isNode => absurd isNode (by simp [isLiteral])
  | .sequence _ _, canonical, _ => canonical.elim
  | .wildcard _, canonical, _ => readsAs_wildcard canonical
  | .variant options range joiner, canonical, _ => by
    obtain ⟨nonempty, all, below, isJoiner⟩ := canonical
    have belowMost : range.most < Text.sizeLimit := Nat.lt_of_lt_of_le below small
    have belowLeast : range.least < Text.sizeLimit :=
      Nat.lt_of_le_of_lt range.least_le_most belowMost
    intro outer before behind _
    rw [print_variant, assemble_variant (readsOptions faithful small _ all) nonempty
      (header_append (Bound.read?_between belowLeast belowMost) isJoiner _)]
    show assemble outer (.node (.variant _ (PickRange.between range.least range.most) joiner) ::
      before) _ = _
    rw [PickRange.between_least_most]
    rfl

/-- The text of a sequence is read as pieces that make it. -/
theorem exists_readsAs (faithful : Faithful written) (small : limit ≤ Text.sizeLimit) : ∀ template,
    CanonicalBelow limit template →
      ∃ pieces, ReadsAs (print written template) pieces ∧ ofPieces pieces = template
  | .literal _, canonical => canonical.elim
  | .wildcard _, canonical => canonical.elim
  | .variant _ _ _, canonical => canonical.elim
  | .sequence parts separator, canonical => by
    obtain ⟨rfl, all, chain⟩ := canonical
    obtain ⟨pieces, reads, makes⟩ := exists_readsAs_parts faithful small parts all chain
    refine ⟨pieces, by rwa [print], ?_⟩
    rw [ofPieces, makes.gather_eq]
    rfl

/-- Printed parts are read as pieces that make the parts. -/
theorem exists_readsAs_parts (faithful : Faithful written) (small : limit ≤ Text.sizeLimit) :
    ∀ parts, CanonicalParts limit parts → parts.IsChain Apart →
      ∃ pieces, ReadsAs (Text.joinAll [' '] (printParts written parts)) pieces ∧
        MakesParts pieces parts
  | [], _, _ => ⟨[], readsAs_nil, makesParts_nil⟩
  | [part], canonical, _ => by
    rw [joinAll_printParts_singleton]
    cases kind : part.isLiteral with
    | true =>
      obtain ⟨words, nonempty, all, rfl⟩ := exists_words canonical.1 kind
      exact ⟨_, readsAs_words all, makesParts_words nonempty all⟩
    | false =>
      exact ⟨_, readsAs_node faithful small part canonical.1 kind, makesParts_node part⟩
  | part :: next :: rest, canonical, chain => by
    obtain ⟨pieces, reads, makes⟩ :=
      exists_readsAs_parts faithful small (next :: rest) canonical.2 chain.tail
    rw [joinAll_printParts]
    cases kind : part.isLiteral with
    | true =>
      have apart : next.isLiteral = false := by
        have both := (List.isChain_cons_cons.1 chain).1
        simpa [Apart, kind] using both
      obtain ⟨words, nonempty, all, rfl⟩ := exists_words canonical.1 kind
      exact ⟨_, (readsAs_words all).spaced reads, makes.words_spaced nonempty all apart⟩
    | false =>
      have own := readsAs_node faithful small part canonical.1 kind
      exact ⟨_, own.spaced reads, makes.node_spaced part⟩

/-- The text of an option is read as the option. -/
theorem readsOptions (faithful : Faithful written) (small : limit ≤ Text.sizeLimit) :
    ∀ options, CanonicalOptions limit options →
      List.Forall₂ ReadsOption (printOptions written options) options
  | [], _ => .nil
  | ⟨weight, value⟩ :: rest, canonical => by
    obtain ⟨decimal, first, others⟩ := canonical
    obtain ⟨pieces, reads, makes⟩ := exists_readsAs faithful small value first
    refine .cons ⟨print written value, pieces, reads, makes, fun c behind _ => ?_⟩
      (readsOptions faithful small rest others)
    simp only [List.append_assoc, List.cons_append, List.nil_append]
    exact weight_append (faithful weight decimal) _

end

end ReadBack

/-- What is read is canonical. -/
theorem canonical_of_parse {t : Text} (short : t.length < Text.sizeLimit) {template : Template}
    (read : parse t = .ok template) : Canonical template := by
  obtain ⟨pieces, sound, rfl⟩ := exists_pieces_of_parse (Nat.le_refl _) short read
  exact canonical_ofPieces sound

/-- What is canonical is read back. -/
theorem parse_print (faithful : Faithful written) {template : Template}
    (canonical : Canonical template) : parse (print written template) = .ok template := by
  obtain ⟨pieces, reads, makes⟩ := exists_readsAs faithful (Nat.le_refl _) template canonical
  rw [parse_eq_ok_iff, stripComments_eq_self (commentFree_print faithful template canonical),
    reads.at_end, List.append_nil, assemble, List.reverse_reverse, makes]

/-- What parses is canonical, and what is canonical is printed and parsed back.  No text
is as long as the size limit, in bytes or in characters. -/
theorem image_canonical_and_parse_print :
    (∀ (t : Text) (template : Template), t.length < Text.sizeLimit →
      parse t = .ok template → Canonical template) ∧
    (∀ (written : Binary64 → Text) (template : Template), Faithful written →
      Canonical template → parse (print written template) = .ok template) := by
  constructor
  · intro t template short read
    exact canonical_of_parse short read
  · intro written template faithful canonical
    exact parse_print faithful canonical

/-- Some way to write weights is faithful. -/
theorem exists_faithful : ∃ written, Faithful written := by
  have some : ∀ weight, ∃ t, IsDecimal weight → WritesWeight t weight := by
    intro weight
    by_cases decimal : IsDecimal weight
    · obtain ⟨t, writes⟩ := decimal
      exact ⟨t, fun _ => writes⟩
    · exact ⟨[], fun decimal' => absurd decimal' decimal⟩
  choose written writes using some
  exact ⟨written, writes⟩

theorem image_canonical_and_parse_print_nested : ∃ template written,
    parse "a ( b c ) {2-1$$;$$.5::x {y|} z|__w__ /* */}#".toList = .ok template ∧
      Canonical template ∧ Faithful written ∧ parse (print written template) = .ok template := by
  obtain ⟨written, faithful⟩ := exists_faithful
  obtain ⟨image, back⟩ := image_canonical_and_parse_print
  have read : parse "a ( b c ) {2-1$$;$$.5::x {y|} z|__w__ /* */}#".toList = .ok (.ofParts
      [.literal "a (b c)".toList,
        .ofOptions
          [⟨.ofDecimal [] ['5'], .ofParts [.literal ['x'],
            .ofOptions [⟨.one, .ofParts [.literal ['y']]⟩, ⟨.one, .ofParts []⟩] none [','],
            .literal ['z']]⟩,
            ⟨.one, .ofParts [.wildcard ['w']]⟩] (some (.between 1 2)) [';']]) := by
    with_unfolding_all rfl
  have canonical := image _ _ (by decide) read
  exact ⟨_, written, read, canonical, faithful, back written _ faithful canonical⟩

end PromptTemplate.Template
