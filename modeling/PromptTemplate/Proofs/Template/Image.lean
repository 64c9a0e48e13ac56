/-
# PromptTemplate.Proofs.Template.Image -- what template texts write is canonical

The pieces that are gathered into a sequence come from sound tokens: atoms that may
stand side by side, white space, wildcards and canonical variants (`PiecesSound`).  They
make canonical parts (`gather_sound`).  While the tokens are assembled this holds of the
pieces at hand and of those in front of every open variant, whose options are canonical
as far as they are complete (`AssemblySound`, kept by every token).  There are no more
options than tokens, so the numbers of picks stay below any limit that the text stays
below.
-/
import PromptTemplate.Proofs.Template.Assembly
import PromptTemplate.Proofs.Template.Literals

set_option autoImplicit false

namespace PromptTemplate.Template

open Token

theorem canonicalParts_iff {limit : Nat} {parts : List Template} :
    CanonicalParts limit parts ↔ ∀ part ∈ parts, CanonicalPart limit part := by
  induction parts with
  | nil => simp [CanonicalParts]
  | cons part rest ih => rw [CanonicalParts, ih, List.forall_mem_cons]

theorem canonicalOptions_iff {limit : Nat} {options : List (Weighted Template)} :
    CanonicalOptions limit options ↔
      ∀ option ∈ options, IsDecimal option.weight ∧ CanonicalBelow limit option.value := by
  induction options with
  | nil => simp [CanonicalOptions]
  | cons option rest ih => rw [CanonicalOptions, ih, List.forall_mem_cons, and_assoc]

/-! ## Pieces -/

/-- A piece that sound tokens make. -/
def PieceSound (limit : Nat) : Piece → Prop
  | .text t => IsAtom t
  | .gap => True
  | .node template => template.isLiteral = false ∧ CanonicalPart limit template

def PiecesMeet (p q : Piece) : Prop :=
  ∀ s t, p = .text s → q = .text t → MayMeet s t

/-- Pieces that sound tokens make, in the order of the text. -/
structure PiecesSound (limit : Nat) (pieces : List Piece) : Prop where
  all_sound : ∀ p ∈ pieces, PieceSound limit p
  chain : pieces.IsChain PiecesMeet

theorem piecesSound_nil (limit : Nat) : PiecesSound limit [] :=
  ⟨nofun, .nil⟩

theorem PiecesSound.push {limit : Nat} {pieces : List Piece} {p : Piece}
    (sound : PiecesSound limit pieces.reverse) (new : PieceSound limit p)
    (meet : ∀ q, pieces.head? = some q → PiecesMeet q p) :
    PiecesSound limit (p :: pieces).reverse := by
  rw [List.reverse_cons]
  refine ⟨?_, List.isChain_append.2 ⟨sound.chain, .singleton p, ?_⟩⟩
  · rw [List.forall_mem_append, List.forall_mem_singleton]
    exact ⟨sound.all_sound, new⟩
  · intro q last r first
    rw [List.getLast?_reverse] at last
    exact Option.some.inj first ▸ meet q last

/-- The texts in front of the first gap or template. -/
def leadingTexts : List Piece → List Text
  | .text t :: rest => t :: leadingTexts rest
  | _ => []

theorem leadingTexts_sound {limit : Nat} {pieces : List Piece} (sound : PiecesSound limit pieces) :
    (∀ t ∈ leadingTexts pieces, IsAtom t) ∧ (leadingTexts pieces).IsChain MayMeet := by
  obtain ⟨all, chain⟩ := sound
  induction pieces with
  | nil => exact ⟨nofun, .nil⟩
  | cons p rest ih =>
    obtain ⟨first, others⟩ := List.forall_mem_cons.1 all
    obtain ⟨meet, later⟩ := List.isChain_cons.1 chain
    obtain ⟨atoms, apart⟩ := ih others later
    cases p with
    | gap => exact ⟨nofun, .nil⟩
    | node template => exact ⟨nofun, .nil⟩
    | text t =>
      refine ⟨List.forall_mem_cons.2 ⟨first, atoms⟩, apart.cons fun u next => ?_⟩
      cases rest with
      | nil => cases next
      | cons q rest =>
        cases q with
        | gap => cases next
        | node template => cases next
        | text v =>
          obtain rfl := Option.some.inj next
          exact meet _ rfl t v rfl rfl

/-! ## Gathered parts -/

/-- A canonical part; if it is text, it is made of words. -/
def PartSound (limit : Nat) (part : Template) : Prop :=
  CanonicalPart limit part ∧ ∀ t, part = .literal t → IsLiteralText t

/-- What sound pieces are gathered into. -/
structure GatheredSound (limit : Nat) (pieces : List Piece) (g : Gathered) : Prop where
  word_eq : g.word = (leadingTexts pieces).flatten
  exists_words : ∃ words : List (List Text), g.words = words.map List.flatten ∧
    ∀ atoms ∈ words, IsWord atoms
  all_sound : ∀ part ∈ g.parts, PartSound limit part
  chain : g.parts.IsChain Apart
  first_node : ∀ part, g.parts.head? = some part → part.isLiteral = false

section Gathered

variable {limit : Nat} {pieces : List Piece} {g : Gathered}

theorem GatheredSound.exists_allWords (sound : PiecesSound limit pieces)
    (gathered : GatheredSound limit pieces g) :
    ∃ words : List (List Text), g.allWords = words.map List.flatten ∧
      ∀ atoms ∈ words, IsWord atoms := by
  obtain ⟨words, same, all⟩ := gathered.exists_words
  obtain ⟨atoms, chain⟩ := leadingTexts_sound sound
  unfold Gathered.allWords
  split
  · exact ⟨words, same, all⟩
  · rename_i visible
    refine ⟨leadingTexts pieces :: words, by rw [gathered.word_eq, same]; rfl, ?_⟩
    refine List.forall_mem_cons.2 ⟨⟨?_, atoms, chain⟩, all⟩
    intro none
    rw [gathered.word_eq, none] at visible
    exact visible rfl

/-- Gathered parts are canonical, and text is kept apart from text. -/
theorem GatheredSound.allParts_sound (sound : PiecesSound limit pieces)
    (gathered : GatheredSound limit pieces g) :
    (∀ part ∈ g.allParts, PartSound limit part) ∧ g.allParts.IsChain Apart := by
  obtain ⟨words, same, all⟩ := gathered.exists_allWords sound
  unfold Gathered.allParts
  split
  · exact ⟨gathered.all_sound, gathered.chain⟩
  · rename_i some
    have nonempty : words ≠ [] := by
      rintro rfl
      rw [same] at some
      exact some rfl
    have literal : IsLiteralText (Text.joinAll [' '] g.allWords) :=
      ⟨words, nonempty, all, by rw [same]; rfl⟩
    have visible : Text.joinAll [' '] g.allWords ≠ [] := by
      rw [same]
      exact wordsText_ne_nil nonempty all
    refine ⟨List.forall_mem_cons.2 ⟨⟨⟨visible, parse_literal literal⟩, ?_⟩, gathered.all_sound⟩,
      gathered.chain.cons fun part first both => ?_⟩
    · intro t own
      exact Template.literal.inj own ▸ literal
    · rw [gathered.first_node part first] at both
      cases both.2

/-- Gathering is sound piece by piece, from the last one on. -/
theorem gatheredSound_foldr (sound : PiecesSound limit pieces) :
    GatheredSound limit pieces (pieces.foldr Gathered.add Gathered.empty) := by
  induction pieces with
  | nil => exact ⟨rfl, ⟨[], rfl, nofun⟩, nofun, .nil, nofun⟩
  | cons p rest ih =>
    have later : PiecesSound limit rest :=
      ⟨fun q member => sound.all_sound q (List.mem_cons_of_mem p member), sound.chain.tail⟩
    have gathered := ih later
    rw [List.foldr_cons]
    cases p with
    | text t =>
      refine ⟨?_, gathered.exists_words, gathered.all_sound, gathered.chain, gathered.first_node⟩
      rw [Gathered.add, gathered.word_eq]
      rfl
    | gap =>
      exact ⟨rfl, gathered.exists_allWords later, gathered.all_sound, gathered.chain,
        gathered.first_node⟩
    | node template =>
      obtain ⟨isNode, canonical⟩ := sound.all_sound _ List.mem_cons_self
      obtain ⟨all, chain⟩ := gathered.allParts_sound later
      refine ⟨rfl, ⟨[], rfl, nofun⟩, List.forall_mem_cons.2 ⟨⟨canonical, ?_⟩, all⟩,
        chain.cons fun part _ both => ?_, fun part first => Option.some.inj first ▸ isNode⟩
      · rintro t rfl
        cases isNode
      · rw [isNode] at both
        cases both.1

/-- Sound pieces make canonical parts. -/
theorem gather_sound (sound : PiecesSound limit pieces) :
    (∀ part ∈ gather pieces, PartSound limit part) ∧ (gather pieces).IsChain Apart :=
  (gatheredSound_foldr sound).allParts_sound sound

theorem canonical_ofPieces (sound : PiecesSound limit pieces) :
    CanonicalBelow limit (ofPieces pieces) := by
  obtain ⟨all, chain⟩ := gather_sound sound
  exact ⟨rfl, canonicalParts_iff.2 fun part member => (all part member).1, chain⟩

end Gathered

/-! ## Open variants -/

/-- An open variant that sound tokens have made, so many tokens before the end. -/
structure OpenSound (limit count : Nat) (v : OpenVariant) : Prop where
  fits : FitsBelow limit v.bound
  isJoiner : IsJoiner v.joiner
  options_sound : ∀ option ∈ v.options,
    IsDecimal option.weight ∧ CanonicalBelow limit option.value
  few : v.options.length + count < limit
  decimal : IsDecimal v.weight
  before_sound : PiecesSound limit v.before.reverse

section Open

variable {limit count : Nat} {v : OpenVariant} {pieces : List Piece}

theorem OpenSound.later (sound : OpenSound limit (count + 1) v) : OpenSound limit count v :=
  { sound with few := by have few := sound.few; omega }

/-- An option takes a sign, so the options and the tokens that are left stay below the
limit together. -/
theorem OpenSound.endOption_sound (sound : OpenSound limit (count + 1) v)
    (piecesSound : PiecesSound limit pieces.reverse) :
    (∀ option ∈ v.endOption pieces, IsDecimal option.weight ∧ CanonicalBelow limit option.value) ∧
      (v.endOption pieces).length + count < limit := by
  refine ⟨List.forall_mem_cons.2 ⟨⟨sound.decimal, canonical_ofPieces piecesSound⟩,
    sound.options_sound⟩, ?_⟩
  have few := sound.few
  rw [OpenVariant.endOption, List.length_cons]
  omega

theorem OpenSound.close_sound (sound : OpenSound limit (count + 1) v)
    (piecesSound : PiecesSound limit pieces.reverse) :
    PieceSound limit (.node (v.close pieces)) := by
  obtain ⟨options, few⟩ := sound.endOption_sound piecesSound
  obtain ⟨range, same, below⟩ := sound.fits (v.endOption pieces).reverse v.joiner
    (by rw [List.length_reverse]; omega)
  rw [OpenVariant.close, same]
  refine ⟨rfl, ?_, canonicalOptions_iff.2 ?_, below, sound.isJoiner⟩
  · exact List.reverse_ne_nil_iff.2 (List.cons_ne_nil _ _)
  · exact fun option member => options option (List.mem_reverse.1 member)

end Open

/-! ## Assembled templates -/

/-- What holds while the tokens of a text are assembled. -/
structure AssemblySound (limit : Nat) (outer : List OpenVariant) (pieces : List Piece)
    (tokens : List Token) : Prop where
  few : tokens.length < limit
  all_sound : ∀ token ∈ tokens, Sound limit token
  chain : tokens.IsChain MayFollow
  pieces_sound : PiecesSound limit pieces.reverse
  meet : ∀ s t, pieces.head? = some (.text s) → tokens.head? = some (.text t) → MayMeet s t
  outer_sound : ∀ v ∈ outer, OpenSound limit tokens.length v

namespace AssemblySound

variable {limit : Nat} {outer outer' : List OpenVariant} {pieces pieces' : List Piece}
  {token : Token} {rest : List Token}

theorem outer_later (sound : AssemblySound limit outer pieces (token :: rest)) :
    ∀ v ∈ outer, OpenSound limit rest.length v := by
  intro v member
  exact (sound.outer_sound v member).later

/-- One token is read, and no text is the latest piece. -/
theorem next (sound : AssemblySound limit outer pieces (token :: rest))
    (piecesSound : PiecesSound limit pieces'.reverse)
    (noText : ∀ t, pieces'.head? ≠ some (.text t))
    (outerSound : ∀ v ∈ outer', OpenSound limit rest.length v) :
    AssemblySound limit outer' pieces' rest where
  few := Nat.lt_of_succ_lt sound.few
  all_sound := (List.forall_mem_cons.1 sound.all_sound).2
  chain := sound.chain.tail
  pieces_sound := piecesSound
  meet := by
    intro s t own _
    exact absurd own (noText s)
  outer_sound := outerSound

/-- A piece that is no text is read behind sound pieces. -/
theorem next_piece (sound : AssemblySound limit outer pieces (token :: rest))
    (before : PiecesSound limit pieces'.reverse) {p : Piece} (new : PieceSound limit p)
    (noText : ∀ t, p ≠ .text t) (outerSound : ∀ v ∈ outer', OpenSound limit rest.length v) :
    AssemblySound limit outer' (p :: pieces') rest := by
  apply sound.next
  · apply before.push new
    intro q _ s t _ same
    exact absurd same (noText t)
  · intro t same
    exact noText t (Option.some.inj same)
  · exact outerSound

/-- Behind a sign of a variant the pieces start anew. -/
theorem next_option (sound : AssemblySound limit outer pieces (token :: rest))
    (outerSound : ∀ v ∈ outer', OpenSound limit rest.length v) :
    AssemblySound limit outer' [] rest :=
  sound.next (piecesSound_nil limit) nofun outerSound

theorem text {t : Text} (sound : AssemblySound limit outer pieces (.text t :: rest)) :
    AssemblySound limit outer (.text t :: pieces) rest := by
  obtain ⟨first, others⟩ := List.forall_mem_cons.1 sound.all_sound
  obtain ⟨follow, later⟩ := List.isChain_cons.1 sound.chain
  refine ⟨Nat.lt_of_succ_lt sound.few, others, later, ?_, ?_, sound.outer_later⟩
  · have atom : PieceSound limit (.text t) := first
    apply sound.pieces_sound.push atom
    intro q last s u own same
    obtain rfl := own
    obtain rfl := Piece.text.inj same
    exact sound.meet s _ last rfl
  · intro s u own head
    obtain rfl := Piece.text.inj (Option.some.inj own)
    exact follow _ head _ u rfl rfl

/-- What stands in front of an opening brace is set aside with the open variant. -/
theorem opening {bound : Option Bound} {joiner start : Text} {weight : Binary64}
    (sound : AssemblySound limit outer pieces (.opening bound joiner weight start :: rest)) :
    AssemblySound limit (⟨start, bound, joiner, [], weight, pieces⟩ :: outer) [] rest := by
  obtain ⟨fits, isJoiner, decimal⟩ := sound.all_sound _ List.mem_cons_self
  have few : 0 + rest.length < limit := by
    rw [Nat.zero_add]
    exact Nat.lt_of_succ_lt sound.few
  apply sound.next_option
  rw [List.forall_mem_cons]
  exact ⟨⟨fits, isJoiner, nofun, few, decimal, sound.pieces_sound⟩, sound.outer_later⟩

theorem divider {weight : Binary64} {start : Text} {v : OpenVariant}
    (sound : AssemblySound limit (v :: outer) pieces (.divider weight start :: rest)) :
    AssemblySound limit ({ v with options := v.endOption pieces, weight } :: outer) [] rest := by
  have decimal := sound.all_sound _ List.mem_cons_self
  have innermost := sound.outer_sound v List.mem_cons_self
  obtain ⟨options, few⟩ := innermost.endOption_sound sound.pieces_sound
  obtain ⟨-, outerSound⟩ := List.forall_mem_cons.1 sound.outer_later
  apply sound.next_option
  rw [List.forall_mem_cons]
  exact ⟨⟨innermost.fits, innermost.isJoiner, options, few, decimal, innermost.before_sound⟩,
    outerSound⟩

/-- A closing brace makes the innermost variant a piece behind those set aside. -/
theorem closing {start : Text} {v : OpenVariant}
    (sound : AssemblySound limit (v :: outer) pieces (.closing start :: rest)) :
    AssemblySound limit outer (.node (v.close pieces) :: v.before) rest := by
  have innermost := sound.outer_sound v List.mem_cons_self
  obtain ⟨-, outerSound⟩ := List.forall_mem_cons.1 sound.outer_later
  exact sound.next_piece innermost.before_sound (innermost.close_sound sound.pieces_sound) nofun
    outerSound

/-- Every token that does not stop the assembly keeps it sound. -/
theorem advance (sound : AssemblySound limit outer pieces (token :: rest))
    (step : advance outer pieces token = .ok (outer', pieces')) :
    AssemblySound limit outer' pieces' rest := by
  cases token with
  | text t =>
    obtain ⟨rfl, rfl⟩ := Prod.mk.inj (Except.ok.inj step)
    exact sound.text
  | gap =>
    obtain ⟨rfl, rfl⟩ := Prod.mk.inj (Except.ok.inj step)
    exact sound.next_piece sound.pieces_sound trivial (by simp) sound.outer_later
  | wildcard name =>
    obtain ⟨rfl, rfl⟩ := Prod.mk.inj (Except.ok.inj step)
    have isName : IsName name := sound.all_sound _ List.mem_cons_self
    exact sound.next_piece sound.pieces_sound ⟨rfl, isName⟩ (by simp) sound.outer_later
  | opening bound joiner weight start =>
    obtain ⟨rfl, rfl⟩ := Prod.mk.inj (Except.ok.inj step)
    exact sound.opening
  | divider weight start =>
    cases outer with
    | nil => cases step
    | cons v outer =>
      obtain ⟨rfl, rfl⟩ := Prod.mk.inj (Except.ok.inj step)
      exact sound.divider
  | closing start =>
    cases outer with
    | nil => cases step
    | cons v outer =>
      obtain ⟨rfl, rfl⟩ := Prod.mk.inj (Except.ok.inj step)
      exact sound.closing
  | fault stop => cases step

end AssemblySound

/-- What sound tokens are assembled into is made of sound pieces. -/
theorem assemble_sound {limit : Nat} {outer : List OpenVariant} {pieces : List Piece}
    {tokens : List Token} {template : Template} (sound : AssemblySound limit outer pieces tokens)
    (read : assemble outer pieces tokens = .ok template) :
    ∃ all, PiecesSound limit all ∧ template = ofPieces all := by
  induction tokens generalizing outer pieces with
  | nil =>
    cases outer with
    | nil => exact ⟨_, sound.pieces_sound, (Except.ok.inj read).symm⟩
    | cons v outer => cases read
  | cons token rest ih =>
    obtain ⟨later, next, step, read⟩ := assemble_cons_eq_ok_iff.1 read
    exact ih (sound.advance step) read

/-- The tokens of a text without comments are sound to begin with. -/
theorem assemblySound_tokens {limit : Nat} (large : Text.sizeLimit ≤ limit) {t : Text}
    (free : CommentFree t) (short : t.length < limit) : AssemblySound limit [] [] (tokens t) :=
  ⟨Nat.lt_of_le_of_lt (length_tokens_le t) short, tokens_sound large free, isChain_tokens free,
    piecesSound_nil limit, nofun, nofun⟩

/-- What a template text writes is made of sound pieces. -/
theorem exists_pieces_of_parse {limit : Nat} (large : Text.sizeLimit ≤ limit) {t : Text}
    (short : t.length < limit) {template : Template} (read : parse t = .ok template) :
    ∃ all, PiecesSound limit all ∧ template = ofPieces all :=
  assemble_sound (assemblySound_tokens large (commentFree_stripComments t)
    (Nat.lt_of_le_of_lt (length_stripComments_le t) short)) (parse_eq_ok_iff.1 read)

/-- There is always some limit. -/
theorem exists_limit_of_parse {t : Text} {template : Template} (read : parse t = .ok template) :
    ∃ limit all, PiecesSound limit all ∧ template = ofPieces all :=
  ⟨_, exists_pieces_of_parse (Nat.le_max_left Text.sizeLimit (t.length + 1))
    (Nat.lt_of_lt_of_le (Nat.lt_succ_self _) (Nat.le_max_right Text.sizeLimit (t.length + 1))) read⟩

/-- A template text that writes itself as a literal is made of words. -/
theorem isLiteralText_of_parse {t : Text} (read : parse t = .ok (.ofParts [.literal t])) :
    IsLiteralText t := by
  obtain ⟨limit, all, sound, same⟩ := exists_limit_of_parse read
  obtain ⟨parts, -⟩ := Template.sequence.inj same
  have part : Template.literal t ∈ gather all := parts ▸ List.mem_singleton_self _
  exact ((gather_sound sound).1 _ part).2 t rfl

end PromptTemplate.Template
