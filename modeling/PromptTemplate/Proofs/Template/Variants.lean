/-
# PromptTemplate.Proofs.Template.Variants -- where the variants of a template come from

Every variant in what a template text writes was opened by a token of the text, and its
range is that of the bound which the token holds (`exists_opening_of_standsIn`).  While
the tokens are assembled, this is so for the pieces at hand, for those in front of every
open variant, and for its options as far as they are complete (`Origins`, kept by every
token).

So numbers that are written below a limit are numbers of picks below it, or the number of
options stands for one that is not written (`most_lt_of_boundsBelow`).
-/
import PromptTemplate.Proofs.References
import PromptTemplate.Proofs.Template.Assembly
import PromptTemplate.Proofs.Template.Bounds

set_option autoImplicit false

namespace PromptTemplate

namespace Token

/-- If the token opens a variant with a bound, its numbers are below the limit. -/
def BoundBelow (limit : Nat) : Token → Prop
  | .opening (some bound) _ _ _ => bound.Below limit
  | _ => True

instance decidableBoundBelow (limit : Nat) : (token : Token) → Decidable (token.BoundBelow limit)
  | .opening (some bound) _ _ _ => inferInstanceAs (Decidable (bound.Below limit))
  | .opening none _ _ _ => inferInstanceAs (Decidable True)
  | .text _ | .gap | .wildcard _ | .divider _ _ | .closing _ | .fault _ =>
    inferInstanceAs (Decidable True)

end Token

namespace Template

/-! ## Origins -/

/-- Every variant that stands in the template is that of an opening among the tokens. -/
def OpenedBy (tokens : List Token) (template : Template) : Prop :=
  ∀ {options : List (Weighted Template)} {range : PickRange} {joiner : Text},
    StandsIn (.variant options range joiner) template →
      ∃ bound weight start, .opening bound joiner weight start ∈ tokens ∧
        Template.variant options range joiner = .ofOptions options bound joiner

variable {all : List Token}

theorem openedBy_literal (t : Text) : OpenedBy all (.literal t) :=
  nofun

theorem openedBy_wildcard (name : Text) : OpenedBy all (.wildcard name) :=
  nofun

theorem openedBy_ofParts {parts : List Template} (each : ∀ part ∈ parts, OpenedBy all part) :
    OpenedBy all (.ofParts parts) := by
  intro options range joiner stands
  cases stands with
  | part member inside => exact each _ member inside

/-! ## Pieces -/

/-- Every template among the pieces has its variants from the tokens. -/
def PiecesOpenedBy (tokens : List Token) (pieces : List Piece) : Prop :=
  ∀ template, .node template ∈ pieces → OpenedBy tokens template

theorem mem_allParts {g : Gathered} {part : Template} (member : part ∈ g.allParts) :
    (∃ t, part = .literal t) ∨ part ∈ g.parts := by
  unfold Gathered.allParts at member
  split at member
  · exact .inr member
  · exact (List.mem_cons.1 member).imp (fun same => ⟨_, same⟩) id

/-- What is gathered is text, or was a template already. -/
theorem mem_gather {pieces : List Piece} {part : Template} (member : part ∈ gather pieces) :
    (∃ t, part = .literal t) ∨ .node part ∈ pieces := by
  have kept : part ∈ (pieces.foldr Gathered.add Gathered.empty).parts →
      (∃ t, part = .literal t) ∨ .node part ∈ pieces := by
    clear member
    induction pieces with
    | nil => exact nofun
    | cons p rest ih =>
      have later := fun member => (ih member).imp id (List.mem_cons_of_mem p)
      rw [List.foldr_cons]
      cases p with
      | text t => exact later
      | gap => exact later
      | node template =>
        intro member
        rcases List.mem_cons.1 member with rfl | member
        · exact .inr List.mem_cons_self
        · exact (mem_allParts member).elim .inl later
  exact (mem_allParts member).elim .inl kept

theorem openedBy_ofPieces {pieces : List Piece} (opened : PiecesOpenedBy all pieces) :
    OpenedBy all (ofPieces pieces) := by
  apply openedBy_ofParts
  intro part member
  rcases mem_gather member with ⟨t, rfl⟩ | isNode
  · exact openedBy_literal t
  · exact opened part isNode

/-! ## Open variants -/

/-- The open variant was opened by one of the tokens, and so were those in it. -/
structure VariantOrigins (tokens : List Token) (v : OpenVariant) : Prop where
  opening : ∃ weight start, .opening v.bound v.joiner weight start ∈ tokens
  options : ∀ option ∈ v.options, OpenedBy tokens option.value
  before : PiecesOpenedBy tokens v.before

section Open

variable {v : OpenVariant} {pieces : List Piece}

theorem VariantOrigins.endOption (origins : VariantOrigins all v)
    (opened : PiecesOpenedBy all pieces) :
    ∀ option ∈ v.endOption pieces, OpenedBy all option.value := by
  have last : PiecesOpenedBy all pieces.reverse :=
    fun template member => opened template (List.mem_reverse.1 member)
  exact List.forall_mem_cons.2 ⟨openedBy_ofPieces last, origins.options⟩

theorem VariantOrigins.close (origins : VariantOrigins all v)
    (opened : PiecesOpenedBy all pieces) : OpenedBy all (v.close pieces) := by
  obtain ⟨weight, start, opening⟩ := origins.opening
  intro options range joiner stands
  cases stands with
  | itself => exact ⟨v.bound, weight, start, opening, rfl⟩
  | option member inside =>
    exact origins.endOption opened _ (List.mem_reverse.1 member) inside

end Open

/-! ## Assembled templates -/

structure Origins (tokens : List Token) (outer : List OpenVariant) (pieces : List Piece) :
    Prop where
  outer : ∀ v ∈ outer, VariantOrigins tokens v
  pieces : PiecesOpenedBy tokens pieces

variable {outer outer' : List OpenVariant} {pieces pieces' : List Piece} {token : Token}

theorem piecesOpenedBy_nil : PiecesOpenedBy all [] :=
  nofun

theorem PiecesOpenedBy.node {template : Template} (opened : PiecesOpenedBy all pieces)
    (new : OpenedBy all template) : PiecesOpenedBy all (.node template :: pieces) := by
  intro other member
  rcases List.mem_cons.1 member with same | later
  · exact Piece.node.inj same ▸ new
  · exact opened other later

/-- A piece that is no template changes nothing. -/
theorem PiecesOpenedBy.other {p : Piece} (opened : PiecesOpenedBy all pieces)
    (noNode : ∀ template, p ≠ .node template) : PiecesOpenedBy all (p :: pieces) := by
  intro template member
  rcases List.mem_cons.1 member with same | later
  · exact absurd same.symm (noNode template)
  · exact opened template later

theorem origins_nil : Origins all [] [] :=
  ⟨fun _ impossible => absurd impossible List.not_mem_nil, piecesOpenedBy_nil⟩

/-- What a step opens or completes comes from the tokens. -/
theorem Origins.advance (origins : Origins all outer pieces) (member : token ∈ all)
    (step : advance outer pieces token = .ok (outer', pieces')) : Origins all outer' pieces' := by
  cases token with
  | text t =>
    obtain ⟨rfl, rfl⟩ := Prod.mk.inj (Except.ok.inj step)
    exact ⟨origins.outer, origins.pieces.other (by simp)⟩
  | gap =>
    obtain ⟨rfl, rfl⟩ := Prod.mk.inj (Except.ok.inj step)
    exact ⟨origins.outer, origins.pieces.other (by simp)⟩
  | wildcard name =>
    obtain ⟨rfl, rfl⟩ := Prod.mk.inj (Except.ok.inj step)
    exact ⟨origins.outer, origins.pieces.node (openedBy_wildcard name)⟩
  | opening bound joiner weight start =>
    obtain ⟨rfl, rfl⟩ := Prod.mk.inj (Except.ok.inj step)
    -- the pieces so far wait in front of the new variant, which has none
    refine ⟨List.forall_mem_cons.2 ⟨?_, origins.outer⟩, piecesOpenedBy_nil⟩
    exact ⟨⟨weight, start, member⟩, nofun, origins.pieces⟩
  | divider weight start =>
    cases outer with
    | nil => cases step
    | cons v outer =>
      obtain ⟨rfl, rfl⟩ := Prod.mk.inj (Except.ok.inj step)
      obtain ⟨innermost, others⟩ := List.forall_mem_cons.1 origins.outer
      refine ⟨List.forall_mem_cons.2 ⟨?_, others⟩, piecesOpenedBy_nil⟩
      exact ⟨innermost.opening, innermost.endOption origins.pieces, innermost.before⟩
  | closing start =>
    cases outer with
    | nil => cases step
    | cons v outer =>
      obtain ⟨rfl, rfl⟩ := Prod.mk.inj (Except.ok.inj step)
      obtain ⟨innermost, others⟩ := List.forall_mem_cons.1 origins.outer
      exact ⟨others, innermost.before.node (innermost.close origins.pieces)⟩
  | fault stop => cases step

/-- Every variant of the tree comes from an opening among the tokens. -/
theorem openedBy_of_assemble {tokens : List Token} {template : Template}
    (origins : Origins all outer pieces) (among : tokens ⊆ all)
    (read : assemble outer pieces tokens = .ok template) : OpenedBy all template := by
  induction tokens generalizing outer pieces with
  | nil =>
    cases outer with
    | nil =>
      obtain rfl := Except.ok.inj read
      exact openedBy_ofPieces fun template member =>
        origins.pieces template (List.mem_reverse.1 member)
    | cons v outer => cases read
  | cons token rest ih =>
    obtain ⟨later, next, step, read⟩ := assemble_cons_eq_ok_iff.1 read
    obtain ⟨member, others⟩ := List.cons_subset.1 among
    exact ih (origins.advance member step) others read

/-- Every variant that stands in what a text writes is opened by a token of the text. -/
theorem exists_opening_of_standsIn {t : Text} {template : Template}
    (read : parse t = .ok template) {options : List (Weighted Template)} {range : PickRange}
    {joiner : Text} (stands : StandsIn (.variant options range joiner) template) :
    ∃ bound weight start,
      .opening bound joiner weight start ∈ Token.tokens (stripComments t) ∧
        Template.variant options range joiner = .ofOptions options bound joiner :=
  openedBy_of_assemble origins_nil (List.Subset.refl _) (parse_eq_ok_iff.1 read) stands

/-! ## Bounds -/

def BoundsBelow (limit : Nat) (t : Text) : Prop :=
  ∀ token ∈ Token.tokens (stripComments t), token.BoundBelow limit

instance decidableBoundsBelow (limit : Nat) (t : Text) : Decidable (BoundsBelow limit t) :=
  inferInstanceAs (Decidable (∀ token ∈ Token.tokens (stripComments t), token.BoundBelow limit))

/-- No more is picked than may be written, or than there are options. -/
theorem most_lt_of_boundsBelow {limit : Nat} (large : 2 ≤ limit) {t : Text}
    (below : BoundsBelow limit t) {template : Template} (read : parse t = .ok template)
    {options : List (Weighted Template)} {range : PickRange} {joiner : Text}
    (stands : StandsIn (.variant options range joiner) template) :
    range.most < max limit (options.length + 1) := by
  obtain ⟨bound, weight, start, opening, same⟩ := exists_opening_of_standsIn read stands
  obtain ⟨-, rfl, -⟩ := Template.variant.inj same
  cases bound with
  | none => exact Nat.lt_of_lt_of_le large (Nat.le_max_left ..)
  | some bound => exact Bound.most_lt_of_below large (below _ opening) options.length

end Template

end PromptTemplate
