/-
# PromptTemplate.Proofs.Choiceless -- text without choices passes through

A template text without any choice is read as a template that is nothing but a text
(`ofText`), and both modes answer it with that text.

A wildcard or a variant that has been read stays: it is open, or among the pieces, and in
the end among the parts (`ChoiceRead`).  So a tree without choices comes of tokens that are
text and white space, and these tell the pieces it is made of
(`exists_pieces_of_choiceless`).  What the pieces are gathered into has the visible
characters of the text (`visible_tokens`) and is well spaced.  When the text has no special
characters either, its words are the words of what is gathered (`gather_plain`).
-/
import PromptTemplate.Enumeration
import PromptTemplate.Proofs.References
import PromptTemplate.Proofs.Sampling.Follows
import PromptTemplate.Proofs.Template.Spacing
import PromptTemplate.Proofs.Template.Words
import PromptTemplate.Sampling
import Mathlib.Data.Bool.AllAny

set_option autoImplicit false

namespace PromptTemplate

namespace Template

open Token
open Text (isSpace visible WellSpaced visible_append visible_cons_of_space
  visible_cons_of_visible)

/-- No wildcard and no variant stands in the template. -/
def Choiceless (template : Template) : Prop :=
  (∀ name, ¬ StandsIn (.wildcard name) template) ∧
    ∀ options range joiner, ¬ StandsIn (.variant options range joiner) template

/-- The template that is nothing but a text: one literal, or none for the empty text. -/
def ofText (t : Text) : Template :=
  .ofParts (if t.isEmpty then [] else [.literal t])

theorem ofText_injective : Function.Injective ofText := by
  intro s t same
  obtain ⟨parts, -⟩ := Template.sequence.inj same
  cases s with
  | nil =>
    cases t with
    | nil => rfl
    | cons c t => cases parts
  | cons c s =>
    cases t with
    | nil => cases parts
    | cons d t => exact Template.literal.inj (List.cons.inj parts).1

theorem choiceless_ofText (t : Text) : Choiceless (ofText t) := by
  have parts : ∀ part ∈ (if t.isEmpty then [] else [Template.literal t]), part = .literal t := by
    split
    · exact nofun
    · exact fun part member => List.mem_singleton.1 member
  constructor
  · rintro name (_ | ⟨member, inside⟩)
    rw [parts _ member] at inside
    cases inside
  · rintro options range joiner (_ | ⟨member, inside⟩)
    rw [parts _ member] at inside
    cases inside

/-! ## Choices that have been read -/

inductive IsChoice : Template → Prop
  | wildcard (name : Text) : IsChoice (.wildcard name)
  | variant (options : List (Weighted Template)) (range : PickRange) (joiner : Text) :
      IsChoice (.variant options range joiner)

theorem Choiceless.not_standsIn {template inner : Template} (choiceless : Choiceless template)
    (choice : IsChoice inner) : ¬ StandsIn inner template := by
  cases choice with
  | wildcard name => exact choiceless.1 name
  | variant options range joiner => exact choiceless.2 options range joiner

/-- A template among the pieces is one of the parts. -/
theorem mem_gather_of_node {pieces : List Piece} {part : Template} (member : .node part ∈ pieces) :
    part ∈ gather pieces := by
  have outward : ∀ {g : Gathered}, part ∈ g.parts → part ∈ g.allParts := by
    intro g inside
    unfold Gathered.allParts
    split
    · exact inside
    · exact List.mem_cons_of_mem _ inside
  apply outward
  induction pieces with
  | nil => cases member
  | cons p rest ih =>
    rw [List.foldr_cons]
    rcases List.mem_cons.1 member with rfl | later
    · exact List.mem_cons_self
    · have inside := ih later
      cases p with
      | text t => exact inside
      | gap => exact inside
      | node template => exact List.mem_cons_of_mem _ (outward inside)

section Assembly

variable {outer later : List OpenVariant} {pieces next : List Piece} {token : Token}
  {tokens : List Token} {template : Template}

/-- A choice has been read: a variant is open, or there is one among the pieces. -/
def ChoiceRead (outer : List OpenVariant) (pieces : List Piece) : Prop :=
  outer ≠ [] ∨ ∃ template, .node template ∈ pieces ∧ IsChoice template

theorem ChoiceRead.push (choice : ChoiceRead outer pieces) (p : Piece) :
    ChoiceRead outer (p :: pieces) :=
  choice.imp_right fun ⟨template, member, isChoice⟩ =>
    ⟨template, List.mem_cons_of_mem p member, isChoice⟩

/-- What has been read stays read. -/
theorem ChoiceRead.advance (choice : ChoiceRead outer pieces)
    (step : advance outer pieces token = .ok (later, next)) : ChoiceRead later next := by
  cases token with
  | text t =>
    obtain ⟨rfl, rfl⟩ := Prod.mk.inj (Except.ok.inj step)
    exact choice.push _
  | gap =>
    obtain ⟨rfl, rfl⟩ := Prod.mk.inj (Except.ok.inj step)
    exact choice.push _
  | wildcard name =>
    obtain ⟨rfl, rfl⟩ := Prod.mk.inj (Except.ok.inj step)
    exact choice.push _
  | opening bound joiner weight start =>
    obtain ⟨rfl, rfl⟩ := Prod.mk.inj (Except.ok.inj step)
    exact .inl (List.cons_ne_nil _ _)
  | divider weight start =>
    cases outer with
    | nil => cases step
    | cons v outer =>
      obtain ⟨rfl, rfl⟩ := Prod.mk.inj (Except.ok.inj step)
      exact .inl (List.cons_ne_nil _ _)
  | closing start =>
    cases outer with
    | nil => cases step
    | cons v outer =>
      obtain ⟨rfl, rfl⟩ := Prod.mk.inj (Except.ok.inj step)
      exact .inr ⟨_, List.mem_cons_self, .variant ..⟩
  | fault stop => cases step

/-- A choice that has been read stays in the template. -/
theorem not_choiceless_of_choiceRead (choice : ChoiceRead outer pieces)
    (read : assemble outer pieces tokens = .ok template) : ¬ Choiceless template := by
  induction tokens generalizing outer pieces with
  | nil =>
    cases outer with
    | cons v outer => cases read
    | nil =>
      obtain rfl := Except.ok.inj read
      obtain ⟨part, member, isChoice⟩ := choice.resolve_left (fun some => some rfl)
      intro choiceless
      exact choiceless.not_standsIn isChoice
        (.part (mem_gather_of_node (List.mem_reverse.2 member)) .itself)
  | cons token tokens ih =>
    obtain ⟨later, next, step, read⟩ := assemble_cons_eq_ok_iff.1 read
    exact ih (choice.advance step) read

/-! ## Tokens without choices -/

/-- The token is text or white space, and so is the piece that it makes. -/
inductive MakesPiece : Token → Piece → Prop
  | text (t : Text) : MakesPiece (.text t) (.text t)
  | gap : MakesPiece .gap .gap

def spoken : Token → Text
  | .text t => t
  | _ => []

/-- A tree without choices is made of the pieces of its tokens. -/
theorem exists_pieces_of_choiceless (read : assemble [] pieces tokens = .ok template)
    (choiceless : Choiceless template) :
    ∃ later, List.Forall₂ MakesPiece tokens later ∧
      template = ofPieces (pieces.reverse ++ later) := by
  induction tokens generalizing pieces with
  | nil => exact ⟨[], .nil, by rw [List.append_nil]; exact (Except.ok.inj read).symm⟩
  | cons token tokens ih =>
    cases token with
    | text t =>
      obtain ⟨later, makes, same⟩ := ih read
      refine ⟨.text t :: later, .cons (.text t) makes, ?_⟩
      rw [same, List.reverse_cons, List.append_assoc, List.singleton_append]
    | gap =>
      obtain ⟨later, makes, same⟩ := ih read
      refine ⟨.gap :: later, .cons .gap makes, ?_⟩
      rw [same, List.reverse_cons, List.append_assoc, List.singleton_append]
    | wildcard name =>
      have choice : ChoiceRead [] (.node (.wildcard name) :: pieces) :=
        .inr ⟨_, List.mem_cons_self, .wildcard name⟩
      exact absurd choiceless (not_choiceless_of_choiceRead choice read)
    | opening bound joiner weight start =>
      have choice : ChoiceRead [⟨start, bound, joiner, [], weight, pieces⟩] [] :=
        .inl (List.cons_ne_nil _ _)
      exact absurd choiceless (not_choiceless_of_choiceRead choice read)
    | divider weight start => cases read
    | closing start => cases read
    | fault stop => cases read

/-- The words that the pieces of such tokens make say what the tokens say. -/
theorem gather_spoken (makes : List.Forall₂ MakesPiece tokens pieces) :
    (pieces.foldr Gathered.add Gathered.empty).parts = [] ∧
      (pieces.foldr Gathered.add Gathered.empty).allWords.flatten =
        (tokens.map spoken).flatten := by
  have all : ∀ g : Gathered, g.allWords.flatten = g.word ++ g.words.flatten := by
    intro g
    unfold Gathered.allWords
    split
    · rename_i none
      rw [List.isEmpty_iff.1 none, List.nil_append]
    · rfl
  induction makes with
  | nil => exact ⟨rfl, rfl⟩
  | cons first _ ih =>
    obtain ⟨none, same⟩ := ih
    rw [List.foldr_cons, List.map_cons, List.flatten_cons, ← same]
    refine ⟨by cases first <;> exact none, ?_⟩
    cases first with
    | text t => rw [all, all, Gathered.add, spoken, List.append_assoc]
    | gap => rw [all]; rfl

end Assembly

/-! ## Visible characters -/

theorem visible_scanGroup {opener closer : Char} {rest : Text} {p : Piece}
    (makes : MakesPiece (scanGroup opener closer rest).1 p) :
    visible (spoken (scanGroup opener closer rest).1) ++ visible (scanGroup opener closer rest).2 =
      visible (opener :: rest) := by
  unfold scanGroup at makes ⊢
  rcases found : splitGroup [closer] rest with ⟨body, ends⟩
  rw [found] at makes
  cases ends with
  | closed behind =>
    obtain ⟨rfl, -⟩ := splitGroup_append found
    show visible (normalizeGroup (opener :: body)) ++ visible behind = _
    rw [normalizeGroup, visible_tidyFrom, ← visible_append, List.cons_append]
  | mismatched start => cases makes
  | unclosed => cases makes

/-- A token of text or white space has the visible characters that it was read from. -/
theorem visible_scan {c : Char} {rest : Text} {p : Piece} (makes : MakesPiece (scan c rest).1 p) :
    visible (spoken (scan c rest).1) ++ visible (scan c rest).2 = visible (c :: rest) := by
  revert makes
  unfold scan
  split
  · unfold scanWildcard
    split <;> exact nofun
  · unfold scanOpening
    split <;> exact nofun
  · exact nofun
  · exact nofun
  · exact visible_scanGroup
  · exact visible_scanGroup
  · exact nofun
  · exact nofun
  · exact nofun
  · split
    · rename_i space
      exact fun _ => (visible_cons_of_space space _).symm
    · exact fun _ => (visible_append [_] _).symm

/-- The tokens of a text say all its visible characters, in order. -/
theorem visible_tokens {t : Text} {pieces : List Piece}
    (makes : List.Forall₂ MakesPiece (tokens t) pieces) :
    visible ((tokens t).map spoken).flatten = visible t := by
  fun_induction tokens t generalizing pieces with
  | case1 => rfl
  | case2 c rest ih =>
    cases makes with
    | cons first others =>
      rw [List.map_cons, List.flatten_cons, visible_append, ih others, visible_scan first]

/-! ## The text that is read -/

/-- Words alone make nothing but a text. -/
theorem ofParts_allParts_of_words {g : Gathered} (noParts : g.parts = [])
    (some : g.allWords ≠ [] → Text.joinAll [' '] g.allWords ≠ []) :
    ofParts g.allParts = ofText (Text.joinAll [' '] g.allWords) := by
  rw [ofText]
  by_cases none : g.allWords = []
  · rw [Gathered.allParts_of_allWords_eq_nil none, noParts, none]
    rfl
  · rw [Gathered.allParts_of_allWords_ne_nil none, noParts, if_neg (by simpa using some none)]

/-- A text without choices is read as a text: one with the same visible characters and
without other white space than single spaces between them. -/
theorem exists_text_of_choiceless {t : Text} {template : Template}
    (read : parse t = .ok template) (choiceless : Choiceless template) :
    ∃ plain, template = ofText plain ∧ visible plain = visible (stripComments t) ∧
      WellSpaced plain := by
  obtain ⟨pieces, makes, own⟩ := exists_pieces_of_choiceless (parse_eq_ok_iff.1 read) choiceless
  obtain ⟨limit, all, sound, same⟩ := exists_limit_of_parse read
  obtain ⟨parts, -⟩ := Template.sequence.inj (own.symm.trans same)
  obtain ⟨noParts, spoke⟩ := gather_spoken makes
  rw [List.reverse_nil, List.nil_append] at own parts
  -- what is known of a literal, if there is one
  have literal : (pieces.foldr Gathered.add Gathered.empty).allWords ≠ [] →
      PartSound limit (.literal (Text.joinAll [' ']
        (pieces.foldr Gathered.add Gathered.empty).allWords)) := by
    intro some
    apply (gather_sound sound).1
    rw [← parts, gather, Gathered.allParts_of_allWords_ne_nil some]
    exact List.mem_cons_self
  refine ⟨_, own.trans (ofParts_allParts_of_words noParts fun some => (literal some).1.1), ?_, ?_⟩
  · rw [Text.visible_joinAll, spoke, visible_tokens makes]
  · by_cases none : (pieces.foldr Gathered.add Gathered.empty).allWords = []
    · rw [none]
      exact .nil
    · exact wellSpaced_of_isLiteralText ((literal none).2 _ rfl)

/-! ## Texts without special characters -/

/-- No character of the text stands for anything but itself. -/
structure IsPlainText (t : Text) : Prop where
  no_sign : ∀ c ∈ t, c ∉ ['{', '|', '}', '(', '[', '$', ')', ']']
  no_delimiter : ¬ ['_', '_'] <:+: t
  commentFree : CommentFree t

def plainPiece (c : Char) : Piece :=
  if isSpace c then .gap else .text [c]

/-- A plain text is read character by character, each making a piece of its own. -/
theorem assemble_plain {t : Text} (plain : IsPlainText t) (pieces : List Piece) :
    assemble [] pieces (tokens t) = .ok (ofPieces (pieces.reverse ++ t.map plainPiece)) := by
  induction t generalizing pieces with
  | nil => rw [tokens, List.map_nil, List.append_nil]; rfl
  | cons c t ih =>
    obtain ⟨other, noSign⟩ := List.forall_mem_cons.1 plain.no_sign
    have noDelimiter := plain.no_delimiter
    rw [pair_infix_cons_iff, not_or] at noDelimiter
    have later : IsPlainText t :=
      ⟨noSign, noDelimiter.1, plain.commentFree.of_infix (List.suffix_cons c t).isInfix⟩
    rw [tokens_cons, scan_other other fun own first => noDelimiter.2 ⟨own, first⟩]
    by_cases space : isSpace c = true
    · rw [if_pos space, assemble, ih later, List.reverse_cons, List.append_assoc, List.map_cons,
        plainPiece, if_pos space]
      rfl
    · rw [if_neg space, assemble, ih later, List.reverse_cons, List.append_assoc, List.map_cons,
        plainPiece, if_neg space]
      rfl

/-- The words that are gathered are what stands between the white space. -/
theorem gather_plain (t : Text) :
    ∃ first others, t.splitOnP isSpace = first :: others ∧
      (t.map plainPiece).foldr Gathered.add Gathered.empty =
        ⟨first, others.filter fun word => !word.isEmpty, []⟩ := by
  induction t with
  | nil => exact ⟨[], [], List.splitOnP_nil, rfl⟩
  | cons c t ih =>
    obtain ⟨first, others, split, gathered⟩ := ih
    rw [List.splitOnP_cons_eq_if_modifyHead, split, List.map_cons, List.foldr_cons, gathered,
      plainPiece]
    by_cases space : isSpace c = true
    · rw [if_pos space, if_pos space]
      refine ⟨[], first :: others, rfl, ?_⟩
      rw [Gathered.add, Gathered.allWords, List.filter_cons]
      cases first <;> rfl
    · rw [if_neg space, if_neg space]
      exact ⟨c :: first, others, List.modifyHead_cons, rfl⟩

theorem allWords_plain (t : Text) :
    ((t.map plainPiece).foldr Gathered.add Gathered.empty).allWords = Text.words t ∧
      ((t.map plainPiece).foldr Gathered.add Gathered.empty).parts = [] := by
  obtain ⟨first, others, split, gathered⟩ := gather_plain t
  rw [gathered, Text.words, split, List.filter_cons, Gathered.allWords]
  refine ⟨?_, rfl⟩
  cases first <;> rfl

/-- Text that stands for itself is read as its words. -/
theorem parse_plain {t : Text} (plain : IsPlainText t) :
    parse t = .ok (ofText (Text.joinAll [' '] (Text.words t))) := by
  obtain ⟨same, noParts⟩ := allWords_plain t
  rw [parse_eq_ok_iff, stripComments_eq_self plain.commentFree, assemble_plain plain,
    List.reverse_nil, List.nil_append, ← same]
  refine congrArg Except.ok (ofParts_allParts_of_words noParts fun some => ?_)
  rw [same] at some ⊢
  exact fun none => some (Text.joinAll_words_eq_nil_iff.1 none)

end Template

open Template (ofText Choiceless IsPlainText parse stripComments)
open Text (visible WellSpaced words)

variable {t : Text}

/-! ## Both modes -/

/-- The only rendering of a text is the text. -/
theorem expand_ofText (provider : Provider) (nested : Text → Renderings) (spaced : WellSpaced t) :
    Enumeration.expand provider nested (ofText t) = .singleton (.ok t) := by
  have trimmed := spaced.trim_eq
  cases t with
  | nil =>
    rw [ofText, Template.ofParts, Enumeration.expand]
    rfl
  | cons c t =>
    have parts : Enumeration.expandParts provider nested [' '] [.literal (c :: t)] =
        .singleton (.ok (c :: t)) := by
      rw [Enumeration.expandParts, Enumeration.expand]
      rfl
    show Enumeration.expand provider nested (.sequence [.literal (c :: t)] [' ']) = _
    rw [Enumeration.expand, parts]
    exact congrArg (fun text => (LazyList.singleton (.ok text) : Renderings)) trimmed

/-- As long as any prompt is asked for, the text is the only one. -/
theorem takeOk_distinct_singleton {most : Nat} (some : 1 ≤ most) :
    (LazyList.singleton (.ok t) : Renderings).distinct.takeOk most = .ok [t] := by
  obtain ⟨more, rfl⟩ := Nat.exists_eq_add_of_le' some
  cases more with
  | zero => rfl
  | succ more => rfl

theorem enumerated_ofText (provider : Provider) (spaced : WellSpaced t) {most : Nat}
    (some : 1 ≤ most) : Enumeration.promptsOf provider (ofText t) most = .ok [t] := by
  rw [Enumeration.promptsOf, if_neg (Nat.ne_of_gt some), Enumeration.expandAt,
    expand_ofText _ _ spaced, takeOk_distinct_singleton some]

/-- Random prompts of a text are copies of it, and no word is drawn for them. -/
theorem sampled_ofText {σ : Type} [WordSource σ] (provider : Provider) (spaced : WellSpaced t)
    (count : Nat) :
    (Sampling.promptsOf provider (ofText t) count : Draw σ (List Text)) =
      pure (List.replicate count t) := by
  have once : (Sampling.renderAt provider 0 (ofText t) : Draw σ Text) = pure t := by
    have trimmed := spaced.trim_eq
    rw [Sampling.renderAt]
    cases t with
    | nil =>
      show Sampling.render provider _ (.sequence [] [' ']) = _
      rw [Sampling.render, Sampling.renderParts]
      rfl
    | cons c t =>
      have joined : Text.joinNonEmpty [' '] [c :: t] = c :: t := List.intercalate_singleton
      show Sampling.render provider _ (.sequence [.literal (c :: t)] [' ']) = _
      rw [Sampling.render, Sampling.renderParts, Sampling.render, Sampling.renderParts]
      show (pure (Text.trim (Text.joinNonEmpty [' '] [c :: t])) : Draw σ Text) = _
      rw [joined, trimmed]
  induction count with
  | zero => rfl
  | succ count ih => rw [Sampling.promptsOf, once, pure_bind, ih, pure_bind, List.replicate_succ]

/-- The text is what both modes answer the template with. -/
structure PassesThrough (template t : Text) : Prop where
  enumerated : ∀ (provider : Provider) (most : Nat), 1 ≤ most →
    Enumeration.prompts provider template most = .ok [t]
  sampled : ∀ {σ : Type} [WordSource σ] (provider : Provider) (count : Nat) (source : σ),
    Draw.outcome (Sampling.prompts provider template count) source =
      (.ok (List.replicate count t), source)

theorem passesThrough_of_parse {template : Text} (read : parse template = .ok (ofText t))
    (spaced : WellSpaced t) : PassesThrough template t where
  enumerated provider most some := by
    rw [Enumeration.prompts, read]
    show (Enumeration.promptsOf provider (ofText t) most).map _ = _
    rw [enumerated_ofText provider spaced some]
    rfl
  sampled provider count source := by
    rw [Sampling.prompts, read]
    show Draw.outcome (Sampling.promptsOf provider (ofText t) count) source = _
    rw [sampled_ofText provider spaced]
    rfl

/-- Text without choices passes through both modes: as the text of its visible characters,
with single spaces between them where any white space is left.  A text without special
characters is one, and what passes through are its words. -/
theorem choiceless_passes_through (template : Text) :
    (∀ tree, parse template = .ok tree → Choiceless tree →
      ∃ t, tree = ofText t ∧ visible t = visible (stripComments template) ∧ WellSpaced t ∧
        PassesThrough template t) ∧
    (IsPlainText template →
      parse template = .ok (ofText (Text.joinAll [' '] (words template))) ∧
        PassesThrough template (Text.joinAll [' '] (words template))) := by
  have first : ∀ tree, parse template = .ok tree → Choiceless tree →
      ∃ t, tree = ofText t ∧ visible t = visible (stripComments template) ∧ WellSpaced t ∧
        PassesThrough template t := by
    intro tree read choiceless
    obtain ⟨t, rfl, seen, spaced⟩ := Template.exists_text_of_choiceless read choiceless
    exact ⟨t, rfl, seen, spaced, passesThrough_of_parse read spaced⟩
  refine ⟨first, fun plain => ?_⟩
  have read := Template.parse_plain plain
  obtain ⟨t, same, -, -, passes⟩ := first _ read (Template.choiceless_ofText _)
  obtain rfl := Template.ofText_injective same
  exact ⟨read, passes⟩

/-- A group is tidied and stays with the word that it touches; a no-break space between
words is white space like any other. -/
theorem choiceless_passes_through_group :
    let template : Text := "\ta ( b  c : d )é/* e */f # g\n ".toList
    let plain : Text := " é\u00a0f ".toList
    parse template = .ok (ofText "a (b c:d)é f".toList) ∧
      PassesThrough template "a (b c:d)é f".toList ∧
      IsPlainText plain ∧ PassesThrough plain "é f".toList := by
  intro template plain
  have read : parse template = .ok (ofText "a (b c:d)é f".toList) := by
    with_unfolding_all rfl
  have isPlain : IsPlainText plain :=
    ⟨List.all_iff_forall_prop.1 (by decide), by decide, by decide, by decide, by decide⟩
  obtain ⟨t, same, -, -, passes⟩ :=
    (choiceless_passes_through template).1 _ read (Template.choiceless_ofText _)
  obtain rfl := Template.ofText_injective same
  have joined : Text.joinAll [' '] (words plain) = "é f".toList := by decide
  exact ⟨read, passes, isPlain, joined ▸ ((choiceless_passes_through plain).2 isPlain).2⟩

end PromptTemplate
