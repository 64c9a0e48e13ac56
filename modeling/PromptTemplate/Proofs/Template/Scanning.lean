/-
# PromptTemplate.Proofs.Template.Scanning -- tokens and the texts that they come from

A token of text is an atom: a plain character or a tidy group.  An atom is read as
itself in front of nearly any text (`tokens_atom`), so the atoms of a word are read one
by one; white space is read as a gap and a printed wildcard as itself, whatever follows.

In a text in which no comment starts every token is sound, and atoms that follow each
other form neither a delimiter nor a comment (`isChain_tokens`).
-/
import PromptTemplate.Proofs.Template.Groups
import PromptTemplate.Proofs.Template.Signs
import Mathlib.Data.List.Chain

set_option autoImplicit false

namespace PromptTemplate.Token

open Template

/-! ## Atoms -/

/-- A visible character that starts neither a sign, nor a group, nor a comment. -/
def IsPlain (c : Char) : Prop :=
  Text.isSpace c = false ∧ c ∉ ['{', '|', '}', '(', '[', '$', ')', ']', '#']

/-- A plain character or a tidy group. -/
def IsAtom (t : Text) : Prop :=
  (∃ c, t = [c] ∧ IsPlain c) ∨ IsGroup t

/-- Side by side the two texts start neither a wildcard nor a comment where they meet. -/
def MayMeet (s t : Text) : Prop :=
  ∀ a b, s.getLast? = some a → t.head? = some b → ¬ (a = '_' ∧ b = '_') ∧ ¬ opensComment a b

theorem tokens_cons (c : Char) (rest : Text) :
    tokens (c :: rest) = (scan c rest).1 :: tokens (scan c rest).2 := by
  rw [tokens]

theorem scan_underscores (body : Text) :
    scan '_' ('_' :: body) = scanWildcard ('_' :: '_' :: body) body := rfl

theorem scan_brace (rest : Text) : scan '{' rest = scanOpening rest := rfl

theorem scan_bar (rest : Text) :
    scan '|' rest = (.divider (weight rest).1 ('|' :: rest), (weight rest).2) := rfl

/-- A character that starts neither a sign nor a group is white space or text of its own. -/
theorem scan_other {c : Char} {rest : Text} (other : c ∉ ['{', '|', '}', '(', '[', '$', ')', ']'])
    (alone : c = '_' → rest.head? ≠ some '_') :
    scan c rest = if Text.isSpace c then (.gap, rest) else (.text [c], rest) := by
  simp only [List.mem_cons, List.not_mem_nil, or_false, not_or] at other
  unfold scan
  split
  · exact absurd rfl (alone rfl)
  · exact absurd rfl other.1
  · exact absurd rfl other.2.1
  · exact absurd rfl other.2.2.1
  · exact absurd rfl other.2.2.2.1
  · exact absurd rfl other.2.2.2.2.1
  · exact absurd rfl other.2.2.2.2.2.1
  · exact absurd rfl other.2.2.2.2.2.2.1
  · exact absurd rfl other.2.2.2.2.2.2.2
  · rfl

theorem scan_plain {c : Char} {rest : Text} (plain : IsPlain c)
    (alone : c = '_' → rest.head? ≠ some '_') : scan c rest = (.text [c], rest) := by
  obtain ⟨visible, other⟩ := plain
  rw [scan_other (by simp_all) alone, visible]
  rfl

theorem scan_bracket {opener closer : Char} (brackets : closerOf? opener = some closer)
    (rest : Text) : scan opener rest = scanGroup opener closer rest := by
  rcases bracket_of_closerOf? brackets with rfl | rfl
  · obtain rfl := Option.some.inj brackets
    rfl
  · obtain rfl := Option.some.inj brackets
    rfl

/-- An atom is read as itself, but a lone underscore only where no other follows. -/
theorem tokens_atom {t rest : Text} (atom : IsAtom t)
    (alone : t = ['_'] → rest.head? ≠ some '_') :
    tokens (t ++ rest) = .text t :: tokens rest := by
  rcases atom with ⟨c, rfl, plain⟩ | ⟨opener, closer, body, brackets, rfl, closed, tidy, -⟩
  · rw [List.singleton_append, tokens_cons, scan_plain plain fun same => alone (same ▸ rfl)]
  · rw [List.cons_append, tokens_cons, scan_bracket brackets, scanGroup,
      (splitGroup_append closed).2 rest]
    simp only [tidy]

theorem isAtom_ne_nil {t : Text} (atom : IsAtom t) : t ≠ [] := by
  rcases atom with ⟨c, rfl, -⟩ | group
  · exact List.cons_ne_nil _ _
  · rintro rfl
    obtain ⟨⟨opener, first, -⟩, -⟩ := ends_of_isGroup group
    cases first

theorem commentFree_of_isAtom {t : Text} (atom : IsAtom t) : CommentFree t := by
  rcases atom with ⟨c, rfl, plain⟩ | ⟨_, _, _, _, _, _, _, free⟩
  · apply commentFree_singleton_iff.2
    intro hash
    subst hash
    exact absurd plain.2 (by decide)
  · exact free

/-! ## White space and printed signs -/

theorem tokens_of_space {c : Char} (space : Text.isSpace c = true) (rest : Text) :
    tokens (c :: rest) = .gap :: tokens rest := by
  have visible : ∀ d ∈ ['{', '|', '}', '(', '[', '$', ')', ']'], Text.isSpace d = false := by
    simp only [List.mem_cons, List.not_mem_nil, or_false, forall_eq_or_imp, forall_eq]
    decide
  have other : c ∉ ['{', '|', '}', '(', '[', '$', ')', ']'] := fun special =>
    absurd space (by simp [visible c special])
  have alone : c = '_' → rest.head? ≠ some '_' := by
    rintro rfl
    exact absurd space (by decide)
  rw [tokens_cons, scan_other other alone, if_pos space]

theorem tokens_space (rest : Text) : tokens (' ' :: rest) = .gap :: tokens rest :=
  tokens_of_space (by decide) rest

theorem tokens_wildcard {name : Text} (isName : IsName name) (rest : Text) :
    tokens ('_' :: '_' :: (name ++ '_' :: '_' :: rest)) = .wildcard name :: tokens rest := by
  have body : scan '_' ('_' :: (name ++ '_' :: '_' :: rest)) = (.wildcard name, rest) := by
    rw [scan_underscores, scanWildcard, atDelimiter?_append
      (no_pair_concat_iff.2 ⟨isName.no_delimiter, isName.no_underscore⟩)]
    obtain ⟨c, tail, rfl⟩ := List.exists_cons_of_ne_nil isName.nonempty
    rfl
  rw [tokens_cons, body]

theorem tokens_closing (rest : Text) :
    tokens ('}' :: rest) = .closing ('}' :: rest) :: tokens rest := by
  rw [tokens_cons]
  rfl

/-! ## Tokens of a text without comments -/

/-- A token that a text without comments can have. -/
def Sound (limit : Nat) : Token → Prop
  | .text t => IsAtom t
  | .wildcard name => IsName name
  | .opening bound joiner weight _ => FitsBelow limit bound ∧ IsJoiner joiner ∧ IsDecimal weight
  | .divider weight _ => IsDecimal weight
  | _ => True

theorem header_sound {limit : Nat} (large : Text.sizeLimit ≤ limit) {t joiner rest : Text}
    {bound : Option Bound} (free : CommentFree t) (read : header t = .ok (bound, joiner, rest)) :
    FitsBelow limit bound ∧ IsJoiner joiner := by
  unfold header at read
  split at read
  · obtain ⟨rfl, same⟩ := Prod.mk.inj (Except.ok.inj read)
    obtain ⟨rfl, -⟩ := Prod.mk.inj same
    exact ⟨fitsBelow_none (Nat.lt_of_lt_of_le (by decide) large), isJoiner_defaultJoiner⟩
  · rename_i first
    split at read
    · cases read
    · rename_i bound' written
      have fits := fitsBelow_of_read? large written
      split at read
      · rename_i second
        obtain ⟨rfl, same⟩ := Prod.mk.inj (Except.ok.inj read)
        obtain ⟨rfl, -⟩ := Prod.mk.inj same
        exact ⟨fits, isJoiner_of_segment? second (free.of_infix (suffix_of_segment? first).isInfix)⟩
      · obtain ⟨rfl, same⟩ := Prod.mk.inj (Except.ok.inj read)
        obtain ⟨rfl, -⟩ := Prod.mk.inj same
        exact ⟨fits, isJoiner_defaultJoiner⟩

/-- A group that is scanned is tidy. -/
theorem isGroup_of_scanGroup {opener closer : Char} {rest t : Text}
    (brackets : closerOf? opener = some closer) (free : CommentFree (opener :: rest))
    (read : (scanGroup opener closer rest).1 = .text t) : IsGroup t := by
  unfold scanGroup at read
  split at read
  · rename_i closed
    exact Token.text.inj read ▸ isGroup_normalizeGroup brackets closed free
  · cases read
  · cases read

theorem scanGroup_sound (limit : Nat) {opener closer : Char} {rest : Text}
    (brackets : closerOf? opener = some closer) (free : CommentFree (opener :: rest)) :
    Sound limit (scanGroup opener closer rest).1 := by
  unfold scanGroup
  split
  · rename_i closed
    exact .inr (isGroup_normalizeGroup brackets closed free)
  · trivial
  · trivial

/-- A text token is a group, or the character that the text starts with, which is not in
front of its double if it is an underscore. -/
theorem eq_of_scan_text {c : Char} {rest t : Text} (free : CommentFree (c :: rest))
    (read : (scan c rest).1 = .text t) :
    IsGroup t ∨ (t = [c] ∧ (scan c rest).2 = rest ∧ (c = '_' → rest.head? ≠ some '_')) := by
  by_cases plain : IsPlain c
  · have alone : c = '_' → rest.head? ≠ some '_' := by
      rintro rfl first
      obtain ⟨body, rfl⟩ := List.head?_eq_some_iff.1 first
      rw [scan_underscores, scanWildcard] at read
      split at read
      · cases read
      · cases read
      · cases read
    rw [scan_plain plain alone] at read ⊢
    exact .inr ⟨(Token.text.inj read).symm, rfl, alone⟩
  · -- of the signs that are not plain only brackets start a text token
    refine .inl ?_
    unfold scan at read
    split at read
    · exact absurd ⟨by decide, by decide⟩ plain
    · unfold scanOpening at read
      split at read
      · cases read
      · cases read
    · cases read
    · cases read
    · exact isGroup_of_scanGroup rfl free read
    · exact isGroup_of_scanGroup rfl free read
    · cases read
    · cases read
    · cases read
    · split at read
      · cases read
      · rename_i visible
        have noHash := (commentFree_cons_iff.1 free).1
        exact absurd ⟨by simpa using visible, by simp_all⟩ plain

theorem scan_sound {limit : Nat} (large : Text.sizeLimit ≤ limit) {c : Char} {rest : Text}
    (free : CommentFree (c :: rest)) : Sound limit (scan c rest).1 := by
  have behind : CommentFree rest := free.of_infix (List.suffix_cons c rest).isInfix
  unfold scan
  split
  · rename_i body
    unfold scanWildcard
    split
    · trivial
    · trivial
    · rename_i nonempty found
      exact isName_of_atDelimiter? nonempty found
        (behind.of_infix (List.suffix_cons '_' body).isInfix)
  · unfold scanOpening
    split
    · trivial
    · rename_i read
      obtain ⟨fits, isJoiner⟩ := header_sound large behind read
      exact ⟨fits, isJoiner, isDecimal_weight _⟩
  · exact isDecimal_weight _
  · trivial
  · exact scanGroup_sound limit rfl free
  · exact scanGroup_sound limit rfl free
  · trivial
  · trivial
  · trivial
  · split
    · trivial
    · rename_i visible
      refine .inl ⟨_, rfl, by simpa using visible, ?_⟩
      have noHash := (commentFree_cons_iff.1 free).1
      simp_all

/-- The tokens of a text without comments are sound. -/
theorem tokens_sound {limit : Nat} (large : Text.sizeLimit ≤ limit) {t : Text}
    (free : CommentFree t) : ∀ token ∈ tokens t, Sound limit token := by
  fun_induction tokens t with
  | case1 => exact fun _ impossible => absurd impossible List.not_mem_nil
  | case2 c rest ih =>
    rw [List.forall_mem_cons]
    refine ⟨scan_sound large free, ih (free.of_infix ?_)⟩
    exact ((scan_suffix c rest).trans (List.suffix_cons c rest)).isInfix

def MayFollow (a b : Token) : Prop :=
  ∀ s t, a = .text s → b = .text t → MayMeet s t

/-- Nothing starts with a closing bracket. -/
theorem no_sign_of_closer {a b : Char} (closes : a = ')' ∨ a = ']') :
    ¬ (a = '_' ∧ b = '_') ∧ ¬ opensComment a b := by
  constructor
  · rintro ⟨rfl, -⟩
    exact absurd closes (by decide)
  · rintro ⟨rfl, -⟩
    exact absurd closes (by decide)

/-- Nothing goes on with an opening bracket. -/
theorem no_sign_of_opener {a b : Char} (opens : b = '(' ∨ b = '[') :
    ¬ (a = '_' ∧ b = '_') ∧ ¬ opensComment a b := by
  constructor
  · rintro ⟨-, rfl⟩
    exact absurd opens (by decide)
  · rintro ⟨-, second⟩
    rcases opens with rfl | rfl
    · exact absurd second (by decide)
    · exact absurd second (by decide)

/-- Atoms that follow each other form neither a delimiter nor the start of a comment. -/
theorem mayFollow_scan {c d : Char} {rest behind : Text} (free : CommentFree (c :: rest))
    (shape : (scan c rest).2 = d :: behind) : MayFollow (scan c rest).1 (scan d behind).1 := by
  intro s t first second
  have free' : CommentFree (d :: behind) := by
    rw [← shape]
    exact free.of_infix ((scan_suffix c rest).trans (List.suffix_cons c rest)).isInfix
  intro a b last head
  rcases eq_of_scan_text free first with group | ⟨rfl, same, alone⟩
  · obtain ⟨-, c, ends, closes⟩ := ends_of_isGroup group
    obtain rfl := Option.some.inj (last.symm.trans ends)
    exact no_sign_of_closer closes
  · obtain rfl := Option.some.inj last
    rcases eq_of_scan_text free' second with group | ⟨rfl, -, -⟩
    · obtain ⟨⟨opener, starts, opens⟩, -⟩ := ends_of_isGroup group
      obtain rfl := Option.some.inj (head.symm.trans starts)
      exact no_sign_of_opener opens
    · -- both are single characters, so they stand side by side in the text
      obtain rfl := Option.some.inj head
      have next : rest.head? = some d := by
        rw [same] at shape
        rw [shape]
        rfl
      refine ⟨?_, (commentFree_cons_iff.1 free).2.2 d next⟩
      rintro ⟨rfl, rfl⟩
      exact alone rfl next

theorem isChain_tokens {t : Text} (free : CommentFree t) : (tokens t).IsChain MayFollow := by
  fun_induction tokens t with
  | case1 => exact .nil
  | case2 c rest ih =>
    have later := ih (free.of_infix
      ((scan_suffix c rest).trans (List.suffix_cons c rest)).isInfix)
    apply later.cons
    intro token first
    cases shape : (scan c rest).2 with
    | nil =>
      rw [shape, tokens] at first
      cases first
    | cons d behind =>
      rw [shape, tokens_cons] at first
      obtain rfl := Option.some.inj first
      exact mayFollow_scan free shape

theorem length_tokens_le (t : Text) : (tokens t).length ≤ t.length := by
  fun_induction tokens t with
  | case1 => exact Nat.le_refl 0
  | case2 c rest ih => exact Nat.succ_le_succ (Nat.le_trans ih (scan_suffix c rest).length_le)

end PromptTemplate.Token
